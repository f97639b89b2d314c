import Formwork.Proofs.Script.Spelling
import Formwork.Proofs.Text.Lines
import Formwork.Script.Compile

/-!
# The scripts of definitions are regular

`Regular` is the condition under which the text of a script determines its statements.  The script of every definition
satisfies it: user text is emitted in string literals, on which `Regular` puts no condition, or in notes, after
`_comment_text` has put it on one line.  Variable names are fixed words, item names, and `pageBreak` with a number.
-/
namespace Formwork
namespace Script

/-! ### Notes -/

theorem OneLine.append {a b : String} (ha : OneLine a) (hb : OneLine b) : OneLine (a ++ b) := by
  intro c hc
  rw [String.toList_append, List.mem_append] at hc
  exact hc.elim (ha c) (hb c)

/-- Every line terminator of the language is a line boundary. -/
theorem mem_boundaries_of_isLineEnd {c : Char} (h : isLineEnd c = true) : c ∈ Text.boundaries := by
  -- the converse fails: a form feed, say, ends a line of a text only
  simp only [isLineEnd, Bool.or_eq_true, decide_eq_true_eq] at h
  rcases h with ((rfl | rfl) | rfl) | rfl <;> decide

theorem oneLine_onOneLine (text : String) : OneLine (Text.onOneLine text) := by
  intro c hc
  have hboundary := Text.notMem_boundaries_of_mem_onOneLine text c hc
  cases h : isLineEnd c with
  | false => rfl
  | true => exact absurd (mem_boundaries_of_isLineEnd h) hboundary

/-- The notes of a locale are on one line, and its banner does not end a comment. -/
structure Wording.Regular (w : Wording) : Prop where
  banner : ∀ line ∈ w.banner, '/' ∉ line.toList
  quizNotes : ∀ note ∈ w.quizNotes, OneLine note
  release : OneLine w.release
  immediately : OneLine w.immediately
  later : OneLine w.later
  correct : OneLine w.correct
  points : OneLine w.points
  yes : OneLine w.yes
  no : OneLine w.no

-- The fixed texts of a script are taken apart by `String.ofList` and read by Boolean tests: both
-- are much less work to evaluate than what the statements say.
theorem oneLine_ofList {s : List Char} (h : s.any isLineEnd = false) :
    OneLine (String.ofList s) := by
  intro c hc
  rw [String.toList_ofList] at hc
  cases hend : isLineEnd c with
  | false => rfl
  | true =>
    rw [List.any_eq_true.mpr ⟨c, hc, hend⟩] at h
    cases h

theorem slash_notMem_ofList {s : List Char} (h : s.contains '/' = false) :
    '/' ∉ (String.ofList s).toList := by
  rw [String.toList_ofList, ← List.contains_iff_mem, h]
  exact Bool.false_ne_true

theorem Wording.regular_ofLocale (locale : Locale) : (Wording.ofLocale locale).Regular := by
  cases locale
  all_goals
    rw [Wording.ofLocale]
    refine ⟨?_, ?_, oneLine_ofList (by decide), oneLine_ofList (by decide),
      oneLine_ofList (by decide), oneLine_ofList (by decide), oneLine_ofList (by decide),
      oneLine_ofList (by decide), oneLine_ofList (by decide)⟩
    · repeat refine List.forall_mem_cons.mpr ⟨slash_notMem_ofList (by decide), ?_⟩
      exact List.forall_mem_nil _
    · exact List.forall_mem_cons.mpr
        ⟨oneLine_ofList (by decide), List.forall_mem_singleton.mpr (oneLine_ofList (by decide))⟩

theorem Wording.Regular.truth {w : Wording} (h : w.Regular) (value : Bool) :
    OneLine (w.truth value) := by
  cases value
  · exact h.no
  · exact h.yes

theorem regular_quizNotes {w : Wording} (hw : w.Regular) (settings : QuizSettings) :
    ∀ piece ∈ quizNotes w settings, piece.Regular := by
  have hdash : OneLine "  - " := oneLine_ofList (by decide)
  intro piece hpiece
  rw [quizNotes, List.mem_append, List.mem_map] at hpiece
  rcases hpiece with ⟨note, hnote, rfl⟩ | hpiece
  · exact hw.quizNotes note hnote
  · simp only [List.mem_cons, List.not_mem_nil, or_false] at hpiece
    rcases hpiece with rfl | rfl | rfl
    · refine (hdash.append hw.release).append ?_
      cases settings.releaseImmediately
      · exact hw.later
      · exact hw.immediately
    · exact (hdash.append hw.correct).append (hw.truth _)
    · exact (hdash.append hw.points).append (hw.truth _)

/-! ### Names -/

theorem isWord_append_digits {word : String} {digits : List Char} (hword : isWord word = true)
    (hdigits : ∀ c ∈ digits, isWordPart c = true) :
    isWord (word ++ String.ofList digits) = true := by
  obtain ⟨c, more, hlist, hc, hmore⟩ := isWord_cases hword
  rw [isWord, String.toList_append, hlist, String.toList_ofList, List.cons_append]
  simp only [Bool.and_eq_true, List.all_eq_true, List.mem_append]
  exact ⟨hc, fun d hd => hd.elim (hmore d) (hdigits d)⟩

/-- No reserved word has this prefix. -/
theorem notMem_reserved_of_prefix {start word : String}
    (hstart : ∀ r ∈ reserved, ¬ start.toList <+: r.toList) : start ++ word ∉ reserved := by
  intro h
  exact hstart _ h (by rw [String.toList_append]; exact List.prefix_append ..)

theorem isWordPart_of_mem_hexDigits {n width : Nat} {c : Char}
    (hc : c ∈ ItemName.hexDigits n width) : isWordPart c = true := by
  have hdigit : ∀ d < 16, isWordPart (Nat.digitChar d) = true := by decide
  induction width generalizing n with
  | zero => cases hc
  | succ width ih =>
    rw [ItemName.hexDigits, List.mem_append, List.mem_singleton] at hc
    rcases hc with hc | rfl
    · exact ih hc
    · exact hdigit _ (Nat.mod_lt n (by decide))

theorem isName_itemName (name : ItemName) : isName name.text = true := by
  have hword : isWord name.text = true :=
    isWord_append_digits (by decide) fun _ => isWordPart_of_mem_hexDigits
  have hfree : name.text ∉ reserved := notMem_reserved_of_prefix (by decide)
  simp [isName, hword, hfree]

/-- The variable of the page break of the section with this number. -/
theorem isName_pageBreak (index : Nat) : isName s!"pageBreak{index}" = true := by
  have htext : s!"pageBreak{index}" = "pageBreak" ++ String.ofList (Nat.toDigits 10 index) := by
    apply String.toList_injective
    simp [toString, Nat.toList_repr]
  have hword : isWord ("pageBreak" ++ String.ofList (Nat.toDigits 10 index)) = true :=
    isWord_append_digits (by decide) fun c hc => by
      have hdigit : c.isDigit = true := Nat.isDigit_of_mem_toDigits (by decide) (by decide) hc
      simp [isWordPart, hdigit]
  have hfree : "pageBreak" ++ String.ofList (Nat.toDigits 10 index) ∉ reserved :=
    notMem_reserved_of_prefix (by decide)
  rw [htext]
  simp [isName, hword, hfree]

/-! ### Pieces -/

variable {w : Wording}

theorem regular_pieces_ite {b : Bool} {piece : Piece} (h : piece.Regular) :
    ∀ p ∈ (if b then [piece] else []), p.Regular := by
  cases b
  · exact List.forall_mem_nil _
  · exact List.forall_mem_singleton.mpr h

theorem regular_declare_call {word maker : String} (hword : isName word = true)
    (hmaker : isWord maker = true) : (declare word (form.method maker [])).Regular :=
  ⟨hword, ⟨(by decide : isName "form" = true), rfl, hmaker⟩, rfl, trivial⟩

theorem regular_invoke {object argument : Expr} {word : String} (hobject : object.Regular)
    (hchain : object.isChain = true) (hword : isWord word = true) (hargument : argument.Regular) :
    (invoke object word [argument]).Regular :=
  ⟨⟨hobject, hchain, hword⟩, rfl, hargument, trivial⟩

theorem regular_log {message : Expr} (h : message.Regular) : (log message).Regular :=
  ⟨⟨(by decide : isName "Logger" = true), rfl, by decide⟩, rfl, h, trivial⟩

theorem regular_form : form.Regular := (by decide : isName "form" = true)

theorem isWord_constructor (kind : Kind) : isWord (constructor kind) = true := by
  rcases kind with kind | _
  · cases kind <;> decide
  · exact (by decide : isWord "addTextItem" = true)

theorem regular_choices {item : Expr} (hitem : item.Regular) (hchain : item.isChain = true)
    (q : Question) : (choices item q).Regular := by
  unfold choices
  rw [Expr.Regular]
  induction q.options with
  | nil => trivial
  | cons option rest ih =>
    rw [List.map_cons, Expr.AllRegular]
    exact ⟨⟨⟨hitem, hchain, by decide⟩, rfl, trivial, trivial, trivial⟩, ih⟩

theorem regular_image {item : Expr} (hitem : item.Regular) (hchain : item.isChain = true)
    (q : Question) (url : String) : (image w item q url).Regular := by
  have hurl : isName "imageUrl" = true := by decide
  have hblob : isName "imageBlob" = true := by decide
  have hfetch : (((Expr.name "UrlFetchApp").method "fetch" [.name "imageUrl"]).method
      "getBlob" []).Regular :=
    ⟨⟨⟨⟨(by decide : isName "UrlFetchApp" = true), rfl, by decide⟩, rfl, hurl, trivial⟩, rfl,
      by decide⟩, rfl, trivial⟩
  have hmessage : (Expr.member (.name "e") "message").Regular :=
    ⟨(by decide : isName "e" = true), rfl, by decide⟩
  refine ⟨⟨⟨hurl, trivial⟩, ⟨hblob, hfetch⟩, ⟨⟨hitem, hchain, by decide⟩, rfl, hblob, trivial⟩,
    trivial⟩, regular_log ⟨⟨⟨trivial, trivial, rfl⟩, trivial, rfl⟩, hmessage, rfl⟩, ?_⟩
  split
  · trivial
  · exact ⟨⟨⟨hitem, hchain, by decide⟩, rfl, ⟨trivial, hurl, rfl⟩, trivial⟩, trivial⟩

theorem regular_question (isQuiz : Bool) (name : ItemName) (q : Question) :
    ∀ piece ∈ question w isQuiz name q, piece.Regular := by
  have hname : isName name.text = true := isName_itemName name
  have hitem : (Expr.name name.text).Regular := hname
  have hnote : OneLine s!"Question: {Text.onOneLine q.title}" :=
    (oneLine_ofList (by decide)).append (oneLine_onOneLine q.title)
  -- the pieces that are always there, then the four that a question may ask for
  rw [question]
  refine List.forall_mem_append.mpr ⟨List.forall_mem_append.mpr ⟨List.forall_mem_append.mpr
    ⟨List.forall_mem_append.mpr ⟨?_, ?_⟩, ?_⟩, ?_⟩, ?_⟩
  · refine List.forall_mem_cons.mpr ⟨trivial, List.forall_mem_cons.mpr ⟨hnote, ?_⟩⟩
    exact List.forall_mem_cons.mpr ⟨regular_declare_call hname (isWord_constructor q.kind),
      List.forall_mem_singleton.mpr (regular_invoke hitem rfl (by decide) trivial)⟩
  · exact regular_pieces_ite (regular_invoke hitem rfl (by decide) trivial)
  · split
    · exact regular_pieces_ite (regular_invoke hitem rfl (by decide) trivial)
    · exact List.forall_mem_nil _
  · exact regular_pieces_ite
      (regular_invoke hitem rfl (by decide) (regular_choices hitem rfl q))
  · split
    · exact List.forall_mem_singleton.mpr (regular_image hitem rfl q _)
    · exact List.forall_mem_nil _

theorem regular_questions (isQuiz : Bool) (names : Nat → ItemName) (qs : List Question) :
    ∀ first, ∀ piece ∈ questions w isQuiz names first qs, piece.Regular := by
  induction qs with
  | nil => exact fun _ => List.forall_mem_nil _
  | cons q rest ih =>
    intro first
    exact List.forall_mem_append.mpr ⟨regular_question isQuiz (names first) q, ih (first + 1)⟩

theorem regular_pageBreak (index : Nat) (next : FormSection) :
    ∀ piece ∈ pageBreak index next, piece.Regular := by
  have hname := isName_pageBreak index
  rw [pageBreak]
  refine List.forall_mem_append.mpr ⟨List.forall_mem_cons.mpr ⟨trivial, ?_⟩, ?_⟩
  · exact List.forall_mem_cons.mpr ⟨regular_declare_call hname (by decide),
      List.forall_mem_singleton.mpr (regular_invoke hname rfl (by decide) trivial)⟩
  · split
    · exact List.forall_mem_singleton.mpr (regular_invoke hname rfl (by decide) trivial)
    · exact List.forall_mem_nil _

theorem regular_sections (isQuiz : Bool) (names : Nat → ItemName) (ss : List FormSection) :
    ∀ index first, ∀ piece ∈ sections w isQuiz names index first ss, piece.Regular := by
  induction ss with
  | nil => exact fun _ _ => List.forall_mem_nil _
  | cons s rest ih =>
    intro index first
    have hnote : OneLine s!"--- Section: {Text.onOneLine s.title} ---" :=
      ((oneLine_ofList (by decide)).append (oneLine_onOneLine s.title)).append
        (oneLine_ofList (by decide))
    refine List.forall_mem_append.mpr ⟨List.forall_mem_append.mpr ⟨?_, ?_⟩, ih _ _⟩
    · exact List.forall_mem_cons.mpr ⟨trivial, List.forall_mem_cons.mpr
        ⟨hnote, regular_questions isQuiz names s.questions first⟩⟩
    · split
      · exact regular_pageBreak index _
      · exact List.forall_mem_nil _

theorem regular_opening (hw : w.Regular) (d : Definition) :
    ∀ piece ∈ opening w d, piece.Regular := by
  have hcreate :
      (declare "form" ((Expr.name "FormApp").method "create" [.literal d.title])).Regular :=
    ⟨by decide, ⟨(by decide : isName "FormApp" = true), rfl, by decide⟩, rfl, trivial, trivial⟩
  rw [opening]
  refine List.forall_mem_append.mpr ⟨List.forall_mem_cons.mpr ⟨hcreate, ?_⟩, ?_⟩
  · split
    · exact List.forall_mem_singleton.mpr (regular_invoke regular_form rfl (by decide) trivial)
    · exact List.forall_mem_nil _
  · split
    · refine List.forall_mem_cons.mpr ⟨regular_invoke regular_form rfl (by decide) trivial, ?_⟩
      split
      · exact regular_quizNotes hw _
      · exact List.forall_mem_nil _
    · exact List.forall_mem_nil _

theorem regular_sheet (title : String) : ∀ piece ∈ sheet w title, piece.Regular := by
  have hsheet : isName "resultsSheet" = true := by decide
  refine List.forall_mem_cons.mpr ⟨trivial, List.forall_mem_cons.mpr
    ⟨⟨hsheet, ⟨(by decide : isName "SpreadsheetApp" = true), rfl, by decide⟩, rfl, trivial,
      trivial⟩, List.forall_mem_singleton.mpr ?_⟩⟩
  exact ⟨⟨regular_form, rfl, by decide⟩, rfl,
    ⟨⟨(by decide : isName "FormApp" = true), rfl, by decide⟩, rfl, by decide⟩,
    ⟨⟨hsheet, rfl, by decide⟩, rfl, trivial⟩, trivial⟩

theorem regular_farewell (resultsSheet : Bool) :
    ∀ piece ∈ farewell w resultsSheet, piece.Regular := by
  have haddress : ∀ {object : Expr} {word : String} (text : String), object.Regular →
      object.isChain = true → isWord word = true →
      (Piece.statement (log (.join (.literal text) (object.method word [])))).Regular :=
    fun _ hobject hchain hword =>
      regular_log ⟨trivial, ⟨⟨hobject, hchain, hword⟩, rfl, trivial⟩, rfl⟩
  have hdone : (Piece.statement (log (.literal w.done))).Regular := regular_log trivial
  rw [farewell]
  refine List.forall_mem_append.mpr ⟨List.forall_mem_cons.mpr ⟨trivial, ?_⟩, ?_⟩
  · exact List.forall_mem_cons.mpr ⟨hdone, List.forall_mem_cons.mpr
      ⟨haddress _ regular_form rfl (by decide),
        List.forall_mem_singleton.mpr (haddress _ regular_form rfl (by decide))⟩⟩
  · exact regular_pieces_ite
      (haddress _ (by decide : isName "resultsSheet" = true) rfl (by decide))

/-- **The script of every definition is regular.** -/
theorem regular_script (d : Definition) (options : Options) (names : Nat → ItemName) :
    Regular (d.script options names) where
  banner := (Wording.regular_ofLocale options.locale).banner
  entry := (by decide : isName entryFunction = true)
  body := by
    refine List.forall_mem_append.mpr ⟨List.forall_mem_append.mpr ⟨List.forall_mem_append.mpr
      ⟨regular_opening (Wording.regular_ofLocale options.locale) d,
        regular_sections d.isQuiz names d.sections 0 0⟩, ?_⟩, regular_farewell _⟩
    split
    · exact regular_sheet d.title
    · exact List.forall_mem_nil _

end Script
end Formwork
