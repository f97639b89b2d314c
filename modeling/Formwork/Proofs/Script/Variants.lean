import Formwork.Proofs.Script.Comments
import Formwork.Proofs.Script.Regularity

/-!
# What the options of a script change

A script is compiled with a locale and with or without a results sheet.

For two locales the scripts have the same lines after removing comments, except for the literals of seven messages
(`Message`): the line of a message differs in that literal only (`Counterpart`).  The title of the spreadsheet is one
of them: the title of the form with a suffix of the locale.

A results sheet adds three lines in front of the final log lines, and one line behind them.
-/
namespace Formwork
namespace Script

/-! ### Messages -/

/-- The localized texts of a script. -/
inductive Message
  | done
  | editUrl
  | shareUrl
  | sheetUrl
  | imageFailed
  | imageHelp
  /-- The title of the spreadsheet for the responses. -/
  | sheetTitle

/-- The text of a message, for a form with this title. -/
def Message.text (w : Wording) (title : String) : Message → String
  | done => w.done
  | editUrl => w.editUrl
  | shareUrl => w.shareUrl
  | sheetUrl => w.sheetUrl
  | imageFailed => w.imageFailed
  | imageHelp => w.imageHelp
  | sheetTitle => title ++ w.responses

/-- What precedes and what follows the literal of a message on its line. -/
inductive Message.Stands : Message → List Char → List Char → Prop
  | done : Stands .done "  Logger.log(".toList ");".toList
  | editUrl : Stands .editUrl "  Logger.log(".toList " + form.getEditUrl());".toList
  | shareUrl : Stands .shareUrl "  Logger.log(".toList " + form.getPublishedUrl());".toList
  | sheetUrl : Stands .sheetUrl "  Logger.log(".toList " + resultsSheet.getUrl());".toList
  | imageFailed (question : String) : Stands .imageFailed "    Logger.log(".toList
      (" + ".toList ++ literal question ++ " + ': ' + e.message);".toList)
  | imageHelp (name : ItemName) : Stands .imageHelp
      ("    ".toList ++ name.text.toList ++ ".setHelpText(".toList) " + imageUrl);".toList
  | sheetTitle : Stands .sheetTitle "  var resultsSheet = SpreadsheetApp.create(".toList ");".toList

variable (v w : Wording) (title : String)

/-- Two lines that are equal, or equal up to the literal of a message, each in its own locale. -/
inductive Counterpart : List Char → List Char → Prop
  | same (line : List Char) : Counterpart line line
  | worded {message : Message} {before behind : List Char} (h : message.Stands before behind) :
      Counterpart (before ++ literal (message.text v title) ++ behind)
        (before ++ literal (message.text w title) ++ behind)

/-! ### Line feeds -/

theorem newline_notMem_literal (text : String) : '\n' ∉ literal text := by
  have hbody : '\n' ∉ text.toList.flatMap Json.plainChar := fun h =>
    absurd (Json.visible_flatMap Json.spells_plainChar text.toList _ h) (by decide)
  rw [literal, Json.quoted]
  simp [hbody]

theorem newline_notMem_word {word : String} (h : isWord word = true) : '\n' ∉ word.toList := by
  obtain ⟨c, more, hlist, hc, hmore⟩ := isWord_cases h
  have hnewline : isWordPart '\n' = false := by decide
  rw [hlist, List.mem_cons]
  rintro (rfl | hmem)
  · cases hc
  · cases hnewline.symm.trans (hmore _ hmem)

theorem Message.Stands.newline_notMem {message : Message} {before behind : List Char}
    (h : message.Stands before behind) : '\n' ∉ before ∧ '\n' ∉ behind := by
  cases h with
  | imageFailed question =>
    have hfront : '\n' ∉ " + ".toList := by decide
    have hend : '\n' ∉ " + ': ' + e.message);".toList := by decide
    have hliteral := newline_notMem_literal question
    refine ⟨by decide, ?_⟩
    simp only [List.mem_append, not_or]
    exact ⟨⟨hfront, hliteral⟩, hend⟩
  | imageHelp name =>
    have hname : '\n' ∉ name.text.toList := newline_notMem_word (isWord_of_isName (isName_itemName name))
    have hcall : '\n' ∉ ".setHelpText(".toList := by decide
    have hmargin : '\n' ∉ "    ".toList := by decide
    refine ⟨?_, by decide⟩
    simp only [List.mem_append, not_or]
    exact ⟨⟨hmargin, hname⟩, hcall⟩
  | _ => exact ⟨by decide, by decide⟩

theorem Message.Stands.notMem_line {message : Message} {before behind : List Char}
    (h : message.Stands before behind) (text : String) : '\n' ∉ before ++ literal text ++ behind := by
  simp only [List.mem_append, not_or]
  exact ⟨⟨h.newline_notMem.1, newline_notMem_literal text⟩, h.newline_notMem.2⟩

/-! ### Whole lines -/

/-- A text of whole lines: a text behind it begins on a line of its own. -/
def Whole (s : List Char) : Prop := ∃ front, ∀ rest, lines (s ++ rest) = front ++ lines rest

theorem whole_nil : Whole [] := ⟨[], fun _ => rfl⟩

theorem whole_line (s : List Char) : Whole (s ++ ['\n']) := by
  refine ⟨lines s, fun rest => ?_⟩
  rw [List.append_assoc]
  exact List.splitOn_append_cons_self s rest

variable {s t s' t' : List Char} {ps : List Piece}

theorem Whole.append (hs : Whole s) (ht : Whole t) : Whole (s ++ t) := by
  obtain ⟨front, hfront⟩ := hs
  obtain ⟨more, hmore⟩ := ht
  refine ⟨front ++ more, fun rest => ?_⟩
  rw [List.append_assoc, hfront, hmore, List.append_assoc]

theorem whole_flatMap {write : Piece → List Char} (h : ∀ piece, ∃ text, write piece = text ++ ['\n'])
    (ps : List Piece) : Whole (ps.flatMap write) := by
  induction ps with
  | nil => exact whole_nil
  | cons piece rest ih =>
    obtain ⟨text, htext⟩ := h piece
    rw [List.flatMap_cons, htext]
    exact (whole_line text).append ih

theorem Piece.exists_render (piece : Piece) : ∃ text, piece.render = text ++ ['\n'] := by
  cases piece with
  | blank => exact ⟨[], rfl⟩
  | note text => exact ⟨margin 1 ++ "// ".toList ++ text.toList, rfl⟩
  | statement s => exact s.exists_render 1

/-! ### Counterparts -/

/-- Texts of whole lines that are counterparts one by one. -/
def Aligned (s t : List Char) : Prop := ∀ rest rest',
  List.Forall₂ (Counterpart v w title) (lines rest) (lines rest') →
    List.Forall₂ (Counterpart v w title) (lines (s ++ rest)) (lines (t ++ rest'))

variable {v w title}

theorem Aligned.append (h : Aligned v w title s t) (h' : Aligned v w title s' t') :
    Aligned v w title (s ++ s') (t ++ t') := by
  intro rest rest' hrest
  rw [List.append_assoc, List.append_assoc]
  exact h _ _ (h' _ _ hrest)

/-- Equal lines are counterparts in all locales. -/
theorem Whole.aligned (h : Whole s) : Aligned v w title s s := by
  obtain ⟨front, hfront⟩ := h
  intro rest rest' hrest
  rw [hfront, hfront]
  exact List.rel_append (List.forall₂_same.mpr fun line _ => .same line) hrest

theorem aligned_worded (v w : Wording) (title : String) {message : Message} {before behind : List Char}
    (h : message.Stands before behind) : Aligned v w title
      (before ++ literal (message.text v title) ++ behind ++ ['\n'])
      (before ++ literal (message.text w title) ++ behind ++ ['\n']) := by
  intro rest rest' hrest
  rw [List.append_assoc _ ['\n'], List.append_assoc _ ['\n']]
  rw [List.cons_append, List.nil_append, List.cons_append, List.nil_append,
    lines_line (h.notMem_line _), lines_line (h.notMem_line _)]
  exact .cons (.worded h) hrest

/-- Pieces whose lines are counterparts after removing comments. -/
def Piece.Alike (v w : Wording) (title : String) (piece piece' : Piece) : Prop :=
  Aligned v w title piece.bare piece'.bare

/-- A piece that does not depend on the locale. -/
theorem Piece.Alike.refl (piece : Piece) : piece.Alike v w title piece := by
  obtain ⟨text, htext⟩ := piece.exists_bare
  rw [Piece.Alike, htext]
  exact (whole_line text).aligned

theorem forall₂_alike_refl (ps : List Piece) : List.Forall₂ (Piece.Alike v w title) ps ps :=
  List.forall₂_same.mpr fun piece _ => .refl piece

/-- Of a note only its empty line is left. -/
theorem worded_note (text text' : String) : Piece.Alike v w title (.note text) (.note text') :=
  Piece.Alike.refl (.note text)

theorem aligned_flatMap {qs : List Piece} (h : List.Forall₂ (Piece.Alike v w title) ps qs) :
    Aligned v w title (ps.flatMap Piece.bare) (qs.flatMap Piece.bare) := by
  induction h with
  | nil => exact whole_nil.aligned
  | cons hpiece _ ih =>
    rw [List.flatMap_cons, List.flatMap_cons]
    exact hpiece.append ih

/-! #### Messages in their lines -/

theorem render_log (depth : Nat) (message : Expr) :
    (log message).render depth = margin depth ++ "Logger.log(".toList ++ message.render depth
      ++ ");".toList ++ ['\n'] := by
  have hopen : "Logger.log(".toList = "Logger".toList ++ '.' :: "log".toList ++ ['('] := by decide
  have hclose : ");".toList = [')', ';'] := by decide
  rw [log, Stmt.render, hopen, hclose]
  simp [Expr.method, Expr.render, Expr.renderArguments]

theorem render_address (object word : String) (text : String) :
    (Expr.join (.literal text) ((Expr.name object).method word [])).render 1 =
      literal text ++ " + ".toList ++ object.toList ++ '.' :: word.toList ++ "()".toList := by
  have hplus : " + ".toList = [' ', '+', ' '] := by decide
  have hcall : "()".toList = ['(', ')'] := by decide
  rw [hplus, hcall]
  simp [Expr.method, Expr.render, Expr.renderArguments]

theorem bare_done (text : String) : Piece.bare (.statement (log (.literal text))) =
    "  Logger.log(".toList ++ literal text ++ ");".toList ++ ['\n'] := by
  have hopen : "  Logger.log(".toList = margin 1 ++ "Logger.log(".toList := by decide
  rw [Piece.bare, render_log, hopen]
  rfl

theorem bare_address {object word : String} {behind : List Char} (text : String)
    (hbehind : behind = " + ".toList ++ object.toList ++ '.' :: word.toList ++ "());".toList) :
    Piece.bare (.statement (log (.join (.literal text) ((Expr.name object).method word [])))) =
      "  Logger.log(".toList ++ literal text ++ behind ++ ['\n'] := by
  have hopen : "  Logger.log(".toList = margin 1 ++ "Logger.log(".toList := by decide
  have hclose : "());".toList = "()".toList ++ ");".toList := by decide
  rw [Piece.bare, render_log, render_address, hopen, hbehind, hclose]
  simp only [List.append_assoc, List.cons_append]

theorem worded_done (v w : Wording) (title : String) : Piece.Alike v w title
    (.statement (log (.literal v.done))) (.statement (log (.literal w.done))) := by
  have hlines := aligned_worded v w title .done
  rw [Piece.Alike, bare_done, bare_done]
  exact hlines

/-- The message in front of an address. -/
theorem worded_address (v w : Wording) (title : String) (message : Message) (object word : String)
    {behind : List Char} (h : message.Stands "  Logger.log(".toList behind)
    (hbehind : behind = " + ".toList ++ object.toList ++ '.' :: word.toList ++ "());".toList) :
    Piece.Alike v w title
      (.statement (log (.join (.literal (message.text v title)) ((Expr.name object).method word []))))
      (.statement (log (.join (.literal (message.text w title)) ((Expr.name object).method word [])))) := by
  have hlines := aligned_worded v w title h
  rw [Piece.Alike, bare_address _ hbehind, bare_address _ hbehind]
  exact hlines

theorem worded_farewell (v w : Wording) (title : String) (resultsSheet : Bool) :
    List.Forall₂ (Piece.Alike v w title) (farewell v resultsSheet) (farewell w resultsSheet) := by
  have hedit := worded_address v w title .editUrl "form" "getEditUrl" .editUrl (by decide)
  have hshare := worded_address v w title .shareUrl "form" "getPublishedUrl" .shareUrl (by decide)
  have hsheet := worded_address v w title .sheetUrl "resultsSheet" "getUrl" .sheetUrl (by decide)
  refine List.rel_append (.cons (.refl _) (.cons (worded_done v w title) (.cons hedit (.cons hshare .nil)))) ?_
  cases resultsSheet with
  | false => exact .nil
  | true => exact .cons hsheet .nil

theorem bare_sheetTitle (text : String) :
    Piece.bare (declare "resultsSheet" ((Expr.name "SpreadsheetApp").method "create" [.literal text])) =
      "  var resultsSheet = SpreadsheetApp.create(".toList ++ literal text ++ ");".toList ++ ['\n'] := by
  have hopen : "  var resultsSheet = SpreadsheetApp.create(".toList = margin 1 ++ "var ".toList
      ++ "resultsSheet".toList ++ " = ".toList ++ "SpreadsheetApp".toList ++ '.' :: "create".toList
      ++ ['('] := by
    decide
  have hclose : ");".toList = [')', ';'] := by decide
  rw [declare, Piece.bare, Stmt.render, hopen, hclose]
  simp [Expr.method, Expr.render, Expr.renderArguments]

theorem worded_sheet (v w : Wording) (title : String) :
    List.Forall₂ (Piece.Alike v w title) (sheet v title) (sheet w title) := by
  have hlines := aligned_worded v w title .sheetTitle
  rw [← bare_sheetTitle, ← bare_sheetTitle] at hlines
  exact .cons (.refl _) (.cons hlines (.cons (.refl _) .nil))

/-! #### Images -/

theorem render_imageFailed (text question : String) :
    (log (.join (.join (.join (.literal text) (.literal question)) .colon)
        (.member (.name "e") "message"))).render 2 =
      "    Logger.log(".toList ++ literal text
        ++ (" + ".toList ++ literal question ++ " + ': ' + e.message);".toList) ++ ['\n'] := by
  have hopen : "    Logger.log(".toList = margin 2 ++ "Logger.log(".toList := by decide
  have hplus : " + ".toList = [' ', '+', ' '] := by decide
  have hend : " + ': ' + e.message);".toList = ' ' :: '+' :: ' ' :: ("': '".toList
      ++ ' ' :: '+' :: ' ' :: ("e".toList ++ '.' :: "message".toList)) ++ ");".toList := by
    decide
  rw [render_log, hopen, hplus, hend]
  simp only [Expr.render, List.append_assoc, List.cons_append, List.nil_append]

theorem render_imageHelp (name : ItemName) (text : String) :
    (Stmt.perform ((Expr.name name.text).method "setHelpText"
        [.join (.literal text) (.name "imageUrl")])).render 2 =
      "    ".toList ++ name.text.toList ++ ".setHelpText(".toList ++ literal text
        ++ " + imageUrl);".toList ++ ['\n'] := by
  have hmargin : "    ".toList = margin 2 := by decide
  have hcall : ".setHelpText(".toList = '.' :: "setHelpText".toList ++ ['('] := by decide
  have hend : " + imageUrl);".toList = ' ' :: '+' :: ' ' :: "imageUrl".toList ++ [')', ';'] := by
    decide
  rw [Stmt.render, hmargin, hcall, hend]
  simp [Expr.method, Expr.render, Expr.renderArguments]

/-- `try` statements with the same body and handlers that are counterparts. -/
theorem worded_attempt {handler handler' : List Stmt} (body : List Stmt)
    (h : Aligned v w title (Stmt.renderAll 2 handler) (Stmt.renderAll 2 handler')) :
    Piece.Alike v w title (.statement (.attempt body handler)) (.statement (.attempt body handler')) := by
  have hcatch : "\x7d catch (e) \x7b\n".toList = "\x7d catch (e) \x7b".toList ++ ['\n'] := by decide
  have hend : "\x7d\n".toList = ['\x7d'] ++ ['\n'] := by decide
  have hrender : ∀ handler, Piece.bare (.statement (.attempt body handler)) =
      ((margin 1 ++ "try \x7b\n".toList ++ Stmt.renderAll 2 body ++ margin 1 ++ "\x7d catch (e) \x7b".toList)
        ++ ['\n']) ++ Stmt.renderAll 2 handler ++ ((margin 1 ++ ['\x7d']) ++ ['\n']) := by
    intro handler
    rw [Piece.bare, Stmt.render, hcatch, hend]
    simp only [List.append_assoc]
  rw [Piece.Alike, hrender, hrender]
  exact ((whole_line _).aligned.append h).append (whole_line _).aligned

/-- Only the handler of an image depends on the locale. -/
theorem worded_image (v w : Wording) (title : String) (name : ItemName) (q : Question) (url : String) :
    Piece.Alike v w title (.statement (image v (.name name.text) q url))
      (.statement (image w (.name name.text) q url)) := by
  have hfailed := aligned_worded v w title (.imageFailed q.title)
  have hhelp := aligned_worded v w title (.imageHelp name)
  simp only [Message.text] at hfailed hhelp
  rw [← render_imageFailed, ← render_imageFailed] at hfailed
  rw [← render_imageHelp, ← render_imageHelp] at hhelp
  rw [image, image]
  refine worded_attempt _ ?_
  rw [Stmt.renderAll, Stmt.renderAll]
  refine hfailed.append ?_
  by_cases himage : q.kind.isImage = true
  · rw [if_pos himage, if_pos himage]
    exact whole_nil.aligned
  · rw [if_neg himage, if_neg himage, Stmt.renderAll, Stmt.renderAll, Stmt.renderAll]
    exact hhelp.append whole_nil.aligned

/-! ### Pieces -/

theorem worded_question (v w : Wording) (title : String) (isQuiz : Bool) (name : ItemName) (q : Question) :
    List.Forall₂ (Piece.Alike v w title) (question v isQuiz name q) (question w isQuiz name q) := by
  refine List.rel_append (forall₂_alike_refl _) ?_
  cases Text.nonempty? q.imageUrl with
  | none => exact .nil
  | some url => exact .cons (worded_image v w title name q url) .nil

theorem worded_questions (v w : Wording) (title : String) (isQuiz : Bool) (names : Nat → ItemName) (first : Nat)
    (qs : List Question) : List.Forall₂ (Piece.Alike v w title) (questions v isQuiz names first qs)
      (questions w isQuiz names first qs) := by
  induction qs generalizing first with
  | nil => exact .nil
  | cons q rest ih => exact List.rel_append (worded_question v w title isQuiz (names first) q) (ih (first + 1))

theorem worded_sections (v w : Wording) (title : String) (isQuiz : Bool) (names : Nat → ItemName)
    (index first : Nat) (ss : List FormSection) :
    List.Forall₂ (Piece.Alike v w title) (sections v isQuiz names index first ss)
      (sections w isQuiz names index first ss) := by
  induction ss generalizing index first with
  | nil => exact .nil
  | cons s rest ih =>
    have hquestions := worded_questions v w title isQuiz names first s.questions
    have hrest := ih (index + 1) (first + s.questions.length)
    exact .cons (.refl _) (.cons (.refl _) (List.rel_append
      (List.rel_append hquestions (forall₂_alike_refl _)) hrest))

theorem worded_quizNotes {v w : Wording} (h : v.quizNotes.length = w.quizNotes.length) (title : String)
    (settings : QuizSettings) :
    List.Forall₂ (Piece.Alike v w title) (quizNotes v settings) (quizNotes w settings) := by
  refine List.rel_append ?_ (.cons (worded_note _ _) (.cons (worded_note _ _) (.cons (worded_note _ _) .nil)))
  rw [List.forall₂_map_left_iff, List.forall₂_map_right_iff, List.forall₂_iff_get]
  exact ⟨h, fun _ _ _ => worded_note _ _⟩

theorem worded_opening {v w : Wording} (h : v.quizNotes.length = w.quizNotes.length) (title : String)
    (d : Definition) : List.Forall₂ (Piece.Alike v w title) (opening v d) (opening w d) := by
  refine .cons (.refl _) (List.rel_append (forall₂_alike_refl _) ?_)
  by_cases hquiz : d.isQuiz = true
  · rw [if_pos hquiz, if_pos hquiz]
    refine .cons (.refl _) ?_
    cases d.quizSettings with
    | none => exact .nil
    | some settings => exact worded_quizNotes h title settings
  · rw [if_neg hquiz, if_neg hquiz]
    exact .nil

/-! ### Locales -/

theorem worded_body (d : Definition) (names : Nat → ItemName) (resultsSheet : Bool) :
    List.Forall₂ (Piece.Alike .english .vietnamese d.title) (d.script ⟨resultsSheet, .en⟩ names).body
      (d.script ⟨resultsSheet, .vi⟩ names).body := by
  have hopening := worded_opening (v := .english) (w := .vietnamese) rfl d.title d
  have hsections := worded_sections .english .vietnamese d.title d.isQuiz names 0 0 d.sections
  have hfarewell := worded_farewell .english .vietnamese d.title resultsSheet
  refine List.rel_append (List.rel_append (List.rel_append hopening hsections) ?_) hfarewell
  cases resultsSheet with
  | false => exact .nil
  | true => exact worded_sheet .english .vietnamese d.title

theorem oneLine_banner (locale : Locale) : ∀ line ∈ (Wording.ofLocale locale).banner, OneLine line := by
  cases locale
  all_goals
    rw [Wording.ofLocale]
    repeat refine List.forall_mem_cons.mpr ⟨oneLine_ofList (by decide), ?_⟩
    exact List.forall_mem_nil _

/-- Of the header comment only its line feeds are left. -/
theorem filter_renderBanner {banner : List String} (h : ∀ line ∈ banner, OneLine line) :
    (renderBanner banner).filter isLineEnd = List.replicate (banner.length + 2) '\n' := by
  have hopen : "/**\n".toList.filter isLineEnd = ['\n'] := by decide
  have hclose : " */\n".toList.filter isLineEnd = ['\n'] := by decide
  have hbody : (banner.flatMap fun line => " * ".toList ++ line.toList ++ ['\n']).filter isLineEnd =
      List.replicate banner.length '\n' := by
    induction banner with
    | nil => rfl
    | cons line rest ih =>
      obtain ⟨hline, hrest⟩ := List.forall_mem_cons.mp h
      have hfront : " * ".toList.filter isLineEnd = [] := by decide
      have htext : line.toList.filter isLineEnd = [] :=
        List.filter_eq_nil_iff.mpr fun c hc => Bool.eq_false_iff.mp (hline c hc)
      have hend : ['\n'].filter isLineEnd = ['\n'] := by decide
      rw [List.flatMap_cons, List.filter_append, ih hrest, List.filter_append, List.filter_append, hfront,
        htext, hend]
      rfl
  rw [renderBanner, List.filter_append, List.filter_append, hopen, hbody, hclose]
  rw [List.replicate_succ', List.replicate_succ]
  rfl

theorem uncommented_script (d : Definition) (options : Options) (names : Nat → ItemName) :
    uncommented (d.script options names) = some ((List.replicate 11 '\n' ++ headLine entryFunction ++ ['\n'])
      ++ ((d.script options names).body.flatMap Piece.bare ++ (['\x7d'] ++ ['\n']))) := by
  have hlength : (Wording.ofLocale options.locale).banner.length = 9 := by
    cases options.locale <;> rfl
  have hbanner : (renderBanner (d.script options names).banner).filter isLineEnd = List.replicate 11 '\n' := by
    show (renderBanner (Wording.ofLocale options.locale).banner).filter isLineEnd = _
    rw [filter_renderBanner (oneLine_banner options.locale), hlength]
  rw [uncommented_eq (regular_script d options names), hbanner]
  simp only [List.append_assoc, List.cons_append, List.nil_append]
  rfl

theorem aligned_uncommented (d : Definition) (names : Nat → ItemName) (resultsSheet : Bool) :
    ∃ english vietnamese, uncommented (d.script ⟨resultsSheet, .en⟩ names) = some english ∧
      uncommented (d.script ⟨resultsSheet, .vi⟩ names) = some vietnamese ∧
      List.Forall₂ (Counterpart .english .vietnamese d.title) (lines english) (lines vietnamese) := by
  have hhead : Aligned .english .vietnamese d.title
      (List.replicate 11 '\n' ++ headLine entryFunction ++ ['\n'])
      (List.replicate 11 '\n' ++ headLine entryFunction ++ ['\n']) := (whole_line _).aligned
  have hbody := aligned_flatMap (worded_body d names resultsSheet)
  have hend : List.Forall₂ (Counterpart .english .vietnamese d.title) (lines (['\x7d'] ++ ['\n']))
      (lines (['\x7d'] ++ ['\n'])) := List.forall₂_same.mpr fun line _ => .same line
  have hen := uncommented_script d ⟨resultsSheet, .en⟩ names
  have hvi := uncommented_script d ⟨resultsSheet, .vi⟩ names
  exact ⟨_, _, hen, hvi, hhead _ _ (hbody _ _ hend)⟩

/-! ### The results sheet -/

/-- The lines that create the spreadsheet of a form with this title. -/
def sheetLines (w : Wording) (title : String) : List (List Char) :=
  [[],
    "  var resultsSheet = SpreadsheetApp.create(".toList ++ literal (title ++ w.responses) ++ ");".toList,
    "  form.setDestination(FormApp.DestinationType.SPREADSHEET, resultsSheet.getId());".toList]

/-- The lines that log the addresses of the form. -/
def farewellLines (w : Wording) : List (List Char) :=
  [[],
    "  Logger.log(".toList ++ literal w.done ++ ");".toList,
    "  Logger.log(".toList ++ literal w.editUrl ++ " + form.getEditUrl());".toList,
    "  Logger.log(".toList ++ literal w.shareUrl ++ " + form.getPublishedUrl());".toList]

/-- The line that logs the address of the spreadsheet. -/
def sheetUrlLine (w : Wording) : List Char :=
  "  Logger.log(".toList ++ literal w.sheetUrl ++ " + resultsSheet.getUrl());".toList

/-- A piece that takes one line. -/
def Piece.Takes (piece : Piece) (line : List Char) : Prop := piece.render = line ++ ['\n'] ∧ '\n' ∉ line

theorem lines_pieces {ls : List (List Char)} (h : List.Forall₂ Piece.Takes ps ls) (rest : List Char) :
    lines (ps.flatMap Piece.render ++ rest) = ls ++ lines rest := by
  induction h with
  | nil => rfl
  | cons hpiece _ ih =>
    rw [List.flatMap_cons, hpiece.1, List.append_assoc, List.append_assoc, List.singleton_append,
      lines_line hpiece.2, ih]
    rfl

theorem takes_blank : Piece.Takes .blank [] := ⟨rfl, List.not_mem_nil⟩

theorem takes_address {message : Message} (object word : String)
    {behind : List Char} (h : message.Stands "  Logger.log(".toList behind)
    (hbehind : behind = " + ".toList ++ object.toList ++ '.' :: word.toList ++ "());".toList) (text : String) :
    Piece.Takes (.statement (log (.join (.literal text) ((Expr.name object).method word []))))
      ("  Logger.log(".toList ++ literal text ++ behind) := ⟨bare_address text hbehind, h.notMem_line text⟩

theorem takes_farewell (w : Wording) :
    List.Forall₂ Piece.Takes (farewell w false) (farewellLines w) := by
  have hdone : Piece.Takes (.statement (log (.literal w.done)))
      ("  Logger.log(".toList ++ literal w.done ++ ");".toList) :=
    ⟨bare_done w.done, Message.Stands.done.notMem_line w.done⟩
  have hedit := takes_address "form" "getEditUrl" .editUrl (by decide) w.editUrl
  have hshare := takes_address "form" "getPublishedUrl" .shareUrl (by decide) w.shareUrl
  exact .cons takes_blank (.cons hdone (.cons hedit (.cons hshare .nil)))

theorem takes_sheetFarewell (w : Wording) :
    List.Forall₂ Piece.Takes (farewell w true) (farewellLines w ++ [sheetUrlLine w]) := by
  have hsheet := takes_address "resultsSheet" "getUrl" .sheetUrl (by decide) w.sheetUrl
  exact List.rel_append (takes_farewell w) (.cons hsheet .nil)

theorem takes_sheet (w : Wording) (title : String) :
    List.Forall₂ Piece.Takes (sheet w title) (sheetLines w title) := by
  have htitle : Piece.Takes
      (declare "resultsSheet" ((Expr.name "SpreadsheetApp").method "create" [.literal (title ++ w.responses)]))
      ("  var resultsSheet = SpreadsheetApp.create(".toList ++ literal (title ++ w.responses) ++ ");".toList) :=
    ⟨bare_sheetTitle _, Message.Stands.sheetTitle.notMem_line _⟩
  have hdestination : Piece.Takes
      (invoke form "setDestination" [.member (.member (.name "FormApp") "DestinationType") "SPREADSHEET",
        (Expr.name "resultsSheet").method "getId" []])
      "  form.setDestination(FormApp.DestinationType.SPREADSHEET, resultsSheet.getId());".toList := by
    constructor
    · decide
    · decide
  exact .cons takes_blank (.cons htitle (.cons hdestination .nil))

/-- The part of a script in front of its spreadsheet, its final log lines and its last bracket does not depend on
the results sheet. -/
theorem text_script (d : Definition) (names : Nat → ItemName) (locale : Locale) :
    ∃ head, ∀ resultsSheet, (d.script ⟨resultsSheet, locale⟩ names).text.toList = (head ++ ['\n'])
      ++ (opening (.ofLocale locale) d
        ++ sections (.ofLocale locale) d.isQuiz names 0 0 d.sections).flatMap Piece.render
      ++ ((if resultsSheet then sheet (.ofLocale locale) d.title else []).flatMap Piece.render
        ++ ((farewell (.ofLocale locale) resultsSheet).flatMap Piece.render ++ ['\x7d', '\n'])) := by
  have hopens : "() \x7b\n".toList = "() \x7b".toList ++ ['\n'] := by decide
  have hcloses : "\x7d\n".toList = ['\x7d', '\n'] := by decide
  refine ⟨renderBanner (Wording.ofLocale locale).banner ++ "function ".toList ++ entryFunction.toList
    ++ "() \x7b".toList, fun resultsSheet => ?_⟩
  rw [text, String.toList_ofList, render, hopens, hcloses, Definition.script]
  simp only [List.flatMap_append, List.append_assoc]

theorem lines_script (d : Definition) (names : Nat → ItemName) (locale : Locale) :
    ∃ before, lines (d.script ⟨false, locale⟩ names).text.toList =
        before ++ (farewellLines (.ofLocale locale) ++ [['\x7d'], []]) ∧
      lines (d.script ⟨true, locale⟩ names).text.toList =
        before ++ (sheetLines (.ofLocale locale) d.title
          ++ (farewellLines (.ofLocale locale) ++ [sheetUrlLine (.ofLocale locale)] ++ [['\x7d'], []])) := by
  have hend : lines ['\x7d', '\n'] = [['\x7d'], []] := by decide
  obtain ⟨head, htext⟩ := text_script d names locale
  obtain ⟨before, hbefore⟩ := (whole_line head).append (whole_flatMap Piece.exists_render
    (opening (.ofLocale locale) d ++ sections (.ofLocale locale) d.isQuiz names 0 0 d.sections))
  refine ⟨before, ?_, ?_⟩
  · rw [htext, hbefore, if_neg Bool.false_ne_true, List.flatMap_nil, List.nil_append,
      lines_pieces (takes_farewell _), hend]
  · rw [htext, hbefore, if_pos rfl, lines_pieces (takes_sheet _ _), lines_pieces (takes_sheetFarewell _), hend]

/-- **What the options of a script change.**  For the two locales, the lines of a script after removing comments
are the same up to the literals of the messages.  With a results sheet there are additionally the lines that
create it, in front of the final log lines, and the line that logs its address, in front of the last bracket. -/
theorem options_change_what_they_name (d : Definition) (names : Nat → ItemName) :
    (∀ resultsSheet, ∃ english vietnamese,
      uncommented (d.script ⟨resultsSheet, .en⟩ names) = some english ∧
      uncommented (d.script ⟨resultsSheet, .vi⟩ names) = some vietnamese ∧
      List.Forall₂ List.Sublist (lines english)
        (lines (d.script ⟨resultsSheet, .en⟩ names).text.toList) ∧
      List.Forall₂ List.Sublist (lines vietnamese)
        (lines (d.script ⟨resultsSheet, .vi⟩ names).text.toList) ∧
      (lines (d.script ⟨resultsSheet, .en⟩ names).text.toList).length =
        (lines (d.script ⟨resultsSheet, .vi⟩ names).text.toList).length ∧
      List.Forall₂ (Counterpart .english .vietnamese d.title) (lines english) (lines vietnamese)) ∧
    (∀ locale, ∃ before,
      lines (d.script ⟨false, locale⟩ names).text.toList =
        before ++ (farewellLines (.ofLocale locale) ++ [['\x7d'], []]) ∧
      lines (d.script ⟨true, locale⟩ names).text.toList =
        before ++ (sheetLines (.ofLocale locale) d.title
          ++ (farewellLines (.ofLocale locale) ++ [sheetUrlLine (.ofLocale locale)] ++ [['\x7d'], []]))) := by
  refine ⟨fun resultsSheet => ?_, fun locale => lines_script d names locale⟩
  obtain ⟨english, vietnamese, henglish, hvietnamese, halike⟩ := aligned_uncommented d names resultsSheet
  have hen := lines_bare henglish
  have hvi := lines_bare hvietnamese
  have hlength : (lines (d.script ⟨resultsSheet, .en⟩ names).text.toList).length =
      (lines (d.script ⟨resultsSheet, .vi⟩ names).text.toList).length := by
    rw [← hen.length_eq, halike.length_eq, hvi.length_eq]
  exact ⟨english, vietnamese, henglish, hvietnamese, hen, hvi, hlength, halike⟩

end Script
end Formwork
