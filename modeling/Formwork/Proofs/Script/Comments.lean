import Formwork.Proofs.Script.Spelling
import Mathlib.Data.List.Forall2

/-!
# Scripts without their comments

`Script.bare` scans a text as `Script.scan` does, and keeps every character outside of comments.  Line ends are kept
also inside comments, so the kept lines correspond to the lines of the text one to one, as sublists (`lines_bare`).

For the text of a script (`bare_render`), the header comment and the notes leave empty lines, and the statements are
unchanged, since none of their tokens is a comment (`bare_of_scan`).
-/
namespace Formwork
namespace Script

/-! ### Lines -/

/-- The lines of a text. -/
abbrev lines (s : List Char) : List (List Char) := s.splitOn '\n'

variable {s t rest kept : List Char} {ts : List Token} {mode next : Mode} {c : Char}

/-- A line with its end in front of a text is its first line. -/
theorem lines_line (h : '\n' ∉ s) (rest : List Char) : lines (s ++ '\n' :: rest) = s :: lines rest :=
  List.splitOn_append_cons_self_of_not_mem h rest

theorem lines_newline (rest : List Char) : lines ('\n' :: rest) = [] :: lines rest :=
  lines_line List.not_mem_nil rest

/-- A character other than a line end belongs to the first line. -/
theorem lines_cons (hc : c ≠ '\n') (rest : List Char) : ∃ line more, lines rest = line :: more ∧
    lines (c :: rest) = (c :: line) :: more := by
  obtain ⟨line, more, hlines⟩ := List.exists_cons_of_ne_nil (List.splitOn_ne_nil '\n' rest)
  refine ⟨line, more, hlines, ?_⟩
  rw [lines, List.splitOn_cons_eq_if_modifyHead, if_neg (by simpa using hc), hlines]
  rfl

/-! ### Removing comments -/

/-- The characters since the last token begin a comment. -/
def Mode.inComment : Mode → Bool
  | .slash | .lineComment _ | .blockComment _ => true
  | _ => false

/-- The character between these two modes belongs to a comment.  A line end belongs to none. -/
def isCommentPart (mode : Mode) (c : Char) (next : Mode) : Bool :=
  !isLineEnd c && (mode.inComment || next.inComment)

/-- The text from this mode on without its comments; none if it breaks the lexical rules. -/
def bare : Mode → List Char → Option (List Char)
  | mode, [] => mode.finish.map fun _ => []
  | mode, c :: rest =>
    match mode.step c with
    | none => none
    | some (_, next) =>
      (bare next rest).map fun kept => if isCommentPart mode c next then kept else c :: kept

/-- The text of a script without its comments. -/
def uncommented (script : Script) : Option (List Char) := bare .between script.text.toList

theorem bare_cons (h : mode.step c = some (ts, next)) (rest : List Char) :
    bare mode (c :: rest) =
      (bare next rest).map fun kept => if isCommentPart mode c next then kept else c :: kept := by
  rw [bare, h]

theorem bare_cons_drop (h : mode.step c = some (ts, next)) (hpart : isCommentPart mode c next = true)
    (rest : List Char) : bare mode (c :: rest) = bare next rest := by
  rw [bare_cons h, hpart]
  exact Option.map_id'

theorem bare_cons_keep (h : mode.step c = some (ts, next)) (hpart : isCommentPart mode c next = false)
    (rest : List Char) : bare mode (c :: rest) = (bare next rest).map (c :: ·) := by
  rw [bare_cons h, hpart]
  rfl

/-- **Removing comments keeps every line in its place**, and adds nothing to it. -/
theorem lines_bare (h : bare mode s = some kept) : List.Forall₂ List.Sublist (lines kept) (lines s) := by
  induction s generalizing mode kept with
  | nil =>
    obtain ⟨-, -, rfl⟩ := Option.map_eq_some_iff.mp h
    exact .cons (List.Sublist.refl _) .nil
  | cons c rest ih =>
    rcases hstep : mode.step c with _ | ⟨ts, next⟩
    · rw [bare, hstep] at h
      cases h
    rw [bare_cons hstep] at h
    obtain ⟨more, hmore, rfl⟩ := Option.map_eq_some_iff.mp h
    have hlines := ih hmore
    by_cases hc : c = '\n'
    · subst hc
      have hend : isCommentPart mode '\n' next = false := rfl
      rw [hend, lines_newline]
      exact .cons (List.Sublist.refl _) hlines
    · obtain ⟨line, others, hrest, hcons⟩ := lines_cons hc rest
      obtain ⟨line', others', hmore', hcons'⟩ := lines_cons hc more
      rw [hrest, hmore', List.forall₂_cons] at hlines
      rw [hcons]
      by_cases hpart : isCommentPart mode c next = true
      · rw [if_pos hpart, hmore']
        exact .cons (hlines.1.cons c) hlines.2
      · rw [if_neg hpart, hcons']
        exact .cons (hlines.1.cons_cons c) hlines.2

/-! ### Texts without comments -/

/-- A token that is a comment. -/
def Token.isComment : Token → Bool
  | .comment _ => true
  | _ => false

/-- None of these tokens is a comment. -/
def Commentless (ts : List Token) : Prop := ∀ token ∈ ts, token.isComment = false

theorem commentless_nil : Commentless [] := List.forall_mem_nil _

theorem Commentless.append {us : List Token} (hts : Commentless ts) (hus : Commentless us) :
    Commentless (ts ++ us) := List.forall_mem_append.mpr ⟨hts, hus⟩

theorem Commentless.cons {token : Token} (htoken : token.isComment = false) (h : Commentless ts) :
    Commentless (token :: ts) := List.forall_mem_cons.mpr ⟨htoken, h⟩

theorem not_commentless_comment (body : String) : ¬ Commentless [.comment body] := by
  intro h
  cases h _ List.mem_cons_self

/-- A comment that has begun is among the tokens. -/
theorem not_commentless_of_inComment (hmode : mode.inComment = true) (h : scan mode s = some ts) :
    ¬ Commentless ts := by
  induction s generalizing mode ts with
  | nil =>
    cases mode with
    | lineComment body =>
      obtain rfl : [Token.comment (String.ofList body)] = ts := Option.some.inj h
      exact not_commentless_comment _
    | slash => cases h
    | blockComment body => cases h
    | _ => cases hmode
  | cons c rest ih =>
    rcases hstep : mode.step c with _ | ⟨done, next⟩
    · rw [scan, hstep] at h
      cases h
    rw [scan, hstep] at h
    obtain ⟨more, hmore, rfl⟩ := Option.map_eq_some_iff.mp h
    -- either the comment goes on, or it is a token now
    have hon : next.inComment = true ∨ ¬ Commentless done := by
      cases mode with
      | slash =>
        rw [Mode.step] at hstep
        split_ifs at hstep <;> cases hstep <;> exact Or.inl rfl
      | lineComment body =>
        rw [Mode.step] at hstep
        split_ifs at hstep <;> cases hstep
        · exact Or.inr (not_commentless_comment _)
        · exact Or.inl rfl
      | blockComment body =>
        rw [Mode.step] at hstep
        split_ifs at hstep <;> cases hstep
        · exact Or.inr (not_commentless_comment _)
        · exact Or.inl rfl
      | _ => cases hmode
    intro hts
    rcases hon with hnext | hdone
    · exact ih hnext hmore (List.forall_mem_append.mp hts).2
    · exact hdone (List.forall_mem_append.mp hts).1

/-- Outside a comment, a line end is accepted only between tokens. -/
theorem next_of_newline (hmode : mode.inComment = false) (h : mode.step '\n' = some (ts, next))
    (hend : next.finish ≠ none) : next = .between := by
  have hstart : Mode.start '\n' = some ([], .between) := by decide
  have hfinishing : ∀ token, Mode.finishing token '\n' = some ([token], .between) := fun _ => rfl
  cases mode with
  | between => cases hstart.symm.trans h; rfl
  | behind sign =>
    have hsign : sign.extendedBy '\n' = false := by cases sign <;> rfl
    rw [Mode.step, hsign] at h
    cases hstart.symm.trans h
    rfl
  | word name =>
    have hpart : isWordPart '\n' = false := by decide
    rw [Mode.step, hpart] at h
    cases (hfinishing _).symm.trans h
    rfl
  | numeral value => cases (hfinishing (.number value)).symm.trans h; rfl
  | quoted mark value =>
    rw [Mode.step] at h
    split_ifs at h with hmark hslash hnewline
    · cases h
      rfl
    · exact absurd hslash (by decide)
    · exact absurd (Or.inl rfl) hnewline
  | escape mark value =>
    cases h
    exact absurd rfl hend
  | code mark value more unit => cases h
  | slash => cases hmode
  | lineComment body => cases hmode
  | blockComment body => cases hmode

/-- **Lines with tokens other than comments are unchanged.** -/
theorem bare_of_scan (hmode : mode.inComment = false) (h : scan mode (s ++ ['\n']) = some ts)
    (hts : Commentless ts) (rest : List Char) :
    bare mode (s ++ '\n' :: rest) = (bare .between rest).map (s ++ '\n' :: ·) := by
  induction s generalizing mode ts with
  | nil =>
    rcases hstep : mode.step '\n' with _ | ⟨done, next⟩
    · rw [List.nil_append, scan, hstep] at h
      cases h
    rw [List.nil_append, scan, hstep] at h
    obtain ⟨more, hmore, -⟩ := Option.map_eq_some_iff.mp h
    have hfinish : next.finish ≠ none := Option.ne_none_iff_exists'.mpr ⟨more, hmore⟩
    obtain rfl := next_of_newline hmode hstep hfinish
    exact bare_cons_keep hstep rfl rest
  | cons c s ih =>
    rw [List.cons_append] at h
    rcases hstep : mode.step c with _ | ⟨done, next⟩
    · rw [scan, hstep] at h
      cases h
    rw [scan, hstep] at h
    obtain ⟨more, hmore, rfl⟩ := Option.map_eq_some_iff.mp h
    have hmoreless : Commentless more := (List.forall_mem_append.mp hts).2
    have hnext : next.inComment = false :=
      Bool.eq_false_iff.mpr fun hin => not_commentless_of_inComment hin hmore hmoreless
    have hpart : isCommentPart mode c next = false := by
      rw [isCommentPart, hmode, hnext, Bool.or_self, Bool.and_false]
    rw [List.cons_append, bare_cons_keep hstep hpart, ih hnext hmore hmoreless, Option.map_map]
    rfl

/-! ### Comments -/

/-- A line comment leaves its line end. -/
theorem bare_lineComment (h : ∀ c ∈ s, isLineEnd c = false) (body rest : List Char) :
    bare (.lineComment body) (s ++ '\n' :: rest) = (bare .between rest).map ('\n' :: ·) := by
  induction s generalizing body with
  | nil => exact bare_cons_keep rfl rfl rest
  | cons c s ih =>
    obtain ⟨hc, hs⟩ := List.forall_mem_cons.mp h
    have hstep : (Mode.lineComment body).step c = some ([], .lineComment (body ++ [c])) := by
      simp [Mode.step, hc]
    have hpart : isCommentPart (.lineComment body) c (.lineComment (body ++ [c])) = true := by
      rw [isCommentPart, hc]
      rfl
    rw [List.cons_append, bare_cons_drop hstep hpart, ih hs]

/-- A block comment leaves its line ends. -/
theorem bare_blockComment (h : '/' ∉ s) (body rest : List Char) :
    bare (.blockComment body) (s ++ '*' :: '/' :: rest) =
      (bare .between rest).map (s.filter isLineEnd ++ ·) := by
  induction s generalizing body with
  | nil =>
    have hstar : (Mode.blockComment body).step '*' = some ([], .blockComment (body ++ ['*'])) := by
      simp [Mode.step]
    have hslash : (Mode.blockComment (body ++ ['*'])).step '/' =
        some ([.comment (String.ofList body)], .between) := by
      simp [Mode.step]
    rw [List.nil_append, bare_cons_drop hstar rfl, bare_cons_drop hslash rfl]
    exact Option.map_id'.symm
  | cons c s ih =>
    rw [List.mem_cons, not_or] at h
    have hstep : (Mode.blockComment body).step c = some ([], .blockComment (body ++ [c])) := by
      simp [Mode.step, Ne.symm h.1]
    by_cases hend : isLineEnd c = true
    · have hpart : isCommentPart (.blockComment body) c (.blockComment (body ++ [c])) = false := by
        rw [isCommentPart, hend]
        rfl
      rw [List.cons_append, bare_cons_keep hstep hpart, ih h.2, List.filter_cons_of_pos hend,
        Option.map_map]
      rfl
    · have hpart : isCommentPart (.blockComment body) c (.blockComment (body ++ [c])) = true := by
        rw [isCommentPart, Bool.eq_false_iff.mpr hend]
        rfl
      rw [List.cons_append, bare_cons_drop hstep hpart, ih h.2, List.filter_cons_of_neg hend]

/-! ### The text of a script -/

mutual
theorem Expr.commentless_tokens : ∀ e : Expr, Commentless e.tokens
  | .literal _ | .colon | .number _ | .name _ => commentless_nil.cons rfl
  | .truth true | .truth false => commentless_nil.cons rfl
  | .member object _ => object.commentless_tokens.append ((commentless_nil.cons rfl).cons rfl)
  | .call callee arguments =>
    callee.commentless_tokens.append ((Expr.commentless_argumentTokens arguments).cons rfl)
  | .array items => by
    rw [Expr.tokens]
    exact ((Expr.commentless_itemTokens items).append (commentless_nil.cons rfl)).cons rfl
  | .join first second => by
    rw [Expr.tokens]
    exact first.commentless_tokens.append (second.commentless_tokens.cons rfl)

theorem Expr.commentless_argumentTokens : ∀ arguments : List Expr,
    Commentless (Expr.argumentTokens arguments)
  | [] => commentless_nil.cons rfl
  | [argument] => argument.commentless_tokens.append (commentless_nil.cons rfl)
  | argument :: next :: more => by
    rw [Expr.argumentTokens]
    · exact argument.commentless_tokens.append
        ((Expr.commentless_argumentTokens (next :: more)).cons rfl)
    · simp

theorem Expr.commentless_itemTokens : ∀ items : List Expr, Commentless (Expr.itemTokens items)
  | [] => commentless_nil
  | [item] => item.commentless_tokens
  | item :: next :: more => by
    rw [Expr.itemTokens]
    · exact item.commentless_tokens.append ((Expr.commentless_itemTokens (next :: more)).cons rfl)
    · simp
end

mutual
theorem Stmt.commentless_tokens : ∀ s : Stmt, Commentless s.tokens
  | .declare _ value =>
    (((value.commentless_tokens.append (commentless_nil.cons rfl)).cons rfl).cons rfl).cons rfl
  | .perform value => value.commentless_tokens.append (commentless_nil.cons rfl)
  | .attempt body handler => by
    have hend : Commentless [.closes .curly] := commentless_nil.cons rfl
    have hhandler : Commentless (.opens .curly :: (Stmt.allTokens handler ++ [.closes .curly])) :=
      ((Stmt.commentless_allTokens handler).append hend).cons rfl
    exact (((Stmt.commentless_allTokens body).append (((((hhandler.cons rfl).cons rfl).cons
      rfl).cons rfl).cons rfl)).cons rfl).cons rfl

theorem Stmt.commentless_allTokens : ∀ ss : List Stmt, Commentless (Stmt.allTokens ss)
  | [] => commentless_nil
  | s :: more => s.commentless_tokens.append (Stmt.commentless_allTokens more)
end

/-- The text of a piece without its comments: the empty line of a note. -/
def Piece.bare : Piece → List Char
  | .blank => ['\n']
  | .note _ => margin 1 ++ ['\n']
  | .statement s => s.render 1

theorem Stmt.exists_render (s : Stmt) (depth : Nat) : ∃ text, s.render depth = text ++ ['\n'] := by
  cases s with
  | declare word value =>
    refine ⟨margin depth ++ "var ".toList ++ word.toList ++ " = ".toList ++ value.render depth ++ [';'], ?_⟩
    rw [Stmt.render, List.append_assoc _ [';']]
    rfl
  | perform value =>
    refine ⟨margin depth ++ value.render depth ++ [';'], ?_⟩
    rw [Stmt.render, List.append_assoc _ [';']]
    rfl
  | attempt body handler =>
    have hend : "\x7d\n".toList = ['\x7d'] ++ ['\n'] := by decide
    rw [Stmt.render, hend, ← List.append_assoc _ ['\x7d']]
    exact ⟨_, rfl⟩

/-- The text of a piece ends with a line end. -/
theorem Piece.exists_bare (piece : Piece) : ∃ text, piece.bare = text ++ ['\n'] := by
  cases piece with
  | blank => exact ⟨[], rfl⟩
  | note text => exact ⟨margin 1, rfl⟩
  | statement s => exact s.exists_render 1

theorem bare_margin (depth : Nat) (rest : List Char) :
    Script.bare .between (margin depth ++ rest) =
      (Script.bare .between rest).map (margin depth ++ ·) := by
  unfold margin
  induction 2 * depth with
  | zero => exact Option.map_id'.symm
  | succ n ih =>
    have hspace : Mode.between.step ' ' = some ([], .between) := by decide
    rw [List.replicate_succ, List.cons_append, bare_cons_keep hspace rfl, ih, Option.map_map]
    rfl

theorem Piece.bare_render (piece : Piece) (h : piece.Regular) (rest : List Char) :
    Script.bare .between (piece.render ++ rest) =
      (Script.bare .between rest).map (piece.bare ++ ·) := by
  cases piece with
  | blank => exact bare_cons_keep rfl rfl rest
  | note text =>
    have hslashes : "// ".toList = ['/', '/', ' '] := by decide
    have hopen : Mode.between.step '/' = some ([], .slash) := by decide
    have hsecond : Mode.slash.step '/' = some ([], .lineComment []) := by decide
    have hspace : (Mode.lineComment []).step ' ' = some ([], .lineComment [' ']) := by decide
    rw [Piece.render, Piece.bare, hslashes]
    simp only [List.append_assoc, List.cons_append, List.nil_append]
    rw [bare_margin, bare_cons_drop hopen rfl, bare_cons_drop hsecond rfl, bare_cons_drop hspace rfl,
      bare_lineComment h, Option.map_map]
    rfl
  | statement s =>
    obtain ⟨text, htext⟩ := s.exists_render 1
    have hreads : Reads (s.render 1) s.tokens [] := s.reads_render 1 h
    rw [Reads, List.append_nil, htext] at hreads
    have hscan : scan .between (text ++ ['\n']) = some s.tokens := by
      rw [hreads]
      exact congrArg some (List.append_nil _)
    rw [Piece.render, Piece.bare, htext, List.append_assoc, List.cons_append, List.nil_append,
      bare_of_scan rfl hscan s.commentless_tokens]
    simp only [List.append_assoc, List.cons_append, List.nil_append]

theorem bare_pieces {body : List Piece} (h : ∀ piece ∈ body, piece.Regular) (rest : List Char) :
    bare .between (body.flatMap Piece.render ++ rest) =
      (bare .between rest).map (body.flatMap Piece.bare ++ ·) := by
  induction body with
  | nil => exact Option.map_id'.symm
  | cons piece body ih =>
    obtain ⟨hpiece, hbody⟩ := List.forall_mem_cons.mp h
    rw [List.flatMap_cons, List.flatMap_cons, List.append_assoc, piece.bare_render hpiece, ih hbody,
      Option.map_map]
    simp only [Function.comp_def, List.append_assoc]

/-- The line on which the function of a script begins. -/
def headLine (entry : String) : List Char :=
  "function ".toList ++ (entry.toList ++ "() \x7b".toList)

theorem bare_headLine {entry : String} (h : isName entry = true) (rest : List Char) :
    bare .between (headLine entry ++ '\n' :: rest) =
      (bare .between rest).map (headLine entry ++ '\n' :: ·) := by
  have hfunction : "function ".toList = "function".toList ++ [' '] := by decide
  have hbrackets : "() \x7b".toList =
      [Bracket.left .round, Bracket.right .round, ' ', Bracket.left .curly] := by
    decide
  have hreads : Reads (headLine entry ++ ['\n'])
      [.word "function", .word entry, .opens .round, .closes .round, .opens .curly] [] := by
    unfold headLine
    rw [hfunction, hbrackets]
    simp only [List.append_assoc, List.cons_append, List.nil_append]
    refine reads_keyword (by decide) ?_
    refine reads_word_append (isWord_of_isName h) (stops_cons (by decide)) ?_
    exact reads_left .round (reads_right .round (reads_space (reads_left .curly
      (reads_newline reads_nil))))
  rw [Reads, List.append_nil] at hreads
  have hscan : scan .between (headLine entry ++ ['\n']) = some
      [.word "function", .word entry, .opens .round, .closes .round, .opens .curly] := hreads
  refine bare_of_scan rfl hscan ?_ rest
  exact ((((commentless_nil.cons rfl).cons rfl).cons rfl).cons rfl).cons rfl

theorem bare_banner {banner : List String} (h : ∀ line ∈ banner, '/' ∉ line.toList) (rest : List Char) :
    bare .between (renderBanner banner ++ rest) =
      (bare .between rest).map ((renderBanner banner).filter isLineEnd ++ ·) := by
  have hopen : "/**\n".toList = ['/', '*', '*', '\n'] := by decide
  have hclose : " */\n".toList = [' ', '*', '/', '\n'] := by decide
  have hrender : renderBanner banner = '/' :: '*' :: (bannerBody banner ++ '*' :: '/' :: ['\n']) := by
    simp [renderBanner, bannerBody, hopen, hclose]
  have hslash : Mode.between.step '/' = some ([], .slash) := by decide
  have hstar : Mode.slash.step '*' = some ([], .blockComment []) := by decide
  have hkept : (renderBanner banner).filter isLineEnd = (bannerBody banner).filter isLineEnd ++ ['\n'] := by
    rw [hrender]
    simp [isLineEnd]
  rw [hkept, hrender]
  simp only [List.append_assoc, List.cons_append, List.nil_append]
  rw [bare_cons_drop hslash rfl, bare_cons_drop hstar rfl, bare_blockComment (slash_notMem_bannerBody h),
    bare_cons_keep (show Mode.between.step '\n' = some ([], .between) by decide) rfl, Option.map_map]
  rfl

/-- **A script without its comments** consists of empty lines for its header comment and its notes, and of all of
its statements. -/
theorem uncommented_eq {script : Script} (h : Regular script) :
    uncommented script = some ((renderBanner script.banner).filter isLineEnd ++ headLine script.entry
      ++ '\n' :: (script.body.flatMap Piece.bare ++ ['\x7d', '\n'])) := by
  have hhead : "() \x7b\n".toList = "() \x7b".toList ++ ['\n'] := by decide
  have hend : "\x7d\n".toList = ['\x7d', '\n'] := by decide
  have hlast : bare .between ['\x7d', '\n'] = some ['\x7d', '\n'] := by decide
  have hrender : script.render = renderBanner script.banner ++ (headLine script.entry
      ++ '\n' :: (script.body.flatMap Piece.render ++ ['\x7d', '\n'])) := by
    unfold headLine
    rw [render, hhead, hend]
    simp only [List.append_assoc, List.cons_append, List.nil_append]
  rw [uncommented, text, String.toList_ofList, hrender, bare_banner h.banner, bare_headLine h.entry,
    bare_pieces h.body, hlast]
  simp only [Option.map_some, List.append_assoc]

end Script
end Formwork
