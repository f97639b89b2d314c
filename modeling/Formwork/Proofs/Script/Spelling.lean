import Formwork.Proofs.Script.Token

/-!
# The tokens of a script

`Script.tokens` are the tokens of a script, by recursion on its statements (`Expr.tokens`, `Stmt.tokens`), and
`lex_text` proves that scanning its text yields exactly those.

The text of an expression may denote another one: a name that is no word, a dot behind a numeral, a sum as the right
operand of a sum.  `Regular` excludes these, and requires a note to be on one line.  It puts no condition on the texts
of string literals.
-/
namespace Formwork
namespace Script

/-- The reserved words. -/
def reserved : List String := [
  "await", "break", "case", "catch", "class", "const", "continue", "debugger", "default", "delete",
  "do", "else", "enum", "export", "extends", "false", "finally", "for", "function", "if",
  "implements", "import", "in", "instanceof", "interface", "let", "new", "null", "package",
  "private", "protected", "public", "return", "static", "super", "switch", "this", "throw", "true",
  "try", "typeof", "var", "void", "while", "with", "yield"]

/-- A text that is a variable name. -/
def isName (word : String) : Bool := isWord word && !reserved.contains word

theorem isWord_of_isName {word : String} (h : isName word = true) : isWord word = true :=
  (Bool.and_eq_true_iff.mp h).1

theorem notMem_reserved_of_isName {word : String} (h : isName word = true) : word ∉ reserved := by
  simpa using (Bool.and_eq_true_iff.mp h).2

/-- An expression that can be followed by a member access. -/
def Expr.isChain : Expr → Bool
  | .number _ | .join .. => false
  | _ => true

mutual
/-- An expression that is determined by its text. -/
def Expr.Regular : Expr → Prop
  | .literal _ | .colon | .number _ | .truth _ => True
  | .name word => isName word = true
  | .member object word => object.Regular ∧ object.isChain = true ∧ isWord word = true
  | .call callee arguments =>
    callee.Regular ∧ callee.isChain = true ∧ Expr.AllRegular arguments
  | .array items => Expr.AllRegular items
  | .join first second => first.Regular ∧ second.Regular ∧ second.isChain = true

/-- Expressions that are determined by their text. -/
def Expr.AllRegular : List Expr → Prop
  | [] => True
  | e :: rest => e.Regular ∧ Expr.AllRegular rest
end

mutual
/-- A statement that is determined by its text. -/
def Stmt.Regular : Stmt → Prop
  | .declare word value => isName word = true ∧ value.Regular
  | .perform value => value.Regular
  | .attempt body handler => Stmt.AllRegular body ∧ Stmt.AllRegular handler

/-- Statements that are determined by their text. -/
def Stmt.AllRegular : List Stmt → Prop
  | [] => True
  | s :: rest => s.Regular ∧ Stmt.AllRegular rest
end

/-- A text without line ends. -/
def OneLine (text : String) : Prop := ∀ c ∈ text.toList, isLineEnd c = false

/-- A piece that is determined by its text: a note is on one line. -/
def Piece.Regular : Piece → Prop
  | .blank => True
  | .note text => OneLine text
  | .statement s => s.Regular

/-- A script that is determined by its text. -/
structure Regular (script : Script) : Prop where
  banner : ∀ line ∈ script.banner, '/' ∉ line.toList
  entry : isName script.entry = true
  body : ∀ piece ∈ script.body, piece.Regular

/-! ### Tokens -/

mutual
/-- The tokens of an expression. -/
def Expr.tokens : Expr → List Token
  | .literal text => [.text text]
  | .colon => [.text ": "]
  | .number value => [.number value]
  | .truth true => [.word "true"]
  | .truth false => [.word "false"]
  | .name word => [.word word]
  | .member object word => object.tokens ++ [.sign .dot, .word word]
  | .call callee arguments => callee.tokens ++ .opens .round :: Expr.argumentTokens arguments
  | .array items => .opens .square :: (Expr.itemTokens items ++ [.closes .square])
  | .join first second => first.tokens ++ .sign .plus :: second.tokens

/-- The tokens of arguments, with the closing bracket. -/
def Expr.argumentTokens : List Expr → List Token
  | [] => [.closes .round]
  | [argument] => argument.tokens ++ [.closes .round]
  | argument :: rest => argument.tokens ++ .sign .comma :: Expr.argumentTokens rest

/-- The tokens of the items of an array. -/
def Expr.itemTokens : List Expr → List Token
  | [] => []
  | [item] => item.tokens
  | item :: rest => item.tokens ++ .sign .comma :: Expr.itemTokens rest
end

mutual
/-- The tokens of a statement. -/
def Stmt.tokens : Stmt → List Token
  | .declare word value =>
    .word "var" :: .word word :: .sign .equals :: (value.tokens ++ [.sign .semicolon])
  | .perform value => value.tokens ++ [.sign .semicolon]
  | .attempt body handler =>
    .word "try" :: .opens .curly :: (Stmt.allTokens body
      ++ .closes .curly :: .word "catch" :: .opens .round :: .word "e" :: .closes .round
        :: .opens .curly :: (Stmt.allTokens handler ++ [.closes .curly]))

/-- The tokens of statements. -/
def Stmt.allTokens : List Stmt → List Token
  | [] => []
  | s :: rest => s.tokens ++ Stmt.allTokens rest
end

/-- The tokens of a piece; a note is a comment. -/
def Piece.tokens : Piece → List Token
  | .blank => []
  | .note text => [.comment (" " ++ text)]
  | .statement s => s.tokens

/-- The body of the header comment of a script. -/
def bannerBody (banner : List String) : List Char :=
  '*' :: '\n' :: (banner.flatMap (fun line => " * ".toList ++ line.toList ++ ['\n']) ++ [' '])

/-- The tokens of a script. -/
def tokens (script : Script) : List Token :=
  .comment (String.ofList (bannerBody script.banner)) :: .word "function" :: .word script.entry
    :: .opens .round :: .closes .round :: .opens .curly
    :: (script.body.flatMap Piece.tokens ++ [.closes .curly])

/-! ### Scanning the text -/

variable {s rest : List Char} {ts : List Token}

theorem stops_cons {c : Char} (h : isWordPart c = false) : Stops (c :: rest) := by
  intro d hd
  rw [List.head?_cons, Option.mem_some_iff] at hd
  exact hd ▸ h

/-- A word with a space behind it. -/
theorem reads_keyword {name : String} (hname : isWord name = true) (h : Reads s ts rest) :
    Reads (name.toList ++ ' ' :: s) (.word name :: ts) rest :=
  (reads_word hname (stops_cons (by decide))).append (reads_space h)

/-- A word that ends before the next character. -/
theorem reads_word_append {name : String} (hname : isWord name = true)
    (hstops : Stops (s ++ rest)) (h : Reads s ts rest) :
    Reads (name.toList ++ s) (.word name :: ts) rest :=
  (reads_word hname hstops).append h

theorem reads_dot_word {name : String} (hname : isWord name = true) (hrest : Stops rest) :
    Reads ('.' :: name.toList) [.sign .dot, .word name] rest := by
  obtain ⟨c, more, hlist, hc, -⟩ := isWord_cases hname
  refine reads_sign .dot (fun d hd => ?_) (reads_word hname hrest)
  rw [hlist, List.cons_append, List.head?_cons, Option.mem_some_iff] at hd
  subst hd
  have hdot : c ≠ '.' := by rintro rfl; exact absurd hc (by decide)
  simp [Sign.extendedBy, hdot, isDigit_eq_false_of_isWordStart hc]

/-- What may follow an expression: no word character, and no dot behind a numeral or a sum. -/
def Expr.Follows (e : Expr) (rest : List Char) : Prop :=
  Stops rest ∧ (e.isChain = false → ∀ c ∈ rest.head?, c ≠ '.')

theorem Expr.follows_cons (e : Expr) {c : Char} (hc : isWordPart c = false) (hdot : c ≠ '.') :
    e.Follows (c :: rest) :=
  ⟨stops_cons hc, fun _ d hd => by
    rw [List.head?_cons, Option.mem_some_iff] at hd
    exact hd ▸ hdot⟩

theorem Expr.follows_of_isChain {e : Expr} (he : e.isChain = true) (h : Stops rest) :
    e.Follows rest :=
  ⟨h, fun hfalse => absurd he (by simp [hfalse])⟩

mutual
theorem Expr.reads_render : ∀ (e : Expr) (depth : Nat) {rest : List Char}, e.Regular →
    e.Follows rest → Reads (e.render depth) e.tokens rest
  | .literal text, _, _, _, _ => reads_literal text
  | .colon, _, _, _, _ => reads_colon
  | .number value, _, _, _, hf => reads_number value hf.1 (hf.2 rfl)
  | .truth true, _, _, _, hf => reads_word (by decide) hf.1
  | .truth false, _, _, _, hf => reads_word (by decide) hf.1
  | .name _, _, _, h, hf => reads_word (isWord_of_isName h) hf.1
  | .member object word, depth, rest, h, hf => by
    obtain ⟨hobject, hchain, hword⟩ := h
    rw [Expr.render, Expr.tokens]
    exact (object.reads_render depth hobject
      (Expr.follows_of_isChain hchain (stops_cons (by decide)))).append
      (reads_dot_word hword hf.1)
  | .call callee arguments, depth, rest, h, _ => by
    obtain ⟨hcallee, hchain, harguments⟩ := h
    rw [Expr.render, Expr.tokens]
    exact (callee.reads_render depth hcallee (callee.follows_cons (by decide) (by decide))).append
      (reads_left .round (Expr.reads_renderArguments arguments depth harguments))
  | .array items, depth, rest, h, _ => by
    rw [Expr.render, Expr.tokens, List.cons_append, List.cons_append, List.append_assoc]
    refine reads_left .square ((Expr.reads_renderItems items (depth + 1) h ?_).append ?_)
    · exact ⟨'\n', _, rfl, by decide, by decide⟩
    · exact reads_newline (reads_margin depth (reads_right .square reads_nil))
  | .join first second, depth, rest, h, hf => by
    obtain ⟨hfirst, hsecond, hchain⟩ := h
    rw [Expr.render, Expr.tokens]
    refine (first.reads_render depth hfirst (first.follows_cons (by decide) (by decide))).append ?_
    -- a blank stands behind the plus, so no second one can run on from it
    refine reads_space (reads_sign .plus (fun c hc => ?_) (reads_space
      (second.reads_render depth hsecond (Expr.follows_of_isChain hchain hf.1))))
    rw [List.cons_append, List.head?_cons, Option.mem_some_iff] at hc
    subst hc
    decide

theorem Expr.reads_renderArguments : ∀ (arguments : List Expr) (depth : Nat) {rest : List Char},
    Expr.AllRegular arguments →
    Reads (Expr.renderArguments depth arguments) (Expr.argumentTokens arguments) rest
  | [], _, _, _ => reads_right .round reads_nil
  | [argument], depth, _, h =>
    (argument.reads_render depth h.1 (argument.follows_cons (by decide) (by decide))).append
      (reads_right .round reads_nil)
  | argument :: next :: more, depth, rest, h => by
    rw [Expr.renderArguments, Expr.argumentTokens]
    · refine (argument.reads_render depth h.1
        (argument.follows_cons (by decide) (by decide))).append ?_
      refine reads_sign .comma (fun _ _ => rfl) (reads_space ?_)
      exact Expr.reads_renderArguments (next :: more) depth h.2
    all_goals simp

theorem Expr.reads_renderItems : ∀ (items : List Expr) (depth : Nat) {rest : List Char},
    Expr.AllRegular items →
    (∃ c more, rest = c :: more ∧ isWordPart c = false ∧ c ≠ '.') →
    Reads (Expr.renderItems depth items) (Expr.itemTokens items) rest
  | [], _, _, _, _ => reads_nil
  | [item], depth, rest, h, hrest => by
    obtain ⟨c, more, rfl, hc, hdot⟩ := hrest
    rw [Expr.renderItems, Expr.itemTokens, List.cons_append]
    exact reads_newline (reads_margin depth
      (item.reads_render depth h.1 (item.follows_cons hc hdot)))
  | item :: next :: more, depth, rest, h, hrest => by
    rw [Expr.renderItems, Expr.itemTokens]
    · simp only [List.cons_append, List.append_assoc]
      refine reads_newline (reads_margin depth ?_)
      refine (item.reads_render depth h.1 (item.follows_cons (by decide) (by decide))).append ?_
      refine reads_sign .comma (fun _ _ => rfl) ?_
      exact Expr.reads_renderItems (next :: more) depth h.2 hrest
    all_goals simp
end

mutual
theorem Stmt.reads_render : ∀ (s : Stmt) (depth : Nat) {rest : List Char}, s.Regular →
    Reads (s.render depth) s.tokens rest
  | .declare word value, depth, rest, h => by
    obtain ⟨hword, hvalue⟩ := h
    have hvar : "var ".toList = "var".toList ++ [' '] := by decide
    have heq : " = ".toList = [' ', '=', ' '] := by decide
    rw [Stmt.render, Stmt.tokens, hvar, heq]
    simp only [List.append_assoc, List.cons_append, List.nil_append]
    refine reads_margin depth (reads_keyword (by decide) ?_)
    refine reads_keyword (isWord_of_isName hword) (reads_sign .equals ?_ (reads_space ?_))
    · intro c hc
      rw [List.cons_append, List.head?_cons, Option.mem_some_iff] at hc
      subst hc
      decide
    · exact (value.reads_render depth hvalue (value.follows_cons (by decide) (by decide))).append
        (reads_sign .semicolon (fun _ _ => rfl) (reads_newline reads_nil))
  | .perform value, depth, rest, h => by
    rw [Stmt.render, Stmt.tokens, List.append_assoc]
    exact reads_margin depth
      ((value.reads_render depth h (value.follows_cons (by decide) (by decide))).append
        (reads_sign .semicolon (fun _ _ => rfl) (reads_newline reads_nil)))
  | .attempt body handler, depth, rest, h => by
    obtain ⟨hbody, hhandler⟩ := h
    have htry : "try \x7b\n".toList = "try".toList ++ [' ', Bracket.left .curly, '\n'] := by decide
    have hcatch : "\x7d catch (e) \x7b\n".toList =
        Bracket.right .curly :: ' ' :: ("catch".toList ++ ' ' :: Bracket.left .round
          :: ("e".toList ++ [Bracket.right .round, ' ', Bracket.left .curly, '\n'])) := by
      decide
    have hend : "\x7d\n".toList = [Bracket.right .curly, '\n'] := by decide
    -- the fixed parts of the spelling are words, brackets and gaps like any others
    rw [Stmt.render, Stmt.tokens, htry, hcatch, hend]
    simp only [List.append_assoc, List.cons_append, List.nil_append]
    refine reads_margin depth (reads_keyword (by decide) (reads_left .curly (reads_newline ?_)))
    refine (Stmt.reads_renderAll body (depth + 1) hbody).append (reads_margin depth ?_)
    refine reads_right .curly (reads_space (reads_keyword (by decide) (reads_left .round ?_)))
    refine reads_word_append (by decide) (stops_cons (by decide)) ?_
    refine reads_right .round (reads_space (reads_left .curly (reads_newline ?_)))
    refine (Stmt.reads_renderAll handler (depth + 1) hhandler).append (reads_margin depth ?_)
    exact reads_right .curly (reads_newline reads_nil)

theorem Stmt.reads_renderAll : ∀ (ss : List Stmt) (depth : Nat) {rest : List Char},
    Stmt.AllRegular ss → Reads (Stmt.renderAll depth ss) (Stmt.allTokens ss) rest
  | [], _, _, _ => reads_nil
  | s :: more, depth, _, h =>
    (s.reads_render depth h.1).append (Stmt.reads_renderAll more depth h.2)
end

theorem Piece.reads_render (piece : Piece) (h : piece.Regular) :
    Reads piece.render piece.tokens rest := by
  cases piece with
  | blank => exact reads_newline reads_nil
  | note text =>
    have hslashes : "// ".toList = ['/', '/', ' '] := by decide
    have hbody : ∀ c ∈ ' ' :: text.toList, isLineEnd c = false := by
      intro c hc
      rcases List.mem_cons.mp hc with rfl | hc
      · decide
      · exact h c hc
    have hcomment : " " ++ text = String.ofList (' ' :: text.toList) := by
      apply String.toList_injective
      simp
    rw [Piece.render, Piece.tokens, hslashes, hcomment]
    simp only [List.append_assoc, List.cons_append, List.nil_append]
    exact reads_margin 1 (reads_lineComment hbody)
  | statement s => exact s.reads_render 1 h

theorem reads_pieces {body : List Piece} (h : ∀ piece ∈ body, piece.Regular) :
    Reads (body.flatMap Piece.render) (body.flatMap Piece.tokens) rest := by
  induction body with
  | nil => exact reads_nil
  | cons piece body ih =>
    rw [List.flatMap_cons, List.flatMap_cons]
    exact (piece.reads_render (h piece (List.mem_cons_self ..))).append
      (ih fun p hp => h p (List.mem_cons_of_mem _ hp))

theorem slash_notMem_bannerBody {banner : List String} (h : ∀ line ∈ banner, '/' ∉ line.toList) :
    '/' ∉ bannerBody banner := by
  simpa [bannerBody] using h

theorem reads_banner {banner : List String} (h : ∀ line ∈ banner, '/' ∉ line.toList) :
    Reads (renderBanner banner) [.comment (String.ofList (bannerBody banner))] rest := by
  have hopen : "/**\n".toList = ['/', '*', '*', '\n'] := by decide
  have hclose : " */\n".toList = [' ', '*', '/', '\n'] := by decide
  have hrender : renderBanner banner =
      ('/' :: '*' :: (bannerBody banner ++ ['*', '/'])) ++ ['\n'] := by
    simp [renderBanner, bannerBody, hopen, hclose]
  rw [hrender]
  exact (reads_blockComment (slash_notMem_bannerBody h)).append (reads_newline reads_nil)

/-- **Scanning the text of a regular script yields its tokens.** -/
theorem lex_text {script : Script} (h : Regular script) :
    lex script.text = some script.tokens := by
  have hfunction : "function ".toList = "function".toList ++ [' '] := by decide
  have hhead : "() \x7b\n".toList =
      [Bracket.left .round, Bracket.right .round, ' ', Bracket.left .curly, '\n'] := by
    decide
  have hend : "\x7d\n".toList = [Bracket.right .curly, '\n'] := by decide
  have hreads : Reads script.render script.tokens [] := by
    rw [render, tokens, hfunction, hhead, hend]
    simp only [List.append_assoc, List.cons_append, List.nil_append]
    refine (reads_banner h.banner).append (reads_keyword (by decide) ?_)
    refine reads_word_append (isWord_of_isName h.entry) (stops_cons (by decide)) ?_
    refine reads_left .round (reads_right .round (reads_space (reads_left .curly ?_)))
    refine reads_newline ((reads_pieces h.body).append ?_)
    exact reads_right .curly (reads_newline reads_nil)
  rw [Reads, List.append_nil] at hreads
  rw [lex, text, String.toList_ofList, hreads]
  simp [scan, Mode.finish]

end Script
end Formwork
