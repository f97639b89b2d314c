import Formwork.Proofs.Script.Spelling

/-!
# The syntax of scripts

A parser for the part of the language that scripts use: a text is one function without parameters, its statements are
declarations, expressions and `try`, and `+` is left associative and binds weaker than member access and calls.

`Reading` is the state of the parser with its stack of open constructs (`Frame`), and `Reading.next` its step on one
token, without lookahead.  What scripts do not contain is refused: parenthesized expressions, assignments, other
operators and statements, a missing semicolon.

Comments are skipped.  The main result is `parse_text`: the text of a regular script is parsed as its own statements.
-/
namespace Formwork
namespace Script

/-- A function without parameters. -/
structure Program where
  /-- Its name. -/
  entry : String
  /-- Its statements. -/
  body : List Stmt

/-- The construct that a block belongs to. -/
inductive Block
  | function (entry : String)
  /-- The block of a `try`. -/
  | attempt
  /-- The block of a `catch`, with the block of its `try`. -/
  | handler (body : List Stmt)

/-- An open construct. -/
inductive Frame
  /-- A sum, before its right operand. -/
  | sum (first : Expr)
  /-- The arguments of a call, or the items of an array, with those already parsed. -/
  | items (callee : Option Expr) (done : List Expr)
  /-- An expression statement. -/
  | perform
  /-- A declaration, before its value. -/
  | declare (word : String)
  /-- A block, with the statements already parsed. -/
  | block (kind : Block) (done : List Stmt)

/-- The state of the parser, with the open constructs, the innermost first. -/
inductive Reading
  /-- These tokens are expected. -/
  | expecting (token : Token) (more : List Token) (next : Reading)
  /-- The name of the function is expected. -/
  | entryName
  /-- A statement or the end of the block is expected. -/
  | statement (stack : List Frame)
  /-- The name of a variable is expected. -/
  | variableName (stack : List Frame)
  /-- An operand is expected. -/
  | operand (stack : List Frame)
  /-- An operand or the closing bracket is expected. -/
  | firstItem (stack : List Frame)
  /-- An operand has been parsed, which a member access or a call may extend. -/
  | complete (e : Expr) (stack : List Frame)
  /-- The name of a member is expected. -/
  | memberName (object : Expr) (stack : List Frame)
  | finished (program : Program)

namespace Reading

/-- The sum that an operand completes, and the constructs around it. -/
def settle (e : Expr) : List Frame → Expr × List Frame
  | .sum first :: stack => (.join first e, stack)
  | stack => (e, stack)

/-- One more argument or item. -/
def addItem (e : Expr) : List Frame → Option (List Frame)
  | .items callee done :: stack => some (.items callee (done ++ [e]) :: stack)
  | _ => none

/-- The operand that a closing bracket completes. -/
def close : Bracket → List Frame → Option Reading
  | .round, .items (some callee) done :: stack => some (complete (.call callee done) stack)
  | .square, .items none done :: stack => some (complete (.array done) stack)
  | _, _ => none

/-- One more statement. -/
def addStatement (s : Stmt) : List Frame → Option Reading
  | .block kind done :: stack => some (statement (.block kind (done ++ [s]) :: stack))
  | _ => none

/-- The statement that a semicolon completes. -/
def endStatement (e : Expr) : List Frame → Option Reading
  | .perform :: stack => addStatement (.perform e) stack
  | .declare word :: stack => addStatement (.declare word e) stack
  | _ => none

/-- The state after a block. -/
def endBlock : List Frame → Option Reading
  | [.block (.function entry) done] => some (finished ⟨entry, done⟩)
  | .block .attempt done :: stack =>
    some (expecting (.word "catch") [.opens .round, .word "e", .closes .round, .opens .curly]
      (statement (.block (.handler done) [] :: stack)))
  | .block (.handler body) done :: stack => addStatement (.attempt body done) stack
  | _ => none

/-- A token at the start of an operand. -/
def nextOperand (stack : List Frame) : Token → Option Reading
  | .text value => some (complete (.literal value) stack)
  | .number value => some (complete (.number value) stack)
  | .word word =>
    if word = "true" then some (complete (.truth true) stack)
    else if word = "false" then some (complete (.truth false) stack)
    else if isName word then some (complete (.name word) stack)
    else none
  | .opens .square => some (firstItem (.items none [] :: stack))
  | _ => none

/-- A token behind a complete expression. -/
def nextBehind (e : Expr) (stack : List Frame) : Token → Option Reading
  | .sign .plus => some (operand (.sum e :: stack))
  | .sign .comma => (addItem e stack).map operand
  | .sign .semicolon => endStatement e stack
  | .closes bracket => (addItem e stack).bind (close bracket)
  | _ => none

/-- A token other than a comment. -/
def next : Reading → Token → Option Reading
  | expecting token more next, t =>
    if t = token then
      some (match more with
        | [] => next
        | token :: more => expecting token more next)
    else none
  | entryName, .word word =>
    if isName word then
      some (expecting (.opens .round) [.closes .round, .opens .curly]
        (statement [.block (.function word) []]))
    else none
  | statement stack, t =>
    if t = .word "var" then some (variableName stack)
    else if t = .word "try" then
      some (expecting (.opens .curly) [] (statement (.block .attempt [] :: stack)))
    else if t = .closes .curly then endBlock stack
    else nextOperand (.perform :: stack) t
  | variableName stack, .word word =>
    if isName word then some (expecting (.sign .equals) [] (operand (.declare word :: stack)))
    else none
  | operand stack, t => nextOperand stack t
  | firstItem stack, .closes bracket => close bracket stack
  | firstItem stack, t => nextOperand stack t
  | complete e stack, .sign .dot => some (memberName e stack)
  | complete e stack, .opens .round => some (firstItem (.items (some e) [] :: stack))
  | complete e stack, t => nextBehind (settle e stack).1 (settle e stack).2 t
  | memberName object stack, .word word => some (complete (.member object word) stack)
  | _, _ => none

/-- One token. -/
def step (reading : Reading) : Token → Option Reading
  | .comment _ => some reading
  | token => reading.next token

/-- A list of tokens. -/
def run : Reading → List Token → Option Reading
  | reading, [] => some reading
  | reading, token :: rest => (reading.step token).bind (run · rest)

/-- The initial state. -/
def start : Reading := expecting (.word "function") [] entryName

end Reading

/-- The function that a text denotes. -/
def parse (text : String) : Option Program :=
  match (lex text).bind (Reading.start.run) with
  | some (.finished program) => some program
  | _ => none

/-! ### Parsed statements -/

mutual
/-- An expression as it is parsed: the text of a separator is a string literal like any other. -/
def Expr.plain : Expr → Expr
  | .literal text => .literal text
  | .colon => .literal ": "
  | .number value => .number value
  | .truth value => .truth value
  | .name word => .name word
  | .member object word => .member object.plain word
  | .call callee arguments => .call callee.plain (Expr.plainAll arguments)
  | .array items => .array (Expr.plainAll items)
  | .join first second => .join first.plain second.plain

/-- Expressions as they are parsed. -/
def Expr.plainAll : List Expr → List Expr
  | [] => []
  | e :: rest => e.plain :: Expr.plainAll rest
end

mutual
/-- A statement as it is parsed. -/
def Stmt.plain : Stmt → Stmt
  | .declare word value => .declare word value.plain
  | .perform value => .perform value.plain
  | .attempt body handler => .attempt (Stmt.plainAll body) (Stmt.plainAll handler)

/-- Statements as they are parsed. -/
def Stmt.plainAll : List Stmt → List Stmt
  | [] => []
  | s :: rest => s.plain :: Stmt.plainAll rest
end

/-- The statements of a piece. -/
def Piece.statements : Piece → List Stmt
  | .blank | .note _ => []
  | .statement s => [s.plain]

/-- The function of a script. -/
def program (script : Script) : Program := ⟨script.entry, script.body.flatMap Piece.statements⟩

/-! ### Steps of the parser -/

namespace Reading

variable {reading : Reading} {ts us : List Token} {stack : List Frame}

theorem run_append (reading : Reading) (ts us : List Token) :
    reading.run (ts ++ us) = (reading.run ts).bind (run · us) := by
  induction ts generalizing reading with
  | nil => rfl
  | cons token ts ih =>
    rw [List.cons_append, run, run, Option.bind_assoc]
    exact congrArg _ (funext ih)

theorem run_append_of_eq {next : Reading} (h : reading.run ts = some next) :
    reading.run (ts ++ us) = next.run us := by
  rw [run_append, h, Option.bind_some]

theorem run_cons_of_eq {token : Token} {next : Reading} (h : reading.step token = some next) :
    reading.run (token :: us) = next.run us := by
  rw [run, h, Option.bind_some]

theorem run_singleton (reading : Reading) (token : Token) :
    reading.run [token] = reading.step token := Option.bind_fun_some _

/-- A token that starts an operand. -/
def beginsOperand : Token → Bool
  | .text _ | .number _ | .opens .square => true
  | .word word => word ≠ "var" && word ≠ "try"
  | _ => false

/-- An operand is expected inside these constructs. -/
def Takes (reading : Reading) (stack : List Frame) : Prop :=
  ∀ t, beginsOperand t = true → reading.step t = nextOperand stack t

theorem takes_operand (stack : List Frame) : (operand stack).Takes stack := by
  intro t ht
  cases t with
  | comment _ => cases ht
  | _ => rfl

theorem takes_firstItem (stack : List Frame) : (firstItem stack).Takes stack := by
  intro t ht
  cases t with
  | comment _ => cases ht
  | closes _ => cases ht
  | _ => rfl

theorem takes_statement (stack : List Frame) :
    (statement stack).Takes (.perform :: stack) := by
  intro t ht
  have hstep : t ≠ .word "var" ∧ t ≠ .word "try" ∧ t ≠ .closes .curly := by
    refine ⟨?_, ?_, ?_⟩ <;> (rintro rfl; exact absurd ht (by decide))
  cases t with
  | comment _ => cases ht
  | _ => simp only [step, next, if_neg hstep.1, if_neg hstep.2.1, if_neg hstep.2.2]

/-- The innermost construct is no sum. -/
def Apart : List Frame → Prop
  | .sum _ :: _ => False
  | _ => True

end Reading

/-- An expression that is a sum. -/
def Expr.isSum : Expr → Bool
  | .join .. => true
  | _ => false

theorem Expr.isSum_of_isChain {e : Expr} (h : e.isChain = true) : e.isSum = false := by
  cases e with
  | join _ _ => cases h
  | _ => rfl

/-- The state behind an expression: a sum is still open before its right operand is complete. -/
def Expr.behind (stack : List Frame) : Expr → Reading
  | .join first second => .complete second.plain (.sum first.plain :: stack)
  | e => .complete e.plain stack

theorem Expr.behind_of_not_isSum {e : Expr} (h : e.isSum = false) (stack : List Frame) :
    e.behind stack = .complete e.plain stack := by
  cases e with
  | join _ _ => cases h
  | _ => rfl

theorem Reading.settle_of_apart {stack : List Frame} (h : Apart stack) (e : Expr) :
    settle e stack = (e, stack) := by
  unfold settle
  split
  · exact h.elim
  · rfl

/-- A token that ends an expression completes its sum first. -/
theorem Expr.step_behind (e : Expr) {stack : List Frame} (hstack : Reading.Apart stack) {t : Token}
    (hdot : t ≠ .sign .dot) (hround : t ≠ .opens .round) (hcomment : ∀ body, t ≠ .comment body) :
    (e.behind stack).step t = Reading.nextBehind e.plain stack t := by
  have hnext : ∀ (e : Expr) (stack : List Frame),
      (Reading.complete e stack).step t =
        Reading.nextBehind (Reading.settle e stack).1 (Reading.settle e stack).2 t := by
    intro e stack
    cases t with
    | comment body => exact absurd rfl (hcomment body)
    | sign s => cases s <;> first | rfl | exact absurd rfl hdot
    | opens b => cases b <;> first | rfl | exact absurd rfl hround
    | _ => rfl
  cases e with
  | join first second => exact hnext ..
  | _ => rw [Expr.behind_of_not_isSum rfl, hnext, Reading.settle_of_apart hstack]

/-! ### Expressions -/

theorem Expr.argumentTokens_eq (arguments : List Expr) :
    Expr.argumentTokens arguments = Expr.itemTokens arguments ++ [.closes .round] := by
  induction arguments with
  | nil => rfl
  | cons argument rest ih =>
    cases rest with
    | nil => rfl
    | cons next more =>
      rw [Expr.argumentTokens, Expr.itemTokens, ih]
      · simp
      all_goals simp

section
open Reading

variable {reading : Reading} {stack : List Frame} {rest : List Token}

mutual
/-- A regular expression is parsed as itself where an operand is expected. -/
theorem Expr.run_tokens : ∀ (e : Expr) {reading : Reading} {stack : List Frame},
    reading.Takes stack → e.Regular → (e.isSum = true → Apart stack) →
    reading.run e.tokens = some (e.behind stack)
  | .literal _, _, _, hr, _, _ | .colon, _, _, hr, _, _ | .number _, _, _, hr, _, _
  | .truth true, _, _, hr, _, _ | .truth false, _, _, hr, _, _ => run_cons_of_eq (hr _ rfl)
  | .name word, reading, stack, hr, h, _ => by
    -- a name is neither a truth value nor one of the words that begin a statement
    have hfree := notMem_reserved_of_isName h
    have hne : ∀ r ∈ reserved, word ≠ r := fun r hr hword => hfree (hword ▸ hr)
    have hbegins : beginsOperand (.word word) = true := by
      simp [beginsOperand, hne "var" (by decide), hne "try" (by decide)]
    have hname : isName word = true := h
    have hstep : nextOperand stack (.word word) = some (.complete (.name word) stack) := by
      rw [nextOperand, if_neg (hne "true" (by decide)), if_neg (hne "false" (by decide)),
        if_pos hname]
    exact run_cons_of_eq ((hr _ hbegins).trans hstep)
  | .member object word, reading, stack, hr, h, _ => by
    obtain ⟨hobject, hchain, -⟩ := h
    have hsum := Expr.isSum_of_isChain hchain
    have hread := object.run_tokens hr hobject (by simp [hsum])
    rw [Expr.behind_of_not_isSum hsum] at hread
    rw [Expr.tokens, run_append_of_eq hread]
    rfl
  | .call callee arguments, reading, stack, hr, h, _ => by
    obtain ⟨hcallee, hchain, harguments⟩ := h
    have hsum := Expr.isSum_of_isChain hchain
    have hread := callee.run_tokens hr hcallee (by simp [hsum])
    rw [Expr.behind_of_not_isSum hsum] at hread
    rw [Expr.tokens, run_append_of_eq hread, run_cons_of_eq rfl, Expr.argumentTokens_eq]
    exact Expr.run_items arguments harguments (takes_firstItem _) fun _ => rfl
  | .array items, reading, stack, hr, h, _ => by
    rw [Expr.tokens, run_cons_of_eq (hr _ rfl)]
    exact Expr.run_items items h (takes_firstItem _) fun _ => rfl
  | .join first second, reading, stack, hr, h, hstack => by
    obtain ⟨hfirst, hsecond, hchain⟩ := h
    -- the plus ends the sum on its left, and the new sum waits for the end of its second side
    have hapart := hstack rfl
    have hsum := Expr.isSum_of_isChain hchain
    have hplus : (first.behind stack).step (.sign .plus) =
        some (.operand (.sum first.plain :: stack)) :=
      first.step_behind hapart (by simp) (by simp) (by simp)
    rw [Expr.tokens, run_append_of_eq (first.run_tokens hr hfirst fun _ => hapart),
      run_cons_of_eq hplus, second.run_tokens (takes_operand _) hsecond (by simp [hsum]),
      Expr.behind_of_not_isSum hsum]
    rfl

/-- Items are parsed in order, up to the closing bracket. -/
theorem Expr.run_items : ∀ (items : List Expr) {reading : Reading} {callee : Option Expr}
    {done : List Expr} {stack : List Frame} {bracket : Bracket}, Expr.AllRegular items →
    reading.Takes (.items callee done :: stack) →
    (items = [] → reading.step (.closes bracket) = close bracket (.items callee done :: stack)) →
    reading.run (Expr.itemTokens items ++ [.closes bracket]) =
      close bracket (.items callee (done ++ Expr.plainAll items) :: stack)
  | [], _, _, done, _, _, _, _, hempty => by
    rw [Expr.itemTokens, List.nil_append, Expr.plainAll, List.append_nil, run_singleton, hempty rfl]
  | [item], _, callee, done, stack, bracket, h, hr, _ => by
    have hapart : Apart (.items callee done :: stack) := trivial
    have hread := item.run_tokens hr h.1 fun _ => hapart
    have hclose : (item.behind (.items callee done :: stack)).step (.closes bracket) =
        close bracket (.items callee (done ++ [item.plain]) :: stack) :=
      item.step_behind hapart (by simp) (by simp) (by simp)
    rw [Expr.itemTokens, run_append_of_eq hread, run_singleton, hclose]
    rfl
  | item :: next :: more, _, callee, done, stack, bracket, h, hr, _ => by
    have hapart : Apart (.items callee done :: stack) := trivial
    have hread := item.run_tokens hr h.1 fun _ => hapart
    have hcomma : (item.behind (.items callee done :: stack)).step (.sign .comma) =
        some (.operand (.items callee (done ++ [item.plain]) :: stack)) :=
      item.step_behind hapart (by simp) (by simp) (by simp)
    have hmore : (Reading.operand (.items callee (done ++ [item.plain]) :: stack)).run
        (Expr.itemTokens (next :: more) ++ [.closes bracket]) = _ :=
      Expr.run_items (next :: more) h.2 (takes_operand _) (by simp)
    rw [Expr.itemTokens, List.append_assoc, run_append_of_eq hread, List.cons_append,
      run_cons_of_eq hcomma, hmore]
    · rw [List.append_assoc]
      rfl
    · simp
end

end

/-! ### Statements -/

section
open Reading

variable {stack : List Frame} {kind : Block} {done : List Stmt}

mutual
/-- A regular statement is parsed as itself behind those in front of it. -/
theorem Stmt.run_tokens : ∀ (s : Stmt) {stack : List Frame} {kind : Block} {done : List Stmt},
    s.Regular → (statement (.block kind done :: stack)).run s.tokens =
      some (statement (.block kind (done ++ [s.plain]) :: stack))
  | .declare word value, stack, kind, done, h => by
    obtain ⟨hword, hvalue⟩ := h
    have hapart : Apart (.declare word :: .block kind done :: stack) := trivial
    have hname : (variableName (.block kind done :: stack)).step (.word word) =
        some (expecting (.sign .equals) []
          (operand (.declare word :: .block kind done :: stack))) :=
      if_pos hword
    have hend :
        (value.behind (.declare word :: .block kind done :: stack)).step (.sign .semicolon) =
        some (statement (.block kind (done ++ [.declare word value.plain]) :: stack)) :=
      value.step_behind hapart (by simp) (by simp) (by simp)
    rw [Stmt.tokens, run_cons_of_eq rfl, run_cons_of_eq hname, run_cons_of_eq rfl,
      run_append_of_eq (value.run_tokens (takes_operand _) hvalue fun _ => hapart), run_singleton,
      hend]
    rfl
  | .perform value, stack, kind, done, h => by
    have hapart : Apart (.perform :: .block kind done :: stack) := trivial
    have hend : (value.behind (.perform :: .block kind done :: stack)).step (.sign .semicolon) =
        some (statement (.block kind (done ++ [.perform value.plain]) :: stack)) :=
      value.step_behind hapart (by simp) (by simp) (by simp)
    rw [Stmt.tokens, run_append_of_eq (value.run_tokens (takes_statement _) h fun _ => hapart),
      run_singleton, hend]
    rfl
  | .attempt body handler, stack, kind, done, h => by
    obtain ⟨hbody, hhandler⟩ := h
    rw [Stmt.tokens, run_cons_of_eq rfl, run_cons_of_eq rfl,
      run_append_of_eq (Stmt.run_allTokens body hbody)]
    -- the brace, then the five tokens between the two blocks
    rw [run_cons_of_eq rfl, run_cons_of_eq rfl, run_cons_of_eq rfl, run_cons_of_eq rfl,
      run_cons_of_eq rfl, run_cons_of_eq rfl,
      run_append_of_eq (Stmt.run_allTokens handler hhandler), run_singleton]
    rfl

/-- Regular statements are parsed as themselves. -/
theorem Stmt.run_allTokens : ∀ (ss : List Stmt) {stack : List Frame} {kind : Block}
    {done : List Stmt}, Stmt.AllRegular ss →
    (statement (.block kind done :: stack)).run (Stmt.allTokens ss) =
      some (statement (.block kind (done ++ Stmt.plainAll ss) :: stack))
  | [], _, _, done, _ => by
    rw [Stmt.plainAll, List.append_nil]
    rfl
  | s :: more, _, _, done, h => by
    rw [Stmt.allTokens, run_append_of_eq (s.run_tokens h.1), Stmt.run_allTokens more h.2,
      Stmt.plainAll, List.append_assoc]
    rfl
end

theorem Piece.run_tokens (piece : Piece) (h : piece.Regular) :
    (Reading.statement (.block kind done :: stack)).run piece.tokens =
      some (Reading.statement (.block kind (done ++ piece.statements) :: stack)) := by
  cases piece with
  | blank | note _ =>
    show _ = some (Reading.statement (.block kind (done ++ []) :: stack))
    rw [List.append_nil]
    rfl
  | statement s => exact s.run_tokens h

theorem run_pieces {body : List Piece} (h : ∀ piece ∈ body, piece.Regular) (done : List Stmt) :
    (statement (.block kind done :: stack)).run (body.flatMap Piece.tokens) =
      some (statement (.block kind (done ++ body.flatMap Piece.statements) :: stack)) := by
  induction body generalizing done with
  | nil =>
    rw [List.flatMap_nil, List.flatMap_nil, List.append_nil]
    rfl
  | cons piece body ih =>
    rw [List.flatMap_cons, List.flatMap_cons,
      run_append_of_eq (piece.run_tokens (h piece (List.mem_cons_self ..))),
      ih (fun p hp => h p (List.mem_cons_of_mem _ hp)), List.append_assoc]

theorem run_script {script : Script} (h : Regular script) :
    start.run script.tokens = some (.finished script.program) := by
  have hentry : entryName.step (.word script.entry) =
      some (expecting (.opens .round) [.closes .round, .opens .curly]
        (statement [.block (.function script.entry) []])) :=
    if_pos h.entry
  rw [tokens, run_cons_of_eq rfl, run_cons_of_eq rfl, run_cons_of_eq hentry]
  -- the brackets in front of the body
  rw [run_cons_of_eq rfl, run_cons_of_eq rfl, run_cons_of_eq rfl]
  rw [run_append_of_eq (run_pieces h.body []), run_singleton]
  rfl

end

/-- **The text of a regular script is parsed as its function.** -/
theorem parse_text {script : Script} (h : Regular script) :
    parse script.text = some script.program := by
  rw [parse, lex_text h, Option.bind_some, run_script h]

end Script
end Formwork
