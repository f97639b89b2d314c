import Formwork.Proofs.Script.Regularity
import Mathlib.Data.List.Forall2

/-!
# Confinement of user text

User text cannot change the structure of a script.  The text of every script is tokenized without an open string or
comment, its brackets are balanced, and two definitions of the same shape have scripts that differ only in comments
and in the values of string literals.

The shape of a definition (`Definition.SameShape`) is what is not user text: the numbers of sections and questions, the
known kinds, the flags, the points, which options are correct, and which descriptions and image URLs are present.
An unknown kind is user text, and quiz settings are emitted in comments only, so neither belongs to the shape.

Balance is proved from two judgments on token lists: `Nested` lists leave the open brackets as they are, and
`Closes b` lists close one bracket more than they open.
-/
namespace Formwork
namespace Script

/-! ### Brackets -/

/-- The open brackets after a token, the innermost first; none if it closes a bracket that is not the innermost
one. -/
def Token.nest : Token → List Bracket → Option (List Bracket)
  | .opens b, stack => some (b :: stack)
  | .closes b, top :: stack => if top = b then some stack else none
  | .closes _, [] => none
  | _, stack => some stack

/-- The open brackets after these tokens. -/
def nest : List Token → List Bracket → Option (List Bracket)
  | [], stack => some stack
  | token :: rest, stack => (token.nest stack).bind (nest rest)

/-- The brackets are balanced. -/
def Balanced (ts : List Token) : Prop := nest ts [] = some []

instance (ts : List Token) : Decidable (Balanced ts) :=
  inferInstanceAs (Decidable (nest ts [] = some []))

/-- These tokens close what they open. -/
def Nested (ts : List Token) : Prop := ∀ stack, nest ts stack = some stack

/-- These tokens close one bracket more than they open. -/
def Closes (b : Bracket) (ts : List Token) : Prop := ∀ stack, nest ts (b :: stack) = some stack

variable {ts us : List Token} {b : Bracket}

theorem nest_append (ts us : List Token) (stack : List Bracket) :
    nest (ts ++ us) stack = (nest ts stack).bind (nest us) := by
  induction ts generalizing stack with
  | nil => rfl
  | cons token ts ih =>
    rw [List.cons_append, nest, nest, Option.bind_assoc]
    exact congrArg _ (funext ih)

theorem nested_nil : Nested [] := fun _ => rfl

theorem Nested.append (ht : Nested ts) (hu : Nested us) : Nested (ts ++ us) := by
  intro stack
  rw [nest_append, ht]
  exact hu stack

/-- A token that is no bracket changes nothing. -/
theorem Nested.cons {token : Token} (htoken : ∀ stack, token.nest stack = some stack)
    (h : Nested ts) : Nested (token :: ts) := by
  intro stack
  rw [nest, htoken]
  exact h stack

theorem Nested.opens (h : Closes b ts) : Nested (.opens b :: ts) := h

theorem Closes.append (ht : Nested ts) (hu : Closes b us) : Closes b (ts ++ us) := by
  intro stack
  rw [nest_append, ht]
  exact hu stack

theorem Nested.closes (h : Nested ts) : Closes b (.closes b :: ts) := by
  intro stack
  rw [nest, Token.nest, if_pos rfl]
  exact h stack

mutual
theorem Expr.nested_tokens : ∀ e : Expr, Nested e.tokens
  | .literal _ | .colon | .number _ | .name _ => nested_nil.cons fun _ => rfl
  | .truth true | .truth false => nested_nil.cons fun _ => rfl
  | .member object _ =>
    object.nested_tokens.append ((nested_nil.cons fun _ => rfl).cons fun _ => rfl)
  | .call callee arguments =>
    callee.nested_tokens.append (Nested.opens (Expr.closes_argumentTokens arguments))
  | .array items => by
    rw [Expr.tokens]
    exact Nested.opens (Closes.append (Expr.nested_itemTokens items) nested_nil.closes)
  | .join first second => by
    rw [Expr.tokens]
    exact first.nested_tokens.append (second.nested_tokens.cons fun _ => rfl)

theorem Expr.closes_argumentTokens : ∀ arguments : List Expr,
    Closes .round (Expr.argumentTokens arguments)
  | [] => nested_nil.closes
  | [argument] => Closes.append argument.nested_tokens nested_nil.closes
  | argument :: next :: more => by
    have hcomma : Nested [.sign .comma] := nested_nil.cons fun _ => rfl
    rw [Expr.argumentTokens]
    · exact Closes.append argument.nested_tokens
        (Closes.append hcomma (Expr.closes_argumentTokens (next :: more)))
    · simp

theorem Expr.nested_itemTokens : ∀ items : List Expr, Nested (Expr.itemTokens items)
  | [] => nested_nil
  | [item] => item.nested_tokens
  | item :: next :: more => by
    rw [Expr.itemTokens]
    · exact item.nested_tokens.append
        ((Expr.nested_itemTokens (next :: more)).cons fun _ => rfl)
    · simp
end

mutual
theorem Stmt.nested_tokens : ∀ s : Stmt, Nested s.tokens
  | .declare _ value => by
    have hend : Nested [.sign .semicolon] := nested_nil.cons fun _ => rfl
    exact (((value.nested_tokens.append hend).cons fun _ => rfl).cons fun _ => rfl).cons
      fun _ => rfl
  | .perform value => value.nested_tokens.append (nested_nil.cons fun _ => rfl)
  | .attempt body handler => by
    have hhandler : Nested (.opens .curly :: (Stmt.allTokens handler ++ [.closes .curly])) :=
      Nested.opens (Closes.append (Stmt.nested_allTokens handler) nested_nil.closes)
    have herror : Nested [.opens .round, .word "e", .closes .round] := fun _ => rfl
    have hcatch : Nested (.word "catch" :: ([.opens .round, .word "e", .closes .round]
        ++ .opens .curly :: (Stmt.allTokens handler ++ [.closes .curly]))) :=
      (herror.append hhandler).cons fun _ => rfl
    exact (Nested.opens (Closes.append (Stmt.nested_allTokens body) hcatch.closes)).cons
      fun _ => rfl

theorem Stmt.nested_allTokens : ∀ ss : List Stmt, Nested (Stmt.allTokens ss)
  | [] => nested_nil
  | s :: more => s.nested_tokens.append (Stmt.nested_allTokens more)
end

theorem Piece.nested_tokens (piece : Piece) : Nested piece.tokens := by
  cases piece with
  | blank => exact nested_nil
  | note text => exact nested_nil.cons fun _ => rfl
  | statement s => exact s.nested_tokens

theorem nested_pieces (body : List Piece) : Nested (body.flatMap Piece.tokens) := by
  induction body with
  | nil => exact nested_nil
  | cons piece body ih =>
    rw [List.flatMap_cons]
    exact piece.nested_tokens.append ih

/-- The brackets of every script are balanced. -/
theorem balanced_tokens (script : Script) : Balanced script.tokens := by
  have hbody : Nested (.opens .curly :: (script.body.flatMap Piece.tokens ++ [.closes .curly])) :=
    Nested.opens (Closes.append (nested_pieces script.body) nested_nil.closes)
  exact hbody []

/-! ### Shapes -/

end Script

/-- The known kind, if it is one. -/
def Kind.known? : Kind → Option KnownKind
  | known kind => some kind
  | other .. => none

/-- Which options are correct, in order. -/
def Question.marks (q : Question) : List Bool :=
  q.options.map fun option => q.correctAnswers.contains option

/-- Two questions that differ only in their texts. -/
structure Question.SameShape (q r : Question) : Prop where
  kind : q.kind.known? = r.kind.known?
  required : q.required = r.required
  points : q.points = r.points
  /-- The numbers of options are equal, and the correct ones are at the same positions. -/
  marks : q.marks = r.marks
  image : (Text.nonempty? q.imageUrl).isSome = (Text.nonempty? r.imageUrl).isSome

/-- Two sections that differ only in their texts. -/
structure FormSection.SameShape (s t : FormSection) : Prop where
  description : (Text.nonempty? s.description).isSome = (Text.nonempty? t.description).isSome
  questions : List.Forall₂ Question.SameShape s.questions t.questions

/-- Two definitions that differ only in their texts and in their quiz settings. -/
structure Definition.SameShape (d e : Definition) : Prop where
  description : (Text.nonempty? d.description).isSome = (Text.nonempty? e.description).isSome
  isQuiz : d.isQuiz = e.isQuiz
  sections : List.Forall₂ FormSection.SameShape d.sections e.sections

namespace Script

/-- A token without its text; a comment has none. -/
def Token.shape : Token → Option Token
  | .comment _ => none
  | .text _ => some (.text "")
  | token => some token

/-- The tokens without comments and without the values of string literals. -/
def skeleton (ts : List Token) : List Token := ts.filterMap Token.shape

theorem skeleton_append {ts us ts' us' : List Token} (h : skeleton ts = skeleton us)
    (h' : skeleton ts' = skeleton us') : skeleton (ts ++ ts') = skeleton (us ++ us') := by
  unfold skeleton at *
  rw [List.filterMap_append, List.filterMap_append, h, h']

theorem skeleton_cons (token : Token) {ts us : List Token} (h : skeleton ts = skeleton us) :
    skeleton (token :: ts) = skeleton (token :: us) :=
  skeleton_append (rfl : skeleton [token] = _) h

/-- Pieces that differ only in comments and in the values of string literals. -/
def Alike (ps qs : List Piece) : Prop :=
  skeleton (ps.flatMap Piece.tokens) = skeleton (qs.flatMap Piece.tokens)

variable {ps qs ps' qs' : List Piece}

theorem Alike.append (h : Alike ps qs) (h' : Alike ps' qs') : Alike (ps ++ ps') (qs ++ qs') := by
  unfold Alike at *
  rw [List.flatMap_append, List.flatMap_append]
  exact skeleton_append h h'

theorem Alike.ite {b c : Bool} (hb : b = c) (h : Alike ps qs) :
    Alike (if b then ps else []) (if c then qs else []) := by
  subst hb
  cases b
  · rfl
  · exact h

/-- The pieces of an optional text are alike if both texts are present or both are absent. -/
theorem alike_option {f g : String → List Piece} (h : ∀ x y, Alike (f x) (g y)) :
    ∀ {a b : Option String}, a.isSome = b.isSome →
      Alike (match a with | some x => f x | none => [])
        (match b with | some y => g y | none => [])
  | none, none, _ => rfl
  | some x, some y, _ => h x y

/-- A note has no tokens but comments. -/
theorem alike_heading (note note' : String) (h : Alike ps qs) :
    Alike (.blank :: .note note :: ps) (.blank :: .note note' :: qs) := h

theorem alike_notes (notes : List String) : Alike (notes.map Piece.note) [] := by
  induction notes with
  | nil => rfl
  | cons note rest ih => exact ih

theorem alike_quizNotes (w : Wording) (settings : QuizSettings) :
    Alike (quizNotes w settings) [] :=
  Alike.append (alike_notes w.quizNotes) (alike_notes [_, _, _])

/-! #### Questions -/

/-- What is the same for all unknown kinds depends on the known kind only. -/
theorem congr_known? {α : Type} {f : Kind → α} {k l : Kind}
    (hf : ∀ v w hv hw, f (.other v hv) = f (.other w hw)) (h : k.known? = l.known?) :
    f k = f l := by
  -- a known kind and an unknown word are told apart by `known?`
  rcases k with k | ⟨v, hv⟩ <;> rcases l with l | ⟨w, hw⟩
  · rw [Option.some.inj h]
  · cases h
  · cases h
  · exact hf v w hv hw

variable {w : Wording} {q r : Question}

/-- Arrays with alike items are alike. -/
theorem skeleton_itemTokens {items items' : List Expr}
    (h : List.Forall₂ (fun e e' => skeleton e.tokens = skeleton e'.tokens) items items') :
    skeleton (Expr.itemTokens items) = skeleton (Expr.itemTokens items') := by
  induction h with
  | nil => rfl
  | cons hfirst hrest ih =>
    cases hrest with
    | nil => exact hfirst
    | cons _ _ => exact skeleton_append hfirst (skeleton_cons (.sign .comma) ih)

/-- The choices of two questions are alike if the same positions are correct. -/
theorem skeleton_choices (word : String) (h : q.marks = r.marks) :
    skeleton (choices (.name word) q).tokens = skeleton (choices (.name word) r).tokens := by
  have hitems : List.Forall₂ (fun e e' => skeleton e.tokens = skeleton e'.tokens)
      (q.options.map fun option => (Expr.name word).method "createChoice"
        [.literal option, .truth (q.correctAnswers.contains option)])
      (r.options.map fun option => (Expr.name word).method "createChoice"
        [.literal option, .truth (r.correctAnswers.contains option)]) := by
    rw [Question.marks, Question.marks, ← List.forall₂_eq_eq_eq, List.forall₂_map_left_iff,
      List.forall₂_map_right_iff] at h
    rw [List.forall₂_map_left_iff, List.forall₂_map_right_iff]
    refine h.imp fun a b hab => ?_
    rw [hab]
    cases r.correctAnswers.contains b <;> rfl
  rw [choices, choices, Expr.tokens, Expr.tokens]
  exact skeleton_cons (.opens .square) (skeleton_append (skeleton_itemTokens hitems) rfl)

/-- A method call with one argument. -/
theorem alike_invoke {object e e' : Expr} {word : String}
    (h : skeleton e.tokens = skeleton e'.tokens) :
    Alike [invoke object word [e]] [invoke object word [e']] := by
  rw [Alike, List.flatMap_singleton, List.flatMap_singleton]
  have hargument : skeleton (e.tokens ++ [.closes .round]) =
      skeleton (e'.tokens ++ [.closes .round]) :=
    skeleton_append h rfl
  have hcall : skeleton (object.method word [e]).tokens =
      skeleton (object.method word [e']).tokens :=
    skeleton_append rfl (skeleton_cons (.opens .round) hargument)
  exact skeleton_append hcall rfl

/-- A call that sets an optional text. -/
theorem alike_text (object : Expr) (word : String) : ∀ {a b : Option String}, a.isSome = b.isSome →
    Alike (match a with | some x => [invoke object word [.literal x]] | none => [])
      (match b with | some y => [invoke object word [.literal y]] | none => []) :=
  have hone : ∀ x y : String,
      Alike [invoke object word [.literal x]] [invoke object word [.literal y]] :=
    fun _ _ => alike_invoke rfl
  alike_option hone

theorem alike_points (object : Expr) {b c : Bool} (hb : b = c) (points : Option Nat) :
    Alike
      (match points with
        | some (n + 1) => if b then [invoke object "setPoints" [.number (n + 1)]] else []
        | _ => [])
      (match points with
        | some (n + 1) => if c then [invoke object "setPoints" [.number (n + 1)]] else []
        | _ => []) := by
  subst hb
  rfl

theorem isEmpty_options (h : q.marks = r.marks) : q.options.isEmpty = r.options.isEmpty := by
  unfold Question.marks at h
  rw [← List.isEmpty_map, h, List.isEmpty_map]

theorem alike_image (word : String) (hkind : q.kind.known? = r.kind.known?) (url url' : String) :
    Alike [.statement (image w (.name word) q url)] [.statement (image w (.name word) r url')] := by
  have himage : q.kind.isImage = r.kind.isImage := congr_known? (fun _ _ _ _ => rfl) hkind
  rw [Alike, image, image, himage]
  cases r.kind.isImage
  · rfl
  · rfl

theorem alike_question {b c : Bool} (hquiz : b = c) (name : ItemName) (h : q.SameShape r) :
    Alike (question w b name q) (question w c name r) := by
  have himage : q.kind.isImage = r.kind.isImage := congr_known? (fun _ _ _ _ => rfl) h.kind
  have hchoice : q.kind.isChoice = r.kind.isChoice := congr_known? (fun _ _ _ _ => rfl) h.kind
  have hmaker : constructor q.kind = constructor r.kind := congr_known? (fun _ _ _ _ => rfl) h.kind
  rw [question, question, h.points, hmaker]
  refine (((Alike.append ?_ (Alike.ite ?_ rfl)).append ?_).append (Alike.ite ?_ ?_)).append ?_
  · rfl
  · rw [h.required, himage]
  · exact alike_points _ (by rw [hquiz, himage]) r.points
  · rw [hchoice, isEmpty_options h.marks]
  · exact alike_invoke (skeleton_choices name.text h.marks)
  · exact alike_option (alike_image name.text h.kind) h.image

theorem alike_questions {b c : Bool} (hquiz : b = c) (names : Nat → ItemName)
    {qs rs : List Question} (h : List.Forall₂ Question.SameShape qs rs) (first : Nat) :
    Alike (questions w b names first qs) (questions w c names first rs) := by
  induction h generalizing first with
  | nil => rfl
  | cons hq _ ih => exact (alike_question hquiz (names first) hq).append (ih (first + 1))

/-! #### Sections -/

theorem alike_pageBreak (index : Nat) {s t : FormSection} (h : s.SameShape t) :
    Alike (pageBreak index s) (pageBreak index t) :=
  Alike.append rfl (alike_text _ _ h.description)

theorem alike_nextBreak (index : Nat) : ∀ {ss tt : List FormSection},
    List.Forall₂ FormSection.SameShape ss tt →
      Alike (match ss with | next :: _ => pageBreak index next | [] => [])
        (match tt with | next :: _ => pageBreak index next | [] => [])
  | _, _, .nil => rfl
  | _, _, .cons h _ => alike_pageBreak index h

theorem alike_sections {b c : Bool} (hquiz : b = c) (names : Nat → ItemName)
    {ss tt : List FormSection} (h : List.Forall₂ FormSection.SameShape ss tt) (index first : Nat) :
    Alike (sections w b names index first ss) (sections w c names index first tt) := by
  induction h generalizing index first with
  | nil => rfl
  | @cons s t ss tt hs hrest ih =>
    -- equally many questions take equally many names
    have hcount : s.questions.length = t.questions.length := hs.questions.length_eq
    have hrest' : Alike (sections w b names (index + 1) (first + s.questions.length) ss)
        (sections w c names (index + 1) (first + t.questions.length) tt) := by
      rw [hcount]
      exact ih (index + 1) (first + t.questions.length)
    refine Alike.append (Alike.append ?_ (alike_nextBreak index hrest)) hrest'
    exact alike_heading _ _ (alike_questions hquiz names hs.questions first)

/-- The statements for a quiz are alike, whatever the notes on its settings. -/
theorem alike_setIsQuiz (w : Wording) (settings : Option QuizSettings) :
    Alike (invoke form "setIsQuiz" [.truth true]
        :: (match settings with | some settings => quizNotes w settings | none => []))
      [invoke form "setIsQuiz" [.truth true]] := by
  cases settings with
  | none => rfl
  | some settings =>
    exact Alike.append (rfl : Alike [invoke form "setIsQuiz" [.truth true]] _)
      (alike_quizNotes w settings)

theorem alike_opening (w : Wording) {d e : Definition} (h : d.SameShape e) :
    Alike (opening w d) (opening w e) := by
  have hcreate : Alike
      [declare "form" ((Expr.name "FormApp").method "create" [.literal d.title])]
      [declare "form" ((Expr.name "FormApp").method "create" [.literal e.title])] := rfl
  have hquiz := (alike_setIsQuiz w d.quizSettings).trans (alike_setIsQuiz w e.quizSettings).symm
  exact (hcreate.append (alike_text form "setDescription" h.description)).append
    (Alike.ite h.isQuiz hquiz)

/-- Definitions of the same shape have scripts that differ only in comments and string literals. -/
theorem alike_script {d e : Definition} (h : d.SameShape e) (options : Options)
    (names : Nat → ItemName) :
    Alike (d.script options names).body (e.script options names).body := by
  have hsheet : ∀ w : Wording, Alike
      (if options.resultsSheet then sheet w d.title else [])
      (if options.resultsSheet then sheet w e.title else []) := fun _ => Alike.ite rfl rfl
  refine Alike.append (Alike.append (Alike.append ?_ ?_) (hsheet _)) rfl
  · exact alike_opening _ h
  · exact alike_sections h.isQuiz names h.sections 0 0

theorem skeleton_script {d e : Definition} (h : d.SameShape e) (options : Options)
    (names : Nat → ItemName) :
    skeleton (d.script options names).tokens = skeleton (e.script options names).tokens := by
  have hbody : skeleton ((d.script options names).body.flatMap Piece.tokens ++ [.closes .curly]) =
      skeleton ((e.script options names).body.flatMap Piece.tokens ++ [.closes .curly]) :=
    skeleton_append (alike_script h options names) rfl
  exact skeleton_append (rfl : skeleton [_, _, _, _, _, _] = skeleton [_, _, _, _, _, _]) hbody

/-! ### All texts and definitions -/

/-- **User text stays inside literals and comments.**  The text of every script is tokenized without an open
string or comment, and its brackets are balanced.  Two definitions of the same shape have scripts with the same
tokens, up to comments and the values of string literals. -/
theorem script_confines_text (options : Options) (names : Nat → ItemName) :
    (∀ d : Definition, ∃ ts, lex (d.script options names).text = some ts ∧ Balanced ts) ∧
    ∀ d e : Definition, d.SameShape e →
      (lex (d.script options names).text).map skeleton =
        (lex (e.script options names).text).map skeleton := by
  -- the tokens are those of the statements, so neither statement is about characters any more
  have hlex : ∀ d : Definition,
      lex (d.script options names).text = some (d.script options names).tokens :=
    fun d => lex_text (regular_script d options names)
  refine ⟨fun d => ⟨_, hlex d, balanced_tokens _⟩, fun d e h => ?_⟩
  rw [hlex d, hlex e, Option.map_some, Option.map_some, skeleton_script h]

/-- A form whose texts try to break out of literals and comments, and a harmless one of its shape. -/
theorem script_confines_text_attack :
    let picture (title url option : String) : Definition :=
      { title := title
        sections := [⟨title, none,
          [⟨title, .known .checkboxes, [option], some url, true, some 2, [option]⟩]⟩]
        isQuiz := true }
    let plain := picture "Survey" "https://example.org" "Yes"
    let hostile := picture "\"); form.setTitle(\"" "\\\n\u2028" "/*"
    plain.SameShape hostile ∧
      (lex (plain.script {} ItemName.numbered).text).map skeleton =
        (lex (hostile.script {} ItemName.numbered).text).map skeleton := by
  intro picture plain hostile
  have hshape : plain.SameShape hostile :=
    ⟨rfl, rfl, .cons ⟨rfl, .cons ⟨rfl, rfl, rfl, by decide, by decide⟩ .nil⟩ .nil⟩
  exact ⟨hshape, (script_confines_text {} ItemName.numbered).2 plain hostile hshape⟩

end Script
end Formwork
