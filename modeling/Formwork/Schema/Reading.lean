import Formwork.Schema.Issue
/-!
# Readings

Reading a JSON value as a model gives the model or the list of all issues.  Readings are applicative: the members of
an object and the items of an array are all read, and their issues are listed in order.

A member may have an alias beside its name.  Both are accepted, and the alias wins when both are present.
-/
namespace Formwork

/-- A value that was read, or the issues. -/
inductive Reading (α : Type)
  | done (value : α)
  | failed (issues : List Issue)
deriving DecidableEq, Inhabited

namespace Reading

variable {α β : Type}

/-- Applies a function to the value. -/
def map (f : α → β) : Reading α → Reading β
  | done value => done (f value)
  | failed issues => failed issues

/-- Two readings side by side: the issues of the first, then those of the second. -/
def ap (f : Reading (α → β)) (x : Reading α) : Reading β :=
  match f, x with
  | done f, done x => done (f x)
  | done _, failed issues => failed issues
  | failed issues, done _ => failed issues
  | failed issues, failed more => failed (issues ++ more)

instance : Applicative Reading where
  pure := done
  map := map
  seq f x := ap f (x ())

@[simp] theorem map_done (f : α → β) (a : α) : f <$> (done a) = done (f a) := rfl
@[simp] theorem map_failed (f : α → β) (e : List Issue) : f <$> (failed e : Reading α) = failed e :=
  rfl
@[simp] theorem done_seq_done (f : α → β) (a : α) : (done f <*> done a) = done (f a) := rfl
@[simp] theorem done_seq_failed (f : α → β) (e : List Issue) :
    (done f <*> (failed e : Reading α)) = failed e := rfl
@[simp] theorem failed_seq_done (e : List Issue) (a : α) :
    ((failed e : Reading (α → β)) <*> done a) = failed e := rfl
@[simp] theorem failed_seq_failed (d e : List Issue) :
    ((failed d : Reading (α → β)) <*> (failed e : Reading α)) = failed (d ++ e) := rfl
@[simp] theorem pure_eq_done (a : α) : (pure a : Reading α) = done a := rfl

/-- A reading with one issue. -/
def complain (complaint : Complaint) (given : Json) : Reading α := failed [⟨[], complaint, given⟩]

/-- The reading with one more step in front of the path of each issue. -/
def under (step : Place) : Reading α → Reading α
  | done value => done value
  | failed issues => failed (issues.map (Issue.under step))

@[simp] theorem under_done (step : Place) (a : α) : (done a).under step = done a := rfl

/-- A reading whose value is read further. -/
def andThen (x : Reading α) (f : α → Reading β) : Reading β :=
  match x with
  | done value => f value
  | failed issues => failed issues

/-- The value, if there are no issues. -/
def value? : Reading α → Option α
  | done value => some value
  | failed _ => none

end Reading

/-- The two names of a member. -/
structure FieldName where
  /-- The alias, as in JSON. -/
  wire : String
  /-- The name of the field. -/
  plain : String
deriving DecidableEq

/-- A member without an alias. -/
def FieldName.only (name : String) : FieldName := ⟨name, name⟩

/-- Where a value to be read comes from. -/
inductive Source
  /-- A value of the program. -/
  | value
  /-- The body of a request. -/
  | request
deriving DecidableEq

/-- The error for a value that should be an object of this model. -/
def Source.noObject : Source → String → Complaint
  | value, model => .noObject model
  | request, _ => .noAttributes

namespace FieldName

variable {α : Type}

/-- The name under which an object has the member, and the value there. -/
def find? (name : FieldName) (fields : Fields) : Option (String × Json) :=
  match fields.get? name.wire with
  | some value => some (name.wire, value)
  | none => (fields.get? name.plain).map fun value => (name.plain, value)

/-- A required member. -/
def required (name : FieldName) (read : Json → Reading α) (fields : Fields) : Reading α :=
  match name.find? fields with
  | some (key, value) => (read value).under (.key key)
  | none => .failed [⟨[.key name.wire], .missing, .obj fields⟩]

/-- A member with a default. -/
def withDefault (name : FieldName) (default : α) (read : Json → Reading α) (fields : Fields) :
    Reading α :=
  match name.find? fields with
  | some (key, value) => (read value).under (.key key)
  | none => .done default

end FieldName

namespace Reading

variable {α : Type}

/-- A model, read from the members of an object. -/
def object (source : Source) (model : String) (read : Fields → Reading α) : Json → Reading α
  | .obj fields => read fields
  | other => complain (source.noObject model) other

/-- The items of an array, counted from a position. -/
def itemsFrom (read : Json → Reading α) (position : Nat) : List Json → Reading (List α)
  | [] => done []
  | item :: rest =>
    List.cons <$> (read item).under (.index position) <*> itemsFrom read (position + 1) rest

/-- A list of items. -/
def list (read : Json → Reading α) : Json → Reading (List α)
  | .arr items => itemsFrom read 0 items
  | other => complain .noList other

/-- A value or `null`. -/
def optional (read : Json → Reading α) : Json → Reading (Option α)
  | .null => done none
  | other => some <$> read other

/-- A string. -/
def text : Json → Reading String
  | .str value => done value
  | other => complain .noText other

/-- One of a list of names. -/
def member (ofName? : String → Option α) (choices : List String) (given : Json) : Reading α :=
  match given.text?.bind ofName? with
  | some value => done value
  | none => complain (.noMember choices) given

/-- A literal. -/
def word (expected : String) (given : Json) : Reading Unit :=
  if given = .str expected then done () else complain (.otherWord expected) given

/-- A tagged union: the member named as the discriminator selects the shape. -/
def tagged (discriminator : String) (shapes : List (String × (Json → Reading α))) (given : Json) :
    Reading α :=
  match given with
  | .obj fields =>
    match Fields.get? discriminator fields with
    | none => complain (.noTag discriminator) given
    | some tag =>
      match shapes.find? fun shape => tag == Json.str shape.1 with
      | some (name, read) => (read given).under (.key name)
      | none =>
        complain (.unknownTag tag.bare discriminator (shapes.map Prod.fst)) given
  | _ => complain .noAttributes given

end Reading
end Formwork
