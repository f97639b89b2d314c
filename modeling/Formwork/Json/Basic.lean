import Formwork.Number.Binary64
/-!
# JSON values

Objects are lists of members, in the order of the text.  `Fields.set` extends an object: a name that is already there
keeps its place and takes the new value.  Integers are unbounded and distinct from numbers written with a fraction or
an exponent.
-/
namespace Formwork

/-- A JSON value. -/
inductive Json
  | null
  | bool (value : Bool)
  | int (value : Int)
  | float (value : Binary64)
  | str (value : String)
  | arr (items : List Json)
  | obj (fields : List (String × Json))
deriving Inhabited

/-- The members of an object, in order. -/
abbrev Fields := List (String × Json)

namespace Fields

/-- The value under a name. -/
def get? (name : String) : Fields → Option Json
  | [] => none
  | (key, value) :: rest => if key = name then some value else get? name rest

/-- The members with this name set: in its place if it is there, else at the end. -/
def set (name : String) (value : Json) : Fields → Fields
  | [] => [(name, value)]
  | (key, old) :: rest =>
    if key = name then (key, value) :: rest else (key, old) :: set name value rest

/-- The names, in order. -/
def names (fields : Fields) : List String := fields.map Prod.fst

/-- Whether a name is present. -/
def has (name : String) (fields : Fields) : Bool := (fields.get? name).isSome

@[simp] theorem get?_nil (name : String) : get? name [] = none := rfl

theorem get?_set_self (name : String) (value : Json) (fields : Fields) :
    (fields.set name value).get? name = some value := by
  induction fields with
  | nil => simp [set, get?]
  | cons field rest ih =>
    by_cases h : field.1 = name
    · simp [set, get?, h]
    · simp [set, get?, h, ih]

theorem get?_set_of_ne {name other : String} (h : other ≠ name) (value : Json) (fields : Fields) :
    (fields.set name value).get? other = fields.get? other := by
  induction fields with
  | nil => simp [set, get?, Ne.symm h]
  | cons field rest ih =>
    by_cases hn : field.1 = name
    · simp [set, get?, hn, Ne.symm h]
    · by_cases ho : field.1 = other
      · simp [set, get?, ho, h]
      · simp [set, get?, hn, ho, ih]

end Fields

namespace Json

mutual
/-- Equality of values, decided member by member. -/
def decEq : (a b : Json) → Decidable (a = b)
  | null, null => isTrue rfl
  | bool a, bool b => if h : a = b then isTrue (h ▸ rfl) else isFalse fun e => h (Json.bool.inj e)
  | int a, int b => if h : a = b then isTrue (h ▸ rfl) else isFalse fun e => h (Json.int.inj e)
  | float a, float b => if h : a = b then isTrue (h ▸ rfl) else isFalse fun e => h (Json.float.inj e)
  | str a, str b => if h : a = b then isTrue (h ▸ rfl) else isFalse fun e => h (Json.str.inj e)
  | arr a, arr b =>
    match decEqItems a b with
    | isTrue h => isTrue (h ▸ rfl)
    | isFalse h => isFalse fun e => h (Json.arr.inj e)
  | obj a, obj b =>
    match decEqFields a b with
    | isTrue h => isTrue (h ▸ rfl)
    | isFalse h => isFalse fun e => h (Json.obj.inj e)
  | null, bool _ | null, int _ | null, float _ | null, str _ | null, arr _ | null, obj _
  | bool _, null | bool _, int _ | bool _, float _ | bool _, str _ | bool _, arr _ | bool _, obj _
  | int _, null | int _, bool _ | int _, float _ | int _, str _ | int _, arr _ | int _, obj _
  | float _, null | float _, bool _ | float _, int _ | float _, str _ | float _, arr _
  | float _, obj _
  | str _, null | str _, bool _ | str _, int _ | str _, float _ | str _, arr _ | str _, obj _
  | arr _, null | arr _, bool _ | arr _, int _ | arr _, float _ | arr _, str _ | arr _, obj _
  | obj _, null | obj _, bool _ | obj _, int _ | obj _, float _ | obj _, str _ | obj _, arr _ =>
    isFalse nofun

/-- Equality of the items of two arrays. -/
def decEqItems : (a b : List Json) → Decidable (a = b)
  | [], [] => isTrue rfl
  | [], _ :: _ | _ :: _, [] => isFalse nofun
  | x :: xs, y :: ys =>
    match decEq x y, decEqItems xs ys with
    | isTrue h, isTrue t => isTrue (by rw [h, t])
    | isFalse h, _ => isFalse fun e => h (List.cons.inj e).1
    | _, isFalse t => isFalse fun e => t (List.cons.inj e).2

/-- Equality of the members of two objects. -/
def decEqFields : (a b : List (String × Json)) → Decidable (a = b)
  | [], [] => isTrue rfl
  | [], _ :: _ | _ :: _, [] => isFalse nofun
  | (k, x) :: xs, (l, y) :: ys =>
    match String.decEq k l, decEq x y, decEqFields xs ys with
    | isTrue g, isTrue h, isTrue t => isTrue (by rw [g, h, t])
    | isFalse g, _, _ => isFalse fun e => g (congrArg Prod.fst (List.cons.inj e).1)
    | _, isFalse h, _ => isFalse fun e => h (congrArg Prod.snd (List.cons.inj e).1)
    | _, _, isFalse t => isFalse fun e => t (List.cons.inj e).2
end

instance : DecidableEq Json := decEq

/-- Whether a value is truthy: `null`, `false`, zero and everything empty are not. -/
def truthy : Json → Bool
  | null => false
  | bool value => value
  | int value => value ≠ 0
  | float value => !value.isZero
  | str value => value ≠ ""
  | arr items => !items.isEmpty
  | obj fields => !fields.isEmpty

/-- The string, if the value is one. -/
def text? : Json → Option String
  | str value => some value
  | _ => none

/-- The members, if the value is an object. -/
def fields? : Json → Option Fields
  | obj fields => some fields
  | _ => none

/-- The value under a name, if the value is an object that has it. -/
def get? (name : String) (value : Json) : Option Json := value.fields?.bind (Fields.get? name)

/-- A string, or `null`. -/
def ofText? : Option String → Json
  | some value => str value
  | none => null

/-- An array of strings. -/
def texts (values : List String) : Json := arr (values.map str)

mutual
/-- Whether every number in the value is finite. -/
def allFinite : Json → Bool
  | float value => value.isFinite
  | arr items => allFiniteItems items
  | obj fields => allFiniteFields fields
  | _ => true

/-- Whether every number among the items is finite. -/
def allFiniteItems : List Json → Bool
  | [] => true
  | item :: rest => allFinite item && allFiniteItems rest

/-- Whether every number among the members is finite. -/
def allFiniteFields : List (String × Json) → Bool
  | [] => true
  | (_, value) :: rest => allFinite value && allFiniteFields rest
end

end Json

end Formwork
