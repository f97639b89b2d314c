import Formwork.Failure
/-!
# Readers and writers of JSON

A reader of JSON has limits, and so may a writer: it goes through a value from its beginning to its end, and the first
part that it cannot write is the error.  A `Codec` is a reader and a writer with their limits.
-/
namespace Formwork
namespace Json

/-- Why a value cannot be written within some limits. -/
inductive Excess
  /-- Containers are nested too deep. -/
  | deep
  /-- An integer has more digits than this. -/
  | longInteger (limit : Nat)
deriving DecidableEq, Inhabited

/-- The error for a value that cannot be written. -/
def Excess.problem : Excess → Problem
  | deep => .runtime "maximum recursion depth exceeded"
  | longInteger limit =>
    .badValue (s!"Exceeds the limit ({limit} digits) for integer string conversion; "
      ++ "use sys.set_int_max_str_digits() to increase the limit")

mutual
/-- The first part of a value that a writer with these limits cannot write. -/
def excess? (limits : Limits) : Json → Option Excess
  | int value =>
    if limits.digits < (Nat.toDigits 10 value.natAbs).length then some (.longInteger limits.digits) else none
  | arr items =>
    match limits.levels with
    | 0 => some .deep
    | levels + 1 => excessInItems? { limits with levels } items
  | obj fields =>
    match limits.levels with
    | 0 => some .deep
    | levels + 1 => excessInFields? { limits with levels } fields
  | _ => none

/-- The first part of some items that cannot be written. -/
def excessInItems? (limits : Limits) : List Json → Option Excess
  | [] => none
  | item :: rest => (excess? limits item).or (excessInItems? limits rest)

/-- The first part of some members that cannot be written. -/
def excessInFields? (limits : Limits) : List (String × Json) → Option Excess
  | [] => none
  | (_, value) :: rest => (excess? limits value).or (excessInFields? limits rest)
end

/-- The reader and the writer of one call. -/
structure Codec where
  /-- The limits of the reader. -/
  reads : Limits := default
  /-- The limits of the writer, if it has any. -/
  writes : Option Limits := none
deriving DecidableEq, Inhabited

/-- The value of a text. -/
def Codec.decode (codec : Codec) (text : String) : Except Problem Json :=
  (parseWithin codec.reads text).mapError .malformedJson

/-- The text of a value, indented. -/
def Codec.encode (codec : Codec) (value : Json) : Except Problem String :=
  match codec.writes.bind fun limits => value.excess? limits with
  | some excess => .error excess.problem
  | none => .ok (value.write .indented)

theorem Codec.encode_eq_ok {codec : Codec} {value : Json} {text : String} :
    codec.encode value = .ok text ↔
      (∀ limits, codec.writes = some limits → value.excess? limits = none) ∧ text = value.write .indented := by
  unfold encode
  cases codec.writes with
  | none => simp [eq_comm]
  | some limits =>
    cases hexcess : value.excess? limits with
    | none => simp [hexcess, eq_comm]
    | some excess => simp [hexcess]

end Json
end Formwork
