/-!
# Character encodings

`utf8` decodes any bytes, with one replacement character for every maximal sequence of bytes that is part of no
character.  UTF-16 and UTF-32 have units of two or four bytes; a surrogate outside of a pair is no character, and bytes
with one are not decoded.

A request body does not name its encoding, but its first two characters are ASCII, so the zeros among its first bytes
determine it (`Encoding.ofJson`).
-/
namespace Formwork
namespace Text

/-- The replacement character. -/
def replacement : Char := '\ufffd'

/-- A high surrogate. -/
def isHigh (unit : Nat) : Bool := 0xd800 ≤ unit && unit < 0xdc00

/-- A low surrogate. -/
def isLow (unit : Nat) : Bool := 0xdc00 ≤ unit && unit < 0xe000

/-- The character of a surrogate pair. -/
def pairChar (high low : Nat) : Char :=
  Char.ofNat (0x10000 + (high - 0xd800) * 0x400 + (low - 0xdc00))

/-- The bytes of some characters in UTF-8. -/
def bytes (s : List Char) : List UInt8 := s.flatMap String.utf8EncodeChar

/-! ## UTF-8 -/

/-- A character with bytes still to come. -/
structure Pending where
  /-- The number of its bytes so far. -/
  value : Nat
  /-- The number of bytes behind the next one. -/
  later : Nat
  /-- The least value of the next byte. -/
  least : Nat
  /-- The greatest value of the next byte. -/
  most : Nat
deriving DecidableEq

/-- The character that begins with a byte beyond ASCII.  The bounds of its second byte exclude overlong forms,
surrogates, and numbers beyond the last character. -/
def Pending.ofLead? (byte : Nat) : Option Pending :=
  if byte < 0xc2 then none
  else if byte < 0xe0 then some ⟨byte - 0xc0, 0, 0x80, 0xbf⟩
  else if byte < 0xf0 then
    some ⟨byte - 0xe0, 1, if byte = 0xe0 then 0xa0 else 0x80, if byte = 0xed then 0x9f else 0xbf⟩
  else if byte < 0xf5 then
    some ⟨byte - 0xf0, 2, if byte = 0xf0 then 0x90 else 0x80, if byte = 0xf4 then 0x8f else 0xbf⟩
  else none

/-- The characters that a first byte completes, and the character that it begins. -/
def leadByte (byte : Nat) : List Char × Option Pending :=
  if byte < 0x80 then ([Char.ofNat byte], none)
  else
    match Pending.ofLead? byte with
    | some pending => ([], some pending)
    | none => ([replacement], none)

/-- The characters that a byte completes, and the character that is then pending. -/
def nextByte (byte : Nat) : Option Pending → List Char × Option Pending
  | none => leadByte byte
  | some pending =>
    if pending.least ≤ byte ∧ byte ≤ pending.most then
      let value := pending.value * 64 + (byte - 0x80)
      match pending.later with
      | 0 => ([Char.ofNat value], none)
      | later + 1 => ([], some ⟨value, later, 0x80, 0xbf⟩)
    else
      let (chars, pending) := leadByte byte
      (replacement :: chars, pending)

/-- The characters of bytes in UTF-8 behind a pending character. -/
def utf8From : Option Pending → List UInt8 → List Char
  | none, [] => []
  | some _, [] => [replacement]
  | pending, byte :: rest =>
    let (chars, pending) := nextByte byte.toNat pending
    chars ++ utf8From pending rest

/-- The characters of bytes in UTF-8. -/
def utf8 (bytes : List UInt8) : List Char := utf8From none bytes

/-! ## UTF-16 and UTF-32 -/

/-- The byte order of a unit. -/
inductive ByteOrder
  | highFirst
  | lowFirst
deriving DecidableEq

/-- The number of two parts of a unit in this byte order. -/
def ByteOrder.join (size : Nat) (order : ByteOrder) (first second : Nat) : Nat :=
  match order with
  | highFirst => first * size + second
  | lowFirst => second * size + first

/-- The units of two bytes, unless a byte is left over. -/
def units16? (order : ByteOrder) : List UInt8 → Option (List Nat)
  | [] => some []
  | [_] => none
  | a :: b :: rest => (units16? order rest).map (order.join 256 a.toNat b.toNat :: ·)

/-- The character of a unit, unless the unit is a surrogate or beyond the last character. -/
def unitChar? (unit : Nat) : Option Char :=
  if isHigh unit || isLow unit || 0x110000 ≤ unit then none else some (Char.ofNat unit)

/-- The characters of units of two bytes, unless there is a surrogate outside of a pair. -/
def utf16? : List Nat → Option (List Char)
  | [] => some []
  | [unit] => (unitChar? unit).map ([·])
  | high :: low :: rest =>
    if isHigh high && isLow low then (utf16? rest).map (pairChar high low :: ·)
    else do
      let c ← unitChar? high
      let chars ← utf16? (low :: rest)
      return c :: chars

/-- The characters of units of four bytes, each given as two of two bytes, unless one is left over or is no
character. -/
def utf32? (order : ByteOrder) : List Nat → Option (List Char)
  | [] => some []
  | [_] => none
  | a :: b :: rest => do
    let c ← unitChar? (order.join 65536 a b)
    let chars ← utf32? order rest
    return c :: chars

/-! ## JSON texts -/

/-- The encodings of a request body. -/
inductive Encoding
  | utf8
  | utf16 (order : ByteOrder)
  | utf32 (order : ByteOrder)
deriving DecidableEq

/-- The encoding of a JSON text with these bytes. -/
def Encoding.ofJson : List UInt8 → Encoding
  | a :: b :: c :: d :: _ =>
    if a = 0 then (if b = 0 then utf32 .highFirst else utf16 .highFirst)
    else if b = 0 then (if c = 0 ∧ d = 0 then utf32 .lowFirst else utf16 .lowFirst)
    else utf8
  | [a, b] => if a = 0 then utf16 .highFirst else if b = 0 then utf16 .lowFirst else utf8
  | _ => utf8

/-- The characters of a JSON text whose bytes, decoded as UTF-8, are these characters; none if the bytes are no
text in its encoding.  A byte order mark selects UTF-8 and is dropped. -/
def jsonChars? : List Char → Option (List Char)
  | '\ufeff' :: rest => some rest
  | s =>
    match Encoding.ofJson (bytes (s.take 4)) with
    | .utf8 => some s
    | .utf16 order => (units16? order (bytes s)).bind utf16?
    | .utf32 order => (units16? order (bytes s)).bind (utf32? order)

end Text
end Formwork
