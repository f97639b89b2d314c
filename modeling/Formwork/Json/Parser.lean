import Formwork.Json.Basic
import Formwork.Text.Encoding
import Formwork.Text.Hex
/-!
# The JSON reader

The reader works on the characters that are left.  A fault has a reason and the number of characters left at the place
that it blames, from which `Fault.position` computes the line, the column and the offset.

The grammar is lax in three ways: `NaN`, `Infinity` and `-Infinity` are numbers; of two members with one name the later
value stands, in the place of the earlier; and a number may overflow to infinity.  Control characters in a string are
faults.

The reader has limits.  A text whose containers are nested too deep, or that has too long an integer, is a fault at that
place, whatever comes behind it; how deep and how long depends on the run (`Limits`).  A text with half of a surrogate
pair is a fault in the end: a half is no character, and a `String` consists of characters.
-/
namespace Formwork
namespace Json

/-- The limits of a reader or a writer.  They depend on the run: on the interpreter, on its settings, and on how deep
the call itself is nested. -/
structure Limits where
  /-- The most containers that may be open at once. -/
  levels : Nat
  /-- The most digits that an integer may have. -/
  digits : Nat
deriving DecidableEq

/-- The limits of one run, for worlds that name none. -/
instance : Inhabited Limits := ⟨985, 4300⟩

/-- What is wrong with a text. -/
inductive Fault.Reason
  | expectingValue
  | expectingName
  | expectingColon
  | expectingComma
  | unterminatedString
  | controlCharacter
  | invalidEscape
  | invalidNumberedEscape
  | extraData
  | byteOrderMark
  /-- An array is nested too deep. -/
  | deepArray
  /-- An object is nested too deep. -/
  | deepObject
  /-- An integer has this many digits, which is more than the limit behind it. -/
  | longInteger (digits limit : Nat)
  /-- A numbered escape is half of a surrogate pair without the other half. -/
  | halfPair
deriving DecidableEq, Inhabited

/-- The message of a reason. -/
def Fault.Reason.words : Fault.Reason → String
  | expectingValue => "Expecting value"
  | expectingName => "Expecting property name enclosed in double quotes"
  | expectingColon => "Expecting ':' delimiter"
  | expectingComma => "Expecting ',' delimiter"
  | unterminatedString => "Unterminated string starting at"
  | controlCharacter => "Invalid control character at"
  | invalidEscape => "Invalid \\escape"
  | invalidNumberedEscape => "Invalid \\uXXXX escape"
  | extraData => "Extra data"
  | byteOrderMark => "Unexpected UTF-8 BOM (decode using utf-8-sig)"
  | deepArray => "maximum recursion depth exceeded while decoding a JSON array from a unicode string"
  | deepObject => "maximum recursion depth exceeded while decoding a JSON object from a unicode string"
  | longInteger digits limit =>
    s!"Exceeds the limit ({limit} digits) for integer string conversion: value has {digits} digits; "
      ++ "use sys.set_int_max_str_digits() to increase the limit"
  | halfPair => "surrogates not allowed"

/-- The reason is a limit of the reader, and not that the text is no JSON. -/
def Fault.Reason.isLimit : Fault.Reason → Bool
  | deepArray | deepObject | longInteger .. | halfPair => true
  | _ => false

/-- A reason with the number of characters left where it applies. -/
structure Fault where
  /-- The reason. -/
  reason : Fault.Reason
  /-- The number of characters at and after the place. -/
  left : Nat
deriving DecidableEq, Inhabited

/-- The result of reading a part of a text: the part, and the characters after it. -/
abbrev Parse (α : Type) := Except Fault (α × List Char)

/-- The four characters that may stand between tokens. -/
def isBlank (c : Char) : Bool := c = ' ' || c = '\t' || c = '\n' || c = '\r'

/-- The text without its leading blanks. -/
def skip (s : List Char) : List Char := s.dropWhile isBlank

/-- The unit written by four hexadecimal digits. -/
def hexUnit? (a b c d : Char) : Option Nat := do
  let high := (← Text.hexValue? a) * 16 + (← Text.hexValue? b)
  let low := (← Text.hexValue? c) * 16 + (← Text.hexValue? d)
  return high * 256 + low

/-- The unit written by four hexadecimal digits in front of at least one more character. -/
def unit? : List Char → Option (Nat × List Char)
  | a :: b :: c :: d :: next :: rest => (hexUnit? a b c d).map fun unit => (unit, next :: rest)
  | _ => none

/-- A numbered escape, read from the character after its `u`.  A high surrogate is joined with a low surrogate
that a second escape right behind it gives.  A half without its other half gives some other character here, since
the text may have a fault further on that counts; the whole text is then a fault (`wholePairs`). -/
def numberedEscape (s : List Char) : Parse Char :=
  match unit? s with
  | none => .error ⟨.invalidNumberedEscape, s.length + 1⟩
  | some (high, rest) =>
    if Text.isHigh high then
      match rest with
      | '\\' :: 'u' :: second =>
        if (second.drop 4).isEmpty then .ok (Char.ofNat high, rest)
        else
          match unit? second with
          | none => .error ⟨.invalidNumberedEscape, second.length + 1⟩
          | some (low, after) =>
            if Text.isLow low then .ok (Text.pairChar high low, after)
            else .ok (Char.ofNat high, rest)
      | _ => .ok (Char.ofNat high, rest)
    else .ok (Char.ofNat high, rest)

/-- The character that a letter stands for after a backslash. -/
def letterChar? : Char → Option Char
  | '"' => some '"'
  | '\\' => some '\\'
  | '/' => some '/'
  | 'b' => some '\x08'
  | 'f' => some '\x0c'
  | 'n' => some '\n'
  | 'r' => some '\r'
  | 't' => some '\t'
  | _ => none

theorem unit?_length {s rest : List Char} {unit : Nat} (h : unit? s = some (unit, rest)) :
    rest.length < s.length := by
  unfold unit? at h
  split at h
  · obtain ⟨_, -, h⟩ := Option.map_eq_some_iff.mp h
    cases h
    simp
  · cases h

theorem numberedEscape_length {s rest : List Char} {c : Char}
    (h : numberedEscape s = .ok (c, rest)) : rest.length < s.length := by
  unfold numberedEscape at h
  split at h
  · simp at h
  · rename_i high after hu
    have hl := unit?_length hu
    split at h
    · split at h
      · rename_i second
        split at h
        · simp only [Except.ok.injEq, Prod.mk.injEq] at h
          rw [← h.2]; exact hl
        · split at h
          · simp at h
          · rename_i low tail hv
            have ht := unit?_length hv
            split at h <;> simp only [Except.ok.injEq, Prod.mk.injEq] at h
            · rw [← h.2]; simp only [List.length_cons] at hl; omega
            · rw [← h.2]; exact hl
      · simp only [Except.ok.injEq, Prod.mk.injEq] at h
        rw [← h.2]; exact hl
    · simp only [Except.ok.injEq, Prod.mk.injEq] at h
      rw [← h.2]; exact hl

/-- The rest of a string after its opening quotation mark; `opening` is the text from that mark on. -/
def stringBody (opening s : List Char) : Parse (List Char) :=
  match s with
  | [] => .error ⟨.unterminatedString, opening.length⟩
  | '"' :: rest => .ok ([], rest)
  | '\\' :: [] => .error ⟨.unterminatedString, opening.length⟩
  | '\\' :: 'u' :: rest =>
    match h : numberedEscape rest with
    | .error fault => .error fault
    | .ok (c, after) =>
      have : after.length < rest.length := numberedEscape_length h
      (stringBody opening after).map fun (text, after) => (c :: text, after)
  | '\\' :: letter :: rest =>
    match letterChar? letter with
    | none => .error ⟨.invalidEscape, rest.length + 2⟩
    | some c => (stringBody opening rest).map fun (text, after) => (c :: text, after)
  | c :: rest =>
    if c.toNat < 0x20 then .error ⟨.controlCharacter, rest.length + 1⟩
    else (stringBody opening rest).map fun (text, after) => (c :: text, after)
termination_by s.length
decreasing_by all_goals simp_wf; try omega

/-- Whether a character is a decimal digit. -/
def isDigit (c : Char) : Bool := '0' ≤ c && c ≤ '9'

/-- The number of a sequence of decimal digits. -/
def digitsValue (digits : List Char) : Nat :=
  digits.foldl (fun value c => value * 10 + (c.toNat - 48)) 0

/-- The digits of the whole part: a zero alone, or digits of which the first is not zero. -/
def wholePart : List Char → Option (List Char × List Char)
  | '0' :: rest => some (['0'], rest)
  | c :: rest =>
    if isDigit c then some (c :: rest.takeWhile isDigit, rest.dropWhile isDigit) else none
  | [] => none

/-- The digits after a point, if at least one follows it. -/
def fractionPart : List Char → List Char × List Char
  | '.' :: rest =>
    if (rest.takeWhile isDigit).isEmpty then ([], '.' :: rest)
    else (rest.takeWhile isDigit, rest.dropWhile isDigit)
  | s => ([], s)

/-- The exponent after its mark and an optional sign, if at least one digit follows them. -/
def exponentPart (s : List Char) : Option (Int × List Char) :=
  match s with
  | mark :: rest =>
    if mark = 'e' ∨ mark = 'E' then
      let (negative, digits) :=
        match rest with
        | '-' :: digits => (true, digits)
        | '+' :: digits => (false, digits)
        | digits => (false, digits)
      if (digits.takeWhile isDigit).isEmpty then none
      else
        let value : Int := digitsValue (digits.takeWhile isDigit)
        some (if negative then -value else value, digits.dropWhile isDigit)
    else none
  | [] => none

/-- A number after its sign, if there is one: an integer unless a fraction or an exponent follows. -/
def unsignedNumber? (limit : Nat) (negative : Bool) (s : List Char) : Option (Parse Json) := do
  let (whole, afterWhole) ← wholePart s
  let (fraction, afterFraction) := fractionPart afterWhole
  let sign (n : Nat) : Int := if negative then -n else n
  let decimal (exponent : Int) : Json :=
    float (.ofDecimal negative (digitsValue (whole ++ fraction)) (exponent - fraction.length))
  match exponentPart afterFraction with
  | some (exponent, rest) => return .ok (decimal exponent, rest)
  | none =>
    if !fraction.isEmpty then return .ok (decimal 0, afterFraction)
    else if limit < whole.length then return .error ⟨.longInteger whole.length limit, s.length⟩
    else return .ok (int (sign (digitsValue whole)), afterFraction)

/-- The literals. -/
def words : List (List Char × Json) :=
  [("null".toList, null), ("true".toList, bool true), ("false".toList, bool false),
    ("NaN".toList, float .nan), ("Infinity".toList, float (.infinite false)),
    ("-Infinity".toList, float (.infinite true))]

/-- What is left of the text after a word that it starts with. -/
def after? : (word s : List Char) → Option (List Char)
  | [], s => some s
  | _ :: _, [] => none
  | w :: word, c :: s => if w = c then after? word s else none

/-- A value that is neither a string nor a container. -/
def atom (limit : Nat) (s : List Char) : Parse Json :=
  match words.findSome? fun (word, value) => (after? word s).map fun rest => (value, rest) with
  | some result => .ok result
  | none =>
    let number :=
      match s with
      | '-' :: rest => unsignedNumber? limit true rest
      | _ => unsignedNumber? limit false s
    number.getD (.error ⟨.expectingValue, s.length⟩)

mutual
/-- A value at the very start of the text.  A value nested in another one takes two steps and at least
one character of the text, so `fuel` never runs out when it exceeds twice the length of the text. -/
def value : (fuel : Nat) → Limits → List Char → Parse Json
  | 0, _, s => .error ⟨.expectingValue, s.length⟩
  | fuel + 1, limits, s =>
    match s with
    | '"' :: rest => (stringBody s rest).map fun (text, after) => (str (.ofList text), after)
    | '[' :: rest =>
      match limits.levels with
      | 0 => .error ⟨.deepArray, s.length⟩
      | levels + 1 =>
        match skip rest with
        | ']' :: after => .ok (arr [], after)
        | rest =>
          (items fuel { limits with levels } rest).map fun (values, after) => (arr values, after)
    | '\x7b' :: rest =>
      match limits.levels with
      | 0 => .error ⟨.deepObject, s.length⟩
      | levels + 1 =>
        match skip rest with
        | '\x7d' :: after => .ok (obj [], after)
        | rest =>
          (members fuel { limits with levels } [] rest).map fun (fields, after) => (obj fields, after)
    | _ => atom limits.digits s

/-- The items of an array from the first one on, with the closing bracket. -/
def items : (fuel : Nat) → Limits → List Char → Parse (List Json)
  | 0, _, s => .error ⟨.expectingValue, s.length⟩
  | fuel + 1, limits, s =>
    match value fuel limits s with
    | .error fault => .error fault
    | .ok (item, rest) =>
      match skip rest with
      | ']' :: after => .ok ([item], after)
      | ',' :: rest =>
        (items fuel limits (skip rest)).map fun (values, after) => (item :: values, after)
      | rest => .error ⟨.expectingComma, rest.length⟩

/-- The members of an object from the next name on, with the closing brace, added to those before. -/
def members : (fuel : Nat) → Limits → Fields → List Char → Parse Fields
  | 0, _, _, s => .error ⟨.expectingValue, s.length⟩
  | fuel + 1, limits, fields, s =>
    match s with
    | '"' :: rest =>
      match stringBody s rest with
      | .error fault => .error fault
      | .ok (name, rest) =>
        match skip rest with
        | ':' :: rest =>
          match value fuel limits (skip rest) with
          | .error fault => .error fault
          | .ok (member, rest) =>
            let fields := fields.set (.ofList name) member
            match skip rest with
            | '\x7d' :: after => .ok (fields, after)
            | ',' :: rest => members fuel limits fields (skip rest)
            | rest => .error ⟨.expectingComma, rest.length⟩
        | rest => .error ⟨.expectingColon, rest.length⟩
    | _ => .error ⟨.expectingName, s.length⟩
end

/-- Whether no numbered escape is half of a surrogate pair without the other half.  An escape begins with a
backslash; `high` says whether the one right before was the first half of a pair. -/
def wholePairs (high : Bool) : List Char → Bool
  | [] => !high
  | '\\' :: 'u' :: a :: b :: c :: d :: rest =>
    match hexUnit? a b c d with
    | some unit =>
      if high then Text.isLow unit && wholePairs false rest
      else !Text.isLow unit && wholePairs (Text.isHigh unit) rest
    | none => !high && wholePairs false rest
  | '\\' :: _ :: rest => !high && wholePairs false rest
  | _ :: rest => !high && wholePairs false rest

/-- The value of some characters. -/
def parseChars (limits : Limits) (s : List Char) : Except Fault Json :=
  match value (2 * s.length + 1) limits (skip s) with
  | .error fault => .error fault
  | .ok (result, rest) =>
    match skip rest with
    | [] => if wholePairs false s then .ok result else .error ⟨.halfPair, s.length⟩
    | rest => .error ⟨.extraData, rest.length⟩

/-- A place in a text. -/
structure Position where
  /-- The line, from one. -/
  line : Nat
  /-- The character of the line, from one. -/
  column : Nat
  /-- The character of the text, from zero. -/
  offset : Nat
deriving DecidableEq

/-- The place after these characters. -/
def Position.after (before : List Char) : Position where
  line := before.count '\n' + 1
  column := (before.reverse.takeWhile (· ≠ '\n')).length + 1
  offset := before.length

/-- The place that a fault blames in its text. -/
def Fault.position (fault : Fault) (s : List Char) : Position :=
  .after (s.take (s.length - fault.left))

/-- A fault with its place in the text. -/
structure Malformed where
  /-- The reason. -/
  reason : Fault.Reason
  /-- The place. -/
  position : Position
deriving DecidableEq

/-- The error message. -/
def Malformed.message (m : Malformed) : String :=
  if m.reason.isLimit then m.reason.words
  else
    s!"{m.reason.words}: line {m.position.line} column {m.position.column} (char {m.position.offset})"

/-- The value of some characters, or their fault. -/
def readChars (limits : Limits) (s : List Char) : Except Malformed Json :=
  (parseChars limits s).mapError fun fault => ⟨fault.reason, fault.position s⟩

/-- The value of a text within some limits.  A byte order mark at the start is a fault. -/
def parseWithin (limits : Limits) (text : String) : Except Malformed Json :=
  match text.toList with
  | '\ufeff' :: _ => .error ⟨.byteOrderMark, .after []⟩
  | s => readChars limits s

end Json
end Formwork
