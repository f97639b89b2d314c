import Formwork.Proofs.Json.Quotation
import Formwork.Script.Code

/-!
# The tokens of a text

The lexical rules of the language, as far as scripts need them, stated independently of how scripts are emitted.
`Script.scan` reads a text one character at a time; its state (`Mode`) is what the characters since the last finished
token may still become.

* A line comment ends in front of a line feed, a carriage return, U+2028 or U+2029; a block comment ends at the first
  `*/`.
* A string literal ends at the quotation mark that opened it.  A line feed or a carriage return inside it is an error;
  U+2028 and U+2029 are not.  A backslash escapes the next character.
* Words and numerals are as long as possible, and no word starts right behind a numeral.

What scripts do not contain is refused: marks other than the five signs and the brackets, longer operators that begin
like a sign, numerals with a fraction or a leading zero, and non-ASCII characters outside of comments and string
literals.  So an accepted text has exactly the tokens that the language gives it; an unterminated comment or string
literal is refused as well.

`Reads s ts rest` states that `s` is scanned as `ts` in front of `rest`; two such pieces compose only where no token
runs across their border.
-/
namespace Formwork
namespace Script

/-- The bracket types. -/
inductive Bracket
  | round
  | square
  | curly
deriving DecidableEq

/-- The bracket types. -/
def Bracket.all : List Bracket := [round, square, curly]

/-- The other punctuation. -/
inductive Sign
  | dot
  | comma
  | semicolon
  | plus
  | equals
deriving DecidableEq

/-- The signs. -/
def Sign.all : List Sign := [dot, comma, semicolon, plus, equals]

/-- A token.  String literals carry their values. -/
inductive Token
  | word (name : String)
  | number (value : Nat)
  | text (value : String)
  | opens (bracket : Bracket)
  | closes (bracket : Bracket)
  | sign (s : Sign)
  | comment (body : String)
deriving DecidableEq

/-- The opening bracket. -/
def Bracket.left : Bracket → Char
  | round => '('
  | square => '['
  | curly => '\x7b'

/-- The closing bracket. -/
def Bracket.right : Bracket → Char
  | round => ')'
  | square => ']'
  | curly => '\x7d'

/-- The character of a sign. -/
def Sign.char : Sign → Char
  | dot => '.'
  | comma => ','
  | semicolon => ';'
  | plus => '+'
  | equals => '='

/-- The next character would make another token of the sign. -/
def Sign.extendedBy : Sign → Char → Bool
  | dot, c => c = '.' || c.isDigit
  | plus, c => c = '+' || c = '='
  | equals, c => c = '=' || c = '>'
  | _, _ => false

/-- A line terminator. -/
def isLineEnd (c : Char) : Bool := c = '\n' || c = '\r' || c = '\u2028' || c = '\u2029'

/-- White space. -/
def isGap (c : Char) : Bool :=
  let n := c.toNat
  isLineEnd c || n = 0x09 || n = 0x0b || n = 0x0c || n = 0x20 || n = 0xa0 || n = 0x1680
    || (0x2000 ≤ n && n ≤ 0x200a) || n = 0x202f || n = 0x205f || n = 0x3000 || n = 0xfeff

/-- A character that can start a word. -/
def isWordStart (c : Char) : Bool := c.isAlpha || c = '$' || c = '_'

/-- A character that can continue a word. -/
def isWordPart (c : Char) : Bool := isWordStart c || c.isDigit

/-- The character that is denoted by a letter behind a backslash. -/
def unescaped : Char → Char
  | 'n' => '\n'
  | 't' => '\t'
  | 'r' => '\r'
  | 'b' => '\x08'
  | 'f' => '\x0c'
  | 'v' => '\x0b'
  | c => c

/-- What the characters since the last finished token may become. -/
inductive Mode
  | between
  /-- Behind a sign. -/
  | behind (s : Sign)
  | word (name : List Char)
  | numeral (value : Nat)
  /-- Behind the slash that opens a comment. -/
  | slash
  | lineComment (body : List Char)
  | blockComment (body : List Char)
  | quoted (mark : Char) (value : List Char)
  /-- Behind a backslash in a string literal. -/
  | escape (mark : Char) (value : List Char)
  /-- In a numbered escape, with so many more digits to come behind the next one. -/
  | code (mark : Char) (value : List Char) (more unit : Nat)
deriving DecidableEq

namespace Mode

/-- The tokens and the mode of a character between tokens. -/
def start (c : Char) : Option (List Token × Mode) :=
  if isWordStart c then some ([], word [c])
  else if c.isDigit then some ([], numeral (c.toNat - 48))
  else if isGap c then some ([], between)
  else if c = '"' ∨ c = '\'' then some ([], quoted c [])
  else if c = '/' then some ([], slash)
  else match Bracket.all.find? (·.left = c), Bracket.all.find? (·.right = c) with
    | some bracket, _ => some ([.opens bracket], between)
    | none, some bracket => some ([.closes bracket], between)
    | none, none => (Sign.all.find? (·.char = c)).map fun s => ([.sign s], behind s)

/-- A finished token in front of that. -/
def finishing (token : Token) (c : Char) : Option (List Token × Mode) :=
  (start c).map fun (tokens, mode) => (token :: tokens, mode)

/-- The string literal with one more character, by its number.  Half surrogate pairs are refused. -/
def withUnit (mark : Char) (value : List Char) (unit : Nat) : Option (List Token × Mode) :=
  if unit < 0xd800 ∨ 0xdfff < unit then some ([], quoted mark (value ++ [Char.ofNat unit]))
  else none

/-- The tokens that a character finishes, and the mode after it. -/
def step : Mode → Char → Option (List Token × Mode)
  | between, c => start c
  | behind s, c => if s.extendedBy c then none else start c
  | word name, c =>
    if isWordPart c then some ([], word (name ++ [c]))
    else finishing (.word (String.ofList name)) c
  | numeral value, c =>
    if c.isDigit then
      if value = 0 then none else some ([], numeral (10 * value + (c.toNat - 48)))
    else if isWordPart c || c = '.' then none
    else finishing (.number value) c
  | slash, c =>
    if c = '/' then some ([], lineComment [])
    else if c = '*' then some ([], blockComment [])
    else none
  | lineComment body, c =>
    if isLineEnd c then some ([.comment (String.ofList body)], between)
    else some ([], lineComment (body ++ [c]))
  | blockComment body, c =>
    if c = '/' ∧ body.getLast? = some '*' then
      some ([.comment (String.ofList body.dropLast)], between)
    else some ([], blockComment (body ++ [c]))
  | quoted mark value, c =>
    if c = mark then some ([.text (String.ofList value)], between)
    else if c = '\\' then some ([], escape mark value)
    else if c = '\n' ∨ c = '\r' then none
    else some ([], quoted mark (value ++ [c]))
  | escape mark value, c =>
    if isLineEnd c then some ([], quoted mark value)
    else if c = 'x' then some ([], code mark value 1 0)
    else if c = 'u' then some ([], code mark value 3 0)
    else if c.isDigit then none
    else some ([], quoted mark (value ++ [unescaped c]))
  | code mark value more unit, c =>
    match Text.hexValue? c with
    | none => none
    | some digit =>
      match more with
      | 0 => withUnit mark value (16 * unit + digit)
      | more + 1 => some ([], code mark value more (16 * unit + digit))

/-- The tokens that the end of the text finishes. -/
def finish : Mode → Option (List Token)
  | between | behind _ => some []
  | word name => some [.word (String.ofList name)]
  | numeral value => some [.number value]
  | lineComment body => some [.comment (String.ofList body)]
  | slash | blockComment _ | quoted .. | escape .. | code .. => none

end Mode

/-- The tokens of a text from this mode on. -/
def scan : Mode → List Char → Option (List Token)
  | mode, [] => mode.finish
  | mode, c :: rest =>
    match mode.step c with
    | none => none
    | some (tokens, next) => (scan next rest).map (tokens ++ ·)

/-- The tokens of a text, comments included; none if it breaks the lexical rules. -/
def lex (text : String) : Option (List Token) := scan .between text.toList

/-! ### Scanning a piece of a text -/

/-- `s` is scanned as these tokens in front of `rest`. -/
def Reads (s : List Char) (ts : List Token) (rest : List Char) : Prop :=
  scan .between (s ++ rest) = (scan .between rest).map (ts ++ ·)

variable {s t rest : List Char} {ts us : List Token}

theorem Reads.append (hs : Reads s ts (t ++ rest)) (ht : Reads t us rest) :
    Reads (s ++ t) (ts ++ us) rest := by
  unfold Reads at *
  rw [List.append_assoc, hs, ht, Option.map_map]
  simp [Function.comp_def]

theorem reads_nil : Reads [] [] rest := by simp [Reads]

/-- Scanning continues behind a character after which no token is open. -/
theorem scan_cons_between {c : Char} {mode : Mode} (h : mode.step c = some (ts, .between)) :
    scan mode (c :: rest) = (scan .between rest).map (ts ++ ·) := by
  rw [scan, h]

/-- Scanning continues behind a character that finishes no token. -/
theorem scan_cons_next {c : Char} {mode next : Mode} (h : mode.step c = some ([], next)) :
    scan mode (c :: rest) = scan next rest := by
  rw [scan, h]
  simp

/-! #### White space and punctuation -/

theorem reads_gap {c : Char} (hc : Mode.start c = some ([], .between)) (h : Reads s ts rest) :
    Reads (c :: s) ts rest := by
  rw [Reads, List.cons_append, scan_cons_next (show Mode.between.step c = _ from hc)]
  exact h

theorem reads_newline (h : Reads s ts rest) : Reads ('\n' :: s) ts rest := reads_gap (by decide) h

theorem reads_space (h : Reads s ts rest) : Reads (' ' :: s) ts rest := reads_gap (by decide) h

theorem reads_margin (depth : Nat) (h : Reads s ts rest) : Reads (margin depth ++ s) ts rest := by
  unfold margin
  induction 2 * depth with
  | zero => exact h
  | succ n ih => exact reads_space ih

theorem reads_left (b : Bracket) (h : Reads s ts rest) :
    Reads (b.left :: s) (.opens b :: ts) rest := by
  have hstep : Mode.between.step b.left = some ([.opens b], .between) := by cases b <;> decide
  rw [Reads, List.cons_append, scan_cons_between hstep, h, Option.map_map]
  rfl

theorem reads_right (b : Bracket) (h : Reads s ts rest) :
    Reads (b.right :: s) (.closes b :: ts) rest := by
  have hstep : Mode.between.step b.right = some ([.closes b], .between) := by cases b <;> decide
  rw [Reads, List.cons_append, scan_cons_between hstep, h, Option.map_map]
  rfl

/-- A sign is a token unless the next character extends it. -/
theorem reads_sign (g : Sign) (hnext : ∀ c ∈ (s ++ rest).head?, g.extendedBy c = false)
    (h : Reads s ts rest) : Reads (g.char :: s) (.sign g :: ts) rest := by
  have hstep : Mode.between.step g.char = some ([.sign g], .behind g) := by cases g <;> decide
  have hbehind : scan (.behind g) (s ++ rest) = scan .between (s ++ rest) := by
    cases hs : s ++ rest with
    | nil => rfl
    | cons c more =>
      have hc : g.extendedBy c = false := hnext c (by simp [hs])
      simp [scan, Mode.step, hc]
  rw [Reads, List.cons_append, scan, hstep]
  simp only
  rw [hbehind, h, Option.map_map]
  rfl

/-! #### Words and numerals -/

/-- A text that is one word. -/
def isWord (name : String) : Bool :=
  match name.toList with
  | [] => false
  | c :: more => isWordStart c && more.all isWordPart

theorem isWord_cases {name : String} (h : isWord name = true) :
    ∃ c more, name.toList = c :: more ∧ isWordStart c = true ∧
      ∀ d ∈ more, isWordPart d = true := by
  unfold isWord at h
  split at h
  · cases h
  · rename_i c more hlist
    obtain ⟨hc, hmore⟩ := Bool.and_eq_true_iff.mp h
    exact ⟨c, more, hlist, hc, List.all_eq_true.mp hmore⟩

/-- The text that follows does not continue a word. -/
def Stops (rest : List Char) : Prop := ∀ c ∈ rest.head?, isWordPart c = false

theorem isDigit_eq_false_of_isWordStart {c : Char} (h : isWordStart c = true) :
    c.isDigit = false := by
  rcases Bool.or_eq_true_iff.mp h with h | h
  · rcases Bool.or_eq_true_iff.mp h with h | h
    · have hletter : (c.isUpper || c.isLower) = true := h
      unfold Char.isUpper Char.isLower at hletter
      unfold Char.isDigit
      grind
    · rw [of_decide_eq_true h]; decide
  · rw [of_decide_eq_true h]; decide

theorem Mode.start_of_isWordStart {c : Char} (h : isWordStart c = true) :
    Mode.start c = some ([], .word [c]) := by
  rw [Mode.start, if_pos h]

theorem Mode.start_of_isDigit {c : Char} (hw : isWordStart c = false) (hd : c.isDigit = true) :
    Mode.start c = some ([], .numeral (c.toNat - 48)) := by
  rw [Mode.start, if_neg (by simp [hw]), if_pos hd]

/-- A token finished in front of a text is its first token. -/
theorem scan_finishing {mode : Mode} {token : Token} (hend : mode.finish = some [token])
    (hstep : ∀ c ∈ rest.head?, mode.step c = Mode.finishing token c) :
    scan mode rest = (scan .between rest).map (token :: ·) := by
  cases rest with
  | nil => rw [scan, hend]; rfl
  | cons c more =>
    rw [scan, scan, hstep c rfl, Mode.finishing, Mode.step]
    cases Mode.start c with
    | none => rfl
    | some result =>
      simp [Function.comp_def]

theorem scan_word_part (h : ∀ c ∈ s, isWordPart c = true) (name : List Char) :
    scan (.word name) (s ++ rest) = scan (.word (name ++ s)) rest := by
  induction s generalizing name with
  | nil => simp
  | cons c s ih =>
    have hstep : (Mode.word name).step c = some ([], .word (name ++ [c])) := by
      simp [Mode.step, h c (List.mem_cons_self ..)]
    rw [List.cons_append, scan_cons_next hstep, ih fun d hd => h d (List.mem_cons_of_mem _ hd),
      List.append_assoc]
    rfl

theorem reads_word {name : String} (hname : isWord name = true) (hrest : Stops rest) :
    Reads name.toList [.word name] rest := by
  obtain ⟨c, more, hlist, hc, hmore⟩ := isWord_cases hname
  have hstart : Mode.between.step c = some ([], .word [c]) := Mode.start_of_isWordStart hc
  have hword : String.ofList (c :: more) = name := by rw [← hlist, String.ofList_toList]
  rw [Reads, hlist, List.cons_append, scan_cons_next hstart, scan_word_part hmore]
  refine scan_finishing (by simp [Mode.finish, hword]) fun d hd => ?_
  simp [Mode.step, hrest d hd, hword]

/-- The digits of a number leave the scanner inside the numeral. -/
theorem scan_digits (n : Nat) (rest : List Char) :
    scan .between (Nat.toDigits 10 n ++ rest) = scan (.numeral n) rest := by
  induction n using Nat.strongRecOn generalizing rest with
  | ind n ih =>
    have hdigit : ∀ d < 10, d.digitChar.isDigit = true ∧ d.digitChar.toNat - 48 = d ∧
        isWordStart d.digitChar = false := by decide
    -- the numeral of n / 10 comes first, then the last digit
    rcases Nat.lt_or_ge n 10 with hn | hn
    · obtain ⟨hd, hvalue, hstart⟩ := hdigit n hn
      have hstep : Mode.between.step n.digitChar = some ([], .numeral n) := by
        rw [Mode.step, Mode.start_of_isDigit hstart hd, hvalue]
      rw [Nat.toDigits_of_lt_base hn, List.cons_append, scan_cons_next hstep, List.nil_append]
    · obtain ⟨hd, hvalue, -⟩ := hdigit (n % 10) (Nat.mod_lt n (by decide))
      have hstep : (Mode.numeral (n / 10)).step (n % 10).digitChar = some ([], .numeral n) := by
        have hpos : n / 10 ≠ 0 := by omega
        have hn : 10 * (n / 10) + n % 10 = n := by omega
        simp [Mode.step, hd, hvalue, hpos, hn]
      rw [Nat.toDigits_of_base_le (by decide) hn, List.append_assoc, ih (n / 10) (by omega),
        List.cons_append, scan_cons_next hstep, List.nil_append]

theorem reads_number (n : Nat) (hrest : Stops rest) (hdot : ∀ c ∈ rest.head?, c ≠ '.') :
    Reads (Nat.toDigits 10 n) [.number n] rest := by
  rw [Reads, scan_digits]
  refine scan_finishing rfl fun c hc => ?_
  have hpart := hrest c hc
  have hdigit : c.isDigit = false := (Bool.or_eq_false_iff.mp hpart).2
  simp [Mode.step, hpart, hdigit, hdot c hc]

/-! #### String literals -/

/-- A numbered escape of a whole character is scanned as that character. -/
theorem scan_numbered (mark : Char) (value : List Char) {unit : Nat} (h : unit < 0xd800)
    (hmark : mark ≠ '\\') :
    scan (.quoted mark value) (Json.numbered unit ++ rest) =
      scan (.quoted mark (value ++ [Char.ofNat unit])) rest := by
  have hslash : (Mode.quoted mark value).step '\\' = some ([], .escape mark value) := by
    simp [Mode.step, hmark.symm]
  have hu : (Mode.escape mark value).step 'u' = some ([], .code mark value 3 0) := by
    simp [Mode.step, isLineEnd]
  have hdigit : ∀ n more sofar, (Mode.code mark value (more + 1) sofar).step (Json.hexDigit n) =
      some ([], .code mark value more (16 * sofar + n % 16)) := by
    intro n more sofar
    simp [Mode.step, Json.hexValue?_hexDigit]
  have hlast : ∀ sofar, 16 * sofar + unit % 16 = unit →
      (Mode.code mark value 0 sofar).step (Json.hexDigit unit) =
        some ([], .quoted mark (value ++ [Char.ofNat unit])) := by
    intro sofar hunit
    simp [Mode.step, Json.hexValue?_hexDigit, hunit, Mode.withUnit, h]
  -- the fourth digit is the one that makes the character
  simp only [Json.numbered, List.cons_append, List.nil_append]
  rw [scan_cons_next hslash, scan_cons_next hu, scan_cons_next (hdigit _ _ _),
    scan_cons_next (hdigit _ _ _), scan_cons_next (hdigit _ _ _),
    scan_cons_next (hlast _ (by omega))]

theorem scan_shortEscape (value : List Char) {c letter : Char}
    (h : Json.shortEscape? c = some letter) :
    scan (.quoted '"' value) ('\\' :: letter :: rest) =
      scan (.quoted '"' (value ++ [c])) rest := by
  have hslash : (Mode.quoted '"' value).step '\\' = some ([], .escape '"' value) := by
    simp [Mode.step]
  have hletter : (Mode.escape '"' value).step letter = some ([], .quoted '"' (value ++ [c])) := by
    unfold Json.shortEscape? at h
    split at h <;> cases h <;> simp [Mode.step, isLineEnd, unescaped]
  rw [scan_cons_next hslash, scan_cons_next hletter]

/-- Every character is scanned from its spelling inside quotation marks. -/
theorem scan_plainChar (value : List Char) (c : Char) :
    scan (.quoted '"' value) (Json.plainChar c ++ rest) =
      scan (.quoted '"' (value ++ [c])) rest := by
  unfold Json.plainChar
  split
  -- a short escape, a control character by its number, or the character itself
  · rename_i letter hletter
    exact scan_shortEscape value hletter
  · rename_i hshort
    split
    · rename_i hlow
      have h : scan (.quoted '"' value) (Json.numbered c.toNat ++ rest) = _ :=
        scan_numbered '"' value (by omega) (by decide)
      rwa [Char.ofNat_toNat] at h
    · have hne : c ≠ '"' ∧ c ≠ '\\' ∧ c ≠ '\n' ∧ c ≠ '\r' := by
        refine ⟨?_, ?_, ?_, ?_⟩ <;> (rintro rfl; exact absurd hshort (by decide))
      have hstep : (Mode.quoted '"' value).step c = some ([], .quoted '"' (value ++ [c])) := by
        simp [Mode.step, hne]
      rw [List.cons_append, scan_cons_next hstep, List.nil_append]

theorem scan_plainChars (s value : List Char) :
    scan (.quoted '"' value) (s.flatMap Json.plainChar ++ rest) =
      scan (.quoted '"' (value ++ s)) rest := by
  induction s generalizing value with
  | nil => simp
  | cons c s ih =>
    rw [List.flatMap_cons, List.append_assoc, scan_plainChar, ih, List.append_assoc]
    rfl

/-- **A literal is one token with the text as its value**, for every text and whatever follows. -/
theorem reads_literal (text : String) : Reads (literal text) [.text text] rest := by
  have hopen : Mode.between.step '"' = some ([], .quoted '"' []) := by decide
  have hclose : (Mode.quoted '"' text.toList).step '"' = some ([.text text], .between) := by
    simp [Mode.step]
  rw [Reads, literal, Json.quoted, List.cons_append, scan_cons_next hopen, List.append_assoc,
    scan_plainChars, List.nil_append, List.cons_append, scan_cons_between hclose]
  rfl

theorem reads_colon : Reads "': '".toList [.text ": "] rest := by
  have hclose : (Mode.quoted '\'' [':', ' ']).step '\'' = some ([.text ": "], .between) := by
    decide
  have hopen : Mode.between.step '\'' = some ([], .quoted '\'' []) := by decide
  have hcolon : (Mode.quoted '\'' []).step ':' = some ([], .quoted '\'' [':']) := by decide
  have hspace : (Mode.quoted '\'' [':']).step ' ' = some ([], .quoted '\'' [':', ' ']) := by
    decide
  have hlist : "': '".toList = ['\'', ':', ' ', '\''] := by decide
  rw [Reads, hlist]
  simp only [List.cons_append, List.nil_append]
  rw [scan_cons_next hopen, scan_cons_next hcolon, scan_cons_next hspace,
    scan_cons_between hclose]
  rfl

/-! #### Comments -/

theorem scan_lineComment (h : ∀ c ∈ s, isLineEnd c = false) (body : List Char) :
    scan (.lineComment body) (s ++ rest) = scan (.lineComment (body ++ s)) rest := by
  induction s generalizing body with
  | nil => simp
  | cons c s ih =>
    have hstep : (Mode.lineComment body).step c = some ([], .lineComment (body ++ [c])) := by
      simp [Mode.step, h c (List.mem_cons_self ..)]
    rw [List.cons_append, scan_cons_next hstep, ih fun d hd => h d (List.mem_cons_of_mem _ hd),
      List.append_assoc]
    rfl

/-- A note on one line is one comment, which ends at the line feed behind it. -/
theorem reads_lineComment (h : ∀ c ∈ s, isLineEnd c = false) :
    Reads ('/' :: '/' :: (s ++ ['\n'])) [.comment (String.ofList s)] rest := by
  have hopen : Mode.between.step '/' = some ([], .slash) := by decide
  have hslash : Mode.slash.step '/' = some ([], .lineComment []) := by decide
  have hend : (Mode.lineComment s).step '\n' = some ([.comment (String.ofList s)], .between) := by
    simp [Mode.step, isLineEnd]
  rw [Reads, List.cons_append, List.cons_append, scan_cons_next hopen, scan_cons_next hslash,
    List.append_assoc, scan_lineComment h, List.nil_append, List.cons_append,
    scan_cons_between hend]
  rfl

theorem scan_blockComment (h : '/' ∉ s) (body : List Char) :
    scan (.blockComment body) (s ++ rest) = scan (.blockComment (body ++ s)) rest := by
  induction s generalizing body with
  | nil => simp
  | cons c s ih =>
    have hc : c ≠ '/' := fun hc => h (hc ▸ List.mem_cons_self ..)
    have hstep : (Mode.blockComment body).step c = some ([], .blockComment (body ++ [c])) := by
      simp [Mode.step, hc]
    rw [List.cons_append, scan_cons_next hstep, ih fun hs => h (List.mem_cons_of_mem _ hs),
      List.append_assoc]
    rfl

/-- A block comment without a slash inside ends at its closing mark. -/
theorem reads_blockComment (h : '/' ∉ s) :
    Reads ('/' :: '*' :: (s ++ ['*', '/'])) [.comment (String.ofList s)] rest := by
  have hopen : Mode.between.step '/' = some ([], .slash) := by decide
  have hslash : Mode.slash.step '*' = some ([], .blockComment []) := by decide
  have hstar : (Mode.blockComment s).step '*' = some ([], .blockComment (s ++ ['*'])) := by
    simp [Mode.step]
  have hend : (Mode.blockComment (s ++ ['*'])).step '/' =
      some ([.comment (String.ofList s)], .between) := by
    simp [Mode.step]
  rw [Reads, List.cons_append, List.cons_append, scan_cons_next hopen, scan_cons_next hslash,
    List.append_assoc, scan_blockComment h, List.nil_append, List.cons_append,
    scan_cons_next hstar, List.cons_append, scan_cons_between hend]
  rfl

end Script
end Formwork
