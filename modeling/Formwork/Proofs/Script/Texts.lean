import Formwork.Proofs.Json.Content
import Formwork.Proofs.Json.Quotation
import Formwork.Proofs.Script.Regularity

/-!
# User text in scripts

User text is emitted in two ways.  As a string literal (`script_string`) it is unchanged: `IsLiteral` states the
properties of a literal for any reader, every text has such a literal, and no two texts share one
(`literals_faithful`).  In a note (`_comment_text`) it is put on one line, as `onOneLine_flattens_boundaries` states.
-/
namespace Formwork
namespace Script

/-! ### Literals -/

/-- The characters are a string literal of the text. -/
structure IsLiteral (s : List Char) (text : String) : Prop where
  /-- It is enclosed in quotation marks.  Between them there is no control character, and every quotation mark is
  escaped. -/
  enclosed : ∃ body, s = '"' :: (body ++ ['"']) ∧ (∀ c ∈ body, 0x20 ≤ c.toNat) ∧
    ∀ before after, body = before ++ '"' :: after → Json.Escaped before
  /-- Scanning behind the opening mark yields the text, and ends at the closing mark. -/
  read : ∀ rest, Json.stringBody (s ++ rest) (s.tail ++ rest) = .ok (text.toList, rest)
  /-- As a JSON document it denotes the text, within any limits. -/
  denotes : ∀ limits, Json.parseWithin limits (String.ofList s) = .ok (.str text)

/-- No characters are a literal of two texts. -/
theorem IsLiteral.unique {s : List Char} {a b : String} (ha : IsLiteral s a) (hb : IsLiteral s b) :
    a = b := by
  have hread := (ha.denotes default).symm.trans (hb.denotes default)
  exact Json.str.inj (Except.ok.inj hread)

theorem stringBody_literal (text : String) (opening rest : List Char) :
    Json.stringBody opening ((literal text).tail ++ rest) = .ok (text.toList, rest) := by
  rw [literal, Json.quoted, List.tail_cons, List.append_assoc]
  exact Json.stringBody_quoted Json.spells_plainChar text.toList

theorem parseWithin_literal (text : String) (limits : Json.Limits) :
    Json.parseWithin limits (String.ofList (literal text)) = .ok (.str text) := by
  have hbody : Json.stringBody (literal text) (literal text).tail = .ok (text.toList, []) := by
    have hread := stringBody_literal text (literal text) []
    rwa [List.append_nil] at hread
  have hstep : Json.ValueStep (2 * (literal text).length) limits (literal text)
      (.str (.ofList text.toList)) [] := .quoted hbody
  rw [String.ofList_toList] at hstep
  have hpairs : Json.wholePairs false (literal text) = true := by
    have hclosed := Json.closed_quoted Json.spells_plainChar text.toList []
    rwa [List.append_nil] at hclosed
  rw [Json.parseWithin_eq_ok, String.toList_ofList]
  -- the first character is the quotation mark: no mark of the byte order, and no blank
  exact ⟨fun _ => nofun, hpairs, [], hstep.value_eq, rfl⟩

theorem isLiteral_literal (text : String) : IsLiteral (literal text) text where
  enclosed := ⟨text.toList.flatMap Json.plainChar, rfl,
    Json.visible_flatMap Json.spells_plainChar text.toList,
    fun _ _ => Json.escaped_of_quote Json.spells_plainChar text.toList⟩
  read rest := stringBody_literal text (literal text ++ rest) rest
  denotes := parseWithin_literal text

/-- **`script_string` emits a literal of the text**, the empty text for `None`, and is injective. -/
theorem literals_faithful :
    (∀ text : Option String, IsLiteral (optionalLiteral text) (text.getD "")) ∧
      Function.Injective fun text : String => optionalLiteral (some text) := by
  refine ⟨fun text => isLiteral_literal (text.getD ""), fun a b h => ?_⟩
  have hshared : IsLiteral (literal b) a := by
    have hsame : literal a = literal b := h
    rw [← hsame]
    exact isLiteral_literal a
  exact hshared.unique (isLiteral_literal b)

/-! ### Notes -/

/-- **`_comment_text` replaces each line boundary by one space**, drops one at the end, and changes nothing else.
No character of the result is a line boundary or a line terminator; all other characters are kept in order; and a
second application changes nothing. -/
theorem onOneLine_flattens_boundaries (text : String) :
    (∀ t : String, Text.Flattens text.toList t.toList ↔ t = Text.onOneLine text) ∧
      (∀ c ∈ (Text.onOneLine text).toList, c ∉ Text.boundaries) ∧
      OneLine (Text.onOneLine text) ∧
      (text.toList.filter (· ∉ Text.boundaries)).Sublist (Text.onOneLine text).toList ∧
      Text.onOneLine (Text.onOneLine text) = Text.onOneLine text := by
  have hboundary := Text.notMem_boundaries_of_mem_onOneLine text
  have hflat : Text.Flattens text.toList (Text.onOneLine text).toList :=
    (Text.flattens_onOneLine text).mpr rfl
  refine ⟨fun t => ?_, hboundary, oneLine_onOneLine text, hflat.sublist,
    Text.onOneLine_eq_self_iff.mpr hboundary⟩
  rw [Text.flattens_onOneLine, String.toList_inj]

end Script
end Formwork
