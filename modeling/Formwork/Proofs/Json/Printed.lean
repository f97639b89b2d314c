import Formwork.Proofs.Json.Number
import Formwork.Proofs.Json.Quotation
import Formwork.Proofs.Json.Tidy

/-!
# The characters of a printed value

The text of a value consists of spelled characters, which come from the strings in the value, and of bare ones:
punctuation, white space, digits and the letters of numbers and words (`Printed`).  A property of all bare characters
and of all spellings holds of the whole text.  Two uses: the text has no carriage return, so it is read from a file as
it was written; and it has no half surrogate pair.
-/
namespace Formwork
namespace Json

variable {p : Char → Prop} {c : Char} {s t : List Char} {layout : Layout} {depth : Nat}

/-- A sequence of spelled characters and of bare characters with this property. -/
inductive Printed (p : Char → Prop) : List Char → Prop
  | nil : Printed p []
  | bare {c : Char} {s : List Char} (h : p c) (more : Printed p s) : Printed p (c :: s)
  | spelled {c : Char} {piece s : List Char} (h : Spells c piece) (more : Printed p s) :
      Printed p (piece ++ s)

theorem Printed.append (hs : Printed p s) (ht : Printed p t) : Printed p (s ++ t) := by
  induction hs with
  | nil => exact ht
  | bare h _ ih => exact .bare h ih
  | spelled h _ ih =>
    rw [List.append_assoc]
    exact .spelled h ih

theorem printed_of_forall (h : ∀ c ∈ s, p c) : Printed p s := by
  induction s with
  | nil => exact .nil
  | cons c s ih =>
    obtain ⟨hc, hs⟩ := List.forall_mem_cons.mp h
    exact .bare hc (ih hs)

/-! ### Bare characters -/

/-- The bare characters other than digits. -/
def bareMarks : List Char :=
  ['"', '[', ']', '\x7b', '\x7d', ' ', '\n', '-', '+', '.',
    'e', 'n', 'u', 'l', 't', 'r', 'f', 'a', 's', 'N', 'I', 'i', 'y']

/-- A property of all bare characters. -/
structure IsBare (p : Char → Prop) : Prop where
  digit : ∀ c, isDigit c = true → p c
  mark : ∀ c ∈ bareMarks, p c

theorem isBare_ne_return : IsBare (· ≠ '\r') where
  digit := by
    rintro c hdigit rfl
    cases hdigit
  mark := by simp [bareMarks]

theorem isBare_ne_backslash : IsBare (· ≠ '\\') where
  digit := by
    rintro c hdigit rfl
    cases hdigit
  mark := by simp [bareMarks]

theorem IsBare.toDigits (hp : IsBare p) (n : Nat) : ∀ c ∈ Nat.toDigits 10 n, p c :=
  fun c hc => hp.digit c (isDigit_of_mem_toDigits hc)

theorem IsBare.zeros (hp : IsBare p) (count : Nat) : ∀ c ∈ Binary64.zeros count, p c :=
  fun c hc => hp.digit c (isDigit_of_mem_zeros hc)

theorem IsBare.minus (hp : IsBare p) (negative : Bool) : ∀ c ∈ if negative then ['-'] else [], p c := by
  cases negative with
  | true => exact List.forall_mem_singleton.mpr (hp.mark _ (by decide))
  | false => exact List.forall_mem_nil _

theorem IsBare.integer (hp : IsBare p) (n : Int) : ∀ c ∈ integer n, p c := by
  rw [integer_eq]
  exact List.forall_mem_append.mpr ⟨hp.minus _, hp.toDigits _⟩

theorem IsBare.decimal (hp : IsBare p) (d : Decimal) : ∀ c ∈ Binary64.layout d, p c := by
  have hdigits := hp.toDigits d.digits
  have htake : ∀ count, ∀ c ∈ (Nat.toDigits 10 d.digits).take count, p c :=
    fun count c hc => hdigits c (List.mem_of_mem_take hc)
  have hdrop : ∀ count, ∀ c ∈ (Nat.toDigits 10 d.digits).drop count, p c :=
    fun count c hc => hdigits c (List.mem_of_mem_drop hc)
  have hzero : p '0' := hp.digit _ rfl
  have hpoint : p '.' := hp.mark _ (by decide)
  have hsign : ∀ exponent : Int, p (if exponent < 0 then '-' else '+') := by
    intro exponent
    split
    · exact hp.mark _ (by decide)
    · exact hp.mark _ (by decide)
  have hfraction : ∀ c ∈ (if (Nat.toDigits 10 d.digits).length = 1 then []
      else '.' :: (Nat.toDigits 10 d.digits).drop 1), p c := by
    split
    · exact List.forall_mem_nil _
    · exact List.forall_mem_cons.mpr ⟨hpoint, hdrop 1⟩
  unfold Binary64.layout
  simp only
  split
  · simp only [List.forall_mem_cons, List.forall_mem_append]
    exact ⟨hzero, hpoint, hp.zeros _, hdigits⟩
  split
  · split
    · simp only [List.forall_mem_cons, List.forall_mem_append]
      exact ⟨htake _, hpoint, hdrop _⟩
    · simp only [List.forall_mem_append]
      exact ⟨⟨hdigits, hp.zeros _⟩, List.forall_mem_cons.mpr ⟨hpoint, List.forall_mem_singleton.mpr hzero⟩⟩
  · simp only [List.forall_mem_cons, List.forall_mem_append]
    exact ⟨⟨htake 1, hfraction⟩, hp.mark _ (by decide), hsign _, hp.zeros _, hp.toDigits _⟩

theorem IsBare.text (hp : IsBare p) (x : Binary64) : ∀ c ∈ x.text .json, p c := by
  have hword : ∀ word : List Char, (∀ c ∈ word, c ∈ bareMarks) → ∀ c ∈ word, p c :=
    fun word h c hc => hp.mark c (h c hc)
  cases x with
  | nan => exact hword "NaN".toList (by simp [bareMarks])
  | infinite negative =>
    exact List.forall_mem_append.mpr ⟨hp.minus negative, hword "Infinity".toList (by simp [bareMarks])⟩
  | finite negative x =>
    refine List.forall_mem_append.mpr ⟨hp.minus negative, ?_⟩
    split
    · exact List.forall_mem_cons.mpr ⟨hp.digit _ rfl, List.forall_mem_cons.mpr
        ⟨hp.mark _ (by decide), List.forall_mem_singleton.mpr (hp.digit _ rfl)⟩⟩
    · exact hp.decimal _

theorem IsBare.lineBreak (hp : IsBare p) (layout : Layout) (depth : Nat) :
    ∀ c ∈ layout.lineBreak depth, p c := by
  unfold Layout.lineBreak
  split
  · refine List.forall_mem_cons.mpr ⟨hp.mark _ (by decide), fun c hc => ?_⟩
    rw [List.eq_of_mem_replicate hc]
    exact hp.mark _ (by decide)
  · exact List.forall_mem_nil _

/-! ### Values -/

theorem IsBare.printed_quoted (hp : IsBare p) (text : List Char) : Printed p (quoted asciiChar text) := by
  have hquote : p '"' := hp.mark _ (by decide)
  have hbody : Printed p (text.flatMap asciiChar ++ ['"']) := by
    induction text with
    | nil => exact .bare hquote .nil
    | cons c text ih =>
      rw [List.flatMap_cons, List.append_assoc]
      exact .spelled (spells_asciiChar c) ih
  exact .bare hquote hbody

theorem IsBare.printed_renderItems (hp : IsBare p) (hcomma : ∀ c ∈ layout.comma, p c) {items : List Json}
    (h : ∀ item ∈ items, Printed p (render layout depth item)) :
    Printed p (renderItems layout depth items) := by
  induction items with
  | nil => exact .nil
  | cons item more ih =>
    obtain ⟨hitem, hmore⟩ := List.forall_mem_cons.mp h
    have hgap := (printed_of_forall hcomma).append (printed_of_forall (hp.lineBreak layout depth))
    exact (hgap.append hitem).append (ih hmore)

theorem IsBare.printed_renderFields (hp : IsBare p) (hcomma : ∀ c ∈ layout.comma, p c)
    (hcolon : ∀ c ∈ layout.colon, p c) {fields : Fields}
    (h : ∀ field ∈ fields, Printed p (render layout depth field.2)) :
    Printed p (renderFields layout depth fields) := by
  induction fields with
  | nil => exact .nil
  | cons field more ih =>
    obtain ⟨hfield, hmore⟩ := List.forall_mem_cons.mp h
    have hgap := (printed_of_forall hcomma).append (printed_of_forall (hp.lineBreak layout depth))
    have hname := (hp.printed_quoted field.1.toList).append (printed_of_forall hcolon)
    have hall := ((hgap.append hname).append hfield).append (ih hmore)
    simpa only [renderFields, List.append_assoc] using hall

/-- **The text of a value consists of spelled and bare characters**, if its separators are bare. -/
theorem IsBare.printed_render (hp : IsBare p) (hcomma : ∀ c ∈ layout.comma, p c)
    (hcolon : ∀ c ∈ layout.colon, p c) (v : Json) : ∀ depth, Printed p (render layout depth v) := by
  have hword : ∀ word : List Char, (∀ c ∈ word, c ∈ bareMarks) → Printed p word :=
    fun word h => printed_of_forall fun c hc => hp.mark c (h c hc)
  have hbreak : ∀ depth, Printed p (layout.lineBreak depth) := fun depth =>
    printed_of_forall (hp.lineBreak layout depth)
  induction v using induction with
  | null => exact fun _ => hword "null".toList (by simp [bareMarks])
  | bool value =>
    cases value with
    | true => exact fun _ => hword "true".toList (by simp [bareMarks])
    | false => exact fun _ => hword "false".toList (by simp [bareMarks])
  | int value => exact fun _ => printed_of_forall (hp.integer value)
  | float value => exact fun _ => printed_of_forall (hp.text value)
  | str text => exact fun _ => hp.printed_quoted text.toList
  | arr items ih =>
    intro depth
    rcases items with _ | ⟨item, more⟩
    · exact hword ['[', ']'] (by simp [bareMarks])
    · have hmore := hp.printed_renderItems hcomma fun item hitem =>
        (List.forall_mem_cons.mp ih).2 item hitem (depth + 1)
      have hfirst := (hbreak (depth + 1)).append (ih item List.mem_cons_self (depth + 1))
      exact .bare (hp.mark _ (by decide))
        (((hfirst.append hmore).append (hbreak depth)).append (hword [']'] (by simp [bareMarks])))
  | obj fields ih =>
    intro depth
    rcases fields with _ | ⟨⟨name, value⟩, more⟩
    · exact hword ['\x7b', '\x7d'] (by simp [bareMarks])
    · have hmore := hp.printed_renderFields hcomma hcolon fun field hfield =>
        (List.forall_mem_cons.mp ih).2 field hfield (depth + 1)
      have hname := ((hbreak (depth + 1)).append (hp.printed_quoted name.toList)).append
        (printed_of_forall hcolon)
      have hfirst := hname.append (ih _ List.mem_cons_self (depth + 1))
      exact .bare (hp.mark _ (by decide))
        (((hfirst.append hmore).append (hbreak depth)).append (hword ['\x7d'] (by simp [bareMarks])))

/-! ### Carriage returns and surrogate pairs -/

theorem Printed.notMem (h : Printed p s) (hbare : ¬ p c) (hcontrol : c.toNat < 0x20) : c ∉ s := by
  induction h with
  | nil => exact List.not_mem_nil
  | bare hd _ ih => exact fun hc => (List.mem_cons.mp hc).elim (fun heq => hbare (heq ▸ hd)) ih
  | spelled hspells _ ih =>
    exact fun hc => (List.mem_append.mp hc).elim
      (fun hc => absurd hcontrol (Nat.not_lt.mpr (hspells.visible c hc))) ih

/-- An indented text has no carriage returns. -/
theorem return_notMem_indented (v : Json) : '\r' ∉ (v.write .indented).toList := by
  rw [write, String.toList_ofList]
  have hprinted : Printed (· ≠ '\r') (render .indented 0 v) :=
    isBare_ne_return.printed_render (by simp [Layout.indented]) (by simp [Layout.indented]) v 0
  exact hprinted.notMem (fun h => h rfl) (by decide)

theorem Printed.closed (h : Printed (· ≠ '\\') s) : Closed s := by
  induction h with
  | nil => exact closed_nil
  | bare hc _ ih => exact (closed_singleton hc).append ih
  | spelled hspells _ ih => exact hspells.closed.append ih

/-- **The text of a value has no half surrogate pair.** -/
theorem wholePairs_render (hcomma : '\\' ∉ layout.comma) (hcolon : '\\' ∉ layout.colon) (v : Json) :
    wholePairs false (render layout depth v) = true := by
  have hbare : ∀ {s : List Char}, '\\' ∉ s → ∀ c ∈ s, c ≠ '\\' := fun hs c hc heq => hs (heq ▸ hc)
  have hclosed := (isBare_ne_backslash.printed_render (hbare hcomma) (hbare hcolon) v depth).closed []
  rwa [List.append_nil] at hclosed

end Json
end Formwork
