import Formwork.Proofs.Json.Content
import Formwork.Proofs.Json.Printed

/-!
# Round trip of JSON values

A value is read back from its text, with the duplicate keys of its objects merged (`denotes_write`).  Every part of a
value is read back in its place (`ReadsBack`), because white space is skipped and no part continues into what follows;
a reader with sufficient limits (`Within`) reads them all.
-/
namespace Formwork
namespace Json

variable {layout : Layout} {c : Char} {blanks rest s t : List Char} {limits farther : Limits}
  {fuel depth : Nat} {v : Json}

/-! ### Limits -/

/-- The value is within these limits of a reader or a writer. -/
inductive Within : Limits → Json → Prop
  | null {limits : Limits} : Within limits .null
  | bool {limits : Limits} (value : Bool) : Within limits (.bool value)
  | int {limits : Limits} {value : Int} (h : (Nat.toDigits 10 value.natAbs).length ≤ limits.digits) :
      Within limits (.int value)
  | float {limits : Limits} (value : Binary64) : Within limits (.float value)
  | str {limits : Limits} (value : String) : Within limits (.str value)
  | arr {levels digits : Nat} {items : List Json} (h : ∀ item ∈ items, Within ⟨levels, digits⟩ item) :
      Within ⟨levels + 1, digits⟩ (.arr items)
  | obj {levels digits : Nat} {fields : Fields}
      (h : ∀ field ∈ fields, Within ⟨levels, digits⟩ field.2) : Within ⟨levels + 1, digits⟩ (.obj fields)

theorem Within.mono (h : Within limits v) (hfarther : limits.Reaches farther) : Within farther v := by
  induction h generalizing farther with
  | null => exact .null
  | bool value => exact .bool value
  | int hdigits => exact .int (hdigits.trans hfarther.digits)
  | float value => exact .float value
  | str value => exact .str value
  | arr _ ih =>
    obtain ⟨_, _, rfl, hinner⟩ := hfarther.exists_succ
    exact .arr fun item hitem => ih item hitem hinner
  | obj _ ih =>
    obtain ⟨_, _, rfl, hinner⟩ := hfarther.exists_succ
    exact .obj fun field hfield => ih field hfield hinner

/-- Limits that suffice for each of some values have a maximum that suffices for all of them. -/
theorem exists_within_all {α : Type} (value : α → Json) {parts : List α}
    (h : ∀ part ∈ parts, ∃ limits, Within limits (value part)) :
    ∃ limits, ∀ part ∈ parts, Within limits (value part) := by
  induction parts with
  | nil => exact ⟨default, List.forall_mem_nil _⟩
  | cons part rest ih =>
    obtain ⟨hpart, hrest⟩ := List.forall_mem_cons.mp h
    obtain ⟨limits, hlimits⟩ := hpart
    obtain ⟨limits', hlimits'⟩ := ih hrest
    exact ⟨limits.join limits', List.forall_mem_cons.mpr
      ⟨hlimits.mono (limits.reaches_join_left limits'),
        fun other hother => (hlimits' other hother).mono (limits.reaches_join_right limits')⟩⟩

/-- Some limits suffice. -/
theorem exists_within (v : Json) : ∃ limits, Within limits v := by
  induction v using induction with
  | null => exact ⟨default, .null⟩
  | bool value => exact ⟨default, .bool value⟩
  | int value => exact ⟨⟨0, (Nat.toDigits 10 value.natAbs).length⟩, .int (Nat.le_refl _)⟩
  | float value => exact ⟨default, .float value⟩
  | str value => exact ⟨default, .str value⟩
  | arr items ih =>
    obtain ⟨⟨levels, digits⟩, hitems⟩ := exists_within_all id ih
    exact ⟨⟨levels + 1, digits⟩, .arr hitems⟩
  | obj fields ih =>
    obtain ⟨⟨levels, digits⟩, hfields⟩ := exists_within_all Prod.snd ih
    exact ⟨⟨levels + 1, digits⟩, .obj hfields⟩

/-! ### White space -/

/-- Commas and colons are followed by white space only. -/
structure Layout.Roomy (layout : Layout) : Prop where
  comma : ∃ blanks, layout.comma = ',' :: blanks ∧ ∀ c ∈ blanks, isBlank c = true
  colon : ∃ blanks, layout.colon = ':' :: blanks ∧ ∀ c ∈ blanks, isBlank c = true

theorem Layout.roomy_indented : Layout.indented.Roomy :=
  ⟨⟨[], rfl, List.forall_mem_nil _⟩, ⟨[' '], rfl, List.forall_mem_singleton.mpr rfl⟩⟩

theorem Layout.roomy_spaced : Layout.spaced.Roomy :=
  ⟨⟨[' '], rfl, List.forall_mem_singleton.mpr rfl⟩, ⟨[' '], rfl, List.forall_mem_singleton.mpr rfl⟩⟩

/-- The separators of such a layout have no backslash. -/
theorem Layout.Roomy.backslash_notMem (h : layout.Roomy) :
    '\\' ∉ layout.comma ∧ '\\' ∉ layout.colon := by
  have hblanks : ∀ {blanks : List Char}, (∀ c ∈ blanks, isBlank c = true) → '\\' ∉ blanks :=
    fun h hmem => Bool.false_ne_true (h _ hmem)
  obtain ⟨⟨_, hcomma, hafter⟩, _, hcolon, hbehind⟩ := h
  rw [hcomma, hcolon]
  exact ⟨List.not_mem_cons_of_ne_of_not_mem (by decide) (hblanks hafter),
    List.not_mem_cons_of_ne_of_not_mem (by decide) (hblanks hbehind)⟩

theorem isBlank_of_mem_lineBreak (h : c ∈ layout.lineBreak depth) : isBlank c = true := by
  unfold Layout.lineBreak at h
  split at h
  · rcases List.mem_cons.mp h with rfl | h
    · rfl
    · rw [List.eq_of_mem_replicate h]
      rfl
  · cases h

theorem skip_append (h : ∀ c ∈ blanks, isBlank c = true) (s : List Char) :
    skip (blanks ++ s) = skip s :=
  List.dropWhile_append_of_pos h

theorem skip_lineBreak (layout : Layout) (depth : Nat) (s : List Char) :
    skip (layout.lineBreak depth ++ s) = skip s :=
  skip_append (fun _ => isBlank_of_mem_lineBreak) s

theorem skip_cons (h : isBlank c = false) (s : List Char) : skip (c :: s) = c :: s :=
  List.dropWhile_cons_of_neg (by simp [h])

theorem closing_cons (h : c = ',' ∨ c = ']' ∨ c = '\x7d') (s : List Char) : Closing (c :: s) := by
  intro first hfirst
  obtain rfl := Option.some.inj hfirst
  exact Or.inr h

theorem closing_lineBreak (hrest : Closing rest) : Closing (layout.lineBreak depth ++ rest) := by
  cases hbreak : layout.lineBreak depth with
  | nil => exact hrest
  | cons c more =>
    intro first hfirst
    obtain rfl := Option.some.inj hfirst
    exact Or.inl (isBlank_of_mem_lineBreak (hbreak ▸ List.mem_cons_self))

/-- The text of a value does not begin with white space, a closing bracket or a byte order mark. -/
theorem exists_render (layout : Layout) (depth : Nat) (v : Json) :
    ∃ c t, render layout depth v = c :: t ∧ isBlank c = false ∧ c ∉ [']', '\ufeff'] := by
  have hatom : ∀ (limit : Nat) {result : Json × List Char},
      atom limit (render layout depth v ++ []) = .ok result →
      ∃ c t, render layout depth v = c :: t ∧ isBlank c = false ∧ c ∉ [']', '\ufeff'] := by
    intro limit result h
    rw [List.append_nil] at h
    obtain ⟨c, t, htext, hc⟩ := exists_of_atom h
    have hsubset : [']', '\ufeff'] ⊆ marks := by decide
    exact ⟨c, t, htext, isBlank_of_notMem_marks hc, fun hmem => hc (hsubset hmem)⟩
  match v with
  | .null => exact ⟨_, _, rfl, rfl, by decide⟩
  | .bool true => exact ⟨_, _, rfl, rfl, by decide⟩
  | .bool false => exact ⟨_, _, rfl, rfl, by decide⟩
  | .int n => exact hatom _ (atom_integer closing_nil (Nat.le_refl _))
  | .float x => exact hatom 0 (atom_number x closing_nil)
  | .str text => exact ⟨_, _, rfl, rfl, by decide⟩
  | .arr [] => exact ⟨_, _, rfl, rfl, by decide⟩
  | .arr (item :: more) => exact ⟨_, _, rfl, rfl, by decide⟩
  | .obj [] => exact ⟨_, _, rfl, rfl, by decide⟩
  | .obj ((name, item) :: more) => exact ⟨_, _, rfl, rfl, by decide⟩

theorem skip_render (layout : Layout) (depth : Nat) (v : Json) (s : List Char) :
    skip (render layout depth v ++ s) = render layout depth v ++ s := by
  obtain ⟨c, t, htext, hblank, -⟩ := exists_render layout depth v
  rw [htext, List.cons_append, skip_cons hblank]

theorem length_render_pos (layout : Layout) (depth : Nat) (v : Json) :
    0 < (render layout depth v).length := by
  obtain ⟨c, t, htext, -⟩ := exists_render layout depth v
  rw [htext]
  exact Nat.succ_pos _

/-! ### Parts of a text -/

/-- The value is read back from its text, with duplicate keys merged, in every context. -/
def ReadsBack (layout : Layout) (v : Json) : Prop :=
  ∀ depth fuel limits rest, 2 * (render layout depth v).length ≤ fuel → Within limits v →
    Closing rest → value fuel limits (render layout depth v ++ rest) = .ok (v.tidy, rest)

/-- What follows the items of an array. -/
def afterItems (layout : Layout) (depth : Nat) (rest : List Char) : List Char :=
  layout.lineBreak depth ++ ']' :: rest

/-- What follows the members of an object. -/
def afterFields (layout : Layout) (depth : Nat) (rest : List Char) : List Char :=
  layout.lineBreak depth ++ '\x7d' :: rest

/-- The next part is found behind a comma and white space. -/
theorem Layout.Roomy.skip_comma (hroomy : layout.Roomy) (depth : Nat) (s : List Char) :
    ∃ gap, (∀ s, skip (layout.comma ++ s) = ',' :: (gap ++ s)) ∧
      skip (gap ++ (layout.lineBreak depth ++ s)) = skip s := by
  obtain ⟨gap, hcomma, hgap⟩ := hroomy.comma
  refine ⟨gap, fun s => ?_, ?_⟩
  · rw [hcomma, List.cons_append, skip_cons rfl]
  · rw [skip_append hgap, skip_lineBreak]

theorem items_render (hroomy : layout.Roomy) (fuel depth outer : Nat) (rest : List Char) {item : Json}
    {more : List Json}
    (hreads : ∀ v ∈ item :: more, ReadsBack layout v) (hwithin : ∀ v ∈ item :: more, Within limits v)
    (hfuel : 2 * ((render layout depth item).length + (renderItems layout depth more).length) < fuel) :
    items fuel limits
        (render layout depth item ++ (renderItems layout depth more ++ afterItems layout outer rest)) =
      .ok (tidyItems (item :: more), rest) := by
  obtain ⟨fuel, rfl⟩ := Nat.exists_eq_add_of_lt (Nat.zero_lt_of_lt hfuel)
  rw [Nat.zero_add] at hfuel ⊢
  induction more generalizing item fuel with
  | nil =>
    have hvalue := hreads item List.mem_cons_self depth fuel limits (afterItems layout outer rest)
      (by simp only [renderItems, List.length_nil] at hfuel; omega) (hwithin item List.mem_cons_self)
      (closing_lineBreak (closing_cons (by decide) rest))
    have hend : skip (afterItems layout outer rest) = ']' :: rest := by
      rw [afterItems, skip_lineBreak, skip_cons rfl]
    exact (ItemsStep.last hvalue hend).items_eq
  | cons next more ih =>
    obtain ⟨gap, hcomma, hgap⟩ := hroomy.skip_comma depth
      (render layout depth next ++ (renderItems layout depth more ++ afterItems layout outer rest))
    obtain ⟨blanks, hlayout, -⟩ := hroomy.comma
    have htext : renderItems layout depth (next :: more) ++ afterItems layout outer rest =
        layout.comma ++ (layout.lineBreak depth ++ (render layout depth next ++
          (renderItems layout depth more ++ afterItems layout outer rest))) := by
      simp only [renderItems, List.append_assoc]
    have hlength : (renderItems layout depth (next :: more)).length = blanks.length + 1 +
        (layout.lineBreak depth).length + (render layout depth next).length +
          (renderItems layout depth more).length := by
      simp only [renderItems, hlayout, List.length_append, List.length_cons]
    obtain ⟨fuel, rfl⟩ : ∃ n, fuel = n + 1 := Nat.exists_eq_succ_of_ne_zero (by omega)
    have hvalue := hreads item List.mem_cons_self depth (fuel + 1) limits
      (renderItems layout depth (next :: more) ++ afterItems layout outer rest) (by omega)
      (hwithin item List.mem_cons_self)
      (by rw [htext, hlayout, List.cons_append]; exact closing_cons (by decide) _)
    have hmore := ih (List.forall_mem_cons.mp hreads).2 (List.forall_mem_cons.mp hwithin).2 fuel (by omega)
    rw [← skip_render, ← hgap] at hmore
    exact (ItemsStep.more hvalue (htext ▸ hcomma _) hmore).items_eq

/-- The text of a member. -/
def fieldText (layout : Layout) (depth : Nat) (field : String × Json) : List Char :=
  quoted asciiChar field.1.toList ++ layout.colon ++ render layout depth field.2

theorem skip_fieldText (layout : Layout) (depth : Nat) (field : String × Json) (s : List Char) :
    skip (fieldText layout depth field ++ s) = fieldText layout depth field ++ s :=
  skip_cons rfl _

theorem renderFields_cons (layout : Layout) (depth : Nat) (field : String × Json) (more : Fields) :
    renderFields layout depth (field :: more) =
      layout.comma ++ (layout.lineBreak depth ++
        (fieldText layout depth field ++ renderFields layout depth more)) := by
  simp only [renderFields, fieldText, List.append_assoc]

/-- A key is read up to its colon, and then its value is found. -/
theorem exists_member (hroomy : layout.Roomy) (depth : Nat) (field : String × Json) (after : List Char) :
    ∃ body t u, fieldText layout depth field ++ after = '"' :: body ∧
      stringBody ('"' :: body) body = .ok (field.1.toList, t) ∧ skip t = ':' :: u ∧
      skip u = render layout depth field.2 ++ after := by
  obtain ⟨gap, hcolon, hgap⟩ := hroomy.colon
  refine ⟨_, layout.colon ++ (render layout depth field.2 ++ after),
    gap ++ (render layout depth field.2 ++ after), ?_,
    stringBody_quoted spells_asciiChar field.1.toList, ?_, ?_⟩
  · simp only [fieldText, quoted, List.cons_append, List.append_assoc, List.nil_append]
  · rw [hcolon, List.cons_append, skip_cons rfl]
  · rw [skip_append hgap, skip_render]

theorem members_render (hroomy : layout.Roomy) (fuel depth outer : Nat) (rest : List Char)
    {field : String × Json} {more : Fields} (before : Fields)
    (hreads : ∀ other ∈ field :: more, ReadsBack layout other.2)
    (hwithin : ∀ other ∈ field :: more, Within limits other.2)
    (hfuel : 2 * ((fieldText layout depth field).length + (renderFields layout depth more).length) < fuel) :
    members fuel limits before
        (fieldText layout depth field ++ (renderFields layout depth more ++ afterFields layout outer rest)) =
      .ok (tidyFields before (field :: more), rest) := by
  obtain ⟨fuel, rfl⟩ := Nat.exists_eq_add_of_lt (Nat.zero_lt_of_lt hfuel)
  rw [Nat.zero_add] at hfuel ⊢
  have hless : ∀ field, (render layout depth field.2).length < (fieldText layout depth field).length := by
    intro field
    simp only [fieldText, quoted, List.length_append, List.length_cons]
    omega
  induction more generalizing field before fuel with
  | nil =>
    obtain ⟨body, t, u, htext, hname, hcolon, hskip⟩ :=
      exists_member hroomy depth field (renderFields layout depth [] ++ afterFields layout outer rest)
    have hvalue := hreads field List.mem_cons_self depth fuel limits (afterFields layout outer rest)
      (by have := hless field; omega) (hwithin field List.mem_cons_self)
      (closing_lineBreak (closing_cons (by decide) rest))
    have hend : skip (afterFields layout outer rest) = '\x7d' :: rest := by
      rw [afterFields, skip_lineBreak, skip_cons rfl]
    rw [htext, (MembersStep.last hname hcolon (hskip ▸ hvalue) hend).members_eq, String.ofList_toList]
    rfl
  | cons next more ih =>
    obtain ⟨body, t, u, htext, hname, hcolon, hskip⟩ := exists_member hroomy depth field
      (renderFields layout depth (next :: more) ++ afterFields layout outer rest)
    obtain ⟨gap, hcomma, hgap⟩ := hroomy.skip_comma depth (fieldText layout depth next
      ++ (renderFields layout depth more ++ afterFields layout outer rest))
    obtain ⟨blanks, hlayout, -⟩ := hroomy.comma
    have hmoretext : renderFields layout depth (next :: more) ++ afterFields layout outer rest =
        layout.comma ++ (layout.lineBreak depth ++ (fieldText layout depth next
          ++ (renderFields layout depth more ++ afterFields layout outer rest))) := by
      simp only [renderFields_cons, List.append_assoc]
    have hlength : (fieldText layout depth next).length + (renderFields layout depth more).length <
        (renderFields layout depth (next :: more)).length := by
      simp only [renderFields_cons, hlayout, List.length_append, List.length_cons]
      omega
    obtain ⟨fuel, rfl⟩ : ∃ n, fuel = n + 1 := Nat.exists_eq_succ_of_ne_zero (by omega)
    have hvalue := hreads field List.mem_cons_self depth (fuel + 1) limits
      (renderFields layout depth (next :: more) ++ afterFields layout outer rest)
      (by have := hless field; omega) (hwithin field List.mem_cons_self)
      (by rw [hmoretext, hlayout, List.cons_append]; exact closing_cons (by decide) _)
    have hmore := ih (before.set (.ofList field.1.toList) field.2.tidy)
      (List.forall_mem_cons.mp hreads).2 (List.forall_mem_cons.mp hwithin).2 fuel (by omega)
    rw [← skip_fieldText, ← hgap] at hmore
    rw [htext, (MembersStep.more hname hcolon (hskip ▸ hvalue) (hmoretext ▸ hcomma _) hmore).members_eq,
      String.ofList_toList]
    rfl

/-! ### Whole values -/

theorem readsBack_of_step
    (h : ∀ depth fuel limits rest, 2 * (render layout depth v).length ≤ fuel + 1 → Within limits v →
      Closing rest → ValueStep fuel limits (render layout depth v ++ rest) v.tidy rest) :
    ReadsBack layout v := by
  intro depth fuel limits rest hfuel hwithin hrest
  have hpos := length_render_pos layout depth v
  obtain ⟨fuel, rfl⟩ : ∃ n, fuel = n + 1 := Nat.exists_eq_succ_of_ne_zero (by omega)
  exact (h depth fuel limits rest hfuel hwithin hrest).value_eq

theorem readsBack_str (text : String) : ReadsBack layout (.str text) := by
  refine readsBack_of_step fun depth fuel limits rest _ _ _ => ?_
  have htext : render layout depth (.str text) ++ rest =
      '"' :: (text.toList.flatMap asciiChar ++ '"' :: rest) := by simp [render, quoted]
  have hstep : ValueStep fuel limits ('"' :: (text.toList.flatMap asciiChar ++ '"' :: rest))
      (.str (.ofList text.toList)) rest := .quoted (stringBody_quoted spells_asciiChar text.toList)
  rw [String.ofList_toList] at hstep
  rw [htext]
  exact hstep

theorem readsBack_arr (hroomy : layout.Roomy) {values : List Json}
    (h : ∀ item ∈ values, ReadsBack layout item) : ReadsBack layout (.arr values) := by
  refine readsBack_of_step fun depth fuel limits rest hfuel hwithin _ => ?_
  cases hwithin with
  | arr hitems =>
    rcases values with _ | ⟨item, more⟩
    · have hend : skip (']' :: rest) = ']' :: rest := skip_cons rfl rest
      exact .emptyArr hend
    · have htext : render layout depth (.arr (item :: more)) ++ rest =
          '[' :: (layout.lineBreak (depth + 1) ++ (render layout (depth + 1) item ++
            (renderItems layout (depth + 1) more ++ afterItems layout depth rest))) := by
        simp only [render, afterItems, List.cons_append, List.append_assoc, List.nil_append]
      have hlength : (render layout (depth + 1) item).length + (renderItems layout (depth + 1) more).length
          + 2 ≤ (render layout depth (.arr (item :: more))).length := by
        simp only [render, List.length_cons, List.length_append]
        omega
      have hread := items_render hroomy fuel (depth + 1) depth rest h hitems (by omega)
      obtain ⟨c, t, hfirst, -, hfree⟩ := exists_render layout (depth + 1) item
      rw [htext]
      refine .arr (fun after hclosed => ?_) ?_
      · rw [skip_lineBreak, skip_render, hfirst, List.cons_append] at hclosed
        rw [(List.cons.inj hclosed).1] at hfree
        exact hfree List.mem_cons_self
      · rw [skip_lineBreak, skip_render]
        exact hread

theorem readsBack_obj (hroomy : layout.Roomy) {fields : Fields}
    (h : ∀ field ∈ fields, ReadsBack layout field.2) : ReadsBack layout (.obj fields) := by
  refine readsBack_of_step fun depth fuel limits rest hfuel hwithin _ => ?_
  cases hwithin with
  | obj hfields =>
    rcases fields with _ | ⟨field, more⟩
    · have hend : skip ('\x7d' :: rest) = '\x7d' :: rest := skip_cons rfl rest
      exact .emptyObj hend
    · have htext : render layout depth (.obj (field :: more)) ++ rest =
          '\x7b' :: (layout.lineBreak (depth + 1) ++ (fieldText layout (depth + 1) field ++
            (renderFields layout (depth + 1) more ++ afterFields layout depth rest))) := by
        simp only [render, fieldText, afterFields, List.cons_append, List.append_assoc, List.nil_append]
      have hlength : (fieldText layout (depth + 1) field).length
          + (renderFields layout (depth + 1) more).length + 2 ≤
            (render layout depth (.obj (field :: more))).length := by
        simp only [render, fieldText, List.length_cons, List.length_append]
        omega
      have hread := members_render hroomy fuel (depth + 1) depth rest [] h hfields (by omega)
      rw [htext]
      refine .obj (fun after hclosed => ?_) ?_
      · rw [skip_lineBreak, skip_fieldText] at hclosed
        exact absurd (List.cons.inj hclosed).1 (by decide)
      · rw [skip_lineBreak, skip_fieldText]
        exact hread

/-- **Every value is read back from its text.** -/
theorem readsBack (hroomy : layout.Roomy) (v : Json) : ReadsBack layout v := by
  induction v using induction with
  | null => exact readsBack_of_step fun _ _ _ _ _ _ _ => .atom rfl
  | bool value =>
    cases value with
    | true => exact readsBack_of_step fun _ _ _ _ _ _ _ => .atom rfl
    | false => exact readsBack_of_step fun _ _ _ _ _ _ _ => .atom rfl
  | int value =>
    refine readsBack_of_step fun depth fuel limits rest _ hwithin hrest => .atom ?_
    cases hwithin with
    | int hdigits => exact atom_integer hrest hdigits
  | float value => exact readsBack_of_step fun _ _ _ _ _ _ hrest => .atom (atom_number value hrest)
  | str text => exact readsBack_str text
  | arr items ih => exact readsBack_arr hroomy ih
  | obj fields ih => exact readsBack_obj hroomy ih

/-- **A value is read back from its text within sufficient limits**, with duplicate keys merged. -/
theorem parseWithin_write (hroomy : layout.Roomy) (hwithin : Within limits v) :
    parseWithin limits (v.write layout) = .ok v.tidy := by
  obtain ⟨c, t, htext, hblank, hfree⟩ := exists_render layout 0 v
  have hread := readsBack hroomy v 0 (2 * (render layout 0 v).length + 1) limits [] (by omega) hwithin
    closing_nil
  rw [List.append_nil] at hread
  rw [parseWithin_eq_ok, write, String.toList_ofList]
  refine ⟨fun rest hmark => ?_, wholePairs_render hroomy.backslash_notMem.1 hroomy.backslash_notMem.2 v, [],
    ?_, rfl⟩
  · rw [htext] at hmark
    rw [(List.cons.inj hmark).1] at hfree
    exact hfree (List.mem_cons_of_mem _ List.mem_cons_self)
  · rw [htext, skip_cons hblank, ← htext]
    exact hread

/-- **The text of a value denotes the value**, with duplicate keys merged. -/
theorem denotes_write (hroomy : layout.Roomy) (v : Json) : Denotes (v.write layout) v.tidy := by
  obtain ⟨limits, hwithin⟩ := exists_within v
  exact ⟨limits, parseWithin_write hroomy hwithin⟩

end Json
end Formwork
