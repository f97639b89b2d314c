import Formwork.Text.Lines

/-!
# Texts on one line

`Text.lines` cuts a text at its line boundaries, and `Text.onOneLine` joins the lines by spaces, as `_comment_text`
does.  `Flattens` describes the result without lines: one space for each boundary, nothing for a boundary at the end of
the text, and every other character unchanged.  There is exactly one such text (`flattens_iff`), it has no boundary,
and a text without boundaries is unchanged (`onOneLine_eq_self_iff`).
-/
namespace Formwork
namespace Text

/-! ### Boundaries -/

/-- The characters that are line boundaries. -/
def boundaries : List Char :=
  ['\n', '\x0b', '\x0c', '\r', '\x1c', '\x1d', '\x1e', '\u0085', '\u2028', '\u2029']

theorem isLineBoundary_iff {c : Char} : isLineBoundary c = true ↔ c ∈ boundaries := by
  -- a character is in the list exactly if its number is among theirs
  have hnumbers : boundaries.map Char.toNat =
      [0x0a, 0x0b, 0x0c, 0x0d, 0x1c, 0x1d, 0x1e, 0x85, 0x2028, 0x2029] := by decide
  have hmem : c.toNat ∈ boundaries.map Char.toNat ↔ c ∈ boundaries := by
    simp only [List.mem_map, Char.toNat_inj, exists_eq_right]
  rw [← hmem, hnumbers]
  simp only [isLineBoundary, Bool.or_eq_true, Bool.and_eq_true, decide_eq_true_eq, List.mem_cons,
    List.not_mem_nil, or_false]
  omega

theorem isLineBoundary_eq_false {c : Char} (hc : c ∉ boundaries) : isLineBoundary c = false := by
  rw [← Bool.not_eq_true, isLineBoundary_iff]
  exact hc

/-- A line boundary: one of these characters, or a carriage return with the line feed behind it. -/
inductive Boundary : List Char → Prop
  | single {c : Char} (h : c ∈ boundaries) : Boundary [c]
  | pair : Boundary ['\r', '\n']

theorem Boundary.mem {b : List Char} (hb : Boundary b) : ∀ c ∈ b, c ∈ boundaries := by
  cases hb with
  | single h => exact List.forall_mem_singleton.mpr h
  | pair =>
    exact List.forall_mem_cons.mpr ⟨by decide, List.forall_mem_singleton.mpr (by decide)⟩

/-! ### Lines -/

variable {b s t : List Char} {c : Char}

theorem lines_cons (hc : c ∉ boundaries) (s : List Char) : lines (c :: s) = consLine c (lines s) := by
  rw [lines, if_neg]
  · rw [isLineBoundary_eq_false hc]
    exact Bool.false_ne_true
  · rintro _ rfl
    exact absurd (by decide) hc

/-- A boundary ends a line; a carriage return in front of a line feed is not a boundary by itself. -/
theorem lines_boundary (hb : Boundary b) (hnext : b = ['\r'] → s.head? ≠ some '\n') :
    lines (b ++ s) = [] :: lines s := by
  cases hb with
  | single h =>
    rw [List.singleton_append, lines, if_pos (isLineBoundary_iff.mpr h)]
    rintro rest rfl rfl
    exact hnext rfl rfl
  | pair => rw [List.cons_append, List.singleton_append, lines]

theorem lines_ne_nil (hs : s ≠ []) : lines s ≠ [] := by
  have hconsLine : ∀ c ls, consLine c ls ≠ [] := by
    intro c ls
    cases ls <;> exact List.cons_ne_nil _ _
  unfold lines
  split
  · exact absurd rfl hs
  · exact List.cons_ne_nil _ _
  · split
    · exact List.cons_ne_nil _ _
    · exact hconsLine _ _

/-! ### One space for each boundary -/

/-- The second text is the first one with a space for each boundary, and nothing for one at its end. -/
inductive Flattens : List Char → List Char → Prop
  | nil : Flattens [] []
  | keep {c : Char} {s t : List Char} (hc : c ∉ boundaries) (h : Flattens s t) :
      Flattens (c :: s) (c :: t)
  | drop {b : List Char} (hb : Boundary b) : Flattens b []
  /-- A carriage return in front of a line feed is not a boundary by itself. -/
  | blank {b s t : List Char} (hb : Boundary b) (hs : s ≠ [])
      (hnext : b = ['\r'] → s.head? ≠ some '\n') (h : Flattens s t) : Flattens (b ++ s) (' ' :: t)

theorem intercalate_consLine (c : Char) (ls : List (List Char)) :
    [' '].intercalate (consLine c ls) = c :: [' '].intercalate ls := by
  rcases ls with _ | ⟨line, _ | ⟨next, rest⟩⟩
  · rw [consLine, List.intercalate_singleton, List.intercalate_nil]
  · rw [consLine, List.intercalate_singleton, List.intercalate_singleton]
  · rw [consLine, List.intercalate_cons_cons, List.intercalate_cons_cons, List.cons_append,
      List.cons_append]

theorem Flattens.eq (h : Flattens s t) : t = [' '].intercalate (lines s) := by
  induction h with
  | nil => rfl
  | keep hc _ ih => rw [lines_cons hc, intercalate_consLine, ih]
  | @drop b hb =>
    have hlines : lines (b ++ []) = [] :: lines [] := lines_boundary hb fun _ => nofun
    rw [List.append_nil] at hlines
    rw [hlines, lines, List.intercalate_singleton]
  | blank hb hs hnext _ ih =>
    rw [lines_boundary hb hnext, List.intercalate_cons_of_ne_nil (lines_ne_nil hs), ih]
    rfl

theorem flattens_boundary (hb : Boundary b) (hnext : b = ['\r'] → s.head? ≠ some '\n')
    (h : Flattens s ([' '].intercalate (lines s))) :
    Flattens (b ++ s) ([' '].intercalate (lines (b ++ s))) := by
  rw [lines_boundary hb hnext]
  by_cases hs : s = []
  · subst hs
    rw [lines, List.intercalate_singleton, List.append_nil]
    exact .drop hb
  · rw [List.intercalate_cons_of_ne_nil (lines_ne_nil hs)]
    exact .blank hb hs hnext h

theorem flattens_lines (s : List Char) : Flattens s ([' '].intercalate (lines s)) := by
  induction s using lines.induct with
  | case1 => exact .nil
  | case2 rest ih => exact flattens_boundary .pair (fun h => nomatch h) ih
  | case3 c rest hpair hc ih =>
    refine flattens_boundary (.single (isLineBoundary_iff.mp hc)) (fun hreturn hfeed => ?_) ih
    obtain ⟨after, rfl⟩ := List.head?_eq_some_iff.mp hfeed
    exact hpair after (List.cons.inj hreturn).1 rfl
  | case4 c rest _ hc ih =>
    have hkept : c ∉ boundaries := fun h => hc (isLineBoundary_iff.mpr h)
    rw [lines_cons hkept, intercalate_consLine]
    exact .keep hkept ih

/-- **The lines of a text joined by spaces are the text with a space for each boundary**, and no other text is. -/
theorem flattens_iff : Flattens s t ↔ t = [' '].intercalate (lines s) :=
  ⟨Flattens.eq, fun h => h ▸ flattens_lines s⟩

theorem flattens_onOneLine (text : String) : Flattens text.toList t ↔ t = (onOneLine text).toList := by
  rw [onOneLine, String.toList_ofList]
  exact flattens_iff

example : onOneLine "a\r\nb\u2028\u2028c\n" = "a b  c" := by decide

/-- No boundary is left. -/
theorem Flattens.notMem_boundaries (h : Flattens s t) : ∀ c ∈ t, c ∉ boundaries := by
  induction h with
  | nil => exact List.forall_mem_nil _
  | keep hc _ ih => exact List.forall_mem_cons.mpr ⟨hc, ih⟩
  | drop _ => exact List.forall_mem_nil _
  | blank _ _ _ _ ih => exact List.forall_mem_cons.mpr ⟨by decide, ih⟩

/-- **A text on one line has no line boundary.** -/
theorem notMem_boundaries_of_mem_onOneLine (text : String) :
    ∀ c ∈ (onOneLine text).toList, c ∉ boundaries :=
  ((flattens_onOneLine text).mpr rfl).notMem_boundaries

/-- All other characters are kept, in order. -/
theorem Flattens.sublist (h : Flattens s t) : (s.filter (· ∉ boundaries)).Sublist t := by
  have hdropped : ∀ {b}, Boundary b → b.filter (· ∉ boundaries) = [] := by
    intro b hb
    rw [List.filter_eq_nil_iff]
    intro c hc
    simpa using hb.mem c hc
  induction h with
  | nil => exact List.Sublist.slnil
  | keep hc _ ih =>
    rw [List.filter_cons_of_pos (by simpa using hc)]
    exact ih.cons_cons _
  | drop hb => exact List.sublist_nil.mpr (hdropped hb)
  | blank hb _ _ _ ih =>
    rw [List.filter_append, hdropped hb, List.nil_append]
    exact ih.cons _

/-- A text without boundaries is unchanged. -/
theorem flattens_self (h : ∀ c ∈ s, c ∉ boundaries) : Flattens s s := by
  induction s with
  | nil => exact .nil
  | cons c s ih =>
    obtain ⟨hc, hs⟩ := List.forall_mem_cons.mp h
    exact .keep hc (ih hs)

/-- **Exactly the texts without boundaries are unchanged.** -/
theorem onOneLine_eq_self_iff {text : String} :
    onOneLine text = text ↔ ∀ c ∈ text.toList, c ∉ boundaries := by
  constructor
  · intro h
    rw [← h]
    exact notMem_boundaries_of_mem_onOneLine text
  · intro h
    exact String.toList_inj.mp ((flattens_onOneLine text).mp (flattens_self h)).symm

end Text
end Formwork
