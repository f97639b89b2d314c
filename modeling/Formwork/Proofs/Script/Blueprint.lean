import Formwork.Proofs.Definition.Slots
import Formwork.Proofs.Script.FormApp
import Formwork.Script.Compile
import Mathlib.Algebra.Ring.Nat

/-!
# The form of a definition

The form that a script should build, stated without the script: an item for every slot (`Slot.item`), and the form
around them (`Definition.form`).  An image that cannot be fetched is missing from its item; `Account.fill` is the
effect of one more slot on the result of a run, on a platform where any fetch may fail.
-/
namespace Formwork
open FormApp

/-! ### Items -/

/-- The item type for a kind. -/
def Kind.itemKind : Kind → ItemKind
  | .known .shortAnswer => .text
  | .known .paragraph => .paragraph
  | .known .multipleChoice => .multipleChoice
  | .known .checkboxes => .checkbox
  | .known .imageDisplay => .image
  | .other .. => .text

/-- The item for a question. -/
def Question.formItem (isQuiz : Bool) (q : Question) : FormApp.Item where
  kind := q.kind.itemKind
  title := q.title
  required := q.required && !q.kind.isImage
  points := q.points.filter fun n => isQuiz && !q.kind.isImage && 0 < n
  choices :=
    if q.kind.isChoice then q.options.map fun option => ⟨option, q.correctAnswers.contains option⟩
    else []
  image := Text.nonempty? q.imageUrl

/-- The page break in front of a section. -/
def FormSection.breakItem (s : FormSection) : FormApp.Item where
  kind := .pageBreak
  title := s.title
  helpText := Text.nonempty? s.description

/-- The item of a slot. -/
def Slot.item (isQuiz : Bool) : Slot → FormApp.Item
  | .question q => q.formItem isQuiz
  | .pageBreak s => s.breakItem

/-- The form for a definition, with its responses in the first spreadsheet if there is one. -/
def Definition.form (d : Definition) (resultsSheet : Bool) : Form where
  title := d.title
  description := Text.nonempty? d.description
  isQuiz := d.isQuiz
  items := d.slots.map (Slot.item d.isQuiz)
  destination := if resultsSheet then some 0 else none

/-! ### Images that cannot be fetched -/

/-- The number of fetches for a slot. -/
def Slot.fetches : Slot → Nat
  | .question q => if (Text.nonempty? q.imageUrl).isSome then 1 else 0
  | .pageBreak _ => 0

/-- The message with which the fetch for a slot fails, by the number of fetches before it. -/
def Slot.outage? (P : Platform) (before : Nat) : Slot → Option String
  | .question q => (Text.nonempty? q.imageUrl).bind (P.outage before)
  | .pageBreak _ => none

/-- The item for a question without its image. -/
def Question.bareItem (w : Script.Wording) (isQuiz : Bool) (q : Question) : FormApp.Item :=
  { q.formItem isQuiz with
    image := none
    helpText :=
      if q.kind.isImage then none
      else (Text.nonempty? q.imageUrl).map fun url => w.imageHelp ++ url }

/-- The item of a slot on this platform. -/
def Slot.shown (P : Platform) (w : Script.Wording) (isQuiz : Bool) (before : Nat) (slot : Slot) :
    FormApp.Item :=
  match slot, slot.outage? P before with
  | .question q, some _ => q.bareItem w isQuiz
  | slot, _ => slot.item isQuiz

/-- The log lines of a slot. -/
def Slot.report (P : Platform) (w : Script.Wording) (before : Nat) (slot : Slot) : List String :=
  match slot, slot.outage? P before with
  | .question q, some message => [w.imageFailed ++ q.title ++ ": " ++ message]
  | _, _ => []

/-- The result of a run after one more slot. -/
def FormApp.Account.fill (P : Platform) (w : Script.Wording) (isQuiz : Bool) (account : Account)
    (slot : Slot) : Account :=
  { account with
    forms := account.forms.map fun form =>
      { form with items := form.items ++ [slot.shown P w isQuiz account.fetches] }
    fetches := account.fetches + slot.fetches
    log := account.log ++ slot.report P w account.fetches }

/-- The log lines at the end. -/
def farewellLog (P : Platform) (w : Script.Wording) (resultsSheet : Bool) : List String :=
  [w.done, w.editUrl ++ P.editUrl 0, w.shareUrl ++ P.publishedUrl 0]
    ++ if resultsSheet then [w.sheetUrl ++ P.sheetUrl 0] else []

/-- The form of a definition before its first item. -/
def Definition.emptyForm (d : Definition) : Form where
  title := d.title
  description := Text.nonempty? d.description
  isQuiz := d.isQuiz

/-- The result of a run after the spreadsheet, if there is one, and the last log lines. -/
def FormApp.Account.finish (P : Platform) (w : Script.Wording) (resultsSheet : Bool)
    (title : String) (account : Account) : Account :=
  { account with
    forms :=
      if resultsSheet then account.forms.map fun form => { form with destination := some 0 }
      else account.forms
    sheets := if resultsSheet then [title ++ w.responses] else []
    log := account.log ++ farewellLog P w resultsSheet }

/-- The result of running the script of a definition. -/
def Definition.built (P : Platform) (w : Script.Wording) (resultsSheet : Bool) (d : Definition) :
    Account :=
  (d.slots.foldl (Account.fill P w d.isQuiz) { forms := [d.emptyForm] }).finish P w resultsSheet
    d.title

/-! ### Slots in order -/

/-- Slots in order, each with the number of fetches before it. -/
def Slot.counted (before : Nat) : List Slot → List (Slot × Nat)
  | [] => []
  | slot :: rest => (slot, before) :: counted (before + slot.fetches) rest

/-- The fetches before a slot are those of all earlier slots. -/
theorem Slot.getElem?_counted (before : Nat) (slots : List Slot) (place : Nat) :
    (counted before slots)[place]? =
      slots[place]?.map fun slot => (slot, before + ((slots.take place).map fetches).sum) := by
  induction slots generalizing before place with
  | nil => rfl
  | cons slot rest ih =>
    cases place with
    | zero => rfl
    | succ place =>
      rw [counted, List.getElem?_cons_succ, List.getElem?_cons_succ, ih, List.take_succ_cons,
        List.map_cons, List.sum_cons, Nat.add_assoc]

section Filling

variable (P : Platform) (w : Script.Wording) (isQuiz : Bool)

/-- The items of slots, in order. -/
def Slot.allShown (before : Nat) (slots : List Slot) : List FormApp.Item :=
  (counted before slots).map fun (slot, before) => slot.shown P w isQuiz before

/-- The log lines of slots, in order. -/
def Slot.allReports (before : Nat) (slots : List Slot) : List String :=
  (counted before slots).flatMap fun (slot, before) => slot.report P w before

/-- What is the same on all platforms for the item of a slot is the same for the items of slots. -/
theorem Slot.map_allShown {α : Type} (f : FormApp.Item → α)
    (h : ∀ slot before, f (Slot.shown P w isQuiz before slot) = f (slot.item isQuiz)) (before : Nat)
    (slots : List Slot) :
    (allShown P w isQuiz before slots).map f = slots.map fun slot => f (slot.item isQuiz) := by
  induction slots generalizing before with
  | nil => rfl
  | cons slot rest ih =>
    show f (slot.shown P w isQuiz before) :: (allShown P w isQuiz _ rest).map f = _
    rw [h, ih, List.map_cons]

theorem Slot.length_allShown (before : Nat) (slots : List Slot) :
    (allShown P w isQuiz before slots).length = slots.length := by
  have hplaces := congrArg List.length (map_allShown P w isQuiz (fun _ => ()) (fun _ _ => rfl) before slots)
  rwa [List.length_map, List.length_map] at hplaces

/-- The result of a run after some slots. -/
theorem foldl_fill (slots : List Slot) (account : Account) :
    slots.foldl (Account.fill P w isQuiz) account =
      { account with
        forms := account.forms.map fun form =>
          { form with items := form.items ++ Slot.allShown P w isQuiz account.fetches slots }
        fetches := account.fetches + (slots.map Slot.fetches).sum
        log := account.log ++ Slot.allReports P w account.fetches slots } := by
  induction slots generalizing account with
  | nil => simp [Slot.allShown, Slot.allReports, Slot.counted]
  | cons slot slots ih =>
    rw [List.foldl_cons, ih]
    simp [Account.fill, Slot.allShown, Slot.allReports, Slot.counted, Nat.add_assoc]

theorem length_forms_foldl_fill (slots : List Slot) (account : Account) :
    (slots.foldl (Account.fill P w isQuiz) account).forms.length = account.forms.length := by
  rw [foldl_fill, List.length_map]

theorem sheets_foldl_fill (slots : List Slot) (account : Account) :
    (slots.foldl (Account.fill P w isQuiz) account).sheets = account.sheets := by
  rw [foldl_fill]

/-- The result of a run: one form, and its spreadsheet if there is one. -/
theorem Definition.built_eq (resultsSheet : Bool) (d : Definition) :
    d.built P w resultsSheet =
      { forms := [{ d.form resultsSheet with items := Slot.allShown P w d.isQuiz 0 d.slots }]
        sheets := if resultsSheet then [d.title ++ w.responses] else []
        fetches := (d.slots.map Slot.fetches).sum
        log := Slot.allReports P w 0 d.slots ++ farewellLog P w resultsSheet } := by
  rw [built, foldl_fill, Account.finish]
  cases resultsSheet
  · simp [emptyForm, form]
  · simp [emptyForm, form]

/-! ### Reliable platforms -/

theorem Slot.outage?_reliable (before : Nat) (slot : Slot) : slot.outage? P.reliable before = none := by
  cases slot with
  | question q =>
    cases h : Text.nonempty? q.imageUrl with
    | none => simp [Slot.outage?, h]
    | some url => simp [Slot.outage?, h, Platform.reliable]
  | pageBreak _ => rfl

theorem Slot.shown_reliable (before : Nat) (slot : Slot) :
    slot.shown P.reliable w isQuiz before = slot.item isQuiz := by
  unfold Slot.shown
  rw [outage?_reliable]
  cases slot <;> rfl

theorem Slot.report_reliable (before : Nat) (slot : Slot) : slot.report P.reliable w before = [] := by
  unfold Slot.report
  rw [outage?_reliable]
  cases slot <;> rfl

theorem Slot.allShown_reliable (before : Nat) (slots : List Slot) :
    allShown P.reliable w isQuiz before slots = slots.map (Slot.item isQuiz) := by
  rw [← List.map_id (allShown P.reliable w isQuiz before slots)]
  exact map_allShown P.reliable w isQuiz id (fun slot count => slot.shown_reliable P w isQuiz count)
    before slots

theorem Slot.allReports_reliable (before : Nat) (slots : List Slot) :
    allReports P.reliable w before slots = [] :=
  List.flatMap_eq_nil_iff.mpr fun entry _ => entry.1.report_reliable P w entry.2

/-- On a reliable platform the result is the form of the definition. -/
theorem Definition.built_reliable (resultsSheet : Bool) (d : Definition) :
    (d.built P.reliable w resultsSheet).forms = [d.form resultsSheet] := by
  rw [built_eq, Slot.allShown_reliable]
  rfl

end Filling

end Formwork
