import Formwork.Proofs.Definition.Normalizing
import Formwork.Proofs.Script.Execution

/-!
# Images that cannot be fetched

All questions of a script share the variables of their images, and items may share a name.  So a failed fetch could
leave a value behind that the next question uses.  It does not.

`lost_images_isolated` compares two runs of one script: on any platform, and on the same platform without failing
fetches.  The forms differ only in the items of the questions whose images are lost, and there only in the image and
the help text; the log has one more line for each.  Fetches are identified by their number, so any of them may fail.
-/
namespace Formwork
open FormApp

/-- An image that a script fails to fetch. -/
structure LostImage where
  /-- The slot of the question. -/
  place : Nat
  /-- The question. -/
  question : Question
  /-- The address of the image. -/
  url : String
  /-- The message of the failure. -/
  message : String

namespace LostImage

/-- The fetch for this question, numbered behind those of all earlier slots, fails. -/
def OccursIn (P : Platform) (d : Definition) (lost : LostImage) : Prop :=
  d.slots[lost.place]? = some (.question lost.question) ∧
    Text.nonempty? lost.question.imageUrl = some lost.url ∧
    P.outage ((d.slots.take lost.place).map Slot.fetches).sum lost.url = some lost.message

variable (w : Script.Wording)

/-- The log line for it. -/
def record (lost : LostImage) : String :=
  w.imageFailed ++ lost.question.title ++ ": " ++ lost.message

/-- The item without the image, and, unless the question is an image, with its address in the help text. -/
def spoil (lost : LostImage) (item : FormApp.Item) : FormApp.Item :=
  { item with
    image := none
    helpText :=
      if lost.question.kind = .known .imageDisplay then item.helpText
      else some (w.imageHelp ++ lost.url) }

end LostImage

/-- A form that is another one without some images. -/
structure FormApp.Form.Lacks (w : Script.Wording) (lost : List LostImage) (whole form : Form) : Prop where
  /-- Only the items differ. -/
  frame : form = { whole with items := form.items }
  length : form.items.length = whole.items.length
  spoiled : ∀ image ∈ lost, ∃ item, whole.items[image.place]? = some item ∧
    item.title = image.question.title ∧ item.image = some image.url ∧
    form.items[image.place]? = some (image.spoil w item)
  kept : ∀ place, (∀ image ∈ lost, image.place ≠ place) → form.items[place]? = whole.items[place]?

/-! ### One slot -/

/-- The image that is lost at a slot, by the number of fetches before it. -/
def Slot.lost? (P : Platform) (place before : Nat) : Slot → Option LostImage
  | .question q => (Text.nonempty? q.imageUrl).bind fun url =>
    (P.outage before url).map fun message => ⟨place, q, url, message⟩
  | .pageBreak _ => none

namespace Slot

variable {P : Platform} {w : Script.Wording} {place before : Nat} {slot : Slot} {lost : LostImage}

theorem lost?_eq_some_iff : slot.lost? P place before = some lost ↔
    lost.place = place ∧ slot = .question lost.question ∧
      Text.nonempty? lost.question.imageUrl = some lost.url ∧
      P.outage before lost.url = some lost.message := by
  cases slot with
  | pageBreak s => simp [lost?]
  | question q =>
    simp only [lost?, Option.bind_eq_some_iff, Option.map_eq_some_iff]
    constructor
    · rintro ⟨url, hurl, message, hmessage, rfl⟩
      exact ⟨rfl, rfl, hurl, hmessage⟩
    · rintro ⟨rfl, hslot, hurl, hmessage⟩
      obtain rfl := Slot.question.inj hslot
      exact ⟨lost.url, hurl, lost.message, hmessage, rfl⟩

theorem shown_of_lost (isQuiz : Bool) (h : slot.lost? P place before = some lost) :
    slot.shown P w isQuiz before = lost.spoil w (slot.item isQuiz) := by
  obtain ⟨-, rfl, hurl, hmessage⟩ := lost?_eq_some_iff.mp h
  have houtage : (Slot.question lost.question).outage? P before = some lost.message := by
    rw [outage?, hurl, Option.bind_some, hmessage]
  unfold shown
  rw [houtage]
  show lost.question.bareItem w isQuiz = lost.spoil w (lost.question.formItem isQuiz)
  rw [Question.bareItem, LostImage.spoil, hurl, Kind.isImage]
  by_cases himage : lost.question.kind = .known .imageDisplay
  · simp [himage, Question.formItem]
  · simp [himage]

theorem shown_of_kept (isQuiz : Bool) (h : slot.lost? P place before = none) :
    slot.shown P w isQuiz before = slot.item isQuiz := by
  cases slot with
  | pageBreak s => rfl
  | question q =>
    have houtage : (Slot.question q).outage? P before = none := by
      rw [lost?, Option.bind_eq_none_iff] at h
      rw [outage?, Option.bind_eq_none_iff]
      exact fun url hurl => Option.map_eq_none_iff.mp (h url hurl)
    unfold shown
    rw [houtage]

/-- The log lines of a slot are those of its image. -/
theorem report_eq (P : Platform) (w : Script.Wording) (place before : Nat) (slot : Slot) :
    slot.report P w before = (slot.lost? P place before).toList.map (LostImage.record w) := by
  cases slot with
  | pageBreak s => rfl
  | question q =>
    unfold report
    rw [outage?, lost?]
    rcases Text.nonempty? q.imageUrl with _ | url
    · rfl
    · rw [Option.bind_some, Option.bind_some]
      rcases P.outage before url with _ | message
      · rfl
      · rfl

end Slot

/-! ### All slots -/

/-- The images that are lost in a run of the script, in the order of the form. -/
def Definition.lostImages (P : Platform) (d : Definition) : List LostImage :=
  (Slot.counted 0 d.slots).zipIdx.flatMap fun ((slot, before), place) =>
    (slot.lost? P place before).toList

namespace Definition

variable {P : Platform} {d : Definition}

/-- The number of fetches before a slot. -/
theorem getElem?_counted_slots (d : Definition) (place : Nat) :
    (Slot.counted 0 d.slots)[place]? =
      d.slots[place]?.map fun slot => (slot, ((d.slots.take place).map Slot.fetches).sum) := by
  rw [Slot.getElem?_counted]
  simp only [Nat.zero_add]

theorem mem_lostImages {lost : LostImage} : lost ∈ d.lostImages P ↔ lost.OccursIn P d := by
  simp only [lostImages, List.mem_flatMap, Prod.exists, List.mem_zipIdx_iff_getElem?, Option.mem_toList,
    Slot.lost?_eq_some_iff, getElem?_counted_slots, Option.map_eq_some_iff]
  constructor
  · rintro ⟨slot, before, place, ⟨found, hslot, hentry⟩, rfl, rfl, hurl, hmessage⟩
    obtain ⟨rfl, rfl⟩ := Prod.mk.inj hentry
    exact ⟨hslot, hurl, hmessage⟩
  · rintro ⟨hslot, hurl, hmessage⟩
    exact ⟨_, _, lost.place, ⟨_, hslot, rfl⟩, rfl, rfl, hurl, hmessage⟩

theorem pairwise_lostImages (P : Platform) (d : Definition) :
    (d.lostImages P).Pairwise fun a b => a.place < b.place := by
  refine pairwise_flatMap_zipIdx (fun ⟨slot, before⟩ place => ?_) ?_
  · dsimp only
    rcases slot.lost? P place before with _ | lost
    · exact List.Pairwise.nil
    · exact List.pairwise_singleton _ _
  · rintro ⟨slot, before⟩ i ⟨other, count⟩ j hlt x hx y hy
    obtain ⟨hi, -⟩ := Slot.lost?_eq_some_iff.mp (Option.mem_toList.mp hx)
    obtain ⟨hj, -⟩ := Slot.lost?_eq_some_iff.mp (Option.mem_toList.mp hy)
    rwa [hi, hj]

/-- The log has one line for every lost image. -/
theorem allReports_slots (P : Platform) (w : Script.Wording) (d : Definition) :
    Slot.allReports P w 0 d.slots = (d.lostImages P).map (LostImage.record w) := by
  rw [Slot.allReports, lostImages, List.map_flatMap]
  -- the places do not show in the log
  conv_lhs => rw [← List.zipIdx_map_fst 0 (Slot.counted 0 d.slots), List.flatMap_map]
  refine List.flatMap_congr ?_
  rintro ⟨⟨slot, before⟩, place⟩ -
  exact slot.report_eq P w place before

/-- The items are those of the definition, but for the lost images. -/
theorem lacks_allShown (P : Platform) (w : Script.Wording) (resultsSheet : Bool) (d : Definition) :
    (d.form resultsSheet).Lacks w (d.lostImages P)
      { d.form resultsSheet with items := Slot.allShown P w d.isQuiz 0 d.slots } := by
  have hshown : ∀ place, (Slot.allShown P w d.isQuiz 0 d.slots)[place]? =
      d.slots[place]?.map (Slot.shown P w d.isQuiz ((d.slots.take place).map Slot.fetches).sum) := by
    intro place
    rw [Slot.allShown, List.getElem?_map, getElem?_counted_slots, Option.map_map]
    rfl
  have hwhole : ∀ place, (d.form resultsSheet).items[place]? =
      d.slots[place]?.map (Slot.item d.isQuiz) := fun place => List.getElem?_map ..
  constructor
  case frame => rfl
  case length =>
    exact (Slot.length_allShown P w d.isQuiz 0 d.slots).trans (List.length_map ..).symm
  case spoiled =>
    intro image himage
    obtain ⟨hslot, hurl, hmessage⟩ := mem_lostImages.mp himage
    have hlost := Slot.lost?_eq_some_iff.mpr ⟨rfl, rfl, hurl, hmessage⟩
    refine ⟨image.question.formItem d.isQuiz, ?_, rfl, hurl, ?_⟩
    · rw [hwhole, hslot]
      rfl
    · show (Slot.allShown P w d.isQuiz 0 d.slots)[image.place]? = _
      rw [hshown, hslot, Option.map_some, Slot.shown_of_lost d.isQuiz hlost]
      rfl
  case kept =>
    intro place hkept
    show (Slot.allShown P w d.isQuiz 0 d.slots)[place]? = _
    rw [hshown, hwhole]
    refine Option.map_congr fun slot hslot => ?_
    have hnone : slot.lost? P place ((d.slots.take place).map Slot.fetches).sum = none := by
      rw [Option.eq_none_iff_forall_ne_some]
      intro image himage
      obtain ⟨hplace, rfl, hurl, hmessage⟩ := Slot.lost?_eq_some_iff.mp himage
      subst hplace
      exact hkept image (mem_lostImages.mpr ⟨hslot, hurl, hmessage⟩) rfl
    exact Slot.shown_of_kept d.isQuiz hnone

end Definition

namespace Script

/-- **A failed fetch loses one image and nothing else.**  For any failing fetches and any item names the script
runs to its end.  Its form is the one built without failures, less the lost images; the log has one line for each
of them, in the order of the questions, in front of the lines of the run without failures.  The rest of the result
is the same. -/
theorem lost_images_isolated (P : Platform) (d : Definition) (options : Options)
    (names : Nat → ItemName) :
    let w := Wording.ofLocale options.locale
    ∃ s t form whole lost,
      execute P entryFunction (d.script options names).text = some (.ok (), s) ∧
      execute P.reliable entryFunction (d.script options names).text = some (.ok (), t) ∧
      s.account.forms = [form] ∧ t.account.forms = [whole] ∧
      (∀ image, image ∈ lost ↔ image.OccursIn P d) ∧
      (lost.Pairwise fun a b => a.place < b.place) ∧
      whole.Lacks w lost form ∧
      s.account = { t.account with
        forms := [form]
        log := lost.map (LostImage.record w) ++ t.account.log } := by
  intro w
  obtain ⟨s, hrun, haccount⟩ := execute_script P d options names
  obtain ⟨t, hwhole, hwholeAccount⟩ := execute_script P.reliable d options names
  rw [Definition.built_eq] at haccount hwholeAccount
  rw [Slot.allShown_reliable, Slot.allReports_reliable, List.nil_append] at hwholeAccount
  rw [Definition.allReports_slots] at haccount
  refine ⟨s, t, _, d.form options.resultsSheet, d.lostImages P, hrun, hwhole, ?_, ?_,
    fun _ => Definition.mem_lostImages, d.pairwise_lostImages P,
    d.lacks_allShown P w options.resultsSheet, ?_⟩
  · rw [haccount]
  · rw [hwholeAccount]
    rfl
  · rw [haccount, hwholeAccount]
    rfl

end Script
end Formwork
