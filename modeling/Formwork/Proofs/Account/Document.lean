import Formwork.Account.SignIn
import Formwork.Proofs.Calendar
import Formwork.Proofs.Json.Readable

/-!
# Stored credentials are read again

`Credentials.document` leaves out the members that are `null`, so credentials that lack a needed one cannot be read
again (`Credentials.Complete`).  All others are read as what they were, except that the expiry loses its fraction of a
second and that refreshes go to the usual endpoint (`Credentials.read_document`).  So whether stored credentials are
usable at a later time is determined before they are stored (`Credentials.usable_document`).
-/
namespace Formwork

namespace Fields

variable {fields : Fields} {name : String}

/-- The members that are not `null`. -/
def present (fields : Fields) : Fields := fields.filter fun field => field.2 != .null

/-- Members that are left out are not found. -/
theorem get?_present (h : fields.names.Nodup) :
    fields.present.get? name = (fields.get? name).filter fun value => value != .null := by
  induction fields with
  | nil => rfl
  | cons field rest ih =>
    obtain ⟨key, value⟩ := field
    obtain ⟨hnew, hrest⟩ := List.nodup_cons.mp h
    rw [present, List.filter_cons, get?]
    by_cases hname : key = name
    · rw [if_pos hname, Option.filter_some]
      split
      · exact if_pos hname
      · exact (ih hrest).trans (by rw [get?_eq_none_iff.mpr (hname ▸ hnew), Option.filter_none])
    · rw [if_neg hname, ← ih hrest]
      split
      · exact if_neg hname
      · rfl

/-- A member that is left out is read as the `null` that it was. -/
theorem getD_present {value : Json} (hnodup : fields.names.Nodup) (name : String)
    (h : fields.get? name = some value) :
    (fields.present.get? name).getD .null = value := by
  rw [get?_present hnodup, h, Option.filter_some]
  split
  · rfl
  · rename_i hnull
    exact (bne_eq_false_iff_eq.mp ((Bool.not_eq_true _).mp hnull)).symm

theorem has_present {value : Json} (hnodup : fields.names.Nodup) (name : String)
    (h : fields.get? name = some value) :
    fields.present.has name = true ↔ value ≠ .null := by
  rw [has, get?_present hnodup, h, Option.filter_some]
  split
  · rename_i hvalue
    exact iff_of_true rfl (bne_iff_ne.mp hvalue)
  · rename_i hnull
    exact iff_of_false Bool.false_ne_true fun hvalue => hnull (bne_iff_ne.mpr hvalue)

end Fields

namespace Credentials

/-! ### Expiries -/

theorem dropWhile_of_notMem {mark : Char} {s : List Char} (h : mark ∉ s) : s.dropWhile (· = mark) = s := by
  cases s with
  | nil => rfl
  | cons c rest =>
    refine List.dropWhile_cons_of_neg ?_
    rw [decide_eq_true_eq]
    exact fun hc => h (hc ▸ List.mem_cons_self)

/-- Without its zone and its fraction, a stored expiry is the date and the time of day. -/
theorem bareTime_text {year month day seconds : Nat} {expiry : Moment}
    (h : expiry.text.toList = Moment.clock year month day seconds ++ expiry.fraction) :
    bareTime (expiry.text ++ "Z") = String.ofList (Moment.clock year month day seconds) := by
  have hzone : 'Z' ∉ expiry.text.toList.reverse := by
    rw [List.mem_reverse, h, List.mem_append]
    rintro (hclock | hfraction)
    · exact Moment.notMem_clock (by decide) hclock
    · exact Moment.notMem_fraction (by decide) expiry hfraction
  have hnone : expiry.fraction.takeWhile (· ≠ '.') = [] := by
    unfold Moment.fraction
    split
    · rfl
    · rfl
  have hclock : ∀ c ∈ Moment.clock year month day seconds, decide (c ≠ '.') = true := fun c hc =>
    decide_eq_true fun hpoint => Moment.notMem_clock (by decide) (hpoint ▸ hc)
  have hmark : (expiry.text ++ "Z").toList.reverse = 'Z' :: expiry.text.toList.reverse := by
    simp
  rw [bareTime, hmark, List.dropWhile_cons_of_pos rfl, dropWhile_of_notMem hzone, List.reverse_reverse, h,
    List.takeWhile_append_of_pos hclock, hnone, List.append_nil]

/-- **A stored expiry is read without its fraction of a second.** -/
theorem readExpiry_text {expiry : Moment} (h : expiry.micros < Moment.ending.micros) :
    readExpiry (.str (expiry.text ++ "Z")) = .ok (some expiry.wholeSecond) := by
  obtain ⟨year, month, day, seconds, hread, htext⟩ := Moment.exists_text_eq h
  have htruthy : (Json.str (expiry.text ++ "Z")).truthy = true := by
    simp [Json.truthy]
  rw [readExpiry, if_pos htruthy]
  simp only [bareTime_text htext, hread]
  rfl

/-! ### Members -/

variable {c : Credentials}

/-- The members that reading needs are there. -/
structure Complete (c : Credentials) : Prop where
  clientId : c.clientId ≠ .null
  clientSecret : c.clientSecret ≠ .null
  refreshToken : c.refreshToken ≠ .null

/-- The members that stored credentials may have. -/
def members (c : Credentials) : Fields := [
  ("token", c.token),
  ("refresh_token", c.refreshToken),
  ("token_uri", c.tokenUri),
  ("client_id", c.clientId),
  ("client_secret", c.clientSecret),
  ("scopes", .texts scopes),
  ("rapt_token", c.raptToken),
  ("universe_domain", c.universeDomain),
  ("account", c.account),
  ("expiry", .ofText? (c.expiry.map fun expiry => expiry.text ++ "Z"))]

theorem nodup_members (c : Credentials) : c.members.names.Nodup := by
  show ["token", "refresh_token", "token_uri", "client_id", "client_secret", "scopes", "rapt_token",
    "universe_domain", "account", "expiry"].Nodup
  decide

/-- Stored credentials as they are read again. -/
def reread (c : Credentials) : Credentials :=
  { c with
    tokenUri := .str tokenEndpoint
    universeDomain := orElse c.universeDomain (.str "googleapis.com")
    account := orElse c.account (.str "")
    expiry := c.expiry.map Moment.wholeSecond }

theorem document_eq (c : Credentials) : c.document = .obj c.members.present := rfl

theorem truthy_document (c : Credentials) : c.document.truthy = true := by
  have hscopes : c.members.present.has "scopes" = true :=
    (Fields.has_present c.nodup_members "scopes" rfl).mpr nofun
  rw [document_eq]
  cases hmembers : c.members.present with
  | nil =>
    rw [hmembers] at hscopes
    cases hscopes
  | cons field rest => rfl

/-- Credentials can be written and read again if their members leave room for the object around them. -/
theorem readable_document {levels digits : Nat}
    (h : ∀ field ∈ c.members, field.2.Readable ⟨levels, digits⟩) :
    c.document.Readable ⟨levels + 1, digits⟩ := by
  have hnames : c.members.present.names.Nodup := c.nodup_members.sublist (List.filter_sublist.map _)
  exact Json.readable_obj hnames fun field hfield => h field (List.mem_filter.mp hfield).1

theorem filter_needed_eq_nil :
    (needed.filter fun name => !Fields.has name c.members.present) = [] ↔ c.Complete := by
  have hid := Fields.has_present c.nodup_members "client_id" rfl
  have hsecret := Fields.has_present c.nodup_members "client_secret" rfl
  have hrefresh := Fields.has_present c.nodup_members "refresh_token" rfl
  rw [List.filter_eq_nil_iff]
  simp only [needed, List.forall_mem_cons, List.not_mem_nil, Bool.not_eq_true', Bool.not_eq_false, hid, hsecret,
    hrefresh]
  exact ⟨fun h => ⟨h.1, h.2.1, h.2.2.1⟩, fun h => ⟨h.clientId, h.clientSecret, h.refreshToken, nofun⟩⟩

/-- **Complete credentials are read again.** -/
theorem read_document (h : c.Complete)
    (hexpiry : ∀ expiry, c.expiry = some expiry → expiry.micros < Moment.ending.micros) :
    read c.document = .ok c.reread := by
  have hmember : ∀ (name : String) {value : Json}, c.members.get? name = some value →
      (c.members.present.get? name).getD .null = value := fun name => Fields.getD_present c.nodup_members name
  have htime : readExpiry (.ofText? (c.expiry.map fun expiry => expiry.text ++ "Z")) =
      .ok (c.expiry.map Moment.wholeSecond) := by
    cases hc : c.expiry with
    | none => rfl
    | some expiry => exact readExpiry_text (hexpiry expiry hc)
  unfold read
  rw [document_eq]
  simp only [Json.fieldsFor, bind, Except.bind, filter_needed_eq_nil.mpr h, hmember "expiry" rfl, htime]
  rw [hmember "token" rfl, hmember "refresh_token" rfl, hmember "client_id" rfl,
    hmember "client_secret" rfl, hmember "rapt_token" rfl,
    hmember "universe_domain" rfl, hmember "account" rfl]
  rfl

/-- Incomplete credentials are not. -/
theorem read_document_of_not_complete (h : ¬ c.Complete) :
    ∃ text, read c.document = .error (.badValue text) := by
  rcases hneeded : needed.filter fun name => !Fields.has name c.members.present with _ | ⟨first, rest⟩
  · exact absurd (filter_needed_eq_nil.mp hneeded) h
  · unfold read
    rw [document_eq]
    simp only [Json.fieldsFor, bind, Except.bind, hneeded]
    exact ⟨_, rfl⟩

/-! ### Whether stored credentials are usable -/

variable {expiry time : Moment}

/-- Whether the credentials in a stored value can be used (`has_valid_token`). -/
def usable (time : Moment) (value : Json) : Except Problem Bool :=
  match read value with
  | .ok credentials => (credentials.use time).map (· != .useless)
  | .error problem => .error problem

/-- The credentials are usable once they are stored: they are complete, and the token is valid or can be
refreshed.  The expiry has lost its fraction of a second. -/
structure Usable (c : Credentials) (expiry time : Moment) : Prop where
  complete : c.Complete
  reaches : margin ≤ expiry.wholeSecond.micros
  token : time.micros < expiry.wholeSecond.micros - margin → c.token ≠ .null
  refreshToken : expiry.wholeSecond.micros - margin ≤ time.micros → c.refreshToken.truthy = true

/-- The credentials cannot be read once they are stored: they are incomplete, or the expiry is too early for the
margin. -/
def Unreadable (c : Credentials) (expiry : Moment) : Prop := ¬ c.Complete ∨ expiry.wholeSecond.micros < margin

theorem Usable.not_unreadable (h : c.Usable expiry time) : ¬ c.Unreadable expiry :=
  fun hunreadable => hunreadable.elim (· h.complete) (Nat.not_lt.mpr h.reaches)

theorem isExpired_reread (hexpiry : c.expiry = some expiry) (time : Moment) :
    c.reread.isExpired time = if expiry.wholeSecond.micros < margin then .error .outsideCalendar
      else .ok (expiry.wholeSecond.micros - margin ≤ time.micros) := by
  have hreread : c.reread.expiry = some expiry.wholeSecond := congrArg (Option.map Moment.wholeSecond) hexpiry
  rw [isExpired, hreread]

/-- Credentials are usable if they have a token until it expires, and a refresh token after that. -/
theorem use_of_isExpired {expired : Bool} (h : c.isExpired time = .ok expired) :
    ∃ use, c.use time = .ok use ∧ (use ≠ .useless ↔
      (expired = false → c.token ≠ .null) ∧ (expired = true → c.refreshToken.truthy = true)) := by
  unfold use
  rw [h]
  refine ⟨_, rfl, ?_⟩
  cases expired with
  | false => by_cases htoken : c.token = .null <;> simp [htoken]
  | true => by_cases hrefresh : c.refreshToken.truthy = true <;> simp [hrefresh]

/-- **Stored credentials cannot be read, or it is known whether they are usable.** -/
theorem usable_document (hexpiry : c.expiry = some expiry) (hend : expiry.micros < Moment.ending.micros)
    (time : Moment) :
    (c.Unreadable expiry ∧ (usable time c.document = .error .outsideCalendar ∨
        ∃ text, usable time c.document = .error (.badValue text))) ∨
      ¬ c.Unreadable expiry ∧
        ∃ good, usable time c.document = .ok good ∧ (good = true ↔ c.Usable expiry time) := by
  by_cases hcomplete : c.Complete
  · have hread : read c.document = .ok c.reread := read_document hcomplete fun found hfound => by
      cases hexpiry.symm.trans hfound
      exact hend
    have husable : usable time c.document = (c.reread.use time).map (· != .useless) := by
      rw [usable, hread]
    have hexpired := isExpired_reread hexpiry time
    by_cases hearly : expiry.wholeSecond.micros < margin
    · rw [if_pos hearly] at hexpired
      refine Or.inl ⟨Or.inr hearly, Or.inl ?_⟩
      rw [husable, use, hexpired]
      rfl
    · rw [if_neg hearly] at hexpired
      obtain ⟨found, huse, hworth⟩ := use_of_isExpired hexpired
      refine Or.inr ⟨fun hunreadable => hunreadable.elim (· hcomplete) hearly, found != .useless, ?_, ?_⟩
      · rw [husable, huse]
        rfl
      · rw [bne_iff_ne, hworth, decide_eq_false_iff_not, decide_eq_true_eq, Nat.not_le]
        exact ⟨fun h => ⟨hcomplete, Nat.not_lt.mp hearly, h.1, h.2⟩, fun h => ⟨h.token, h.refreshToken⟩⟩
  · obtain ⟨text, hread⟩ := read_document_of_not_complete hcomplete
    exact Or.inl ⟨Or.inl hcomplete, Or.inr ⟨text, by rw [usable, hread]⟩⟩

end Credentials

/-! ### Credentials for a code -/

namespace SignIn

variable {secret : ClientSecret} {answer : Json} {c : Credentials}

theorem lt_ending_of_moment? {seconds : Json} {moment : Moment} (h : moment? seconds = some moment) :
    moment.micros < Moment.ending.micros := by
  unfold moment? at h
  split at h
  · exact Moment.lt_ending_of_ofMicros? h
  · exact Moment.lt_ending_of_ofMicros? h
  · exact Moment.lt_ending_of_ofMicros? h
  · cases h

/-- The application's part of credentials comes from its description, and the tokens and the expiry come from the
answer. -/
theorem exists_of_credentials (h : credentials secret answer = .ok c) :
    ∃ token expiry, answer.get? "access_token" = some token ∧ expiry.micros < Moment.ending.micros ∧ c = {
      token
      refreshToken := (answer.get? "refresh_token").getD .null
      tokenUri := secret.tokenUri
      clientId := secret.clientId
      clientSecret := secret.clientSecret
      expiry := some expiry } := by
  cases answer with
  | obj fields =>
    unfold credentials at h
    simp only [Json.fieldsFor, bind, Except.bind] at h
    split at h
    · rename_i token htoken
      split at h
      · split at h
        · rename_i expiry hexpiry
          cases h
          exact ⟨token, expiry, htoken, lt_ending_of_moment? hexpiry, rfl⟩
        · cases h
      · cases h
    · cases h
  | _ => cases h

end SignIn
end Formwork
