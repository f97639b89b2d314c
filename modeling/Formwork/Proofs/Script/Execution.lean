import Formwork.Proofs.Script.Running

/-!
# The form that a script builds

The text of a script, executed on the platform, builds the form of its definition.

`parse_text` gives the statements of the text, so it remains to run them.  `Fills` states that some pieces fill some
slots of a form, from any earlier state; it holds for the pieces of a question and of a page break, and is closed
under concatenation.  Items may share a variable name, and all images share their variables: each is declared again
before it is used.
-/
namespace Formwork
open FormApp

namespace Script

variable {P : Platform} {w : Wording} {s t u : State} {f : Form} {ps qs : List Piece}
  {q : Question} {isQuiz : Bool}

/-! ### Slots in order -/

/-- The pieces fill these slots of the form, from any earlier state. -/
def Fills (P : Platform) (w : Wording) (isQuiz : Bool) (ps : List Piece) (slots : List Slot) :
    Prop :=
  ∀ s : State, Bound s.bindings → s.account.forms.length = 1 →
    ∃ t, Runs P ps s t ∧ Bound t.bindings ∧
      t.account = slots.foldl (Account.fill P w isQuiz) s.account

theorem fills_nil : Fills P w isQuiz [] [] := fun s hbound _ => ⟨s, runs_nil s, hbound, rfl⟩

theorem Fills.append {slots slots' : List Slot} (h : Fills P w isQuiz ps slots)
    (h' : Fills P w isQuiz qs slots') : Fills P w isQuiz (ps ++ qs) (slots ++ slots') := by
  intro s hbound hone
  obtain ⟨t, hrun, ht, htaccount⟩ := h s hbound hone
  have htone : t.account.forms.length = 1 := by rw [htaccount, length_forms_foldl_fill, hone]
  obtain ⟨u, hrun', hu, huaccount⟩ := h' t ht htone
  exact ⟨u, hrun.append hrun', hu, by rw [huaccount, htaccount, List.foldl_append]⟩

/-- The pieces of a question are those of its item without the image, and those of the image. -/
theorem question_eq_append (w : Wording) (isQuiz : Bool) (name : ItemName) (q : Question)
    (hbound : Bound s.bindings) (hforms : s.account.forms = [f]) :
    ∃ ps, (question w isQuiz name q = ps ++ match Text.nonempty? q.imageUrl with
        | some url => [.statement (image w (.name name.text) q url)]
        | none => []) ∧
      Runs P ps s (draft (s.put name.text (some (.item 0 f.items.length))) f
        { q.formItem isQuiz with image := none }) := by
  let held := s.put name.text (some (.item 0 f.items.length))
  have hitem : held.bindings name.text = some (.item 0 f.items.length) := put_self (s := s) ..
  have hmake : Runs P
      [.blank, .note s!"Question: {Text.onOneLine q.title}",
        declare name.text (form.method (constructor q.kind) []),
        invoke (.name name.text) "setTitle" [.literal q.title]]
      s (draft held f { kind := q.kind.itemKind, title := q.title }) := by
    have hadd := runs_add (P := P) q.kind.itemKind hbound hforms name.text
    have htitle : Runs P [invoke (.name name.text) "setTitle" [.literal q.title]]
        (draft held f { kind := q.kind.itemKind })
        (draft held f { kind := q.kind.itemKind, title := q.title }) :=
      runs_change .setTitle hitem rfl rfl
    rw [constructor_eq]
    exact hadd.append htitle
  -- each part changes one field, and finds it as it was made
  have hrequired := hmake.append (runs_required (q := q) hitem rfl rfl)
  have hpoints := hrequired.append (runs_points (q := q) hitem rfl rfl isQuiz)
  exact ⟨_, rfl, hpoints.append (runs_choices (q := q) hitem rfl rfl)⟩

theorem fills_question (name : ItemName) (q : Question) :
    Fills P w isQuiz (question w isQuiz name q) [.question q] := by
  intro s hbound hone
  obtain ⟨f, hf⟩ := List.length_eq_one_iff.mp hone
  let held := s.put name.text (some (.item 0 f.items.length))
  have hheld : Bound held.bindings := hbound.put (itemName_notMem_serviceWords name) _
  have hitem : held.bindings name.text = some (.item 0 f.items.length) := put_self (s := s) ..
  obtain ⟨ps, hps, hfilled⟩ := question_eq_append (P := P) w isQuiz name q hbound hf
  cases himage : Text.nonempty? q.imageUrl with
  | none =>
    refine ⟨draft held f { q.formItem isQuiz with image := none }, ?_, hheld, ?_⟩
    · rw [hps, himage]
      exact hfilled.append (runs_nil _)
    · have hplain : { q.formItem isQuiz with image := none } = q.formItem isQuiz := by
        rw [← himage]
        rfl
      rw [hplain]
      simp [draft, Account.fill, hf, Slot.shown, Slot.report, Slot.outage?, Slot.fetches, himage,
        Slot.item, held]
  | some url =>
    obtain ⟨t, hrun, ht, haccount⟩ :=
      runs_image (P := P) (w := w) { q.formItem isQuiz with image := none } q hheld name hitem url
    refine ⟨t, ?_, ht, ?_⟩
    · rw [hps, himage]
      exact hfilled.append hrun
    · -- the account is that of the draft, whichever way the fetch went
      rw [haccount]
      cases houtage : P.outage s.account.fetches url with
      | none =>
        have hwhole : { q.formItem isQuiz with image := some url } = q.formItem isQuiz := by
          rw [← himage]
          rfl
        simp only [held, put_account, houtage]
        rw [hwhole]
        simp [draft, fetched, Account.fill, hf, Slot.shown, Slot.report, Slot.outage?, Slot.fetches,
          himage, houtage, Slot.item]
      | some message =>
        simp [held, draft, fetched, logged, Account.fill, hf, Slot.shown, Slot.report, Slot.outage?,
          Slot.fetches, himage, houtage, Question.bareItem]
        rfl

theorem fills_questions (names : Nat → ItemName) (qs : List Question) (first : Nat) :
    Fills P w isQuiz (questions w isQuiz names first qs) (qs.map .question) := by
  induction qs generalizing first with
  | nil => exact fills_nil
  | cons q rest ih => exact (fills_question (names first) q).append (ih (first + 1))

theorem fills_pageBreak (index : Nat) (next : FormSection) :
    Fills P w isQuiz (pageBreak index next) [.pageBreak next] := by
  intro s hbound hone
  obtain ⟨f, hf⟩ := List.length_eq_one_iff.mp hone
  let word := s!"pageBreak{index}"
  let held := s.put word (some (.item 0 f.items.length))
  have hword : word ∉ serviceWords := notMem_serviceWords_of_prefix (by decide)
  have hitem : held.bindings word = some (.item 0 f.items.length) := put_self (s := s) word _
  have hadd := runs_add (P := P) .pageBreak hbound hf word
  have htitle : Runs P [invoke (.name word) "setTitle" [.literal next.title]]
      (draft held f { kind := .pageBreak })
      (draft held f { kind := .pageBreak, title := next.title }) :=
    runs_change .setTitle hitem rfl rfl
  have haccount : (draft held f next.breakItem).account =
      s.account.fill P w isQuiz (.pageBreak next) := by
    simp [held, draft, Account.fill, hf, Slot.shown, Slot.report, Slot.fetches, Slot.item]
  refine ⟨draft held f next.breakItem, ?_, hbound.put hword _, haccount⟩
  let helped (text : Option String) : State :=
    draft held f { kind := .pageBreak, title := next.title, helpText := text }
  have hhelp : ∀ text : String, Runs P [invoke (.name word) "setHelpText" [.literal text]]
      (helped none) (helped (some text)) := fun _ => runs_change .setHelpText hitem rfl rfl
  exact (hadd.append htitle).append (runs_option helped hhelp _)

theorem fills_sections (names : Nat → ItemName) (ss : List FormSection) (index first : Nat) :
    Fills P w isQuiz (sections w isQuiz names index first ss) (Slot.ofSections ss) := by
  induction ss generalizing index first with
  | nil => exact fills_nil
  | cons s rest ih =>
    have hquestions : Fills P w isQuiz
        (.blank :: .note s!"--- Section: {Text.onOneLine s.title} ---"
          :: questions w isQuiz names first s.questions) s.slots :=
      fills_questions names s.questions first
    -- the pieces of a section end with the page break in front of the next one
    cases rest with
    | nil =>
      rw [← List.append_nil (Slot.ofSections [s])]
      exact (hquestions.append fills_nil).append fills_nil
    | cons next more =>
      have h := (hquestions.append (fills_pageBreak index next)).append
        (ih (index + 1) (first + s.questions.length))
      rw [List.append_assoc s.slots] at h
      rw [Slot.ofSections_cons_cons]
      exact h

/-! ### The whole script -/

/-- A call that changes the form. -/
theorem call_form {form form' : Form} {m : Method} {vs : List Value}
    (hforms : s.account.forms = [form]) (h : form.after m vs = some form') :
    s.account.call P (.form 0) m vs = (.ok (.form 0), { s.account with forms := [form'] }) := by
  simp only [Account.call, hforms, List.getElem?_cons_zero]
  unfold Account.callForm
  split
  -- neither adding an item nor asking for an address changes a form
  · cases h
  · cases h
  · cases h
  · rw [h]
    simp [Account.putForm, hforms]

theorem runs_changeForm (m : Method) {arguments : List Expr} {vs : List Value} {g g' : Form}
    (hbound : Bound s.bindings) (hforms : s.account.forms = [g])
    (harguments : Expr.evalAll P (Expr.plainAll arguments) s = (.ok vs, s))
    (h : g.after m vs = some g') :
    Runs P [invoke form m.name arguments] s
      { s with account := { s.account with forms := [g'] } } :=
  runs_invoke m (eval_name hbound.form) harguments (call_form hforms h)

/-- The state after the statements that make this form without items. -/
def opened (form : Form) : State :=
  { State.start.put "form" (some (.form 0)) with account := { forms := [form] } }

theorem bound_opened (form : Form) : Bound (opened form).bindings where
  form := put_self (s := State.start) "form" _
  service service := by
    cases service <;> rfl

theorem runs_notes (notes : List String) (s : State) : Runs P (notes.map .note) s s := by
  induction notes with
  | nil => exact runs_nil s
  | cons note rest ih => exact ih

theorem runs_quizNotes (settings : QuizSettings) (s : State) : Runs P (quizNotes w settings) s s :=
  (runs_notes w.quizNotes s).append (runs_notes [_, _, _] s)

/-- A form becomes a quiz, whatever the notes on its settings. -/
theorem runs_setIsQuiz (g : Form) (settings : Option QuizSettings) :
    Runs P (invoke form "setIsQuiz" [.truth true]
        :: (match settings with | some settings => quizNotes w settings | none => []))
      (opened g) (opened { g with isQuiz := true }) := by
  have hset : Runs P [invoke form "setIsQuiz" [.truth true]] (opened g)
      (opened { g with isQuiz := true }) :=
    runs_changeForm .setIsQuiz (bound_opened g) rfl rfl rfl
  cases settings with
  | none => exact hset
  | some settings => exact hset.append (runs_quizNotes settings _)

theorem runs_opening (d : Definition) :
    Runs P (opening w d) State.start (opened d.emptyForm) := by
  have hcreate : Runs P
      [declare "form" ((Expr.name "FormApp").method "create" [.literal d.title])]
      State.start (opened { title := d.title }) := by
    have hservice : State.start.bindings "FormApp" = some (.service .formApp) := rfl
    exact runs_declare .create "form" (eval_name hservice) rfl rfl
  let described (text : Option String) : State := opened { title := d.title, description := text }
  have hdescribe : ∀ text : String, Runs P [invoke form "setDescription" [.literal text]]
      (described none) (described (some text)) :=
    fun _ => runs_changeForm .setDescription (bound_opened _) rfl rfl rfl
  refine (hcreate.append (runs_option described hdescribe _)).append
    (runs_ite (fun hb => ?_) fun hb => ?_)
  · rw [Definition.emptyForm, hb]
    exact runs_setIsQuiz _ d.quizSettings
  · rw [Definition.emptyForm, hb]

/-- The spreadsheet for the responses is created, and the form sends them there. -/
theorem runs_sheet {g : Form} (hbound : Bound s.bindings) (hforms : s.account.forms = [g])
    (hsheets : s.account.sheets = []) (title : String) :
    ∃ t, Runs P (sheet w title) s t ∧ Bound t.bindings ∧
      t.bindings "resultsSheet" = some (.sheet 0) ∧
      t.account = { s.account with
        forms := [{ g with destination := some 0 }]
        sheets := [title ++ w.responses] } := by
  let made : State := { s.put "resultsSheet" (some (.sheet 0)) with
    account := { s.account with sheets := [title ++ w.responses] } }
  have hmade : Bound made.bindings := hbound.put (by decide) _
  have hvariable : made.bindings "resultsSheet" = some (.sheet 0) :=
    put_self (s := s) "resultsSheet" _
  have hcreate : Runs P
      [declare "resultsSheet"
        ((Expr.name "SpreadsheetApp").method "create" [.literal (title ++ w.responses)])]
      s made := by
    have hcall : s.account.call P (.service .spreadsheetApp) .create
        [.text (title ++ w.responses)] =
        (.ok (.sheet 0), { s.account with sheets := [title ++ w.responses] }) := by
      simp [Account.call, Account.callService, hsheets]
    exact runs_declare .create "resultsSheet" (eval_name (hbound.service .spreadsheetApp)) rfl hcall
  have hkind :
      (Expr.member (.member (.name "FormApp") "DestinationType") "SPREADSHEET").eval P made =
        (.ok .spreadsheet, made) := by
    have hservice : (Expr.name "FormApp").eval P made = (.ok (.service .formApp), made) :=
      eval_name (hmade.service .formApp)
    rw [Expr.eval, Expr.eval, hservice]
    rfl
  have hid : ((Expr.name "resultsSheet").method "getId" []).eval P made =
      (.ok (.sheetId 0), made) :=
    eval_method (P := P) .getId (eval_name hvariable)
      (rfl : Expr.evalAll P [] made = (.ok [], made))
  have harguments : Expr.evalAll P
      [.member (.member (.name "FormApp") "DestinationType") "SPREADSHEET",
        (Expr.name "resultsSheet").method "getId" []] made =
      (.ok [.spreadsheet, .sheetId 0], made) := by
    rw [Expr.evalAll, hkind, Outcome.andThen_ok, Expr.evalAll, hid]
    rfl
  have hset : Runs P
      [invoke form "setDestination" [
        .member (.member (.name "FormApp") "DestinationType") "SPREADSHEET",
        (Expr.name "resultsSheet").method "getId" []]]
      made
      { made with account := { made.account with forms := [{ g with destination := some 0 }] } } :=
    runs_changeForm .setDestination hmade hforms harguments rfl
  exact ⟨_, hcreate.append hset, hmade, hvariable, rfl⟩

theorem runs_log (hbound : Bound s.bindings) {e : Expr} {message : String}
    (h : e.plain.eval P s = (.ok (.text message), s)) :
    Runs P [.statement (log e)] s (logged s message) := by
  show ((log e.plain).exec P s).andThen _ = _
  rw [exec_log hbound h]
  rfl

/-- An address is logged. -/
theorem runs_logAddress (m : Method) {object : String} {v : Value} {url : String}
    (hbound : Bound s.bindings) (hobject : s.bindings object = some v)
    (hcall : s.account.call P v m [] = (.ok (.text url), s.account)) (text : String) :
    Runs P [.statement (log (.join (.literal text) ((Expr.name object).method m.name [])))] s
      (logged s (text ++ url)) := by
  have heval : ((Expr.name object).method m.name []).eval P s = (.ok (.text url), s) := by
    have h := eval_method (P := P) m (eval_name hobject) (rfl : Expr.evalAll P [] s = (.ok [], s))
    rw [hcall] at h
    exact h
  exact runs_log hbound (eval_join (eval_literal text) heval)

theorem runs_farewell {g : Form} (hbound : Bound s.bindings) (hforms : s.account.forms = [g])
    {resultsSheet : Bool}
    (hsheet : resultsSheet = true → s.bindings "resultsSheet" = some (.sheet 0)) :
    ∃ t, Runs P (farewell w resultsSheet) s t ∧
      t.account = { s.account with log := s.account.log ++ farewellLog P w resultsSheet } := by
  let done := logged s w.done
  let edit := logged done (w.editUrl ++ P.editUrl 0)
  let share := logged edit (w.shareUrl ++ P.publishedUrl 0)
  have hdone : Runs P [.statement (log (.literal w.done))] s done :=
    runs_log hbound (eval_literal _)
  have hedit : Runs P [.statement (log (.join (.literal w.editUrl) (form.method "getEditUrl" [])))]
      done edit := by
    have hcall : done.account.call P (.form 0) .getEditUrl [] =
        (.ok (.text (P.editUrl 0)), done.account) := by
      simp [done, logged, Account.call, hforms, Account.callForm]
    exact runs_logAddress (s := done) .getEditUrl hbound hbound.form hcall _
  have hshare : Runs P
      [.statement (log (.join (.literal w.shareUrl) (form.method "getPublishedUrl" [])))]
      edit share := by
    have hcall : edit.account.call P (.form 0) .getPublishedUrl [] =
        (.ok (.text (P.publishedUrl 0)), edit.account) := by
      simp [edit, done, logged, Account.call, hforms, Account.callForm]
    exact runs_logAddress (s := edit) .getPublishedUrl hbound hbound.form hcall _
  have hthree := (hdone.append hedit).append hshare
  cases resultsSheet with
  | false =>
    refine ⟨share, hthree.append (runs_nil share), ?_⟩
    simp [share, edit, done, logged, farewellLog]
  | true =>
    have hlast : Runs P
        [.statement (log (.join (.literal w.sheetUrl)
          ((Expr.name "resultsSheet").method "getUrl" [])))]
        share (logged share (w.sheetUrl ++ P.sheetUrl 0)) :=
      runs_logAddress (s := share) .getUrl hbound (hsheet rfl) rfl _
    refine ⟨_, hthree.append hlast, ?_⟩
    simp [share, edit, done, logged, farewellLog]

/-- The end of a script adds no item. -/
theorem runs_ending {g : Form} (hbound : Bound s.bindings) (hforms : s.account.forms = [g])
    (hsheets : s.account.sheets = []) (resultsSheet : Bool) (title : String) :
    ∃ t, Runs P ((if resultsSheet then sheet w title else []) ++ farewell w resultsSheet) s t ∧
      t.account = s.account.finish P w resultsSheet title := by
  cases resultsSheet with
  | false =>
    have hnever : false = true → s.bindings "resultsSheet" = some (.sheet 0) := by simp
    obtain ⟨t, hlast, haccount⟩ := runs_farewell (P := P) (w := w) hbound hforms hnever
    refine ⟨t, (runs_nil s).append hlast, ?_⟩
    rw [haccount, Account.finish, if_neg Bool.false_ne_true, if_neg Bool.false_ne_true, ← hsheets]
  | true =>
    obtain ⟨t, hsheet, ht, hvariable, haccount⟩ :=
      runs_sheet (P := P) (w := w) hbound hforms hsheets title
    have htforms : t.account.forms = [{ g with destination := some 0 }] := by rw [haccount]
    obtain ⟨u, hlast, huaccount⟩ := runs_farewell (P := P) (w := w) ht htforms fun _ => hvariable
    refine ⟨u, hsheet.append hlast, ?_⟩
    rw [huaccount, haccount, Account.finish, hforms]
    rfl

theorem runs_script (d : Definition) (options : Options) (names : Nat → ItemName) :
    ∃ t, Runs P (d.script options names).body State.start t ∧
      t.account = d.built P (Wording.ofLocale options.locale) options.resultsSheet := by
  let w := Wording.ofLocale options.locale
  have hfills : Fills P w d.isQuiz (sections w d.isQuiz names 0 0 d.sections) d.slots :=
    fills_sections names d.sections 0 0
  obtain ⟨t, hrun, hbound, haccount⟩ := hfills (opened d.emptyForm) (bound_opened _) rfl
  have hopened : Runs P _ State.start t := (runs_opening (w := w) d).append hrun
  -- filling makes no other form and no spreadsheet
  have hone : t.account.forms.length = 1 := by
    rw [haccount, length_forms_foldl_fill]
    rfl
  have hsheets : t.account.sheets = [] := by
    rw [haccount, sheets_foldl_fill]
    rfl
  obtain ⟨g, hforms⟩ := List.length_eq_one_iff.mp hone
  obtain ⟨u, hlast, huaccount⟩ :=
    runs_ending (P := P) (w := w) hbound hforms hsheets options.resultsSheet d.title
  refine ⟨u, ?_, ?_⟩
  · show Runs P (_ ++ _ ++ _ ++ _) _ _
    rw [List.append_assoc]
    exact hopened.append hlast
  · rw [huaccount, haccount]
    rfl

/-- Every script runs to its end, with the result given by its definition and the failing fetches. -/
theorem execute_script (P : Platform) (d : Definition) (options : Options)
    (names : Nat → ItemName) :
    ∃ s, execute P entryFunction (d.script options names).text = some (.ok (), s) ∧
      s.account = d.built P (Wording.ofLocale options.locale) options.resultsSheet := by
  obtain ⟨s, hrun, haccount⟩ := runs_script (P := P) d options names
  refine ⟨s, ?_, haccount⟩
  -- the text is read back first: nothing below depends on how it is spelled
  rw [execute, parse_text (regular_script d options names)]
  show (if entryFunction = entryFunction then some (Stmt.execAll P _ State.start) else none) = _
  rw [if_pos rfl]
  exact congrArg some hrun

/-- **The script of a definition builds its form.**  On a platform where every image can be fetched, running the
text creates this one form and no other: its items are those of the slots of the definition, in order. -/
theorem script_builds_form (P : Platform) (d : Definition) (options : Options)
    (names : Nat → ItemName) :
    ∃ s, execute P.reliable entryFunction (d.script options names).text = some (.ok (), s) ∧
      s.account.forms = [d.form options.resultsSheet] := by
  obtain ⟨s, hrun, haccount⟩ := execute_script P.reliable d options names
  exact ⟨s, hrun, by rw [haccount, Definition.built_reliable]⟩

end Script
end Formwork
