import Formwork.Proofs.Script.Blueprint
import Formwork.Proofs.Script.Regularity

/-!
# Running the statements of an item

The effect of the statements of one item.  They use five variables of the rest of the script (`Bound`) and declare none
of them; beside the item they change only the variable of the item, the two of its image, the number of fetches and
the log.

`draft s f item` is the state in which the item is the last one of the form `f`.  A call that changes the item goes
from one draft to the next (`runs_change`), and so do the optional pieces of a question.
-/
namespace Formwork
open FormApp

namespace Script

variable {P : Platform} {w : Wording} {s t u : State} {f : Form} {ps qs : List Piece}

/-! ### Running pieces -/

theorem Stmt.execAll_append (ss rest : List Stmt) (s : State) :
    Stmt.execAll P (ss ++ rest) s =
      (Stmt.execAll P ss s).andThen fun _ s => Stmt.execAll P rest s := by
  induction ss generalizing s with
  | nil => rfl
  | cons statement ss ih =>
    rw [List.cons_append, Stmt.execAll, Stmt.execAll]
    rcases statement.exec P s with ⟨message | value, t⟩
    · rfl
    · exact ih t

/-- The pieces run from one state to the other without failing. -/
def Runs (P : Platform) (ps : List Piece) (s t : State) : Prop :=
  Stmt.execAll P (ps.flatMap Piece.statements) s = (.ok (), t)

theorem Runs.append (h : Runs P ps s t) (h' : Runs P qs t u) : Runs P (ps ++ qs) s u := by
  unfold Runs at *
  rw [List.flatMap_append, Stmt.execAll_append, h]
  exact h'

theorem runs_nil (s : State) : Runs P [] s s := rfl

/-- Conditional pieces. -/
theorem runs_ite {b : Bool} (h : b = true → Runs P ps s t) (hst : b = false → s = t) :
    Runs P (if b then ps else []) s t := by
  cases b with
  | false => exact hst rfl ▸ runs_nil s
  | true => exact h rfl

/-- The pieces of an optional text. -/
theorem runs_option {pieces : String → List Piece} (outcome : Option String → State)
    (h : ∀ x, Runs P (pieces x) (outcome none) (outcome (some x))) :
    ∀ text : Option String,
      Runs P (match text with | some x => pieces x | none => []) (outcome none) (outcome text)
  | none => runs_nil _
  | some x => h x

/-- A method call on evaluated operands. -/
theorem eval_method (m : Method) {object : Expr} {arguments : List Expr} {v : Value}
    {vs : List Value} (hobject : object.eval P s = (.ok v, t))
    (harguments : Expr.evalAll P arguments t = (.ok vs, u)) :
    (object.method m.name arguments).eval P s =
      ((u.account.call P v m vs).1, { u with account := (u.account.call P v m vs).2 }) := by
  rw [Expr.method, Expr.eval, hobject, Outcome.andThen_ok, harguments, Outcome.andThen_ok,
    State.call, Method.ofName?_name]

theorem eval_name {word : String} {v : Value} (h : s.bindings word = some v) :
    (Expr.name word).eval P s = (.ok v, s) := by
  rw [Expr.eval, h]

theorem evalAll_name {word : String} {v : Value} (h : s.bindings word = some v) :
    Expr.evalAll P [.name word] s = (.ok [v], s) := by
  rw [Expr.evalAll, eval_name h]
  rfl

section
variable {object : Expr} {arguments : List Expr} {v reply : Value} {vs : List Value}
  {account : Account}

/-- A method call as a statement. -/
theorem runs_invoke (m : Method) (hobject : object.plain.eval P s = (.ok v, s))
    (harguments : Expr.evalAll P (Expr.plainAll arguments) s = (.ok vs, s))
    (h : s.account.call P v m vs = (.ok reply, account)) :
    Runs P [invoke object m.name arguments] s { s with account := account } := by
  have heval := eval_method m hobject harguments
  rw [h] at heval
  show Stmt.execAll P [.perform (object.plain.method m.name (Expr.plainAll arguments))] s = _
  rw [Stmt.execAll, Stmt.exec, heval]
  rfl

/-- A method call as the value of a declaration. -/
theorem runs_declare (m : Method) (word : String) (hobject : object.plain.eval P s = (.ok v, s))
    (harguments : Expr.evalAll P (Expr.plainAll arguments) s = (.ok vs, s))
    (h : s.account.call P v m vs = (.ok reply, account)) :
    Runs P [declare word (object.method m.name arguments)] s
      { s.put word (some reply) with account := account } := by
  have heval := eval_method m hobject harguments
  rw [h] at heval
  show Stmt.execAll P [.declare word (object.plain.method m.name (Expr.plainAll arguments))] s = _
  rw [Stmt.execAll, Stmt.exec, heval]
  rfl

end

@[simp] theorem put_account (word : String) (v : Option Value) :
    (s.put word v).account = s.account := rfl

@[simp] theorem put_self (word : String) (v : Option Value) :
    (s.put word v).bindings word = v := if_pos rfl

theorem put_of_ne {word other : String} (h : other ≠ word) (v : Option Value) :
    (s.put word v).bindings other = s.bindings other := if_neg h

/-! ### Names -/

/-- The names that a script uses from its first statement to its last. -/
def serviceWords : List String := "form" :: Service.all.map Service.name

/-- The form and the services are bound to their names. -/
structure Bound (bindings : String → Option Value) : Prop where
  form : bindings "form" = some (.form 0)
  service : ∀ service : Service, bindings service.name = some (.service service)

theorem Bound.put (h : Bound s.bindings) {word : String} (hword : word ∉ serviceWords)
    (v : Option Value) : Bound (s.put word v).bindings where
  form := by
    have hne : "form" ≠ word := fun he => hword (he ▸ List.mem_cons_self ..)
    rw [put_of_ne hne, h.form]
  service service := by
    have hmem : service.name ∈ serviceWords := by cases service <;> decide
    have hne : service.name ≠ word := fun he => hword (he ▸ hmem)
    rw [put_of_ne hne, h.service]

/-- Names with different prefixes are different. -/
theorem ne_of_prefix {start word other : String} (h : ¬ start.toList <+: other.toList) :
    start ++ word ≠ other := by
  rintro rfl
  exact h (by rw [String.toList_append]; exact List.prefix_append ..)

theorem notMem_serviceWords_of_prefix {start word : String}
    (h : ∀ other ∈ serviceWords, ¬ start.toList <+: other.toList) : start ++ word ∉ serviceWords :=
  fun hmem => h _ hmem (by rw [String.toList_append]; exact List.prefix_append ..)

theorem itemName_notMem_serviceWords (name : ItemName) : name.text ∉ serviceWords :=
  notMem_serviceWords_of_prefix (by decide)

theorem itemName_ne (name : ItemName) {other : String} (h : ¬ "item".toList <+: other.toList) :
    name.text ≠ other := ne_of_prefix h

/-! ### One item -/

/-- The state in which this item is the last one of the form. -/
def draft (s : State) (f : Form) (item : FormApp.Item) : State :=
  { s with account := { s.account with forms := [{ f with items := f.items ++ [item] }] } }

variable {word : String} {item item' : FormApp.Item}

/-- A call that changes the last item leaves everything else unchanged. -/
theorem call_item {m : Method} {vs : List Value} (h : item.after m vs = some item') :
    (draft s f item).account.call P (.item 0 f.items.length) m vs =
      (.ok (.item 0 f.items.length), (draft s f item').account) := by
  have hplace : (f.items ++ [item])[f.items.length]? = some item := by simp
  have hset : (f.items ++ [item]).set f.items.length item' = f.items ++ [item'] := by simp
  simp only [Account.call, draft, List.getElem?_cons_zero, hplace]
  have hitem : ∀ a : Account,
      a.callItem 0 { f with items := f.items ++ [item] } f.items.length item m vs =
      (.ok (.item 0 f.items.length), a.putForm 0 { f with items := f.items ++ [item'] }) := by
    intro a
    unfold Account.callItem
    split
    -- a choice is made without the item being changed
    · cases h
    · rw [h]
      simp only [hset]
  rw [hitem]
  rfl

/-- A call that changes the item of a variable. -/
theorem runs_change (m : Method) {arguments : List Expr} {vs : List Value}
    (hword : s.bindings word = some (.item 0 f.items.length))
    (harguments : Expr.evalAll P (Expr.plainAll arguments) (draft s f item) =
      (.ok vs, draft s f item))
    (h : item.after m vs = some item') :
    Runs P [invoke (.name word) m.name arguments] (draft s f item) (draft s f item') :=
  runs_invoke m (eval_name (s := draft s f item) hword) harguments (call_item h)

/-- A declaration that adds an item. -/
theorem runs_add (kind : ItemKind) (hbound : Bound s.bindings) (hforms : s.account.forms = [f])
    (word : String) :
    Runs P [declare word (form.method kind.maker [])] s
      (draft (s.put word (some (.item 0 f.items.length))) f { kind := kind }) := by
  have hcall : s.account.call P (.form 0) (.add kind) [] =
      (.ok (.item 0 f.items.length),
        { s.account with forms := [{ f with items := f.items ++ [{ kind := kind }] }] }) := by
    simp [Account.call, hforms, Account.callForm, Account.putForm]
  exact runs_declare (.add kind) word (eval_name hbound.form) rfl hcall

/-! #### Questions -/

theorem constructor_eq (kind : Kind) : constructor kind = kind.itemKind.maker := by
  rcases kind with kind | _
  · cases kind <;> rfl
  · rfl

theorem isAnswered_itemKind (kind : Kind) : kind.itemKind.isAnswered = !kind.isImage := by
  rcases kind with kind | _
  · cases kind <;> rfl
  · rfl

theorem hasChoices_itemKind (kind : Kind) : kind.itemKind.hasChoices = kind.isChoice := by
  rcases kind with kind | _
  · cases kind <;> rfl
  · rfl

variable {q : Question} {isQuiz : Bool}

/-- The choices of a question, one for each option. -/
def choicesOf (q : Question) : List Choice :=
  q.options.map fun option => ⟨option, q.correctAnswers.contains option⟩

theorem choices?_map (cs : List Choice) : choices? (cs.map Value.choice) = some cs := by
  induction cs with
  | nil => rfl
  | cons c cs ih => rw [List.map_cons, choices?, ih, Option.map_some]

theorem eval_createChoice (hword : s.bindings word = some (.item 0 f.items.length))
    (hitem : item.kind.hasChoices = true) (text : String) (correct : Bool) :
    ((Expr.name word).method "createChoice" [.literal text, .truth correct]).eval P
        (draft s f item) =
      (.ok (.choice ⟨text, correct⟩), draft s f item) := by
  have hcall : (draft s f item).account.call P (.item 0 f.items.length) .createChoice
      [.text text, .truth correct] = (.ok (.choice ⟨text, correct⟩), (draft s f item).account) := by
    simp [Account.call, draft, Account.callItem, hitem]
  have h := eval_method (P := P) .createChoice (eval_name (s := draft s f item) hword)
    (rfl : Expr.evalAll P [.literal text, .truth correct] (draft s f item) =
      (.ok [.text text, .truth correct], draft s f item))
  rw [hcall] at h
  exact h

theorem eval_choices (hword : s.bindings word = some (.item 0 f.items.length))
    (hitem : item.kind.hasChoices = true) (q : Question) :
    Expr.evalAll P (Expr.plainAll [choices (.name word) q]) (draft s f item) =
      (.ok [.array ((choicesOf q).map .choice)], draft s f item) := by
  have hitems : Expr.evalAll P (Expr.plainAll (q.options.map fun option =>
        (Expr.name word).method "createChoice"
          [.literal option, .truth (q.correctAnswers.contains option)])) (draft s f item) =
      (.ok ((choicesOf q).map .choice), draft s f item) := by
    unfold choicesOf
    induction q.options with
    | nil => rfl
    | cons option rest ih =>
      have hone := eval_createChoice (P := P) hword hitem option (q.correctAnswers.contains option)
      rw [List.map_cons, Expr.plainAll, Expr.evalAll]
      show (((Expr.name word).method "createChoice"
        [.literal option, .truth (q.correctAnswers.contains option)]).eval P _).andThen _ = _
      rw [hone, Outcome.andThen_ok, ih]
      rfl
  show ((Expr.evalAll P (Expr.plainAll _) _).andThen fun values s =>
    ((.ok (.array values), s) : Outcome Value)).andThen _ = _
  rw [hitems]
  rfl

theorem runs_required (hword : s.bindings word = some (.item 0 f.items.length))
    (hkind : item.kind = q.kind.itemKind) (hrequired : item.required = false) :
    Runs P
      (if q.required && !q.kind.isImage then [invoke (.name word) "setRequired" [.truth true]]
        else [])
      (draft s f item) (draft s f { item with required := q.required && !q.kind.isImage }) := by
  refine runs_ite (fun hb => ?_) fun hb => ?_
  · have hanswered : item.kind.isAnswered = true := by
      rw [hkind, isAnswered_itemKind]
      exact (Bool.and_eq_true_iff.mp hb).2
    have hafter : item.after .setRequired [.truth true] = some { item with required := true } :=
      if_pos hanswered
    rw [hb]
    exact runs_change .setRequired hword rfl hafter
  · rw [hb, ← hrequired]

theorem runs_points (hword : s.bindings word = some (.item 0 f.items.length))
    (hkind : item.kind = q.kind.itemKind) (hpoints : item.points = none) (isQuiz : Bool) :
    Runs P
      (match q.points with
        | some (n + 1) =>
          if isQuiz && !q.kind.isImage then
            [invoke (.name word) "setPoints" [.number (n + 1)]]
          else []
        | _ => [])
      (draft s f item)
      (draft s f { item with
        points := q.points.filter fun n => isQuiz && !q.kind.isImage && 0 < n }) := by
  have hnone : draft s f { item with points := none } = draft s f item := by rw [← hpoints]
  -- no points, zero points, and points that are worth setting
  rcases q.points with _ | _ | n
  · exact hnone ▸ runs_nil _
  · have hzero : (some 0).filter (fun n => isQuiz && !q.kind.isImage && decide (0 < n)) = none := by
      simp
    rw [hzero, hnone]
    exact runs_nil _
  · refine runs_ite (fun hb => ?_) fun hb => ?_
    · have hanswered : item.kind.isAnswered = true := by
        rw [hkind, isAnswered_itemKind]
        exact (Bool.and_eq_true_iff.mp hb).2
      have hafter : item.after .setPoints [.number (n + 1)] =
          some { item with points := some (n + 1) } := if_pos hanswered
      have hsome : (some (n + 1)).filter (fun n => isQuiz && !q.kind.isImage && decide (0 < n)) =
          some (n + 1) := by simp [hb]
      rw [hsome]
      exact runs_change .setPoints hword rfl hafter
    · have hfilter : (some (n + 1)).filter (fun n => isQuiz && !q.kind.isImage && decide (0 < n)) =
          none := by simp [hb]
      rw [hfilter, hnone]

theorem runs_choices (hword : s.bindings word = some (.item 0 f.items.length))
    (hkind : item.kind = q.kind.itemKind) (hchoices : item.choices = []) :
    Runs P
      (if q.kind.isChoice && !q.options.isEmpty then
          [invoke (.name word) "setChoices" [choices (.name word) q]]
        else [])
      (draft s f item)
      (draft s f { item with choices := if q.kind.isChoice then choicesOf q else [] }) := by
  refine runs_ite (fun hb => ?_) fun hb => ?_
  · obtain ⟨hchoice, hsome⟩ := Bool.and_eq_true_iff.mp hb
    have hitem : item.kind.hasChoices = true := by rw [hkind, hasChoices_itemKind, hchoice]
    have hvalues : ((choicesOf q).map Value.choice).isEmpty = false := by
      simpa [choicesOf] using hsome
    have hafter : item.after .setChoices [.array ((choicesOf q).map .choice)] =
        some { item with choices := choicesOf q } := by
      simp [Item.after, hitem, hvalues, choices?_map]
    rw [if_pos hchoice]
    exact runs_change .setChoices hword (eval_choices hword hitem q) hafter
  · -- a choice question without options has no choices to be set
    have hnone : (if q.kind.isChoice then choicesOf q else []) = [] := by
      by_cases hchoice : q.kind.isChoice = true
      · have hempty : q.options = [] := by simpa [hchoice] using hb
        simp [choicesOf, hempty]
      · simp [hchoice]
    rw [hnone, ← hchoices]

/-! #### Images -/

/-- The state after one more fetch. -/
def fetched (s : State) : State :=
  { s with account := { s.account with fetches := s.account.fetches + 1 } }

/-- The address in the variable is fetched. -/
theorem eval_fetch (hbound : Bound s.bindings) {url : String}
    (hurl : s.bindings "imageUrl" = some (.text url)) :
    ((Expr.name "UrlFetchApp").method "fetch" [.name "imageUrl"]).eval P s =
      (match P.outage s.account.fetches url with
        | none => .ok (.response url)
        | some message => .error message, fetched s) := by
  have h := eval_method (P := P) .fetch (eval_name (hbound.service .urlFetchApp))
    (evalAll_name hurl)
  refine h.trans ?_
  simp only [Account.call, Account.callService]
  cases P.outage s.account.fetches url with
  | none => rfl
  | some message => rfl

/-- The state after the variables of an image are declared. -/
def pictured (s : State) (url : String) : State :=
  (fetched (s.put "imageUrl" (some (.text url)))).put "imageBlob" (some (.blob url))

theorem pictured_imageBlob (s : State) (url : String) :
    (pictured s url).bindings "imageBlob" = some (.blob url) :=
  put_self (s := fetched (s.put "imageUrl" (some (.text url)))) "imageBlob" (some (.blob url))

theorem pictured_of_ne {url : String} (hword : word ≠ "imageUrl" ∧ word ≠ "imageBlob") :
    (pictured s url).bindings word = s.bindings word :=
  (put_of_ne hword.2 _).trans (put_of_ne hword.1 _)

theorem bound_pictured (h : Bound s.bindings) (url : String) :
    Bound (pictured s url).bindings := by
  have hurl : Bound (s.put "imageUrl" (some (.text url))).bindings := h.put (by decide) _
  exact Bound.put (s := fetched (s.put "imageUrl" (some (.text url)))) hurl (by decide) _

/-- The statements in the `try` block of an image. -/
def imageBody (word url : String) : List Stmt :=
  [.declare "imageUrl" (.literal url),
    .declare "imageBlob"
      (((Expr.name "UrlFetchApp").method "fetch" [.name "imageUrl"]).method "getBlob" []),
    .perform ((Expr.name word).method "setImage" [.name "imageBlob"])]

theorem runs_attempt_ok {body handler : List Stmt}
    (h : Stmt.execAll P (Stmt.plainAll body) s = (.ok (), t)) :
    Runs P [.statement (.attempt body handler)] s t := by
  show ((Stmt.attempt (Stmt.plainAll body) (Stmt.plainAll handler)).exec P s).andThen _ = _
  rw [Stmt.exec, h]
  rfl

theorem runs_attempt_error {body handler : List Stmt} {message : String}
    (h : Stmt.execAll P (Stmt.plainAll body) s = (.error message, t))
    (hhandler : Stmt.execAll P (Stmt.plainAll handler) (t.put "e" (some (.error message))) =
      (.ok (), u)) :
    Runs P [.statement (.attempt body handler)] s (u.put "e" (t.bindings "e")) := by
  show ((Stmt.attempt (Stmt.plainAll body) (Stmt.plainAll handler)).exec P s).andThen _ = _
  rw [Stmt.exec, h]
  simp only
  rw [hhandler]
  rfl

theorem execAll_imageBody_ok (hbound : Bound s.bindings)
    (hword : word ≠ "imageUrl" ∧ word ≠ "imageBlob")
    (hitem : s.bindings word = some (.item 0 f.items.length)) {url : String}
    (houtage : P.outage s.account.fetches url = none) :
    Stmt.execAll P (imageBody word url) (draft s f item) =
      (.ok (), draft (pictured s url) f { item with image := some url }) := by
  let named := draft (s.put "imageUrl" (some (.text url))) f item
  have hnamed : Bound named.bindings := hbound.put (by decide) _
  have hfetch : ((Expr.name "UrlFetchApp").method "fetch" [.name "imageUrl"]).eval P named =
      (.ok (.response url), fetched named) := by
    have hnone : P.outage named.account.fetches url = none := houtage
    have hurl : named.bindings "imageUrl" = some (.text url) :=
      put_self (s := s) "imageUrl" (some (.text url))
    rw [eval_fetch hnamed hurl, hnone]
  have hdeclare : (Stmt.declare "imageBlob" (((Expr.name "UrlFetchApp").method "fetch"
      [.name "imageUrl"]).method "getBlob" [])).exec P named =
      (.ok (), draft (pictured s url) f item) := by
    have hblob := eval_method (P := P) .getBlob hfetch (rfl : Expr.evalAll P [] _ = (.ok [], _))
    rw [Stmt.exec]
    exact congrArg (Outcome.andThen · _) hblob
  have hvariable : (pictured s url).bindings word = some (.item 0 f.items.length) := by
    rw [pictured_of_ne hword, hitem]
  have hvalue : (draft (pictured s url) f item).bindings "imageBlob" = some (.blob url) :=
    pictured_imageBlob s url
  have hset : Runs P [invoke (.name word) "setImage" [.name "imageBlob"]]
      (draft (pictured s url) f item) (draft (pictured s url) f { item with image := some url }) :=
    runs_change .setImage hvariable (evalAll_name hvalue) rfl
  -- the first declaration only names the address
  show Outcome.andThen (.ok (), named) _ = _
  rw [Outcome.andThen_ok, Stmt.execAll, hdeclare]
  exact hset

/-- A fetch that fails leaves the item unchanged. -/
theorem execAll_imageBody_error (hbound : Bound s.bindings) {url message : String}
    (houtage : P.outage s.account.fetches url = some message) :
    Stmt.execAll P (imageBody word url) (draft s f item) =
      (.error message, draft (fetched (s.put "imageUrl" (some (.text url)))) f item) := by
  let named := draft (s.put "imageUrl" (some (.text url))) f item
  have hnamed : Bound named.bindings := hbound.put (by decide) _
  have hfetch : ((Expr.name "UrlFetchApp").method "fetch" [.name "imageUrl"]).eval P named =
      (.error message, fetched named) := by
    have hsome : P.outage named.account.fetches url = some message := houtage
    have hurl : named.bindings "imageUrl" = some (.text url) :=
      put_self (s := s) "imageUrl" (some (.text url))
    rw [eval_fetch hnamed hurl, hsome]
  have hdeclare : (Stmt.declare "imageBlob" (((Expr.name "UrlFetchApp").method "fetch"
      [.name "imageUrl"]).method "getBlob" [])).exec P named = (.error message, fetched named) := by
    rw [Stmt.exec, Expr.method, Expr.eval, hfetch]
    rfl
  show Outcome.andThen (.ok (), named) _ = _
  rw [Outcome.andThen_ok, Stmt.execAll, hdeclare]
  rfl

/-- The state after one more log line. -/
def logged (s : State) (message : String) : State :=
  { s with account := { s.account with log := s.account.log ++ [message] } }

theorem exec_log (hbound : Bound s.bindings) {e : Expr} {message : String}
    (h : e.eval P s = (.ok (.text message), s)) :
    (log e).exec P s = (.ok (), logged s message) := by
  have harguments : Expr.evalAll P [e] s = (.ok [.text message], s) := by
    rw [Expr.evalAll, h]
    rfl
  have hcall := eval_method (P := P) .log (eval_name (hbound.service .logger)) harguments
  show Outcome.andThen (((Expr.name "Logger").method "log" [e]).eval P s) _ = _
  exact congrArg (Outcome.andThen · _) hcall

theorem eval_literal (text : String) : (Expr.literal text).eval P s = (.ok (.text text), s) := rfl

theorem eval_join {a b : Expr} {x y : String} (ha : a.eval P s = (.ok (.text x), s))
    (hb : b.eval P s = (.ok (.text y), s)) : (a.join b).eval P s = (.ok (.text (x ++ y)), s) := by
  rw [Expr.eval, ha, Outcome.andThen_ok, hb]
  rfl

/-- The log line for an image that could not be fetched. -/
def imageNote (w : Wording) (q : Question) : Expr :=
  .join (.join (.join (.literal w.imageFailed) (.literal q.title)) (.literal ": "))
    (.member (.name "e") "message")

/-- The statements in the `catch` block of an image. -/
def imageHandler (w : Wording) (word : String) (q : Question) : List Stmt :=
  log (imageNote w q)
    :: if q.kind.isImage then []
      else [.perform ((Expr.name word).method "setHelpText"
        [.join (.literal w.imageHelp) (.name "imageUrl")])]

theorem eval_imageNote {message : String} (h : s.bindings "e" = some (.error message)) :
    (imageNote w q).eval P s = (.ok (.text (w.imageFailed ++ q.title ++ ": " ++ message)), s) := by
  have hmessage : (Expr.member (.name "e") "message").eval P s = (.ok (.text message), s) := by
    rw [Expr.eval, eval_name h]
    rfl
  have htitle : (Expr.join (.literal w.imageFailed) (.literal q.title)).eval P s =
      (.ok (.text (w.imageFailed ++ q.title)), s) := eval_join (eval_literal _) (eval_literal _)
  exact eval_join (eval_join htitle (eval_literal _)) hmessage

/-- The handler of an image logs the failure, and puts the address into the help text. -/
theorem execAll_imageHandler (hbound : Bound s.bindings)
    (hitem : s.bindings word = some (.item 0 f.items.length)) {url message : String}
    (herror : s.bindings "e" = some (.error message))
    (hurl : s.bindings "imageUrl" = some (.text url)) :
    Stmt.execAll P (imageHandler w word q) (draft s f item) =
      (.ok (), draft (logged s (w.imageFailed ++ q.title ++ ": " ++ message)) f
        { item with
          helpText := if q.kind.isImage then item.helpText else some (w.imageHelp ++ url) }) := by
  let noted := logged s (w.imageFailed ++ q.title ++ ": " ++ message)
  have hlog : (log (imageNote w q)).exec P (draft s f item) = (.ok (), draft noted f item) :=
    exec_log (s := draft s f item) hbound (eval_imageNote herror)
  rw [imageHandler, Stmt.execAll, hlog, Outcome.andThen_ok]
  cases q.kind.isImage with
  | true => rfl
  | false =>
    have htext : Expr.evalAll P [.join (.literal w.imageHelp) (.name "imageUrl")]
        (draft noted f item) =
        (.ok [.text (w.imageHelp ++ url)], draft noted f item) := by
      rw [Expr.evalAll, eval_join (eval_literal _) (eval_name (s := draft noted f item) hurl)]
      rfl
    have hset : Runs P [invoke (.name word) "setHelpText"
          [.join (.literal w.imageHelp) (.name "imageUrl")]]
        (draft noted f item) (draft noted f { item with helpText := some (w.imageHelp ++ url) }) :=
      runs_change (s := noted) .setHelpText hitem htext rfl
    exact hset

theorem plainAll_imageHandler (w : Wording) (word : String) (q : Question) :
    Stmt.plainAll
        (log (.join (.join (.join (.literal w.imageFailed) (.literal q.title)) .colon)
            (.member (.name "e") "message"))
          :: if q.kind.isImage then []
            else [.perform ((Expr.name word).method "setHelpText"
              [.join (.literal w.imageHelp) (.name "imageUrl")])]) =
      imageHandler w word q := by
  unfold imageHandler
  cases q.kind.isImage
  · rfl
  · rfl

/-- The effect of an image on its item, whether or not it can be fetched. -/
theorem runs_image (item : FormApp.Item) (q : Question) (hbound : Bound s.bindings)
    (name : ItemName) (hitem : s.bindings name.text = some (.item 0 f.items.length))
    (url : String) :
    ∃ t, Runs P [.statement (image w (.name name.text) q url)] (draft s f item) t ∧
      Bound t.bindings ∧
      t.account = match P.outage s.account.fetches url with
        | none => (draft (fetched s) f { item with image := some url }).account
        | some message =>
          (draft (logged (fetched s) (w.imageFailed ++ q.title ++ ": " ++ message)) f
            { item with
              helpText :=
                if q.kind.isImage then item.helpText else some (w.imageHelp ++ url) }).account := by
  have hword : name.text ≠ "imageUrl" ∧ name.text ≠ "imageBlob" :=
    ⟨itemName_ne name (by decide), itemName_ne name (by decide)⟩
  cases houtage : P.outage s.account.fetches url with
  | none =>
    exact ⟨_, runs_attempt_ok (execAll_imageBody_ok hbound hword hitem houtage),
      bound_pictured hbound url, rfl⟩
  | some message =>
    -- the address was named before the fetch failed, so the handler can tell it
    let named := s.put "imageUrl" (some (.text url))
    let failed := (fetched named).put "e" (some (.error message))
    have hnamed : Bound named.bindings := hbound.put (by decide) _
    have hfailed : Bound failed.bindings := Bound.put (s := fetched named) hnamed (by decide) _
    have hvariable : failed.bindings name.text = some (.item 0 f.items.length) := by
      have h := put_of_ne (s := s) hword.1 (some (.text url))
      exact (put_of_ne (s := fetched named) (itemName_ne name (by decide)) _).trans (h.trans hitem)
    have hurl : failed.bindings "imageUrl" = some (.text url) :=
      (put_of_ne (s := fetched named) (by decide) _).trans (put_self (s := s) "imageUrl" _)
    have herror : failed.bindings "e" = some (.error message) :=
      put_self (s := fetched named) "e" (some (.error message))
    have hhandler : Stmt.execAll P (imageHandler w name.text q) (draft failed f item) = _ :=
      execAll_imageHandler hfailed hvariable herror hurl
    rw [← plainAll_imageHandler] at hhandler
    refine ⟨_, runs_attempt_error (execAll_imageBody_error hbound houtage) hhandler, ?_, rfl⟩
    exact Bound.put (s := draft (logged failed _) f _) hfailed (by decide) _

end Script
end Formwork
