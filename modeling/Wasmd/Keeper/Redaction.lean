import Wasmd.Keeper.DispatchTree

/-!
# What a contract is told about its submessages

Two nodes may disagree in the texts of errors, in what wraps them, in the events of messages of
other modules, and in the order of the attributes of an event.  A reply must not contain any of
that.

* `ErrorsAgree`, `EventsAgree`, `AnswersAgree` — what the messengers of two nodes agree on.
* `redactError_eq`, `passedEvents_eq` — what is shown of an error and of the events of a wasm
  message depends on that only.
* `turn`, `replies`, `failedAt` — one iteration of the loop, the replies the loop makes, and the
  submessage it fails at.
* `replies_recorded` — the replies are what the replyer is called with, in the order of the calls.
* `replies_deterministic` — the contract is told the same on both nodes.
-/

namespace Wasmd

open ByteStore Effects Gas

variable {μ ν C : Type}

/-! ## Events -/

/-- A list of attributes after exchanges of neighbours with different keys. -/
inductive Reordered : List Attribute → List Attribute → Prop where
  | nil : Reordered [] []
  | cons (a : Attribute) {l l' : List Attribute} (h : Reordered l l') : Reordered (a :: l) (a :: l')
  | swap (a b : Attribute) (l : List Attribute) (h : a.key ≠ b.key) :
      Reordered (a :: b :: l) (b :: a :: l)
  | trans {l₁ l₂ l₃ : List Attribute} (h : Reordered l₁ l₂) (h' : Reordered l₂ l₃) : Reordered l₁ l₃

/-- The same type, and the same attributes up to the order of those with different keys. -/
def SameEvent (e e' : Event) : Prop := e.type = e'.type ∧ Reordered e.attributes e'.attributes

/-- The same events, up to those of type `message`. -/
def EventsAgree (l l' : List Event) : Prop :=
  List.Forall₂ SameEvent (filterEvents l) (filterEvents l')

/-- Attributes with different keys are inserted in either order. -/
theorem orderedInsert_comm {a b : Attribute} (h : a.key ≠ b.key) (l : List Attribute) :
    (l.orderedInsert (fun x y => x.key ≤ y.key) b).orderedInsert (fun x y => x.key ≤ y.key) a =
      (l.orderedInsert (fun x y => x.key ≤ y.key) a).orderedInsert
        (fun x y => x.key ≤ y.key) b := by
  have hpair : ∀ l : List Attribute, (if a.key ≤ b.key then a :: b :: l else b :: a :: l) =
      if b.key ≤ a.key then b :: a :: l else a :: b :: l := by
    intro l
    rcases String.le_total a.key b.key with hab | hba
    · rw [if_pos hab, if_neg fun hba => h (String.le_antisymm hab hba)]
    · rw [if_pos hba, if_neg fun hab => h (String.le_antisymm hab hba)]
  induction l with
  | nil => exact hpair []
  | cons c l ih =>
      simp only [List.orderedInsert_cons]
      by_cases ha : a.key ≤ c.key
      · by_cases hb : b.key ≤ c.key
        · simpa only [if_pos ha, if_pos hb, List.orderedInsert_cons] using hpair (c :: l)
        · have hba : ¬ b.key ≤ a.key := fun hle => hb (String.le_trans hle ha)
          simp only [if_pos ha, if_neg hb, if_neg hba, List.orderedInsert_cons]
      · by_cases hb : b.key ≤ c.key
        · have hab : ¬ a.key ≤ b.key := fun hle => ha (String.le_trans hle hb)
          simp only [if_neg ha, if_pos hb, if_neg hab, List.orderedInsert_cons]
        · simp only [if_neg ha, if_neg hb, List.orderedInsert_cons, ih]

/-- The stable sort undoes a reordering. -/
theorem Reordered.insertionSort_eq {l l' : List Attribute} (h : Reordered l l') :
    l.insertionSort (fun a b => a.key ≤ b.key) = l'.insertionSort fun a b => a.key ≤ b.key := by
  induction h with
  | nil => rfl
  | cons a _ ih => rw [List.insertionSort_cons, List.insertionSort_cons, ih]
  | swap a b l h =>
      simp only [List.insertionSort_cons]
      exact orderedInsert_comm h _
  | trans _ _ ih ih' => exact ih.trans ih'

/-- **What is shown of the events of a wasm message.** -/
theorem passedEvents_eq {own own' returned returned' : List Event}
    (h : EventsAgree (own ++ returned) (own' ++ returned')) :
    passedEvents true own returned = passedEvents true own' returned' := by
  rw [passedEvents, passedEvents, if_pos rfl, if_pos rfl]
  unfold EventsAgree at h
  generalize filterEvents (own ++ returned) = l, filterEvents (own' ++ returned') = l' at h
  induction h with
  | nil => rfl
  | cons hev _ ih =>
      rw [List.map_cons, List.map_cons, ih, sortAttributes, sortAttributes, hev.1,
        hev.2.insertionSort_eq]

/-! ## Errors -/

/-- An error that a contract is shown as it is. -/
def GoError.Shown : GoError → Prop
  | system _ | deterministic _ => True
  | _ => False

/-- The same codespace and code, and the same error if a contract is shown it. -/
def ErrorsAgree (e e' : GoError) : Prop :=
  e.abciInfo = e'.abciInfo ∧ (e.Shown ∨ e'.Shown → e = e')

theorem redactError_of_not_shown {e : GoError} (h : ¬ e.Shown) :
    redactError e = s!"codespace: {e.abciInfo.1}, code: {e.abciInfo.2}" := by
  cases e with
  | system t => exact absurd trivial h
  | deterministic cause => exact absurd trivial h
  | registered _ => rfl
  | wrapped _ _ => rfl
  | flavoured _ _ => rfl
  | foreign _ => rfl

/-- **What is shown of an error.** -/
theorem redactError_eq {e e' : GoError} (h : ErrorsAgree e e') :
    redactError e = redactError e' := by
  by_cases hshown : e.Shown ∨ e'.Shown
  · rw [h.2 hshown]
  · obtain ⟨he, he'⟩ := not_or.mp hshown
    rw [redactError_of_not_shown he, redactError_of_not_shown he', h.1]

/-! ## Answers of the messengers -/

/-- The same state, up to the events collected. -/
def SameState (w w' : World μ ν) : Prop := w.ms = w'.ms ∧ w.gas = w'.gas ∧ w.shared = w'.shared

/-- Whether a panic is that of running out of gas, which the loop may recover from. -/
def ranOutOfGas : Panic → Bool
  | .outOfGas _ => true
  | _ => false

/-- What the results of a message agree on; `events` are those collected on the way. -/
def ResultsAgree (isWasm : Bool) (events events' : List Event) :
    Except (Failure GoError) DispatchResult → Except (Failure GoError) DispatchResult → Prop
  | .ok r, .ok r' => r.data = r'.data ∧ r.msgResponses = r'.msgResponses ∧
      (isWasm = true → EventsAgree (events ++ r.events) (events' ++ r'.events))
  | .error (.error e), .error (.error e') => ErrorsAgree e e'
  | .error (.panic p), .error (.panic p') => ranOutOfGas p = ranOutOfGas p'
  | _, _ => False

/-- What the answers of two messengers agree on. -/
def AnswersAgree (isWasm : Bool)
    (x x' : Except (Failure GoError) DispatchResult × World μ ν) : Prop :=
  SameState x.2 x'.2 ∧ ResultsAgree isWasm x.2.events x'.2.events x.1 x'.1

namespace MessageDispatcher

variable (d : MessageDispatcher μ ν C)

/-- The context a submessage is dispatched in. -/
def subContext (msg : SubMsg C) (w : World μ ν) : World μ ν :=
  match msg.gasLimit with
  | some limit =>
    if limit < gasRemaining w.gas then { w with events := [], gas := .newGasMeter limit }
    else { w with events := [] }
  | none => { w with events := [] }

/-- The answer of the messenger to a submessage. -/
def answer (addr : AccAddress) (ibcPort : String) (msg : SubMsg C) (w : World μ ν) :
    Except (Failure GoError) DispatchResult × World μ ν :=
  d.dispatchMsg addr ibcPort msg.msg (subContext msg w)

/-- One iteration of the loop: the reply that was made, if any, and how the iteration ended. -/
def turn (addr : AccAddress) (ibcPort : String) (msg : SubMsg C) (w : World μ ν) :
    Option Reply × Except (Failure GoError) (Option Bytes) × World μ ν :=
  if ReplyOn.isKnown msg.replyOn = true then
    match d.sandbox addr ibcPort msg w with
    | (.error f, w') => (none, .error f, w')
    | (.ok outcome, w') =>
      match shortCircuit msg.replyOn outcome with
      | .error f => (none, .error f, w')
      | .ok () =>
        if wantsReply msg.replyOn outcome.toBool then
          (some ⟨msg.id, d.subMsgResult msg.msg outcome, msg.payload⟩,
            GoM.mapError (.wrapped "reply")
              (d.reply addr ⟨msg.id, d.subMsgResult msg.msg outcome, msg.payload⟩) w')
        else (none, .ok none, w')
  else (none, .error (.error (errInvalid.wrap "replyOn value")), w)

/-- The replies that the loop makes. -/
def replies (addr : AccAddress) (ibcPort : String) : List (SubMsg C) → World μ ν → List Reply
  | [], _ => []
  | msg :: rest, w =>
    (d.turn addr ibcPort msg w).1.toList ++
      match (d.turn addr ibcPort msg w).2 with
      | (.ok _, w') => replies addr ibcPort rest w'
      | (.error _, _) => []

/-- The position of the submessage that the loop fails at. -/
def failedAt (addr : AccAddress) (ibcPort : String) : List (SubMsg C) → World μ ν → Option Nat
  | [], _ => none
  | msg :: rest, w =>
    match (d.turn addr ibcPort msg w).2 with
    | (.ok _, w') => (failedAt addr ibcPort rest w').map (· + 1)
    | (.error _, _) => some 0

/-- The messengers agree on every submessage of a run. -/
def AgreeAlong (d d' : MessageDispatcher μ ν C) (addr : AccAddress) (ibcPort : String) :
    List (SubMsg C) → World μ ν → World μ ν → Prop
  | [], _, _ => True
  | msg :: rest, w, w' =>
    AnswersAgree (d.isWasm msg.msg) (d.answer addr ibcPort msg w) (d'.answer addr ibcPort msg w') ∧
      ∀ data data' w₁ w₁', (d.turn addr ibcPort msg w).2 = (.ok data, w₁) →
        (d'.turn addr ibcPort msg w').2 = (.ok data', w₁') →
          AgreeAlong d d' addr ibcPort rest w₁ w₁'

variable {d} {d' : MessageDispatcher μ ν C} {addr : AccAddress} {ibcPort : String} {msg : SubMsg C}
  {w w' : World μ ν}

/-! ## One iteration -/

/-- The loop is made of its iterations. -/
theorem dispatchLoop_cons (rsp : Option Bytes) (rest : List (SubMsg C)) :
    d.dispatchLoop addr ibcPort rsp (msg :: rest) w =
      match (d.turn addr ibcPort msg w).2 with
      | (.ok data, w₁) => d.dispatchLoop addr ibcPort (data.or rsp) rest w₁
      | (.error f, w₁) => (.error f, w₁) := by
  unfold turn
  by_cases hknown : ReplyOn.isKnown msg.replyOn = true
  · rw [if_pos hknown, dispatchLoop, GoM.bind_run_ok (GoM.ensure_run_true hknown _ _)]
    rcases hsandbox : d.sandbox addr ibcPort msg w with ⟨f | outcome, w₁⟩
    · rw [GoM.bind_run_error hsandbox]
    · rw [GoM.bind_run_ok hsandbox]
      dsimp only
      rcases hcircuit : shortCircuit msg.replyOn outcome with f | ⟨⟩
      · rfl
      · rw [GoM.bind_run_ok (show GoM.ofExcept (.ok ()) w₁ = (.ok (), w₁) from rfl)]
        dsimp only
        by_cases hwants : wantsReply msg.replyOn outcome.toBool = true
        · rw [if_pos hwants, if_pos hwants]
          rcases hreply : GoM.mapError (.wrapped "reply")
            (d.reply addr ⟨msg.id, d.subMsgResult msg.msg outcome, msg.payload⟩) w₁ with
              ⟨f | data, w₂⟩
          · rw [GoM.bind_run_error hreply]
            dsimp only
            rw [hreply]
          · rw [GoM.bind_run_ok hreply]
            dsimp only
            rw [hreply]
        · rw [if_neg hwants, if_neg hwants]
          rfl
  · rw [if_neg hknown, dispatchLoop, GoM.bind_run_error (GoM.ensure_run_false hknown _ _)]

/-- The charge while a panic is handled. -/
theorem chargeThen_agree {isWasm : Bool} {v v' : World μ ν}
    (hms : v.ms = v'.ms) (hshared : v.shared = v'.shared) {parent : GasMeter} {amount : UInt64}
    {descriptor : String} {f f' : Failure GoError}
    (hf : ResultsAgree isWasm [] [] (.error f) (.error f')) :
    AnswersAgree isWasm (chargeThen v parent amount descriptor f)
      (chargeThen v' parent amount descriptor f') := by
  unfold chargeThen
  rcases parent.consumeGas amount descriptor with ⟨p | ⟨⟩, parent'⟩
  · exact ⟨⟨hms, rfl, hshared⟩, rfl⟩
  · refine ⟨⟨hms, rfl, hshared⟩, ?_⟩
    cases f <;> cases f' <;> exact hf

/-- The recovery from a panic. -/
def recovered (v : World μ ν) (parent : GasMeter) (limit : UInt64) :
    Panic → Except (Failure GoError) DispatchResult × World μ ν
  | .outOfGas _ =>
    chargeThen v parent limit "Sub-Message OutOfGas panic"
      (.error (errOutOfGas.wrap "SubMsg hit gas limit"))
  | p => chargeThen v parent v.gas.gasConsumed "From limited Sub-Message" (.panic p)

theorem recovered_agree {isWasm : Bool} {v v' : World μ ν} {parent : GasMeter} {limit : UInt64}
    {p p' : Panic} (hms : v.ms = v'.ms) (hgas : v.gas = v'.gas) (hshared : v.shared = v'.shared)
    (hp : ranOutOfGas p = ranOutOfGas p') :
    AnswersAgree isWasm (recovered v parent limit p) (recovered v' parent limit p') := by
  have hrest : AnswersAgree isWasm
      (chargeThen v parent v.gas.gasConsumed "From limited Sub-Message" (.panic p))
      (chargeThen v' parent v'.gas.gasConsumed "From limited Sub-Message" (.panic p')) := by
    rw [← hgas]
    exact chargeThen_agree hms hshared hp
  cases p with
  | outOfGas _ =>
      cases p' with
      | outOfGas _ => exact chargeThen_agree hms hshared ⟨rfl, fun _ => rfl⟩
      | gasOverflow _ => cases hp
      | message _ => cases hp
  | gasOverflow _ =>
      cases p' with
      | outOfGas _ => cases hp
      | gasOverflow _ => exact hrest
      | message _ => exact hrest
  | message _ =>
      cases p' with
      | outOfGas _ => cases hp
      | gasOverflow _ => exact hrest
      | message _ => exact hrest

theorem dispatchMsgWithGasLimit_eq (m : C) (limit : UInt64) :
    d.dispatchMsgWithGasLimit addr ibcPort m limit w =
      match d.limitedBody addr ibcPort m limit w with
      | (.error (.panic p), v, parent) => recovered v parent limit p
      | (r, v, parent) => (r, { v with gas := parent }) := by
  unfold dispatchMsgWithGasLimit
  rcases d.limitedBody addr ibcPort m limit w with ⟨(e | p) | r, v, parent⟩
  · rfl
  · cases p <;> rfl
  · rfl

/-- A message under a gas limit of its own. -/
theorem limited_agree {isWasm : Bool} {m : C} {limit : UInt64} (hgas : w.gas = w'.gas)
    (h : AnswersAgree isWasm
      (d.dispatchMsg addr ibcPort m { w with events := [], gas := .newGasMeter limit })
      (d'.dispatchMsg addr ibcPort m { w' with events := [], gas := .newGasMeter limit })) :
    AnswersAgree isWasm (d.dispatchMsgWithGasLimit addr ibcPort m limit { w with events := [] })
      (d'.dispatchMsgWithGasLimit addr ibcPort m limit { w' with events := [] }) := by
  rw [dispatchMsgWithGasLimit_eq, dispatchMsgWithGasLimit_eq, limitedBody, limitedBody]
  dsimp only
  rw [← hgas]
  generalize d.dispatchMsg addr ibcPort m { w with events := [], gas := .newGasMeter limit } = x,
    d'.dispatchMsg addr ibcPort m { w' with events := [], gas := .newGasMeter limit } = x' at h ⊢
  obtain ⟨r, v⟩ := x
  obtain ⟨r', v'⟩ := x'
  obtain ⟨⟨hms, hvgas, hshared⟩, hr⟩ := h
  match r, r', hr with
  | .ok r, .ok r', hr =>
      dsimp only
      rw [← hvgas]
      rcases w.gas.consumeGas v.gas.gasConsumed "From limited Sub-Message" with ⟨p | ⟨⟩, parent⟩
      · exact recovered_agree hms hvgas hshared rfl
      · exact ⟨⟨hms, rfl, hshared⟩, hr⟩
  | .error (.error e), .error (.error e'), hr =>
      dsimp only
      rw [← hvgas]
      rcases w.gas.consumeGas v.gas.gasConsumed "From limited Sub-Message" with ⟨p | ⟨⟩, parent⟩
      · exact recovered_agree hms hvgas hshared rfl
      · exact ⟨⟨hms, rfl, hshared⟩, hr⟩
  | .error (.panic p), .error (.panic p'), hr => exact recovered_agree hms hvgas hshared hr

/-- A gas limit does not change what the answers agree on. -/
theorem dispatchLimited_agree {isWasm : Bool} (hw : SameState w w')
    (h : AnswersAgree isWasm (d.answer addr ibcPort msg w) (d'.answer addr ibcPort msg w')) :
    AnswersAgree isWasm (d.dispatchLimited addr ibcPort msg { w with events := [] })
      (d'.dispatchLimited addr ibcPort msg { w' with events := [] }) := by
  unfold answer subContext at h
  unfold dispatchLimited
  cases hlimit : msg.gasLimit with
  | none =>
      rw [hlimit] at h
      exact h
  | some limit =>
      rw [hlimit] at h
      dsimp only at h ⊢
      rw [← hw.2.1] at h ⊢
      by_cases hlow : limit < gasRemaining w.gas
      · rw [if_pos hlow, if_pos hlow] at h
        rw [if_pos hlow, if_pos hlow]
        have hlimited := limited_agree hw.2.1 h
        rwa [← hw.2.1] at hlimited
      · rw [if_neg hlow, if_neg hlow] at h
        rw [if_neg hlow, if_neg hlow]
        exact h

/-- A submessage in its sandbox: both succeed or fail, and the contract is shown the same. -/
theorem sandbox_agree (hd : d.isWasm = d'.isWasm) (hw : SameState w w')
    (h : AnswersAgree (d.isWasm msg.msg) (d.answer addr ibcPort msg w)
      (d'.answer addr ibcPort msg w')) :
    SameState (d.sandbox addr ibcPort msg w).2 (d'.sandbox addr ibcPort msg w').2 ∧
      ((∃ outcome outcome', (d.sandbox addr ibcPort msg w).1 = .ok outcome ∧
          (d'.sandbox addr ibcPort msg w').1 = .ok outcome' ∧ outcome.toBool = outcome'.toBool ∧
          d.subMsgResult msg.msg outcome = d'.subMsgResult msg.msg outcome') ∨
        ∃ f f', (d.sandbox addr ibcPort msg w).1 = .error f ∧
          (d'.sandbox addr ibcPort msg w').1 = .error f') := by
  have hlimited := dispatchLimited_agree hw h
  unfold sandbox
  generalize d.dispatchLimited addr ibcPort msg { w with events := [] } = x,
    d'.dispatchLimited addr ibcPort msg { w' with events := [] } = x' at hlimited ⊢
  obtain ⟨r, v⟩ := x
  obtain ⟨r', v'⟩ := x'
  obtain ⟨⟨hms, hgas, hshared⟩, hr⟩ := hlimited
  match r, r', hr with
  | .ok r, .ok r', ⟨hdata, hresponses, hevents⟩ =>
      refine ⟨⟨hms, hgas, hshared⟩, .inl ⟨_, _, rfl, rfl, rfl, ?_⟩⟩
      rw [subMsgResult, subMsgResult, ← hd, hdata, hresponses]
      by_cases hwasm : d.isWasm msg.msg = true
      · rw [if_pos hwasm, if_pos hwasm, hwasm, passedEvents_eq (hevents hwasm)]
      · rw [if_neg hwasm, if_neg hwasm]
  | .error (.error e), .error (.error e'), hr =>
      refine ⟨⟨hw.1, hgas, hshared⟩, .inl ⟨_, _, rfl, rfl, rfl, ?_⟩⟩
      rw [subMsgResult, subMsgResult, redactError_eq hr]
  | .error (.panic p), .error (.panic p'), hr =>
      exact ⟨⟨hw.1, hgas, hshared⟩, .inr ⟨_, _, rfl, rfl⟩⟩

theorem shortCircuit_agree (replyOn : ReplyOn)
    {outcome outcome' : Except GoError (DispatchResult × List Event)}
    (h : outcome.toBool = outcome'.toBool) :
    (shortCircuit replyOn outcome = .ok () ∧ shortCircuit replyOn outcome' = .ok ()) ∨
      ∃ f f', shortCircuit replyOn outcome = .error f ∧
        shortCircuit replyOn outcome' = .error f' := by
  match outcome, outcome', h with
  | .ok _, .ok _, _ => cases replyOn <;> exact .inl ⟨rfl, rfl⟩
  | .error e, .error e', _ =>
      cases replyOn with
      | success => exact .inr ⟨_, _, rfl, rfl⟩
      | never => exact .inr ⟨_, _, rfl, rfl⟩
      | error => exact .inl ⟨rfl, rfl⟩
      | always => exact .inl ⟨rfl, rfl⟩
      | unknown _ => exact .inl ⟨rfl, rfl⟩

/-- A reply handler that sees only the reply and the state. -/
def DeterministicReply (reply : AccAddress → Reply → CtxM μ ν (Option Bytes)) (addr : AccAddress) :
    Prop :=
  ∀ r w w', SameState w w' →
    (reply addr r w).1 = (reply addr r w').1 ∧ SameState (reply addr r w).2 (reply addr r w').2

/-- Both return the same value, or both fail. -/
def SameEnd {α : Type} : Except (Failure GoError) α → Except (Failure GoError) α → Prop
  | .ok a, .ok a' => a = a'
  | .error _, .error _ => True
  | _, _ => False

theorem mapError_agree {f : GoError → GoError} {x : CtxM μ ν (Option Bytes)}
    (h : (x w).1 = (x w').1 ∧ SameState (x w).2 (x w').2) :
    SameState (GoM.mapError f x w).2 (GoM.mapError f x w').2 ∧
      SameEnd (GoM.mapError f x w).1 (GoM.mapError f x w').1 := by
  unfold GoM.mapError
  generalize x w = y, x w' = y' at h
  rcases y with ⟨r, v⟩
  rcases y' with ⟨r', v'⟩
  obtain ⟨rfl : r = r', hstate⟩ := h
  match r with
  | .error (.error _) => exact ⟨hstate, trivial⟩
  | .error (.panic _) => exact ⟨hstate, trivial⟩
  | .ok _ => exact ⟨hstate, rfl⟩

/-- **One iteration on two nodes**: the same reply, the same state, and either both go on with the
same data or both fail. -/
theorem turn_agree (hd : d.isWasm = d'.isWasm) (hreply : d.reply = d'.reply)
    (hdet : DeterministicReply d.reply addr) (hw : SameState w w')
    (h : AnswersAgree (d.isWasm msg.msg) (d.answer addr ibcPort msg w)
      (d'.answer addr ibcPort msg w')) :
    (d.turn addr ibcPort msg w).1 = (d'.turn addr ibcPort msg w').1 ∧
      SameState (d.turn addr ibcPort msg w).2.2 (d'.turn addr ibcPort msg w').2.2 ∧
      SameEnd (d.turn addr ibcPort msg w).2.1 (d'.turn addr ibcPort msg w').2.1 := by
  obtain ⟨hstate, hsandbox⟩ := sandbox_agree hd hw h
  unfold turn
  by_cases hknown : ReplyOn.isKnown msg.replyOn = true
  · rw [if_pos hknown, if_pos hknown]
    generalize d.sandbox addr ibcPort msg w = x, d'.sandbox addr ibcPort msg w' = x'
      at hstate hsandbox ⊢
    obtain ⟨r, v⟩ := x
    obtain ⟨r', v'⟩ := x'
    obtain ⟨outcome, outcome', rfl, rfl, hbool, hresult⟩ | ⟨f, f', rfl, rfl⟩ := hsandbox
    · obtain ⟨hok, hok'⟩ | ⟨f, f', hfail, hfail'⟩ := shortCircuit_agree msg.replyOn hbool
      · simp only [hok, hok', ← hbool, ← hresult, ← hreply]
        split_ifs
        · exact ⟨rfl, mapError_agree (hdet _ v v' hstate)⟩
        · exact ⟨rfl, hstate, rfl⟩
      · simp only [hfail, hfail']
        exact ⟨trivial, hstate, trivial⟩
    · exact ⟨rfl, hstate, trivial⟩
  · rw [if_neg hknown, if_neg hknown]
    exact ⟨rfl, hw, trivial⟩

/-! ## The loop -/

/-- A dispatcher whose replyer writes down what it is called with. -/
def Recording (d : MessageDispatcher μ (List Reply) C) (addr : AccAddress) : Prop :=
  (∀ ibcPort m w, (d.dispatchMsg addr ibcPort m w).2.shared = w.shared) ∧
    ∀ r w, (d.reply addr r w).2.shared = w.shared ++ [r]

section Recorded

variable {d : MessageDispatcher μ (List Reply) C} (hd : Recording d addr)

include hd

theorem sandbox_recorded (ibcPort : String) (msg : SubMsg C) (w : World μ (List Reply)) :
    (d.sandbox addr ibcPort msg w).2.shared = w.shared := by
  rcases hrun : d.sandbox addr ibcPort msg w with ⟨r, w₁⟩
  obtain ⟨gas, r₀, w₀, hmsg, hshared, -⟩ := sandbox_world hrun
  have hkept := hd.1 ibcPort msg.msg { w with gas := gas, events := [] }
  rw [hmsg] at hkept
  exact hshared.trans hkept

theorem turn_recorded (ibcPort : String) (msg : SubMsg C) (w : World μ (List Reply)) :
    (d.turn addr ibcPort msg w).2.2.shared = w.shared ++ (d.turn addr ibcPort msg w).1.toList := by
  have hsandbox := sandbox_recorded hd ibcPort msg w
  have hmap : ∀ r w, (GoM.mapError (.wrapped "reply") (d.reply addr r) w).2.shared =
      w.shared ++ [r] := by
    intro r w
    rw [← hd.2 r w]
    unfold GoM.mapError
    rcases d.reply addr r w with ⟨(_ | _) | _, _⟩ <;> rfl
  unfold turn
  split_ifs
  · generalize d.sandbox addr ibcPort msg w = x at hsandbox ⊢
    rcases x with ⟨_ | outcome, w₁⟩
    · simpa using hsandbox
    · dsimp only at hsandbox ⊢
      rw [← hsandbox]
      rcases shortCircuit msg.replyOn outcome with _ | ⟨⟩
      · simp
      · dsimp only
        split_ifs
        · exact hmap _ w₁
        · simp
  · simp

/-- `replies` are the calls of the replyer, in their order. -/
theorem replies_recorded (msgs : List (SubMsg C)) (rsp : Option Bytes) (w : World μ (List Reply)) :
    (d.dispatchLoop addr ibcPort rsp msgs w).2.shared =
      w.shared ++ d.replies addr ibcPort msgs w := by
  induction msgs generalizing rsp w with
  | nil => exact (List.append_nil _).symm
  | cons msg rest ih =>
      have hturn := turn_recorded hd ibcPort msg w
      rw [replies, dispatchLoop_cons, ← List.append_assoc, ← hturn]
      rcases (d.turn addr ibcPort msg w).2 with ⟨f | data, w₁⟩
      · exact (List.append_nil _).symm
      · exact ih (data.or rsp) w₁

end Recorded

/-- No submessage fails exactly when the loop returns. -/
theorem failedAt_eq_none_iff (msgs : List (SubMsg C)) (rsp : Option Bytes) (w : World μ ν) :
    d.failedAt addr ibcPort msgs w = none ↔
      ∃ data w₁, d.dispatchLoop addr ibcPort rsp msgs w = (.ok data, w₁) := by
  induction msgs generalizing rsp w with
  | nil => exact ⟨fun _ => ⟨rsp, w, rfl⟩, fun _ => rfl⟩
  | cons msg rest ih =>
      rw [failedAt, dispatchLoop_cons]
      rcases (d.turn addr ibcPort msg w).2 with ⟨f | data, w₁⟩
      · simp
      · simp only [Option.map_eq_none_iff]
        exact ih (data.or rsp) w₁

theorem events_subContext (msg : SubMsg C) (w : World μ ν) : (subContext msg w).events = [] := by
  unfold subContext
  cases msg.gasLimit with
  | none => rfl
  | some limit =>
      dsimp only
      split_ifs <;> rfl

theorem subContext_agree (hw : SameState w w') (msg : SubMsg C) :
    SameState (subContext msg w) (subContext msg w') := by
  unfold MessageDispatcher.subContext
  cases msg.gasLimit with
  | none => exact hw
  | some limit =>
      dsimp only
      rw [← hw.2.1]
      split_ifs
      · exact ⟨hw.1, rfl, hw.2.2⟩
      · exact ⟨hw.1, rfl, hw.2.2⟩

/-- Messengers that agree in every state agree along every run. -/
theorem agreeAlong_of_forall (d d' : MessageDispatcher μ ν C) (hwasm : d.isWasm = d'.isWasm)
    (hreply : d.reply = d'.reply) (hdet : DeterministicReply d.reply addr)
    (hagree : ∀ m w w', SameState w w' → w.events = [] → w'.events = [] → AnswersAgree (d.isWasm m)
      (d.dispatchMsg addr ibcPort m w) (d'.dispatchMsg addr ibcPort m w'))
    (msgs : List (SubMsg C)) (hw : SameState w w') : AgreeAlong d d' addr ibcPort msgs w w' := by
  induction msgs generalizing w w' with
  | nil => trivial
  | cons msg rest ih =>
      have hhead := hagree msg.msg _ _ (subContext_agree hw msg) (events_subContext msg w)
        (events_subContext msg w')
      refine ⟨hhead, fun data data' w₁ w₁' hturn hturn' => ih ?_⟩
      have hstate := (turn_agree hwasm hreply hdet hw hhead).2.1
      rwa [hturn, hturn'] at hstate

/-- **The contract is told the same on both nodes**, which differ in their messengers only. -/
theorem replies_deterministic (d d' : MessageDispatcher μ ν C) (hwasm : d.isWasm = d'.isWasm)
    (hreply : d.reply = d'.reply) (addr : AccAddress) (hdet : DeterministicReply d.reply addr)
    (ibcPort : String) (msgs : List (SubMsg C)) (w w' : World μ ν) (hstart : SameState w w')
    (hagree : AgreeAlong d d' addr ibcPort msgs w w') :
    d.replies addr ibcPort msgs w = d'.replies addr ibcPort msgs w' ∧
      d.failedAt addr ibcPort msgs w = d'.failedAt addr ibcPort msgs w' ∧
      ∀ data, (∃ w₁, d.dispatchSubmessages addr ibcPort msgs w = (.ok data, w₁)) ↔
        ∃ w₁, d'.dispatchSubmessages addr ibcPort msgs w' = (.ok data, w₁) := by
  unfold dispatchSubmessages
  generalize (none : Option Bytes) = rsp
  induction msgs generalizing rsp w w' with
  | nil => exact ⟨rfl, rfl, fun data => by simp [dispatchLoop]⟩
  | cons msg rest ih =>
      obtain ⟨hhead, hrest⟩ := hagree
      obtain ⟨hsame, hstate, hend⟩ := turn_agree hwasm hreply hdet hstart hhead
      rw [replies, replies, failedAt, failedAt, hsame]
      simp only [dispatchLoop_cons]
      generalize (d.turn addr ibcPort msg w).2 = x, (d'.turn addr ibcPort msg w').2 = x'
        at hstate hend hrest ⊢
      match x, x', hend with
      | (.ok data, w₁), (.ok data', w₁'), hend =>
          obtain rfl : data = data' := hend
          obtain ⟨hreplies, hfailed, hdata⟩ :=
            ih w₁ w₁' hstate (hrest data data w₁ w₁' rfl rfl) (data.or rsp)
          simp only [hreplies, hfailed]
          exact ⟨trivial, trivial, hdata⟩
      | (.error f, w₁), (.error f', w₁'), _ => exact ⟨rfl, rfl, fun data => by simp⟩

/-! ### Two nodes -/

/-- A node: a wasm message succeeds with an event, a message of another module fails. -/
def node (attributes : List Attribute) (text : String) : MessageDispatcher Unit Unit Bool where
  isWasm := id
  dispatchMsg _ _ m :=
    if m then pure ⟨[⟨"wasm", attributes⟩, ⟨"message", attributes⟩], [some [7]], []⟩
    else GoM.failWith (errUnauthorized.wrap text)
  reply _ r := pure (some r.payload)

/-- The nodes differ in the order of the attributes and in the text of the error. -/
theorem replies_deterministic_nodes :
    let d := node [⟨"a", "1"⟩, ⟨"b", "2"⟩] "timeout after 5 ms"
    let d' := node [⟨"b", "2"⟩, ⟨"a", "1"⟩] "timeout after 6 ms"
    let addr : AccAddress := .single 1
    let msgs : List (SubMsg Bool) :=
      [⟨1, [1], true, none, .always⟩, ⟨2, [2], false, some 9, .error⟩]
    let w : World Unit Unit := ⟨(), .infinite 0, [], ()⟩
    d.replies addr "" msgs w = d'.replies addr "" msgs w ∧ (d.replies addr "" msgs w).length = 2 ∧
      d.failedAt addr "" msgs w = d'.failedAt addr "" msgs w ∧
      d'.failedAt addr "" msgs w = none := by
  intro d d' addr msgs w
  have hdet : DeterministicReply d.reply addr := fun r w w' h => ⟨rfl, h⟩
  have hagree : ∀ m w w', SameState w w' → w.events = [] → w'.events = [] →
      AnswersAgree (d.isWasm m) (d.dispatchMsg addr "" m w) (d'.dispatchMsg addr "" m w') := by
    rintro (_ | _) w w' h he he'
    · exact ⟨h, rfl, nofun⟩
    · refine ⟨h, rfl, rfl, fun _ => ?_⟩
      change EventsAgree (w.events ++ _) (w'.events ++ _)
      rw [he, he']
      exact .cons ⟨rfl, .swap _ _ _ (by decide)⟩ .nil
  obtain ⟨hreplies, hfailed, -⟩ := replies_deterministic d d' rfl rfl addr hdet "" msgs w w
    ⟨rfl, rfl, rfl⟩ (agreeAlong_of_forall d d' rfl rfl hdet hagree msgs ⟨rfl, rfl, rfl⟩)
  exact ⟨hreplies, by decide +kernel, hfailed, by decide +kernel⟩

end MessageDispatcher

end Wasmd
