import Wasmd.Keeper.DispatchGas

/-!
# Trees of submessages

Handling a message may run a contract, whose response carries submessages of its own; so may
handling a reply.  The call depth bounds how often this can happen below one another.

* `Discipline` — a property of calls that passes from the parts of the dispatcher to the whole;
  being metered is one (`meteredDiscipline`).
* `Script` — what handling a message or a reply does: steps on the context, operations it begins,
  and responses of contracts that are handed to `Handle`.  `Duty` says what is asked of the parts
  of a script, and `Script.All` that all of them comply.
* `Chain.handlerAt n` — `Handle` when `n` more nested responses are allowed;
  `Discipline.handlerAt` is the rule for it.
* `Handled` — the responses that get handled anywhere in the tree below a response, with the world
  they are handled in.
* `gas_contained` — every submessage of every one of them is dispatched on a meter within its
  limit, and contained.
-/

namespace Wasmd

open ByteStore Effects Gas

variable {μ ν K C L α β : Type}

/-! ## Disciplines -/

/-- A property of calls that the dispatcher hands on: whoever is built from compliant calls
complies. -/
structure Discipline (P : ∀ {β : Type}, CtxM μ ν β → Prop) : Prop where
  pure : ∀ {β : Type} (b : β), P (Pure.pure b : CtxM μ ν β)
  ofExcept : ∀ {β : Type} (x : Except (Failure GoError) β), P (GoM.ofExcept x : CtxM μ ν β)
  bind : ∀ {β γ : Type} {x : CtxM μ ν β} {f : β → CtxM μ ν γ}, P x → (∀ b, P (f b)) → P (x >>= f)
  mapError : ∀ {β : Type} {f : GoError → GoError} {x : CtxM μ ν β}, P x → P (GoM.mapError f x)
  sandbox : ∀ {C : Type} (d : MessageDispatcher μ ν C) (addr : AccAddress) (ibcPort : String)
    (msg : SubMsg C), P (d.dispatchMsg addr ibcPort msg.msg) → P (d.sandbox addr ibcPort msg)

namespace Discipline

variable {P : ∀ {β : Type}, CtxM μ ν β → Prop} {d : MessageDispatcher μ ν C} {addr : AccAddress}
  {ibcPort : String}

theorem failWith (hP : Discipline P) (e : GoError) : P (GoM.failWith e : CtxM μ ν α) :=
  hP.ofExcept (.error (.error e))

theorem ensure (hP : Discipline P) (c : Prop) [Decidable c] (e : GoError) :
    P (GoM.ensure c e : CtxM μ ν Unit) := by
  unfold GoM.ensure
  split
  · exact hP.pure ()
  · exact hP.failWith e

/-- **The loop complies** when the messenger and the replyer do: one iteration does, and the rest
of the list does by induction. -/
theorem dispatchLoop (hP : Discipline P) (hm : ∀ msg, P (d.dispatchMsg addr ibcPort msg))
    (hr : ∀ reply, P (d.reply addr reply)) (msgs : List (SubMsg C)) (rsp : Option Bytes) :
    P (d.dispatchLoop addr ibcPort rsp msgs) := by
  induction msgs generalizing rsp with
  | nil => exact hP.pure rsp
  | cons msg rest ih =>
      unfold MessageDispatcher.dispatchLoop
      refine hP.bind (hP.ensure _ _) fun _ => ?_
      refine hP.bind (hP.sandbox d addr ibcPort msg (hm msg.msg)) fun outcome => ?_
      refine hP.bind (hP.ofExcept _) fun _ => ?_
      split
      · exact hP.bind (hP.mapError (hr _)) fun rspData => ih _
      · exact ih rsp

theorem handle (hP : Discipline P) (hm : ∀ msg, P (d.dispatchMsg addr ibcPort msg))
    (hr : ∀ reply, P (d.reply addr reply)) (msgs : List (SubMsg C)) (data : Option Bytes) :
    P (d.handle addr ibcPort msgs data) :=
  hP.bind (hP.dispatchLoop hm hr msgs none) fun rsp => hP.pure (rsp.or data)

end Discipline

theorem meteredDiscipline : Discipline fun {β} (x : CtxM μ ν β) => Metered x where
  pure := Metered.pure
  ofExcept := Metered.ofExcept
  bind := Metered.bind
  mapError := Metered.mapError
  sandbox _ _ _ msg hm := MessageDispatcher.metered_sandbox msg hm

/-! ### A sandboxed message -/

namespace MessageDispatcher

variable {d : MessageDispatcher μ ν C} {addr : AccAddress} {ibcPort : String} {msg : SubMsg C}
  {w w' : World μ ν}

theorem limitedBody_world {m : C} {g : UInt64} {r : Except (Failure GoError) DispatchResult}
    {parent : GasMeter} (h : d.limitedBody addr ibcPort m g w = (r, w', parent)) :
    ∃ r₀, d.dispatchMsg addr ibcPort m { w with gas := .newGasMeter g } = (r₀, w') ∧
      ∀ a, r = .ok a → r₀ = .ok a := by
  unfold limitedBody at h
  split at h
  · rename_i p sub hrun
    cases h
    exact ⟨_, hrun, fun _ ha => ha⟩
  · rename_i r₀ sub _ hrun
    split at h
    · cases h
      exact ⟨_, hrun, fun _ ha => ha⟩
    · cases h
      exact ⟨_, hrun, fun _ ha => by cases ha⟩

theorem chargeThen_world {sub : World μ ν} {m : GasMeter} {amount : UInt64} {descriptor : String}
    {failure : Failure GoError} {r : Except (Failure GoError) DispatchResult}
    (h : chargeThen sub m amount descriptor failure = (r, w')) :
    w'.ms = sub.ms ∧ w'.shared = sub.shared ∧ ∀ a, r ≠ .ok a := by
  unfold chargeThen at h
  split at h <;> cases h <;> exact ⟨rfl, rfl, fun _ ha => by cases ha⟩

theorem dispatchMsgWithGasLimit_world {m : C} {g : UInt64}
    {r : Except (Failure GoError) DispatchResult}
    (h : d.dispatchMsgWithGasLimit addr ibcPort m g w = (r, w')) :
    ∃ r₀ w₀, d.dispatchMsg addr ibcPort m { w with gas := .newGasMeter g } = (r₀, w₀) ∧
      w'.ms = w₀.ms ∧ w'.shared = w₀.shared ∧ ∀ a, r = .ok a → r₀ = .ok a := by
  unfold dispatchMsgWithGasLimit at h
  split at h
  · rename_i text sub parent hbody
    obtain ⟨r₀, hrun, -⟩ := limitedBody_world hbody
    obtain ⟨hms, hshared, hno⟩ := chargeThen_world h
    exact ⟨r₀, sub, hrun, hms, hshared, fun a ha => absurd ha (hno a)⟩
  · rename_i p sub parent _ hbody
    obtain ⟨r₀, hrun, -⟩ := limitedBody_world hbody
    obtain ⟨hms, hshared, hno⟩ := chargeThen_world h
    exact ⟨r₀, sub, hrun, hms, hshared, fun a ha => absurd ha (hno a)⟩
  · rename_i r₁ sub parent _ _ hbody
    obtain ⟨r₀, hrun, hok⟩ := limitedBody_world hbody
    cases h
    exact ⟨r₀, sub, hrun, rfl, rfl, hok⟩

/-- A gas limit changes the meter only: the message ran on some meter, and what it left is there but
for the gas. -/
theorem dispatchLimited_world {r : Except (Failure GoError) DispatchResult}
    (h : d.dispatchLimited addr ibcPort msg w = (r, w')) :
    ∃ gas r₀ w₀, d.dispatchMsg addr ibcPort msg.msg { w with gas := gas } = (r₀, w₀) ∧
      w'.ms = w₀.ms ∧ w'.shared = w₀.shared ∧ ∀ a, r = .ok a → r₀ = .ok a := by
  have hplain : d.dispatchMsg addr ibcPort msg.msg w = (r, w') → ∃ gas r₀ w₀,
      d.dispatchMsg addr ibcPort msg.msg { w with gas := gas } = (r₀, w₀) ∧
        w'.ms = w₀.ms ∧ w'.shared = w₀.shared ∧ ∀ a, r = .ok a → r₀ = .ok a :=
    fun hrun => ⟨w.gas, r, w', hrun, rfl, rfl, fun _ ha => ha⟩
  unfold dispatchLimited at h
  split at h
  · split at h
    · exact ⟨_, dispatchMsgWithGasLimit_world h⟩
    · exact hplain h
  · exact hplain h

/-- **The sandbox**: what a successful message left is committed, and the multistore is as before
otherwise; what is not rolled back is as the message left it. -/
theorem sandbox_world {r : Except (Failure GoError) (Except GoError (DispatchResult × List Event))}
    (h : d.sandbox addr ibcPort msg w = (r, w')) :
    ∃ gas r₀ w₀, d.dispatchMsg addr ibcPort msg.msg { w with gas := gas, events := [] } = (r₀, w₀) ∧
      w'.shared = w₀.shared ∧ ((∃ a, r₀ = .ok a) ∧ w'.ms = w₀.ms ∨ w'.ms = w.ms) := by
  unfold sandbox at h
  split at h
  · rename_i a sub hrun
    obtain ⟨gas, r₀, w₀, hmsg, hms, hshared, hok⟩ := dispatchLimited_world hrun
    cases h
    exact ⟨gas, r₀, w₀, hmsg, hshared, .inl ⟨⟨a, hok a rfl⟩, hms⟩⟩
  · rename_i e sub hrun
    obtain ⟨gas, r₀, w₀, hmsg, -, hshared, -⟩ := dispatchLimited_world hrun
    cases h
    exact ⟨gas, r₀, w₀, hmsg, hshared, .inr rfl⟩
  · rename_i p sub hrun
    obtain ⟨gas, r₀, w₀, hmsg, -, hshared, -⟩ := dispatchLimited_world hrun
    cases h
    exact ⟨gas, r₀, w₀, hmsg, hshared, .inr rfl⟩

end MessageDispatcher

/-! ## Scripts -/

/-- The response of a contract and the context it is handled in, as `handleContractResponse`
passes them to `Handle`.  Which entry point returned it is recorded for the proofs only: nothing
that handles the response reads it. -/
structure Response (K C : Type) where
  ctx : K
  contract : AccAddress
  entry : EntryPoint
  ibcPort : String
  msgs : List (SubMsg C)
  data : Option Bytes

/-- What handling a message or a reply does. -/
inductive Script (μ ν K C L α : Type) : Type 1 where
  | done (a : α)
  /-- A step on the context, such as a charge, a transfer or the run of a contract in the VM. -/
  | step {β : Type} (x : CtxM μ ν β) (next : β → Script μ ν K C L α)
  /-- The operation `l` begins. -/
  | mark (l : L) (next : Script μ ν K C L α)
  /-- The response of a contract; an error is wrapped and ends the script, else what follows
  depends on the data. -/
  | respond (wrap : GoError → GoError) (r : Response K C)
      (next : Option Bytes → Script μ ν K C L α)

/-- What is asked of the parts of a script. -/
structure Duty (μ ν K C L : Type) where
  step : ∀ {β : Type}, CtxM μ ν β → Prop
  mark : L → Prop
  response : Response K C → Prop

namespace Script

/-- One script after another. -/
def bind : Script μ ν K C L α → (α → Script μ ν K C L β) → Script μ ν K C L β
  | done a, f => f a
  | step x next, f => .step x fun b => (next b).bind f
  | mark l next, f => .mark l (next.bind f)
  | respond wrap r next, f => .respond wrap r fun rsp => (next rsp).bind f

instance : Monad (Script μ ν K C L) where
  pure := .done
  bind := Script.bind

/-- The script with every error of it changed. -/
def mapError (f : GoError → GoError) : Script μ ν K C L α → Script μ ν K C L α
  | done a => .done a
  | step x next => .step (GoM.mapError f x) fun b => (next b).mapError f
  | mark l next => .mark l (next.mapError f)
  | respond wrap r next => .respond (f ∘ wrap) r fun rsp => (next rsp).mapError f

/-- A single step. -/
def lift (x : CtxM μ ν α) : Script μ ν K C L α := .step x .done

instance : MonadLift (CtxM μ ν) (Script μ ν K C L) := ⟨lift⟩

/-- The script with a way to handle responses. -/
def run (handler : Response K C → CtxM μ ν (Option Bytes)) : Script μ ν K C L α → CtxM μ ν α
  | done a => pure a
  | step x next => x >>= fun b => (next b).run handler
  | mark _ next => next.run handler
  | respond wrap r next => GoM.mapError wrap (handler r) >>= fun rsp => (next rsp).run handler

/-- Every part of the script complies. -/
def All (D : Duty μ ν K C L) : Script μ ν K C L α → Prop
  | done _ => True
  | step x next => D.step x ∧ ∀ b, (next b).All D
  | mark l next => D.mark l ∧ next.All D
  | respond _ r next => D.response r ∧ ∀ rsp, (next rsp).All D

/-- A point a script gets to. -/
inductive Point (K C L : Type) where
  | mark (l : L)
  | respond (r : Response K C)

/-- The run of the script from a world gets to a point in the world `w'`. -/
inductive Reaches (handler : Response K C → CtxM μ ν (Option Bytes)) :
    Script μ ν K C L α → World μ ν → Point K C L → World μ ν → Prop
  | respond {wrap r next w} : Reaches handler (.respond wrap r next) w (.respond r) w
  | mark {l next w} : Reaches handler (.mark l next) w (.mark l) w
  | step {β : Type} {x : CtxM μ ν β} {next b w w₁ p w'} : x w = (.ok b, w₁) →
      Reaches handler (next b) w₁ p w' → Reaches handler (.step x next) w p w'
  | pastMark {l next w p w'} : Reaches handler next w p w' → Reaches handler (.mark l next) w p w'
  | pastRespond {wrap r next rsp w w₁ p w'} : handler r w = (.ok rsp, w₁) →
      Reaches handler (next rsp) w₁ p w' → Reaches handler (.respond wrap r next) w p w'

variable {handler : Response K C → CtxM μ ν (Option Bytes)}

end Script

theorem Discipline.run {P : ∀ {β : Type}, CtxM μ ν β → Prop} (hP : Discipline P)
    {handler : Response K C → CtxM μ ν (Option Bytes)} {D : Duty μ ν K C L}
    (hD : ∀ {β : Type} (x : CtxM μ ν β), D.step x → P x) (hh : ∀ r, D.response r → P (handler r))
    {s : Script μ ν K C L α} (hs : s.All D) : P (s.run handler) := by
  induction s with
  | done a => exact hP.pure a
  | step x next ih => exact hP.bind (hD x hs.1) fun b => ih b (hs.2 b)
  | mark l next ih => exact ih hs.2
  | respond wrap r next ih => exact hP.bind (hP.mapError (hh r hs.1)) fun rsp => ih rsp (hs.2 rsp)

/-! ## Chains -/

/-- What the chain does with messages and replies. -/
structure Chain (μ ν K C L : Type) where
  isWasm : C → Bool
  onMsg : K → AccAddress → String → C → Script μ ν K C L DispatchResult
  onReply : K → AccAddress → Reply → Script μ ν K C L (Option Bytes)

namespace Chain

/-- The dispatcher on the context `ctx` that handles nested responses with `handler`. -/
def dispatcher (c : Chain μ ν K C L) (ctx : K)
    (handler : Response K C → CtxM μ ν (Option Bytes)) : MessageDispatcher μ ν C where
  isWasm := c.isWasm
  dispatchMsg addr ibcPort msg := (c.onMsg ctx addr ibcPort msg).run handler
  reply addr reply := (c.onReply ctx addr reply).run handler

/-- `Handle` behind `checkAndIncreaseCallDepth`, when `n` more nested responses are allowed. -/
def handlerAt (c : Chain μ ν K C L) : Nat → Response K C → CtxM μ ν (Option Bytes)
  | 0, _ => GoM.failWith (.registered errExceedMaxCallDepth)
  | n + 1, r => (c.dispatcher r.ctx (c.handlerAt n)).handle r.contract r.ibcPort r.msgs r.data

/-- The dispatcher below which `n` more nested responses are allowed. -/
def dispatcherAt (c : Chain μ ν K C L) (n : Nat) (ctx : K) : MessageDispatcher μ ν C :=
  c.dispatcher ctx (c.handlerAt n)

/-- Below a compliant response, messages and replies have compliant scripts. -/
structure Complies (c : Chain μ ν K C L) (D : Duty μ ν K C L) : Prop where
  onMsg : ∀ r : Response K C, D.response r → ∀ msg, (c.onMsg r.ctx r.contract r.ibcPort msg).All D
  onReply : ∀ r : Response K C, D.response r → ∀ reply, (c.onReply r.ctx r.contract reply).All D

end Chain

namespace Discipline

variable {P : ∀ {β : Type}, CtxM μ ν β → Prop} {D : Duty μ ν K C L} {c : Chain μ ν K C L}

/-- **Responses are handled with discipline** when every step of every script complies. -/
theorem handlerAt (hP : Discipline P) (hD : ∀ {β : Type} (x : CtxM μ ν β), D.step x → P x)
    (hc : c.Complies D) (n : Nat) (r : Response K C) (hr : D.response r) :
    P (c.handlerAt n r) := by
  induction n generalizing r with
  | zero => exact hP.failWith _
  | succ n ih =>
      exact hP.handle (fun msg => hP.run hD ih (hc.onMsg r hr msg))
        (fun reply => hP.run hD ih (hc.onReply r hr reply)) r.msgs r.data

theorem dispatchMsg (hP : Discipline P) (hD : ∀ {β : Type} (x : CtxM μ ν β), D.step x → P x)
    (hc : c.Complies D) (n : Nat) (r : Response K C) (hr : D.response r) (msg : C) :
    P ((c.dispatcherAt n r.ctx).dispatchMsg r.contract r.ibcPort msg) :=
  hP.run hD (hP.handlerAt hD hc n) (hc.onMsg r hr msg)

theorem reply (hP : Discipline P) (hD : ∀ {β : Type} (x : CtxM μ ν β), D.step x → P x)
    (hc : c.Complies D) (n : Nat) (r : Response K C) (hr : D.response r) (reply : Reply) :
    P ((c.dispatcherAt n r.ctx).reply r.contract reply) :=
  hP.run hD (hP.handlerAt hD hc n) (hc.onReply r hr reply)

end Discipline

/-! ## The tree -/

namespace MessageDispatcher

/-- The loop over a list of submessages gets to `msg` in the world `w'`. -/
inductive LoopAt (d : MessageDispatcher μ ν C) (addr : AccAddress) (ibcPort : String) :
    Option Bytes → List (SubMsg C) → World μ ν → SubMsg C → World μ ν → Prop
  | here {rsp msg rest w} : LoopAt d addr ibcPort rsp (msg :: rest) w msg w
  | past {rsp first rest w rsp₁ w₁ msg w'} :
      d.dispatchLoop addr ibcPort rsp [first] w = (.ok rsp₁, w₁) →
      LoopAt d addr ibcPort rsp₁ rest w₁ msg w' →
      LoopAt d addr ibcPort rsp (first :: rest) w msg w'

/-- The world the messenger is called in: without events, and on a meter of its own if the
submessage has a limit below what is left. -/
def subWorld (msg : SubMsg C) (w : World μ ν) : World μ ν :=
  match msg.gasLimit with
  | some g => if g < gasRemaining w.gas then { w with events := [], gas := .newGasMeter g }
    else { w with events := [] }
  | none => { w with events := [] }

theorem within_subWorld (msg : SubMsg C) {w : World μ ν} (hw : w.gas.Within) :
    (subWorld msg w).gas.Within := by
  unfold subWorld
  split
  · split
    · exact GasMeter.within_newGasMeter _
    · exact hw
  · exact hw

end MessageDispatcher

open MessageDispatcher

/-- While handling the response `r` from the world `w`, with `n` nested responses allowed, the
chain gets to handling the response `r'` from `w'`, with `n'` allowed. -/
inductive Handled (c : Chain μ ν K C L) (n : Nat) (r : Response K C) (w : World μ ν) :
    Nat → Response K C → World μ ν → Prop
  | root : Handled c n r w n r w
  /-- A response in the script of a submessage. -/
  | message {n₁ r₁ w₁ msg w₂ r' w'} : Handled c n r w (n₁ + 1) r₁ w₁ →
      LoopAt (c.dispatcherAt n₁ r₁.ctx) r₁.contract r₁.ibcPort none r₁.msgs w₁ msg w₂ →
      (c.onMsg r₁.ctx r₁.contract r₁.ibcPort msg.msg).Reaches (c.handlerAt n₁) (subWorld msg w₂)
        (.respond r') w' →
      Handled c n r w n₁ r' w'
  /-- A response in the script of the reply to a submessage. -/
  | reply {n₁ r₁ w₁ msg w₂ outcome w₃ r' w'} : Handled c n r w (n₁ + 1) r₁ w₁ →
      LoopAt (c.dispatcherAt n₁ r₁.ctx) r₁.contract r₁.ibcPort none r₁.msgs w₁ msg w₂ →
      (c.dispatcherAt n₁ r₁.ctx).sandbox r₁.contract r₁.ibcPort msg w₂ = (.ok outcome, w₃) →
      shortCircuit msg.replyOn outcome = .ok () →
      wantsReply msg.replyOn outcome.toBool = true →
      (c.onReply r₁.ctx r₁.contract
        ⟨msg.id, (c.dispatcherAt n₁ r₁.ctx).subMsgResult msg.msg outcome, msg.payload⟩).Reaches
        (c.handlerAt n₁) w₃ (.respond r') w' →
      Handled c n r w n₁ r' w'

/-- A response in the tree is the one it starts with, or fewer responses are allowed below it. -/
theorem Handled.root_or_lt {c : Chain μ ν K C L} {n n' : Nat} {r r' : Response K C}
    {w w' : World μ ν} (h : Handled c n r w n' r' w') : n' = n ∧ r' = r ∧ w' = w ∨ n' < n := by
  induction h with
  | root => exact .inl ⟨rfl, rfl, rfl⟩
  | message _ _ _ ih => omega
  | reply _ _ _ _ _ _ ih => omega

/-! ## Gas in the tree -/

/-- Messages and replies only charge the meter of the context they are given, and do not swallow
out-of-gas panics. -/
def meteredDuty : Duty μ ν K C L where
  step x := Metered x
  mark _ := True
  response _ := True

theorem LoopAt.within {d : MessageDispatcher μ ν C} {addr : AccAddress} {ibcPort : String}
    (hm : ∀ msg, Metered (d.dispatchMsg addr ibcPort msg))
    (hr : ∀ reply, Metered (d.reply addr reply)) {rsp : Option Bytes} {msgs : List (SubMsg C)}
    {w w' : World μ ν} {msg : SubMsg C} (h : LoopAt d addr ibcPort rsp msgs w msg w')
    (hw : w.gas.Within) : w'.gas.Within := by
  induction h with
  | here => exact hw
  | past hx _ ih =>
      have hloop := meteredDiscipline.dispatchLoop hm hr _ _ _ _ _ hw hx
      exact ih (hloop.2 (not_panicked_ok _))

theorem Reaches.within {handler : Response K C → CtxM μ ν (Option Bytes)}
    (hh : ∀ r, Metered (handler r)) {s : Script μ ν K C L α} {w w' : World μ ν}
    {p : Script.Point K C L} (h : s.Reaches handler w p w') (hs : s.All meteredDuty)
    (hw : w.gas.Within) : w'.gas.Within := by
  induction h with
  | respond => exact hw
  | mark => exact hw
  | step hx _ ih => exact ih (hs.2 _) ((hs.1 _ _ _ hw hx).2 (not_panicked_ok _))
  | pastMark _ ih => exact ih hs.2 hw
  | pastRespond hx _ ih => exact ih (hs.2 _) ((hh _ _ _ _ hw hx).2 (not_panicked_ok _))

section Metered

variable {c : Chain μ ν K C L} (hc : c.Complies meteredDuty)
include hc

theorem metered_handlerAt (n : Nat) (r : Response K C) : Metered (c.handlerAt n r) :=
  meteredDiscipline.handlerAt (fun _ hx => hx) hc n r trivial

theorem metered_dispatchMsg (n : Nat) (r : Response K C) (msg : C) :
    Metered ((c.dispatcherAt n r.ctx).dispatchMsg r.contract r.ibcPort msg) :=
  meteredDiscipline.dispatchMsg (fun _ hx => hx) hc n r trivial msg

theorem metered_reply (n : Nat) (r : Response K C) (reply : Reply) :
    Metered ((c.dispatcherAt n r.ctx).reply r.contract reply) :=
  meteredDiscipline.reply (fun _ hx => hx) hc n r trivial reply

/-- **Every response in the tree is handled on a meter within its limit**: each constructor walks
from one such meter to the next. -/
theorem Handled.within {n n' : Nat} {r r' : Response K C} {w w' : World μ ν}
    (h : Handled c n r w n' r' w') (hw : w.gas.Within) : w'.gas.Within := by
  induction h with
  | root => exact hw
  | message _ hloop hreach ih =>
      have hw₂ := LoopAt.within (metered_dispatchMsg hc _ _) (metered_reply hc _ _) hloop ih
      exact Reaches.within (metered_handlerAt hc _) hreach (hc.onMsg _ trivial _)
        (within_subWorld _ hw₂)
  | reply _ hloop hbox _ _ hreach ih =>
      have hw₂ := LoopAt.within (metered_dispatchMsg hc _ _) (metered_reply hc _ _) hloop ih
      have hw₃ := (metered_sandbox _ (metered_dispatchMsg hc _ _ _) _ _ _ hw₂ hbox).2
        (not_panicked_ok _)
      exact Reaches.within (metered_handlerAt hc _) hreach (hc.onReply _ trivial _) hw₃

end Metered

/-- **Gas is contained at every submessage of every tree**: wherever in the tree below the
response `r` the loop gets to a submessage `msg`. -/
theorem gas_contained (c : Chain μ ν K C L) (hc : c.Complies meteredDuty) (n : Nat)
    (r : Response K C) (w : World μ ν) (hw : w.gas.Within) (n' : Nat) (r' : Response K C)
    (w₁ : World μ ν) (h : Handled c n r w (n' + 1) r' w₁) (msg : SubMsg C) (w₂ : World μ ν)
    (hloop : LoopAt (c.dispatcherAt n' r'.ctx) r'.contract r'.ibcPort none r'.msgs w₁ msg w₂) :
    Contained (c.dispatcherAt n' r'.ctx) r'.contract r'.ibcPort msg { w₂ with events := [] } := by
  have hw₁ : w₁.gas.Within := Handled.within hc h hw
  have hw₂ : w₂.gas.Within :=
    LoopAt.within (metered_dispatchMsg hc _ _) (metered_reply hc _ _) hloop hw₁
  exact contained_of_metered (metered_dispatchMsg hc n' r' msg.msg) hw₂

/-- A chain on which the message `true` runs a contract that costs 7 and sends `false` with a
limit of 30; `false` costs 5. -/
def relayChain : Chain Unit Unit Unit Bool Empty where
  isWasm _ := true
  onMsg ctx addr ibcPort msg :=
    match msg with
    | true => .step (consumeGas 7 "outer") fun _ =>
        .respond id ⟨ctx, addr, .execute, ibcPort, [⟨2, [], false, some 30, .always⟩], none⟩
            fun _ =>
          .done ⟨[], [], []⟩
    | false => .step (consumeGas 5 "inner") fun _ => .done ⟨[], [], []⟩
  onReply _ _ _ := .done none

theorem relayChain_metered : relayChain.Complies meteredDuty where
  onMsg _ _ msg := by
    cases msg with
    | true => exact ⟨metered_consumeGas _ _, fun _ => ⟨trivial, fun _ => trivial⟩⟩
    | false => exact ⟨metered_consumeGas _ _, fun _ => trivial⟩
  onReply _ _ _ := trivial

/-- The inner submessage under two limits: the outer one runs with 50 of the 1000 gas. -/
theorem gas_contained_relay :
    ∃ (contract : AccAddress) (w : World Unit Unit), w.gas = .basic 50 7 ∧
      Contained (relayChain.dispatcherAt 0 ()) contract "" ⟨2, [], false, some 30, .always⟩
        { w with events := [] } := by
  let contract : AccAddress := .twenty 1
  let root : Response Unit Bool :=
    ⟨(), contract, .execute, "", [⟨1, [], true, some 50, .never⟩], none⟩
  let inner : Response Unit Bool :=
    ⟨(), contract, .execute, "", [⟨2, [], false, some 30, .always⟩], none⟩
  let w : World Unit Unit := ⟨(), .basic 50 7, [], ()⟩
  have hreach : (relayChain.onMsg () contract "" true).Reaches (relayChain.handlerAt 1)
      ⟨(), .basic 50 0, [], ()⟩ (.respond inner) w := .step rfl .respond
  have hinner : Handled relayChain 2 root ⟨(), .basic 1000 0, [], ()⟩ 1 inner w :=
    .message .root .here hreach
  exact ⟨contract, w, rfl, gas_contained relayChain relayChain_metered 2 root
    ⟨(), .basic 1000 0, [], ()⟩ (by decide) 0 inner w hinner _ w .here⟩

end Wasmd
