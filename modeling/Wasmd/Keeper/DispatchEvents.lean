import Wasmd.Keeper.DispatchFold
import Wasmd.Keeper.DispatchTree
import Wasmd.Lib.Triples

/-!
# Events in trees of submessages

The events of a submessage reach its parent when it succeeds, through a filter and a sort of their
attributes, and are dropped when it fails.

* `AllEvents G` — every event of a world has the property `G`.
* `Script.Ensures`, `Chain.Emits` — the scripts of messages and replies emit events with this
  property, and so do the messages in what they return.
* `Chain.Emits.handlerAt` — then so does the handling of every response, whatever the tree below it.
* `Script.Makes` — a script gets to a step; `Script.Makes.not_ok` says that a step that fails is the
  end of the whole script, and `sandbox_dropped` that nothing of a failed submessage is left.
-/

namespace Wasmd

open ByteStore Effects Gas MessageDispatcher

variable {μ ν K C L α β : Type} {G : Event → Prop}

/-- Every event has the property. -/
def AllEvents (G : Event → Prop) (w : World μ ν) : Prop := ∀ e ∈ w.events, G e

/-- Every event a message returned has the property. -/
def DispatchResult.AllEvents (G : Event → Prop) (r : DispatchResult) : Prop := ∀ e ∈ r.events, G e

/-! ## Scripts -/

namespace Script

/-- The steps of the script keep the invariant, and what it returns satisfies `Q`. -/
def Ensures (I : World μ ν → Prop) : Script μ ν K C L α → (α → Prop) → Prop
  | done a, Q => Q a
  | step x next, Q => ∃ R, GoM.Ensures I x R ∧ ∀ b, R b → (next b).Ensures I Q
  | mark _ next, Q => next.Ensures I Q
  | respond _ _ next, Q => ∀ rsp, (next rsp).Ensures I Q

variable {I : World μ ν → Prop} {R : α → Prop} {Q : β → Prop}
  {handler : Response K C → CtxM μ ν (Option Bytes)}

theorem Ensures.bind {s : Script μ ν K C L α} {f : α → Script μ ν K C L β} (hs : s.Ensures I R)
    (hf : ∀ a, R a → (f a).Ensures I Q) : (s >>= f).Ensures I Q := by
  show (s.bind f).Ensures I Q
  induction s with
  | done a => exact hf a hs
  | step x next ih =>
      obtain ⟨P, hx, hnext⟩ := hs
      exact ⟨P, hx, fun b hb => ih b (hnext b hb)⟩
  | mark l next ih => exact ih hs
  | respond wrap r next ih => exact fun rsp => ih rsp (hs rsp)

theorem Ensures.mono {R' : α → Prop} {s : Script μ ν K C L α} (hs : s.Ensures I R)
    (h : ∀ a, R a → R' a) : s.Ensures I R' := by
  induction s with
  | done a => exact h a hs
  | step x next ih =>
      obtain ⟨P, hx, hnext⟩ := hs
      exact ⟨P, hx, fun b hb => ih b (hnext b hb)⟩
  | mark l next ih => exact ih hs
  | respond wrap r next ih => exact fun rsp => ih rsp (hs rsp)

theorem Ensures.lift {x : CtxM μ ν α} (hx : GoM.Ensures I x R) :
    (lift x : Script μ ν K C L α).Ensures I R :=
  ⟨R, hx, fun _ hb => hb⟩

theorem Ensures.mapError {g : GoError → GoError} {s : Script μ ν K C L α} (hs : s.Ensures I R) :
    (s.mapError g).Ensures I R := by
  induction s with
  | done a => exact hs
  | step x next ih =>
      obtain ⟨P, hx, hnext⟩ := hs
      exact ⟨P, hx.mapError, fun b hb => ih b (hnext b hb)⟩
  | mark l next ih => exact ih hs
  | respond wrap r next ih => exact fun rsp => ih rsp (hs rsp)

theorem Ensures.run (hh : ∀ r, GoM.Ensures I (handler r) fun _ => True) {s : Script μ ν K C L α}
    (hs : s.Ensures I R) : GoM.Ensures I (s.run handler) R := by
  induction s with
  | done a => exact .pure hs
  | step x next ih =>
      obtain ⟨P, hx, hnext⟩ := hs
      exact hx.bind fun b hb => ih b (hnext b hb)
  | mark l next ih => exact ih hs
  | respond wrap r next ih => exact (hh r).mapError.bind fun rsp _ => ih rsp (hs rsp)

/-- The run of the script from a world gets to the step `y` in the world `w'`. -/
inductive Makes {γ : Type} (handler : Response K C → CtxM μ ν (Option Bytes)) :
    Script μ ν K C L α → World μ ν → CtxM μ ν γ → World μ ν → Prop
  | here {y next w} : Makes handler (.step y next) w y w
  | step {β : Type} {x : CtxM μ ν β} {next b w w₁ y w'} : x w = (.ok b, w₁) →
      Makes handler (next b) w₁ y w' → Makes handler (.step x next) w y w'
  | mark {l next w y w'} : Makes handler next w y w' → Makes handler (.mark l next) w y w'
  | respond {wrap r next rsp w w₁ y w'} : handler r w = (.ok rsp, w₁) →
      Makes handler (next rsp) w₁ y w' → Makes handler (.respond wrap r next) w y w'

/-- **A step that fails ends the script.** -/
theorem Makes.not_ok {γ : Type} {s : Script μ ν K C L α} {w w' : World μ ν} {y : CtxM μ ν γ}
    (h : Makes handler s w y w') (hy : ∀ c w'', y w' ≠ (.ok c, w'')) (a : α) (w'' : World μ ν) :
    s.run handler w ≠ (.ok a, w'') := by
  induction h with
  | here =>
      intro hrun
      obtain ⟨c, w₁, hc, -⟩ := GoM.bind_ok_iff.mp hrun
      exact hy c w₁ hc
  | step hx _ ih =>
      intro hrun
      obtain ⟨b, w₁, hb, hrest⟩ := GoM.bind_ok_iff.mp hrun
      rw [hx] at hb
      cases hb
      exact ih hy hrest
  | mark _ ih => exact ih hy
  | respond hx _ ih =>
      intro hrun
      obtain ⟨b, w₁, hb, hrest⟩ := GoM.bind_ok_iff.mp hrun
      rw [GoM.mapError_ok_iff.mpr hx] at hb
      cases hb
      exact ih hy hrest

end Script

/-! ## Submessages -/

namespace MessageDispatcher

variable {d : MessageDispatcher μ ν C} {addr : AccAddress} {ibcPort : String} {msg : SubMsg C}
  {w w' : World μ ν}

theorem chargeThen_events {sub : World μ ν} {m : GasMeter} {amount : UInt64} {descriptor : String}
    {failure : Failure GoError} {r : Except (Failure GoError) DispatchResult}
    (h : chargeThen sub m amount descriptor failure = (r, w')) :
    w'.events = sub.events ∧ ∀ a, r ≠ .ok a := by
  unfold chargeThen at h
  split at h <;> cases h <;> exact ⟨rfl, fun _ ha => by cases ha⟩

/-- A limit changes the meter only: events and result are those of the message on some meter. -/
theorem dispatchLimited_events {r : Except (Failure GoError) DispatchResult}
    (h : d.dispatchLimited addr ibcPort msg w = (r, w')) :
    ∃ gas r₀ w₀, d.dispatchMsg addr ibcPort msg.msg { w with gas := gas } = (r₀, w₀) ∧
      w'.events = w₀.events ∧ ∀ a, r = .ok a → r₀ = .ok a := by
  have hplain : d.dispatchMsg addr ibcPort msg.msg w = (r, w') → ∃ gas r₀ w₀,
      d.dispatchMsg addr ibcPort msg.msg { w with gas := gas } = (r₀, w₀) ∧
        w'.events = w₀.events ∧ ∀ a, r = .ok a → r₀ = .ok a :=
    fun hrun => ⟨w.gas, r, w', hrun, rfl, fun _ ha => ha⟩
  unfold dispatchLimited at h
  split at h
  · split at h
    · rename_i limit _ _
      unfold dispatchMsgWithGasLimit at h
      split at h
      · rename_i sub parent hbody
        obtain ⟨r₀, hrun, -⟩ := limitedBody_world hbody
        obtain ⟨hevents, hno⟩ := chargeThen_events h
        exact ⟨_, r₀, sub, hrun, hevents, fun a ha => absurd ha (hno a)⟩
      · rename_i sub parent _ hbody
        obtain ⟨r₀, hrun, -⟩ := limitedBody_world hbody
        obtain ⟨hevents, hno⟩ := chargeThen_events h
        exact ⟨_, r₀, sub, hrun, hevents, fun a ha => absurd ha (hno a)⟩
      · rename_i sub parent _ _ hbody
        obtain ⟨r₀, hrun, hok⟩ := limitedBody_world hbody
        cases h
        exact ⟨_, r₀, sub, hrun, rfl, hok⟩
    · exact hplain h
  · exact hplain h

/-- **Nothing of a submessage that does not succeed is left with the parent**: neither events nor
state. -/
theorem sandbox_dropped
    {r : Except (Failure GoError) (Except GoError (DispatchResult × List Event))}
    (h : d.sandbox addr ibcPort msg w = (r, w')) (hno : ∀ out, r ≠ .ok (.ok out)) :
    w'.events = w.events ∧ w'.ms = w.ms := by
  unfold sandbox at h
  split at h
  · cases h
    exact absurd rfl (hno _)
  · cases h
    exact ⟨rfl, rfl⟩
  · cases h
    exact ⟨rfl, rfl⟩

theorem mem_passedEvents {isWasm : Bool} {own returned : List Event} {e : Event}
    (h : e ∈ passedEvents isWasm own returned) :
    ∃ e₀ ∈ own ++ returned, e = e₀ ∨ e = sortAttributes e₀ := by
  unfold passedEvents filterEvents at h
  split at h
  · obtain ⟨e₀, h₀, rfl⟩ := List.mem_map.mp h
    exact ⟨e₀, List.mem_of_mem_filter h₀, .inr rfl⟩
  · exact ⟨e, List.mem_of_mem_filter h, .inl rfl⟩

variable (hsort : ∀ e, G e → G (sortAttributes e))
include hsort

/-- **The sandbox passes on what the message emitted and returned.** -/
theorem ensures_sandbox (hm : GoM.Ensures (AllEvents G) (d.dispatchMsg addr ibcPort msg.msg)
    (DispatchResult.AllEvents G)) :
    GoM.Ensures (AllEvents G) (d.sandbox addr ibcPort msg) fun _ => True := by
  intro w hw
  refine ⟨?_, fun _ _ => trivial⟩
  cases hrun : d.sandbox addr ibcPort msg w with
  | mk r w' =>
      by_cases hok : ∃ out, r = .ok (.ok out)
      · obtain ⟨out, rfl⟩ := hok
        unfold sandbox at hrun
        split at hrun
        · rename_i a sub hsub
          obtain ⟨gas, r₀, w₀, hmsg, hevents, hres⟩ := dispatchLimited_events hsub
          have hstart : AllEvents G ({ w with events := [], gas := gas } : World μ ν) :=
            fun e he => absurd he List.not_mem_nil
          obtain ⟨hsent, hreturned⟩ := hm.run hstart hmsg
          cases hrun
          intro e he
          rcases List.mem_append.mp he with hold | hnew
          · exact hw e hold
          · obtain ⟨e₀, h₀, hcases⟩ := mem_passedEvents hnew
            have hG : G e₀ := by
              rcases List.mem_append.mp h₀ with hown | hret
              · exact hsent e₀ (hevents ▸ hown)
              · exact hreturned a (hres a rfl) e₀ hret
            rcases hcases with rfl | rfl
            · exact hG
            · exact hsort e₀ hG
        · cases hrun
        · cases hrun
      · obtain ⟨hevents, -⟩ := sandbox_dropped hrun fun out hout => hok ⟨out, hout⟩
        intro e he
        exact hw e (hevents ▸ he)

theorem ensures_dispatchLoop
    (hm : ∀ msg, GoM.Ensures (AllEvents G) (d.dispatchMsg addr ibcPort msg)
      (DispatchResult.AllEvents G))
    (hr : ∀ reply, GoM.Ensures (AllEvents G) (d.reply addr reply) fun _ => True)
    (msgs : List (SubMsg C)) (rsp : Option Bytes) :
    GoM.Ensures (AllEvents G) (d.dispatchLoop addr ibcPort rsp msgs) fun _ => True := by
  induction msgs generalizing rsp with
  | nil => exact .pure trivial
  | cons msg rest ih =>
      unfold dispatchLoop
      refine (GoM.Ensures.ensure _ _).bind fun _ _ => ?_
      refine (ensures_sandbox hsort (hm msg.msg)).bind fun outcome _ => ?_
      refine (GoM.Ensures.ofExcept fun _ _ => trivial : GoM.Ensures _ _ fun _ => True).bind
        fun _ _ => ?_
      split
      · exact (hr _).mapError.bind fun rspData _ => ih _
      · exact ih rsp

end MessageDispatcher

/-! ## The tree -/

/-- Messages and replies emit events with the property, and return such events. -/
structure Chain.Emits (c : Chain μ ν K C L) (G : Event → Prop) : Prop where
  onMsg : ∀ ctx addr ibcPort msg,
    (c.onMsg ctx addr ibcPort msg).Ensures (AllEvents G) (DispatchResult.AllEvents G)
  onReply : ∀ ctx addr reply, (c.onReply ctx addr reply).Ensures (AllEvents G) fun _ => True

/-- **Whatever the tree below a response, its events have the property**: by induction on the number
of nested responses that are allowed. -/
theorem Chain.Emits.handlerAt {c : Chain μ ν K C L} (hc : c.Emits G)
    (hsort : ∀ e, G e → G (sortAttributes e)) (n : Nat) (r : Response K C) :
    GoM.Ensures (AllEvents G) (c.handlerAt n r) fun _ => True := by
  induction n generalizing r with
  | zero => exact .failWith _
  | succ n ih =>
      have hloop : GoM.Ensures (AllEvents G)
          ((c.dispatcher r.ctx (c.handlerAt n)).dispatchLoop r.contract r.ibcPort none r.msgs)
          fun _ => True :=
        ensures_dispatchLoop hsort (fun msg => (hc.onMsg _ _ _ msg).run ih)
          (fun reply => (hc.onReply _ _ reply).run ih) r.msgs none
      exact hloop.bind fun _ _ => .pure trivial

/-- A submessage whose script gets to a step that fails does not succeed, under a limit or not. -/
theorem Chain.sandbox_not_ok {γ : Type} {c : Chain μ ν K C L} {n : Nat} {ctx : K}
    {addr : AccAddress} {ibcPort : String} {msg : SubMsg C} {w w' w₁ : World μ ν} {y : CtxM μ ν γ}
    (h : (c.onMsg ctx addr ibcPort msg.msg).Makes (c.handlerAt n) (subWorld msg w) y w₁)
    (hy : ∀ b w₂, y w₁ ≠ (.ok b, w₂)) (out : DispatchResult × List Event) :
    (c.dispatcherAt n ctx).sandbox addr ibcPort msg w ≠ (.ok (.ok out), w') := by
  intro hbox
  have hfails : ∀ a w₂, (c.dispatcherAt n ctx).dispatchMsg addr ibcPort msg.msg (subWorld msg w) ≠
      (.ok a, w₂) := h.not_ok hy
  unfold sandbox at hbox
  split at hbox
  · rename_i a sub hsub
    unfold dispatchLimited at hsub
    unfold subWorld at hfails
    split at hsub
    · rename_i limit hlimit
      rw [hlimit] at hfails
      dsimp only at hfails hsub
      split at hsub
      · rename_i hlt
        rw [if_pos hlt] at hfails
        obtain ⟨r₀, w₀, hrun, -, -, hok⟩ := dispatchMsgWithGasLimit_world hsub
        rw [hok a rfl] at hrun
        exact hfails a w₀ hrun
      · rename_i hlt
        rw [if_neg hlt] at hfails
        exact hfails a sub hsub
    · rename_i hlimit
      rw [hlimit] at hfails
      exact hfails a sub hsub
  · cases hbox
  · cases hbox

end Wasmd
