import Wasmd.Keeper.Dispatch

/-!
# The meaning of a list of submessages

What `DispatchSubmessages` is for, stated without its sandbox, filter and early returns: a fold
from left to right over the submessages.

* `Ran` — one submessage ran on a copy of the parent's state and was committed or undone.
* `Called` — when the contract is called back.
* `Folds` — the fold.
* `dispatch_means_fold` — whenever the call returns, it returns what the fold does, with the
  state the fold leaves.
-/

namespace Wasmd

open ByteStore Effects Gas

variable {μ ν C : Type}

/-- The same events, up to the order of attributes. -/
def SameEvents : List Event → List Event → Prop :=
  List.Forall₂ fun a b => a.type = b.type ∧ a.attributes.Perm b.attributes

theorem SameEvents.refl (l : List Event) : SameEvents l l := by
  induction l with
  | nil => exact .nil
  | cons e l ih => exact .cons ⟨rfl, .refl _⟩ ih

theorem sameEvents_map_sortAttributes (l : List Event) : SameEvents (l.map sortAttributes) l := by
  induction l with
  | nil => exact .nil
  | cons e l ih => exact .cons ⟨rfl, List.perm_insertionSort _ _⟩ ih

/-- What is passed on are the submessage's own events and then the returned ones, without those
of type "message". -/
theorem sameEvents_passedEvents (isWasm : Bool) (own returned : List Event) :
    SameEvents (passedEvents isWasm own returned)
      ((own ++ returned).filter fun ev => ev.type ≠ "message") := by
  unfold passedEvents
  cases isWasm with
  | false => exact SameEvents.refl _
  | true => exact sameEvents_map_sortAttributes _

namespace MessageDispatcher

variable (d : MessageDispatcher μ ν C) (addr : AccAddress) (ibcPort : String)

/-! ## One submessage -/

/-- A submessage ran from the parent's state `w`, on a copy of it and with no events, ended in
`outcome`, and left the parent in `w₁`. -/
inductive Ran (msg : SubMsg C) (w : World μ ν) :
    Except GoError (DispatchResult × List Event) → World μ ν → Prop
  /-- It succeeded: its state is committed and its events are appended. -/
  | committed {r : DispatchResult} {sub w₁ : World μ ν} {passed : List Event}
      (run : d.dispatchLimited addr ibcPort msg { w with events := [] } = (.ok r, sub))
      (state : w₁.ms = sub.ms)
      (events : w₁.events = w.events ++ passed)
      (passed_eq : SameEvents passed ((sub.events ++ r.events).filter fun ev => ev.type ≠
        "message"))
      (gas : w₁.gas = sub.gas) (shared : w₁.shared = sub.shared) :
      Ran msg w (.ok (r, passed)) w₁
  /-- It failed: neither state nor events are left behind. -/
  | undone {e : GoError} {sub w₁ : World μ ν}
      (run : d.dispatchLimited addr ibcPort msg { w with events := [] } = (.error (.error e), sub))
      (state : w₁.ms = w.ms) (events : w₁.events = w.events)
      (gas : w₁.gas = sub.gas) (shared : w₁.shared = sub.shared) :
      Ran msg w (.error e) w₁

theorem sandbox_ran {msg : SubMsg C} {w w₁ : World μ ν}
    {outcome : Except GoError (DispatchResult × List Event)}
    (h : d.sandbox addr ibcPort msg w = (.ok outcome, w₁)) :
    d.Ran addr ibcPort msg w outcome w₁ := by
  unfold sandbox at h
  split at h
  · rename_i r sub hrun
    cases h
    exact .committed hrun rfl rfl (sameEvents_passedEvents _ _ _) rfl rfl
  · rename_i e sub hrun
    cases h
    exact .undone hrun rfl rfl rfl rfl
  · cases h

/-- A sandbox returns an outcome or panics. -/
theorem sandbox_ne_error {msg : SubMsg C} {w w₁ : World μ ν} {e : GoError} :
    d.sandbox addr ibcPort msg w ≠ (.error (.error e), w₁) := by
  intro h
  unfold sandbox at h
  split at h <;> cases h

/-! ## The reply matrix -/

/-- The contract is called back: on success if it asked for that, on failure if it asked for
that, and always if it asked for both. -/
def Called (replyOn : ReplyOn) (outcome : Except GoError (DispatchResult × List Event)) : Prop :=
  (replyOn = .success ∧ ∃ r, outcome = .ok r) ∨ (replyOn = .error ∧ ∃ e, outcome = .error e) ∨
    replyOn = .always

theorem wantsReply_iff {replyOn : ReplyOn}
    {outcome : Except GoError (DispatchResult × List Event)} :
    wantsReply replyOn outcome.toBool = true ↔ Called replyOn outcome := by
  cases replyOn <;> cases outcome <;> simp [wantsReply, Called, Except.toBool]

/-! ## The fold -/

/-- The fold over the submessages.  `rsp` is the data of the last reply that returned some. -/
inductive Folds : Option Bytes → List (SubMsg C) → World μ ν → Except GoError (Option Bytes) →
    World μ ν → Prop
  /-- No submessage is left. -/
  | done (rsp : Option Bytes) (w : World μ ν) : Folds rsp [] w (.ok rsp) w
  /-- An unknown reply value ends the call before anything is dispatched. -/
  | invalid {rsp : Option Bytes} {msg : SubMsg C} {rest : List (SubMsg C)} {w : World μ ν}
      {text : String} (unknown : msg.replyOn = .unknown text) :
      Folds rsp (msg :: rest) w (.error (errInvalid.wrap "replyOn value")) w
  /-- A failure that nobody asked to hear of ends the call. -/
  | failed {rsp : Option Bytes} {msg : SubMsg C} {rest : List (SubMsg C)} {w w₁ : World μ ν}
      {e : GoError} (ran : d.Ran addr ibcPort msg w (.error e) w₁)
      (unheard : msg.replyOn = .success ∨ msg.replyOn = .never) :
      Folds rsp (msg :: rest) w (.error e) w₁
  /-- The contract is not called back. -/
  | silent {rsp : Option Bytes} {msg : SubMsg C} {rest : List (SubMsg C)} {w w₁ w₂ : World μ ν}
      {outcome : Except GoError (DispatchResult × List Event)} {r : Except GoError (Option Bytes)}
      (ran : d.Ran addr ibcPort msg w outcome w₁) (known : ∀ t, msg.replyOn ≠ .unknown t)
      (heard : ∀ e, outcome = .error e → msg.replyOn ≠ .success ∧ msg.replyOn ≠ .never)
      (uncalled : ¬ Called msg.replyOn outcome) (tail : Folds rsp rest w₁ r w₂) :
      Folds rsp (msg :: rest) w r w₂
  /-- The contract is called back on the parent's state and fails. -/
  | replyFailed {rsp : Option Bytes} {msg : SubMsg C} {rest : List (SubMsg C)}
      {w w₁ w₂ : World μ ν} {outcome : Except GoError (DispatchResult × List Event)} {e : GoError}
      (ran : d.Ran addr ibcPort msg w outcome w₁) (called : Called msg.replyOn outcome)
      (reply : d.reply addr ⟨msg.id, d.subMsgResult msg.msg outcome, msg.payload⟩ w₁ =
        (.error (.error e), w₂)) :
      Folds rsp (msg :: rest) w (.error (.wrapped "reply" e)) w₂
  /-- The contract is called back on the parent's state; data it returns replaces earlier data. -/
  | replied {rsp data : Option Bytes} {msg : SubMsg C} {rest : List (SubMsg C)}
      {w w₁ w₂ w₃ : World μ ν} {outcome : Except GoError (DispatchResult × List Event)}
      {r : Except GoError (Option Bytes)} (ran : d.Ran addr ibcPort msg w outcome w₁)
      (called : Called msg.replyOn outcome)
      (reply : d.reply addr ⟨msg.id, d.subMsgResult msg.msg outcome, msg.payload⟩ w₁ =
        (.ok data, w₂))
      (tail : Folds (data.or rsp) rest w₂ r w₃) :
      Folds rsp (msg :: rest) w r w₃

/-! ## The loop follows the fold -/

/-- A call returned what `P` allows, or panicked. -/
def Follows {α : Type} (P : Except GoError α → World μ ν → Prop) :
    Except (Failure GoError) α × World μ ν → Prop
  | (.ok a, w) => P (.ok a) w
  | (.error (.error e), w) => P (.error e) w
  | (.error (.panic _), _) => True

theorem Follows.mono {α : Type} {P : Except GoError α → World μ ν → Prop}
    {Q : Except GoError α → World μ ν → Prop} {x : Except (Failure GoError) α × World μ ν}
    (hx : Follows P x) (h : ∀ r w, P r w → Q r w) : Follows Q x := by
  match x, hx with
  | (.ok _, _), hx => exact h _ _ hx
  | (.error (.error _), _), hx => exact h _ _ hx
  | (.error (.panic _), _), _ => trivial

theorem shortCircuit_cases (replyOn : ReplyOn)
    (outcome : Except GoError (DispatchResult × List Event)) :
    (shortCircuit replyOn outcome = .ok () ∧
        ∀ e, outcome = .error e → replyOn ≠ .success ∧ replyOn ≠ .never) ∨
      ∃ e, outcome = .error e ∧ (replyOn = .success ∨ replyOn = .never) ∧
        shortCircuit replyOn outcome = .error (.error e) := by
  cases replyOn <;> cases outcome <;> simp [shortCircuit]

theorem known_of_isKnown {replyOn : ReplyOn} (h : ReplyOn.isKnown replyOn = true) (t : String) :
    replyOn ≠ .unknown t := by
  rintro rfl
  cases h

/-- **The loop follows the fold**, by induction on the submessages. -/
theorem dispatchLoop_folds (msgs : List (SubMsg C)) :
    ∀ (rsp : Option Bytes) (w : World μ ν),
      Follows (d.Folds addr ibcPort rsp msgs w) (d.dispatchLoop addr ibcPort rsp msgs w) := by
  induction msgs with
  | nil =>
      intro rsp w
      exact .done rsp w
  | cons msg rest ih =>
      intro rsp w
      rw [dispatchLoop]
      by_cases hk : ReplyOn.isKnown msg.replyOn = true
      · rw [GoM.bind_run_ok (GoM.ensure_run_true hk _ w)]
        cases hs : d.sandbox addr ibcPort msg w with
        | mk res w₁ =>
            cases res with
            | error f =>
                rw [GoM.bind_run_error hs]
                cases f with
                | error e => exact absurd hs (d.sandbox_ne_error addr ibcPort)
                | panic p => trivial
            | ok outcome =>
                have hran := d.sandbox_ran addr ibcPort hs
                rw [GoM.bind_run_ok hs]
                rcases shortCircuit_cases msg.replyOn outcome with
                  ⟨hgo, hheard⟩ | ⟨e, rfl, hun, hstop⟩
                · have hpass : (GoM.ofExcept (shortCircuit msg.replyOn outcome) : CtxM μ ν Unit) w₁
                      = (.ok (), w₁) := by rw [hgo]; rfl
                  rw [GoM.bind_run_ok hpass]
                  by_cases hc : wantsReply msg.replyOn outcome.toBool = true
                  · rw [if_pos hc]
                    have hcalled := wantsReply_iff.mp hc
                    cases hr :
                      d.reply addr ⟨msg.id, d.subMsgResult msg.msg outcome, msg.payload⟩ w₁ with
                    | mk rres w₂ =>
                        cases rres with
                        | ok data =>
                            rw [GoM.bind_run_ok (GoM.mapError_ok_iff.mpr hr)]
                            exact (ih (data.or rsp) w₂).mono fun r w₃ htail =>
                              .replied hran hcalled hr htail
                        | error f =>
                            cases f with
                            | error e =>
                                rw [GoM.bind_run_error (by rw [GoM.mapError, hr])]
                                exact .replyFailed hran hcalled hr
                            | panic p =>
                                rw [GoM.bind_run_error (by rw [GoM.mapError, hr])]
                                trivial
                  · rw [if_neg hc]
                    have hun : ¬ Called msg.replyOn outcome := fun h => hc (wantsReply_iff.mpr h)
                    exact (ih rsp w₁).mono fun r w₂ htail =>
                      .silent hran (known_of_isKnown hk) hheard hun htail
                · rw [GoM.bind_run_error (show (GoM.ofExcept (shortCircuit msg.replyOn (.error e)) :
                    CtxM μ ν Unit) w₁ = (.error (.error e), w₁) by rw [hstop]; rfl)]
                  exact .failed hran hun
      · rw [GoM.bind_run_error (show (GoM.ensure (ReplyOn.isKnown msg.replyOn = true)
          (errInvalid.wrap "replyOn value") : CtxM μ ν Unit) w = (.error (.error _), w) by
            rw [GoM.ensure, if_neg hk]; rfl)]
        cases hr : msg.replyOn with
        | unknown t => exact .invalid hr
        | _ => simp [hr, ReplyOn.isKnown] at hk

/-- **Submessages mean the fold.**  For every messenger, replyer and list of submessages,
`DispatchSubmessages` returns what the fold returns and leaves the state the fold leaves, unless
it panics; and a call answers with the data of the last reply that returned some, else with its
own. -/
theorem dispatch_means_fold (d : MessageDispatcher μ ν C) (addr : AccAddress) (ibcPort : String)
    (msgs : List (SubMsg C)) (origRspData : Option Bytes) (w : World μ ν) :
    Follows (d.Folds addr ibcPort none msgs w) (d.dispatchSubmessages addr ibcPort msgs w) ∧
      Follows (fun r w' => ∃ fold, d.Folds addr ibcPort none msgs w fold w' ∧
          r = fold.map fun rsp => rsp.or origRspData)
        (d.handle addr ibcPort msgs origRspData w) := by
  have hloop := d.dispatchLoop_folds addr ibcPort msgs none w
  refine ⟨hloop, ?_⟩
  unfold handle dispatchSubmessages
  cases hrun : d.dispatchLoop addr ibcPort none msgs w with
  | mk res w' =>
      rw [hrun] at hloop
      match res, hloop with
      | .ok rsp, hloop =>
          rw [GoM.bind_run_ok hrun]
          exact ⟨.ok rsp, hloop, rfl⟩
      | .error (.error e), hloop =>
          rw [GoM.bind_run_error hrun]
          exact ⟨.error e, hloop, rfl⟩
      | .error (.panic p), _ =>
          rw [GoM.bind_run_error hrun]
          trivial

end MessageDispatcher
end Wasmd
