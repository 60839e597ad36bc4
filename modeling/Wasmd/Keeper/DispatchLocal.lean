import Wasmd.Keeper.DispatchTree

/-!
# Trees of submessages, world by world

`Discipline` asks the same of a call in every world.  Here the world counts: what a step returns
depends on the world it is made in, and the rest of a script is only looked at for the results its
steps can have.

* `Conduct` — what is asked of calls, operations and responses in the world they happen in, and
  how the worlds before and after a successful call are related.
* `Script.Sound` — the run of a script from a world complies.
* `Conduct.handlerAt` — so does the handling of a response, when messages and replies have sound
  scripts (`Chain.Sound`).
* `Handled.sound` — so does everything the tree below a response gets to.
-/

namespace Wasmd

open ByteStore Effects Gas MessageDispatcher

variable {μ ν K C L α β : Type}

/-- What is asked of the parts of a tree, in the world they happen in. -/
structure Conduct (μ ν K C L : Type) where
  call : ∀ {β : Type}, CtxM μ ν β → World μ ν → Prop
  mark : L → World μ ν → Prop
  response : Response K C → World μ ν → Prop
  /-- The worlds before and after successful calls. -/
  after : World μ ν → World μ ν → Prop

/-- What is asked passes from the parts of a call to the whole. -/
structure Conduct.Lawful (D : Conduct μ ν K C L) : Prop where
  ofExcept : ∀ {β : Type} (r : Except (Failure GoError) β) (w : World μ ν),
    D.call (GoM.ofExcept r) w
  bind : ∀ {β γ : Type} {x : CtxM μ ν β} {f : β → CtxM μ ν γ} {w : World μ ν}, D.call x w →
    (∀ b w', x w = (.ok b, w') → D.call (f b) w') → D.call (x >>= f) w
  mapError : ∀ {β : Type} {f : GoError → GoError} {x : CtxM μ ν β} {w : World μ ν},
    D.call x w → D.call (GoM.mapError f x) w
  sandbox : ∀ (d : MessageDispatcher μ ν C) (addr : AccAddress) (ibcPort : String) (msg : SubMsg C)
    (w : World μ ν),
    (∀ gas, D.call (d.dispatchMsg addr ibcPort msg.msg) { w with gas := gas, events := [] }) →
      D.call (d.sandbox addr ibcPort msg) w
  refl : ∀ w, D.after w w
  trans : ∀ {w w₁ w₂}, D.after w w₁ → D.after w₁ w₂ → D.after w w₂
  /-- Gas and events do not count. -/
  frame : ∀ w gas events, D.after w { w with gas := gas, events := events }
  of_ok : ∀ {β : Type} {x : CtxM μ ν β} {w : World μ ν} {b : β} {w' : World μ ν}, D.call x w →
    x w = (.ok b, w') → D.after w w'

/-! ## Scripts -/

namespace Script

/-- The run of the script from a world complies; after a response it goes on from any world the
handling of it may end in. -/
def Sound (D : Conduct μ ν K C L) : Script μ ν K C L α → World μ ν → Prop
  | done _, _ => True
  | step x next, w => D.call x w ∧ ∀ b w', x w = (.ok b, w') → (next b).Sound D w'
  | mark l next, w => D.mark l w ∧ next.Sound D w
  | respond _ r next, w => D.response r w ∧ ∀ rsp w', D.after w w' → (next rsp).Sound D w'

/-- What is asked of a point in a world. -/
def Point.Sound (D : Conduct μ ν K C L) : Point K C L → World μ ν → Prop
  | mark l, w => D.mark l w
  | respond r, w => D.response r w

variable {D : Conduct μ ν K C L} {handler : Response K C → CtxM μ ν (Option Bytes)}

theorem sound_bind (hD : D.Lawful) {s : Script μ ν K C L α} {f : α → Script μ ν K C L β}
    {w : World μ ν} (hs : s.Sound D w) (hf : ∀ a w', D.after w w' → (f a).Sound D w') :
    (s >>= f).Sound D w := by
  show (s.bind f).Sound D w
  induction s generalizing w with
  | done a => exact hf a w (hD.refl w)
  | step x next ih =>
      refine ⟨hs.1, fun b w' hx => ih b (hs.2 b w' hx) fun a w'' h => ?_⟩
      exact hf a w'' (hD.trans (hD.of_ok hs.1 hx) h)
  | mark l next ih => exact ⟨hs.1, ih hs.2 hf⟩
  | respond wrap r next ih =>
      refine ⟨hs.1, fun rsp w' hafter => ih rsp (hs.2 rsp w' hafter) fun a w'' h => ?_⟩
      exact hf a w'' (hD.trans hafter h)

theorem sound_lift {x : CtxM μ ν α} {w : World μ ν} (hx : D.call x w) :
    (lift x : Script μ ν K C L α).Sound D w :=
  ⟨hx, fun _ _ _ => trivial⟩

theorem sound_mapError (hD : D.Lawful) {f : GoError → GoError} {s : Script μ ν K C L α}
    {w : World μ ν} (hs : s.Sound D w) : (s.mapError f).Sound D w := by
  induction s generalizing w with
  | done a => trivial
  | step x next ih =>
      refine ⟨hD.mapError hs.1, fun b w' hx => ih b (hs.2 b w' ?_)⟩
      exact GoM.mapError_ok_iff.mp hx
  | mark l next ih => exact ⟨hs.1, ih hs.2⟩
  | respond wrap r next ih => exact ⟨hs.1, fun rsp w' h => ih rsp (hs.2 rsp w' h)⟩

/-- More is known of the points a script gets to than is asked: they come after its start. -/
theorem Sound.imp (hD : D.Lawful) {mark : L → World μ ν → Prop}
    {response : Response K C → World μ ν → Prop} {s : Script μ ν K C L α} {w : World μ ν}
    (hs : s.Sound { D with mark := mark, response := response } w)
    (hm : ∀ l w', D.after w w' → mark l w' → D.mark l w')
    (hr : ∀ r w', D.after w w' → response r w' → D.response r w') : s.Sound D w := by
  induction s generalizing w with
  | done a => trivial
  | step x next ih =>
      refine ⟨hs.1, fun b w' hx => ?_⟩
      have hw' : D.after w w' := hD.of_ok hs.1 hx
      exact ih b (hs.2 b w' hx) (fun l w'' h => hm l w'' (hD.trans hw' h))
        fun r w'' h => hr r w'' (hD.trans hw' h)
  | mark l next ih => exact ⟨hm l w (hD.refl w) hs.1, ih hs.2 hm hr⟩
  | respond wrap r next ih =>
      refine ⟨hr r w (hD.refl w) hs.1, fun rsp w' hw' => ?_⟩
      exact ih rsp (hs.2 rsp w' hw') (fun l w'' h => hm l w'' (hD.trans hw' h))
        fun r w'' h => hr r w'' (hD.trans hw' h)

/-- A sound script is a compliant call when responses are handled in compliance. -/
theorem Sound.run (hD : D.Lawful) (hh : ∀ r w, D.response r w → D.call (handler r) w)
    {s : Script μ ν K C L α} {w : World μ ν} (hs : s.Sound D w) : D.call (s.run handler) w := by
  induction s generalizing w with
  | done a => exact hD.ofExcept (.ok a) w
  | step x next ih => exact hD.bind hs.1 fun b w' hx => ih b (hs.2 b w' hx)
  | mark l next ih => exact ih hs.2
  | respond wrap r next ih =>
      have hr := hh r w hs.1
      refine hD.bind (hD.mapError hr) fun rsp w' hx => ih rsp (hs.2 rsp w' ?_)
      exact hD.of_ok hr (GoM.mapError_ok_iff.mp hx)

/-- What a sound script gets to complies. -/
theorem Reaches.sound (hD : D.Lawful) (hh : ∀ r w, D.response r w → D.call (handler r) w)
    {s : Script μ ν K C L α} {w w' : World μ ν} {p : Point K C L}
    (h : Reaches handler s w p w') (hs : s.Sound D w) : p.Sound D w' := by
  induction h with
  | respond => exact hs.1
  | mark => exact hs.1
  | step hx _ ih => exact ih (hs.2 _ _ hx)
  | pastMark _ ih => exact ih hs.2
  | pastRespond hx _ ih => exact ih (hs.2 _ _ (hD.of_ok (hh _ _ hs.1) hx))

end Script

/-! ## The dispatcher -/

/-- Messages and replies of a compliant response have sound scripts, whenever they come. -/
structure Chain.Sound (c : Chain μ ν K C L) (D : Conduct μ ν K C L) : Prop where
  onMsg : ∀ r w, D.response r w → ∀ w', D.after w w' → ∀ msg,
    (c.onMsg r.ctx r.contract r.ibcPort msg).Sound D w'
  onReply : ∀ r w, D.response r w → ∀ w', D.after w w' → ∀ reply,
    (c.onReply r.ctx r.contract reply).Sound D w'

namespace Conduct

variable {D : Conduct μ ν K C L} {d : MessageDispatcher μ ν C} {addr : AccAddress}
  {ibcPort : String} {c : Chain μ ν K C L}

theorem Lawful.ensure (hD : D.Lawful) (p : Prop) [Decidable p] (e : GoError) (w : World μ ν) :
    D.call (GoM.ensure p e) w := by
  unfold GoM.ensure
  split
  · exact hD.ofExcept (.ok ()) w
  · exact hD.ofExcept (.error (.error e)) w

/-- **The loop complies** when the messenger and the replyer do in every world it can get to. -/
theorem Lawful.dispatchLoop (hD : D.Lawful) {w : World μ ν}
    (hm : ∀ w', D.after w w' → ∀ msg, D.call (d.dispatchMsg addr ibcPort msg) w')
    (hr : ∀ w', D.after w w' → ∀ reply, D.call (d.reply addr reply) w') (msgs : List (SubMsg C))
    (rsp : Option Bytes) : D.call (d.dispatchLoop addr ibcPort rsp msgs) w := by
  induction msgs generalizing rsp w with
  | nil => exact hD.ofExcept (.ok rsp) w
  | cons msg rest ih =>
      have hbox : ∀ w', D.after w w' → D.call (d.sandbox addr ibcPort msg) w' := fun w' h' =>
        hD.sandbox d addr ibcPort msg w' fun gas => hm _ (hD.trans h' (hD.frame w' gas [])) _
      have hrest : ∀ rsp w', D.after w w' → D.call (d.dispatchLoop addr ibcPort rsp rest) w' :=
        fun rsp w' h' => ih (fun w'' h'' => hm w'' (hD.trans h' h''))
          (fun w'' h'' => hr w'' (hD.trans h' h'')) rsp
      unfold MessageDispatcher.dispatchLoop
      refine hD.bind (hD.ensure _ _ w) fun _ w₁ h₁ => ?_
      have ha₁ := hD.of_ok (hD.ensure _ _ w) h₁
      refine hD.bind (hbox w₁ ha₁) fun outcome w₂ h₂ => ?_
      have ha₂ := hD.trans ha₁ (hD.of_ok (hbox w₁ ha₁) h₂)
      refine hD.bind (hD.ofExcept _ w₂) fun _ w₃ h₃ => ?_
      have ha₃ := hD.trans ha₂ (hD.of_ok (hD.ofExcept _ w₂) h₃)
      split
      · have hreply := hD.mapError (f := .wrapped "reply") (hr w₃ ha₃
          ⟨msg.id, d.subMsgResult msg.msg outcome, msg.payload⟩)
        exact hD.bind hreply fun rspData w₄ h₄ =>
          hrest _ w₄ (hD.trans ha₃ (hD.of_ok hreply h₄))
      · exact hrest rsp w₃ ha₃

/-- **Responses are handled in compliance** when messages and replies have sound scripts. -/
theorem Lawful.handlerAt (hD : D.Lawful) (hc : c.Sound D) (n : Nat) (r : Response K C)
    (w : World μ ν) (hr : D.response r w) : D.call (c.handlerAt n r) w := by
  induction n generalizing r w with
  | zero => exact hD.ofExcept (.error (.error _)) w
  | succ n ih =>
      have hloop : D.call ((c.dispatcher r.ctx (c.handlerAt n)).dispatchLoop r.contract
          r.ibcPort none r.msgs) w :=
        hD.dispatchLoop (fun w' h' msg => Script.Sound.run hD ih (hc.onMsg r w hr w' h' msg))
          (fun w' h' reply => Script.Sound.run hD ih (hc.onReply r w hr w' h' reply)) r.msgs none
      exact hD.bind hloop fun rsp w' _ => hD.ofExcept (.ok (rsp.or r.data)) w'

end Conduct

/-! ## The tree -/

section Tree

variable {D : Conduct μ ν K C L} {c : Chain μ ν K C L} {n n' : Nat} {r r' : Response K C}
  {w w₁ w₂ w' : World μ ν} {msg : SubMsg C}

theorem LoopAt.after (hD : D.Lawful) {d : MessageDispatcher μ ν C} {addr : AccAddress}
    {ibcPort : String} (hm : ∀ w', D.after w w' → ∀ msg, D.call (d.dispatchMsg addr ibcPort msg) w')
    (hr : ∀ w', D.after w w' → ∀ reply, D.call (d.reply addr reply) w') {rsp : Option Bytes}
    {msgs : List (SubMsg C)} (h : LoopAt d addr ibcPort rsp msgs w msg w') : D.after w w' := by
  induction h with
  | here => exact hD.refl _
  | past hx _ ih =>
      have hstep := hD.of_ok (hD.dispatchLoop hm hr _ _) hx
      exact hD.trans hstep (ih (fun w'' h'' => hm w'' (hD.trans hstep h''))
        fun w'' h'' => hr w'' (hD.trans hstep h''))

/-- The submessage is dispatched in a world that differs in gas and events. -/
theorem after_subWorld (hD : D.Lawful) (msg : SubMsg C) (w : World μ ν) :
    D.after w (subWorld msg w) := by
  unfold subWorld
  split
  · split
    · exact hD.frame w _ _
    · exact hD.frame w w.gas []
  · exact hD.frame w w.gas []

/-- What happens below a compliant response: the loop gets to its messages in worlds after it. -/
theorem Conduct.Lawful.loopAt (hD : D.Lawful) (hc : c.Sound D) (hr : D.response r w)
    (h : LoopAt (c.dispatcherAt n r.ctx) r.contract r.ibcPort none r.msgs w msg w') :
    D.after w w' :=
  LoopAt.after hD
    (fun w' h' msg => Script.Sound.run hD (hD.handlerAt hc n) (hc.onMsg r w hr w' h' msg))
    (fun w' h' reply => Script.Sound.run hD (hD.handlerAt hc n) (hc.onReply r w hr w' h' reply)) h

/-- The script of a message and the script of a reply in the tree are sound. -/
theorem Conduct.Lawful.onMsg_sound (hD : D.Lawful) (hc : c.Sound D) (hr : D.response r w)
    (h : LoopAt (c.dispatcherAt n r.ctx) r.contract r.ibcPort none r.msgs w msg w') :
    (c.onMsg r.ctx r.contract r.ibcPort msg.msg).Sound D (subWorld msg w') :=
  hc.onMsg r w hr _ (hD.trans (hD.loopAt hc hr h) (after_subWorld hD msg w')) _

theorem Conduct.Lawful.onReply_sound (hD : D.Lawful) (hc : c.Sound D) (hr : D.response r w)
    (h : LoopAt (c.dispatcherAt n r.ctx) r.contract r.ibcPort none r.msgs w msg w')
    {outcome : Except GoError (DispatchResult × List Event)}
    (hbox : (c.dispatcherAt n r.ctx).sandbox r.contract r.ibcPort msg w' = (.ok outcome, w₂))
    (reply : Reply) : (c.onReply r.ctx r.contract reply).Sound D w₂ := by
  have hcall : D.call ((c.dispatcherAt n r.ctx).sandbox r.contract r.ibcPort msg) w' :=
    hD.sandbox _ _ _ _ _ fun gas => Script.Sound.run hD (hD.handlerAt hc n) (hc.onMsg r w hr _
      (hD.trans (hD.loopAt hc hr h) (hD.frame w' gas [])) _)
  exact hc.onReply r w hr _ (hD.trans (hD.loopAt hc hr h) (hD.of_ok hcall hbox)) _

/-- **Every response in the tree below a compliant one complies.** -/
theorem Handled.sound (hD : D.Lawful) (hc : c.Sound D) (h : Handled c n r w n' r' w')
    (hr : D.response r w) : D.response r' w' := by
  induction h with
  | root => exact hr
  | message _ hloop hreach ih =>
      exact Script.Reaches.sound hD (hD.handlerAt hc _) hreach (hD.onMsg_sound hc ih hloop)
  | reply _ hloop hbox _ _ hreach ih =>
      exact Script.Reaches.sound hD (hD.handlerAt hc _) hreach
        (hD.onReply_sound hc ih hloop hbox _)

end Tree

end Wasmd
