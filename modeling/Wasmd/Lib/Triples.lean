import Wasmd.Lib.Effects

/-!
# Invariants of computations, with what they return

`Keeps` is the frame rule: a part of the state does not change.  Here the state may change within an
invariant, and what a computation returns is described as well, for the computation that goes on
with it.

* `Ensures I x Q` — from a state in `I` the computation `x` ends in one, whether it succeeds or not;
  and if it succeeds, what it returns satisfies `Q`.
* `Ensures.bind`, `Ensures.forEach`, … — a rule for each way to put computations together.
-/

namespace Effects
namespace GoM

variable {σ ε α β γ : Type} {I : σ → Prop}

/-- The invariant `I` holds after the computation if it held before, and a value that is returned
satisfies `Q`. -/
def Ensures (I : σ → Prop) (x : GoM σ ε α) (Q : α → Prop) : Prop :=
  ∀ s, I s → I (x s).2 ∧ ∀ a, (x s).1 = .ok a → Q a

namespace Ensures

variable {x : GoM σ ε α} {f : α → GoM σ ε β} {R : α → Prop} {Q : β → Prop}

theorem run (h : Ensures I x R) {s s' : σ} {r : Except (Failure ε) α} (hs : I s)
    (hx : x s = (r, s')) : I s' ∧ ∀ a, r = .ok a → R a := by
  have := h s hs
  rwa [hx] at this

theorem mono {R' : α → Prop} (h : Ensures I x R) (himp : ∀ a, R a → R' a) : Ensures I x R' :=
  fun s hs => ⟨(h s hs).1, fun a ha => himp a ((h s hs).2 a ha)⟩

theorem trivially (h : Ensures I x R) : Ensures I x fun _ => True := h.mono fun _ _ => trivial

/-- A computation that leaves alone what the invariant is about. -/
theorem of_keeps {π : σ → γ} {J : γ → Prop} (h : Keeps π x) :
    Ensures (fun s => J (π s)) x fun _ => True := by
  intro s hs
  refine ⟨?_, fun _ _ => trivial⟩
  show J (π (x s).2)
  rwa [h s]

theorem pure {a : α} (ha : R a) : Ensures I (Pure.pure a : GoM σ ε α) R := by
  intro s hs
  refine ⟨hs, fun b hb => ?_⟩
  cases hb
  exact ha

theorem failWith (e : ε) : Ensures I (failWith e : GoM σ ε α) R :=
  fun _ hs => ⟨hs, fun _ ha => by cases ha⟩

theorem raise (p : Panic) : Ensures I (raise p : GoM σ ε α) R :=
  fun _ hs => ⟨hs, fun _ ha => by cases ha⟩

theorem ofExcept {r : Except (Failure ε) α} (h : ∀ a, r = .ok a → R a) :
    Ensures I (ofExcept r : GoM σ ε α) R :=
  fun _ hs => ⟨hs, h⟩

theorem ensure (c : Prop) [Decidable c] (e : ε) :
    Ensures I (ensure c e : GoM σ ε Unit) fun _ => c := by
  unfold GoM.ensure
  split
  · rename_i hc
    exact pure hc
  · exact failWith e

theorem ofOption (o : Option α) (e : ε) :
    Ensures I (ofOption o e : GoM σ ε α) fun a => o = some a := by
  cases o with
  | none => exact failWith e
  | some a => exact pure rfl

theorem ofOptionPanic (o : Option α) (p : Panic) :
    Ensures I (ofOptionPanic o p : GoM σ ε α) fun a => o = some a := by
  cases o with
  | none => exact raise p
  | some a => exact pure rfl

theorem bind (hx : Ensures I x R) (hf : ∀ a, R a → Ensures I (f a) Q) : Ensures I (x >>= f) Q := by
  intro s hs
  have h := hx s hs
  rw [bind_run]
  split
  · rename_i a s₁ hrun
    rw [hrun] at h
    exact hf a (h.2 a rfl) s₁ h.1
  · rename_i e s₁ hrun
    rw [hrun] at h
    exact ⟨h.1, fun _ hb => by cases hb⟩

theorem mapError {g : ε → ε} (hx : Ensures I x R) : Ensures I (mapError g x) R := by
  intro s hs
  have h := hx s hs
  unfold GoM.mapError
  split
  · rename_i e s₁ hrun
    rw [hrun] at h
    exact ⟨h.1, fun _ ha => by cases ha⟩
  · exact h

theorem ite {c : Prop} [Decidable c] {y : GoM σ ε α} (hx : Ensures I x R) (hy : Ensures I y R) :
    Ensures I (if c then x else y) R := by
  split
  · exact hx
  · exact hy

theorem forEach {l : List α} {body : α → GoM σ ε Unit}
    (h : ∀ a, Ensures I (body a) fun _ => True) : Ensures I (forEach l body) fun _ => True := by
  induction l with
  | nil => exact pure trivial
  | cons a rest ih => exact (h a).bind fun _ _ => ih

end Ensures
end GoM
end Effects
