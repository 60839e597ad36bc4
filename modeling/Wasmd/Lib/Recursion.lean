import Mathlib.Dynamics.FixedPoints.Basic
import Mathlib.Data.Set.Finite.Lattice

/-!
# Recursion that goes down

A recursive function is a fixed point of the functional `F` that says what one call does when
recursive calls are made to a given function.  If a call only makes calls of lower rank, there is
one such function, and a call is unrolled by going down its rank.

* `GoesDown` — what `F` returns depends on calls of lower rank only.
* `GoesDown.iterate_eq` — unrolled often enough, it does not matter what stands at the bottom.
* `finite_below` — where calls have finitely many calls directly below them, only finitely many are
  below at all.
-/

namespace Recursion

variable {X Y : Type*} {rank : X → ℕ} {F : (X → Y) → X → Y}

/-- What `F` returns at `x` depends on the calls of lower rank only. -/
def GoesDown (rank : X → ℕ) (F : (X → Y) → X → Y) : Prop :=
  ∀ h h' x, (∀ y, rank y < rank x → h y = h' y) → F h x = F h' x

namespace GoesDown

/-- What stands at the bottom does not matter. -/
theorem iterate_eq (hF : GoesDown rank F) (b b' : X → Y) {n n' : ℕ} {x : X} (hn : rank x < n)
    (hn' : rank x < n') : F^[n] b x = F^[n'] b' x := by
  induction n generalizing n' x with
  | zero => omega
  | succ n ih =>
      obtain ⟨n', rfl⟩ : ∃ j, n' = j + 1 := ⟨n' - 1, by omega⟩
      rw [Function.iterate_succ_apply', Function.iterate_succ_apply']
      exact hF _ _ x fun y hy => ih (by omega) (by omega)

theorem iterate_eq_of_le (hF : GoesDown rank F) {N : ℕ} (hN : ∀ x, rank x ≤ N) (b b' : X → Y)
    {n n' : ℕ} (hn : N < n) (hn' : N < n') : F^[n] b = F^[n'] b' :=
  funext fun x => hF.iterate_eq b b' (lt_of_le_of_lt (hN x) hn) (lt_of_le_of_lt (hN x) hn')

/-- Unrolled often enough, the iterate is a fixed point. -/
theorem isFixedPt_iterate (hF : GoesDown rank F) {N : ℕ} (hN : ∀ x, rank x ≤ N) (b : X → Y)
    {n : ℕ} (hn : N < n) : Function.IsFixedPt F (F^[n] b) := by
  show F (F^[n] b) = F^[n] b
  rw [← Function.iterate_succ_apply' F]
  exact hF.iterate_eq_of_le hN b b (by omega) hn

end GoesDown

/-- Finitely many calls are below a call if finitely many are directly below each, and their rank
is lower. -/
theorem finite_below {r : X → X → Prop} (hr : ∀ x y, r x y → rank y < rank x)
    (hfin : ∀ x, {y | r x y}.Finite) (x : X) : {y | Relation.ReflTransGen r x y}.Finite := by
  induction hn : rank x using Nat.strong_induction_on generalizing x with
  | _ n ih =>
      have hunion : {y | Relation.ReflTransGen r x y} =
          {x} ∪ ⋃ z ∈ {z | r x z}, {y | Relation.ReflTransGen r z y} := by
        ext y
        constructor
        · intro h
          rcases Relation.ReflTransGen.cases_head h with rfl | ⟨z, hz, hrest⟩
          · exact .inl rfl
          · exact .inr (Set.mem_biUnion hz hrest)
        · rintro (rfl | h)
          · exact .refl
          · obtain ⟨z, hz, hrest⟩ := Set.mem_iUnion₂.mp h
            exact Relation.ReflTransGen.head hz hrest
      rw [hunion]
      refine (Set.finite_singleton x).union ((hfin x).biUnion fun z hz => ?_)
      exact ih (rank z) (hn ▸ hr x z hz) z rfl

end Recursion
