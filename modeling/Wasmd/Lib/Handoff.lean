import Mathlib.Data.List.Nodup
import Mathlib.Logic.Function.Basic

/-!
# Values that wait to be handed over

A value is received under a key, waits there, and is handed over at some later time.  Keys are
received at most once.

* `State` — what waits, and what was received and handed over so far.
* `State.receive`, `State.handOver` — the two steps.
* `Sound` — what waits is what was received and not handed over; nothing is handed over twice.
* `Sound.receive`, `Sound.handOver` — the steps preserve it.
-/

namespace Handoff

variable {K V : Type}

/-- What waits under each key, and what was received and handed over, oldest first. -/
structure State (K V : Type) where
  waiting : K → Option V
  received : List (K × V)
  handed : List (K × V)

namespace State

variable [DecidableEq K]

/-- A value is received. -/
def receive (s : State K V) (key : K) (v : V) : State K V :=
  ⟨Function.update s.waiting key (some v), s.received ++ [(key, v)], s.handed⟩

/-- A value is handed over. -/
def handOver (s : State K V) (key : K) (v : V) : State K V :=
  ⟨Function.update s.waiting key none, s.received, s.handed ++ [(key, v)]⟩

end State

/-- What waits is what was received and not handed over, and no key occurs twice. -/
structure Sound (s : State K V) : Prop where
  waiting_iff : ∀ key v, s.waiting key = some v ↔
    (key, v) ∈ s.received ∧ key ∉ s.handed.map Prod.fst
  handed_subset : s.handed ⊆ s.received
  received_nodup : (s.received.map Prod.fst).Nodup
  handed_nodup : (s.handed.map Prod.fst).Nodup

namespace Sound

variable {s : State K V} {key : K} {v v' : V}

theorem not_mem_handed (h : Sound s) (hnew : key ∉ s.received.map Prod.fst) :
    key ∉ s.handed.map Prod.fst := by
  intro hmem
  obtain ⟨p, hp, rfl⟩ := List.mem_map.mp hmem
  exact hnew (List.mem_map_of_mem (h.handed_subset hp))

theorem nodup_map_append {l : List (K × V)} (h : (l.map Prod.fst).Nodup)
    (hnew : key ∉ l.map Prod.fst) : ((l ++ [(key, v)]).map Prod.fst).Nodup := by
  rw [List.map_append, List.nodup_append]
  refine ⟨h, List.nodup_singleton _, ?_⟩
  rintro a ha b hb rfl
  obtain rfl : a = key := List.mem_singleton.mp hb
  exact hnew ha

variable [DecidableEq K]

/-- **A new key is received.** -/
theorem receive (h : Sound s) (hnew : key ∉ s.received.map Prod.fst) (v : V) :
    Sound (s.receive key v) where
  waiting_iff key' v' := by
    show Function.update s.waiting key (some v) key' = some v' ↔
      (key', v') ∈ s.received ++ [(key, v)] ∧ key' ∉ s.handed.map Prod.fst
    by_cases heq : key' = key
    · subst heq
      rw [Function.update_self]
      constructor
      · intro hsome
        obtain rfl := Option.some.inj hsome
        exact ⟨by simp, h.not_mem_handed hnew⟩
      · rintro ⟨hmem, -⟩
        rcases List.mem_append.mp hmem with hold | hlast
        · exact absurd (List.mem_map_of_mem hold) hnew
        · simp only [List.mem_singleton, Prod.mk.injEq, true_and] at hlast
          rw [hlast]
    · rw [Function.update_of_ne heq, h.waiting_iff]
      simp [heq]
  handed_subset := List.Subset.trans h.handed_subset (List.subset_append_left _ _)
  received_nodup := nodup_map_append h.received_nodup hnew
  handed_nodup := h.handed_nodup

/-- **What waits is handed over.** -/
theorem handOver (h : Sound s) (hwaits : s.waiting key = some v) : Sound (s.handOver key v) where
  waiting_iff key' v' := by
    show Function.update s.waiting key none key' = some v' ↔
      (key', v') ∈ s.received ∧ key' ∉ (s.handed ++ [(key, v)]).map Prod.fst
    by_cases heq : key' = key
    · subst heq
      simp
    · rw [Function.update_of_ne heq, h.waiting_iff]
      simp [heq]
  handed_subset := by
    refine List.append_subset.mpr ⟨h.handed_subset, ?_⟩
    exact List.cons_subset.mpr ⟨((h.waiting_iff key v).mp hwaits).1, List.nil_subset _⟩
  received_nodup := h.received_nodup
  handed_nodup := nodup_map_append h.handed_nodup ((h.waiting_iff key v).mp hwaits).2

end Sound

end Handoff
