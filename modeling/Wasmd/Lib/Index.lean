import Wasmd.Lib.ByteStore

/-!
# Secondary indices

A secondary index is a store of empty values whose keys say where its owners are found.

* `Indexes m key` — the store `m` holds the keys `key` of the owners and nothing else.
* `Indexes.insert`, `Indexes.replace` — a new owner, and an owner whose key changes.
* `Indexes.nodup_owners`, `Indexes.mem_owners` — an iteration over a prefix shows each owner with a
  key there exactly once, where the owner can be read off the end of its key.
-/

namespace ByteStore
namespace KVStore

variable {α : Type} {m : KVStore Unit} {key : α → Option Bytes}

/-- The store holds the keys of the owners and nothing else. -/
def Indexes (m : KVStore Unit) (key : α → Option Bytes) : Prop :=
  ∀ k, m[k]? = some () ↔ ∃ a, key a = some k

namespace Indexes

theorem empty : Indexes ∅ fun _ : α => none := by
  intro k
  constructor
  · intro h
    cases (show (none : Option Unit) = some () from h)
  · rintro ⟨a, h⟩
    cases h

/-- The keys of the owners determine the store. -/
theorem unique {m' : KVStore Unit} (h : Indexes m key) (h' : Indexes m' key) : m = m' :=
  eq_of_getElem?_iff fun k ⟨⟩ => by rw [h, h']

section Update

variable [DecidableEq α]

/-- A new owner. -/
theorem insert (h : Indexes m key) {a : α} (ha : key a = none) (new : Bytes) :
    Indexes (m.insert new ()) (Function.update key a (some new)) := by
  intro k
  by_cases hk : k = new
  · subst hk
    exact iff_of_true (getElem?_insert_self _ _ _) ⟨a, Function.update_self ..⟩
  · rw [getElem?_insert_of_ne _ _ hk, h]
    constructor
    · rintro ⟨b, hb⟩
      have hne : b ≠ a := by
        rintro rfl
        rw [ha] at hb
        cases hb
      exact ⟨b, by rwa [Function.update_of_ne hne]⟩
    · rintro ⟨b, hb⟩
      by_cases hba : b = a
      · subst hba
        rw [Function.update_self] at hb
        exact absurd (Option.some.inj hb).symm hk
      · exact ⟨b, by rwa [Function.update_of_ne hba] at hb⟩

/-- An owner whose key changes; the old key was its own. -/
theorem replace (h : Indexes m key) {a : α} {old : Bytes} (hold : ∀ b, key b = some old ↔ b = a)
    (new : Bytes) : Indexes ((m.erase old).insert new ()) (Function.update key a (some new)) := by
  have hrest : Indexes (m.erase old) (Function.update key a none) := by
    intro k
    by_cases hk : k = old
    · subst hk
      rw [getElem?_erase_self]
      refine iff_of_false (by simp) ?_
      rintro ⟨b, hb⟩
      by_cases hba : b = a
      · subst hba
        rw [Function.update_self] at hb
        cases hb
      · rw [Function.update_of_ne hba] at hb
        exact hba ((hold b).mp hb)
    · rw [getElem?_erase_of_ne _ hk, h]
      constructor
      · rintro ⟨b, hb⟩
        have hne : b ≠ a := by
          rintro rfl
          rw [(hold b).mpr rfl] at hb
          exact hk (Option.some.inj hb).symm
        exact ⟨b, by rwa [Function.update_of_ne hne]⟩
      · rintro ⟨b, hb⟩
        by_cases hba : b = a
        · subst hba
          rw [Function.update_self] at hb
          cases hb
        · exact ⟨b, by rwa [Function.update_of_ne hba] at hb⟩
  have hnew := hrest.insert (Function.update_self ..) new
  rwa [Function.update_idem] at hnew

end Update

/-! ## Iterations -/

variable {p : Bytes} {n : Nat} {owner : α → Bytes}

/-- An iteration over a prefix shows the owners with a key there. -/
theorem mem_owners (h : Indexes m key)
    (hkey : ∀ a k, key a = some (p ++ k) → k.drop n = owner a) {bz : Bytes} :
    bz ∈ (entries m p).map (fun kv => kv.1.drop n) ↔
      ∃ a k, key a = some (p ++ k) ∧ bz = owner a := by
  rw [List.mem_map]
  constructor
  · rintro ⟨⟨k, u⟩, hmem, rfl⟩
    obtain ⟨a, ha⟩ := (h _).mp (mem_entries.mp hmem)
    exact ⟨a, k, ha, hkey a k ha⟩
  · rintro ⟨a, k, ha, rfl⟩
    exact ⟨(k, ()), mem_entries.mpr ((h _).mpr ⟨a, ha⟩), hkey a k ha⟩

/-- No owner is shown twice. -/
theorem nodup_owners (h : Indexes m key) (howner : Function.Injective owner)
    (hkey : ∀ a k, key a = some (p ++ k) → k.drop n = owner a) :
    ((entries m p).map fun kv => kv.1.drop n).Nodup := by
  refine (nodup_entries m p).map_on ?_
  rintro ⟨k, u⟩ hmem ⟨k', u'⟩ hmem' heq
  obtain ⟨a, ha⟩ := (h _).mp (mem_entries.mp hmem)
  obtain ⟨a', ha'⟩ := (h _).mp (mem_entries.mp hmem')
  have hsame : owner a = owner a' := by
    rw [← hkey a k ha, ← hkey a' k' ha']
    exact heq
  obtain rfl := howner hsame
  have hk : k = k' := List.append_cancel_left (Option.some.inj (ha.symm.trans ha'))
  rw [hk]

end Indexes
end KVStore
end ByteStore
