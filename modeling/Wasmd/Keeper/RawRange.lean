import Wasmd.Keeper.Isolation

/-!
# Pages of a raw range query

`QueryRawRange` returns a range of the storage of a contract in pages, with the key of the first
entry that it leaves out.

* `IsRange` — a list is the half-open range, in the requested order.
* `rawRangePages` — the query is repeated from the next key on.
* `raw_range_complete` — each page is the first part of the range, and the pages together are all
  of it.
-/

namespace Wasmd

open ByteStore KVStore

/-- The list holds the entries of the storage from `start` on and before `stop`, in the requested
order. -/
structure IsRange (storage : KVStore Bytes) (start stop : Option Bytes) (reverse : Bool)
    (l : List (Bytes × Bytes)) : Prop where
  mem_iff : ∀ key value, (key, value) ∈ l ↔ storage[key]? = some value ∧
    (∀ s, start = some s → (compare s key).isLE = true) ∧ ∀ e, stop = some e → compare key e = .lt
  ordered : l.Pairwise fun a b =>
    if reverse then compare b.1 a.1 = .lt else compare a.1 b.1 = .lt

/-- What the iterator of a query shows. -/
def rawRange (storage : KVStore Bytes) (start stop : Option Bytes) (reverse : Bool) :
    List (Bytes × Bytes) :=
  if reverse then (range storage (start.getD []) stop).reverse
  else range storage (start.getD []) stop

/-- The bounds of the next page. -/
def nextBounds (reverse : Bool) (start stop : Option Bytes) (nextKey : Bytes) :
    Option Bytes × Option Bytes :=
  if reverse then (start, some (nextKey ++ [0])) else (some nextKey, stop)

/-- `QueryRawRange`, repeated until there is no next key. -/
def rawRangePages (store : KVStore Bytes) (contractAddress : AccAddress) (limit : UInt16)
    (reverse : Bool) : ℕ → Option Bytes → Option Bytes → Option (List (Bytes × Bytes))
  | 0, _, _ => none
  | fuel + 1, start, stop =>
    match queryRawRange store contractAddress start stop limit reverse with
    | (results, none) => some results
    | (results, some nextKey) =>
      (rawRangePages store contractAddress limit reverse fuel
        (nextBounds reverse start stop nextKey).1 (nextBounds reverse start stop nextKey).2).map
        (results ++ ·)

/-! ## One page -/

/-- The loop takes what the limit leaves, and stops at the entry behind. -/
theorem rawRangeLoop_eq {limit count : UInt16} (h : count.toNat ≤ limit.toNat)
    (l : List (Bytes × Bytes)) :
    rawRangeLoop limit count l = (l.take (limit.toNat - count.toNat),
      (l.drop (limit.toNat - count.toNat)).head?.map Prod.fst) := by
  induction l generalizing count with
  | nil => simp [rawRangeLoop]
  | cons kv rest ih =>
      rw [rawRangeLoop]
      by_cases heq : count = limit
      · rw [if_pos heq, heq, Nat.sub_self]
        rfl
      · have hlt : count.toNat < limit.toNat :=
          Nat.lt_of_le_of_ne h fun hsame => heq (UInt16.toNat_inj.mp hsame)
        have hlimit := limit.toNat_lt
        have hnext : (count + 1).toNat = count.toNat + 1 := by
          rw [UInt16.toNat_add, UInt16.toNat_one]
          omega
        obtain ⟨n, hn⟩ : ∃ n, limit.toNat - count.toNat = n + 1 :=
          ⟨limit.toNat - count.toNat - 1, by omega⟩
        have hrest : limit.toNat - (count + 1).toNat = n := by omega
        rw [if_neg heq, ih (by omega), hrest, hn]
        rfl

theorem queryRawRange_page (store : KVStore Bytes) (a : AccAddress) (start stop : Option Bytes)
    (limit : UInt16) (reverse : Bool) :
    queryRawRange store a start stop limit reverse =
      ((rawRange (storageOf store a) start stop reverse).take limit.toNat,
        ((rawRange (storageOf store a) start stop reverse).drop limit.toNat).head?.map
          Prod.fst) := by
  rw [queryRawRange_eq, rawRangeLoop_eq (Nat.zero_le _)]
  rfl

theorem rawRange_isRange (storage : KVStore Bytes) (start stop : Option Bytes) (reverse : Bool) :
    IsRange storage start stop reverse (rawRange storage start stop reverse) where
  mem_iff key value := by
    have hmem : (key, value) ∈ rawRange storage start stop reverse ↔
        (key, value) ∈ range storage (start.getD []) stop := by
      cases reverse with
      | false => rfl
      | true => exact List.mem_reverse
    rw [hmem, mem_range]
    refine and_congr_right fun _ => and_congr ?_ ?_
    · cases start with
      | none => exact iff_of_true (by cases key <;> rfl) nofun
      | some s => simp
    · cases stop with
      | none => simp [before]
      | some e => simp [before]
  ordered := by
    cases reverse with
    | false => exact pairwise_range
    | true => exact List.pairwise_reverse.mpr pairwise_range

/-! ## All pages -/

/-- **The range behind a page** is what the page left out. -/
theorem rawRange_next {storage : KVStore Bytes} {start stop : Option Bytes} {reverse : Bool} {n : ℕ}
    {kv : Bytes × Bytes} {rest : List (Bytes × Bytes)}
    (h : (rawRange storage start stop reverse).drop n = kv :: rest) :
    rawRange storage (nextBounds reverse start stop kv.1).1 (nextBounds reverse start stop kv.1).2
      reverse = kv :: rest := by
  have hsplit : rawRange storage start stop reverse =
      (rawRange storage start stop reverse).take n ++ kv :: rest := by
    rw [← h, List.take_append_drop]
  cases reverse with
  | false => exact range_from hsplit
  | true =>
      have hreversed : range storage (start.getD []) stop = rest.reverse ++
          kv :: ((rawRange storage start stop true).take n).reverse := by
        have := congrArg List.reverse hsplit
        simpa [rawRange] using this
      have hcut := range_upTo hreversed
      show (range storage (start.getD []) (some (kv.1 ++ [0]))).reverse = kv :: rest
      rw [hcut]
      simp

theorem rawRangePages_eq (store : KVStore Bytes) (a : AccAddress) {limit : UInt16}
    (hlimit : limit ≠ 0) (reverse : Bool) (fuel : ℕ) (start stop : Option Bytes)
    (hfuel : (rawRange (storageOf store a) start stop reverse).length < fuel) :
    rawRangePages store a limit reverse fuel start stop =
      some (rawRange (storageOf store a) start stop reverse) := by
  have hpos : 0 < limit.toNat := Nat.pos_of_ne_zero fun h => hlimit (UInt16.toNat_inj.mp h)
  -- a page that leaves something out holds at least one entry
  induction fuel generalizing start stop with
  | zero => omega
  | succ fuel ih =>
      rw [rawRangePages, queryRawRange_page]
      cases hrest : (rawRange (storageOf store a) start stop reverse).drop limit.toNat with
      | nil => simp [List.take_of_length_le (List.drop_eq_nil_iff.mp hrest)]
      | cons kv rest =>
          have hnext := rawRange_next hrest
          have hlength := congrArg List.length hrest
          rw [List.length_drop, List.length_cons] at hlength
          have hpages :=
            ih (nextBounds reverse start stop kv.1).1 (nextBounds reverse start stop kv.1).2
            (by rw [hnext, List.length_cons]; omega)
          rw [hnext] at hpages
          simp only [List.head?_cons, Option.map_some, hpages]
          rw [← hrest, List.take_append_drop]

/-- **Raw range queries are complete.**  A page holds the first entries of the range, the next key
is that of the first entry left out, and the pages one after the other are the range. -/
theorem raw_range_complete (store : KVStore Bytes) (contractAddress : AccAddress)
    (start stop : Option Bytes) (limit : UInt16) (hlimit : limit ≠ 0) (reverse : Bool) :
    ∃ entries, IsRange (storageOf store contractAddress) start stop reverse entries ∧
      (queryRawRange store contractAddress start stop limit reverse).1 =
        entries.take (min limit.toNat entries.length) ∧
      ((queryRawRange store contractAddress start stop limit reverse).2 = none ↔
        entries.length ≤ limit.toNat) ∧
      (∀ nextKey, (queryRawRange store contractAddress start stop limit reverse).2 = some nextKey ↔
        entries[limit.toNat]?.map Prod.fst = some nextKey) ∧
      ∀ fuel, entries.length < fuel →
        rawRangePages store contractAddress limit reverse fuel start stop = some entries := by
  refine ⟨_, rawRange_isRange _ start stop reverse, ?_, ?_, fun nextKey => ?_,
    fun fuel hfuel => rawRangePages_eq store contractAddress hlimit reverse fuel start stop hfuel⟩
  · rw [queryRawRange_page, ← List.take_eq_take_min]
  · rw [queryRawRange_page, Option.map_eq_none_iff, List.head?_eq_none_iff, List.drop_eq_nil_iff]
  · rw [queryRawRange_page, List.head?_drop]

/-- A storage with three entries. -/
def threeEntries : KVStore Bytes :=
  writeAll (contractStorePrefix firstContract) [.set [1] [5], .set [1, 0] [6], .set [2] [7]] ∅

/-- The three entries in pages of two, the last one first. -/
theorem raw_range_complete_three :
    queryRawRange threeEntries firstContract none none 2 true =
      ([([2], [7]), ([1, 0], [6])], some [1]) ∧
      ∃ entries, IsRange (storageOf threeEntries firstContract) none none true entries ∧
        ∀ fuel, entries.length < fuel →
          rawRangePages threeEntries firstContract 2 true fuel none none = some entries := by
  obtain ⟨entries, hrange, -, -, -, hpages⟩ :=
    raw_range_complete threeEntries firstContract none none 2 (by decide) true
  exact ⟨by decide +kernel, entries, hrange, hpages⟩

end Wasmd
