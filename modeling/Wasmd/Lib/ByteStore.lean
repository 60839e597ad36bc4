import Mathlib.Data.List.Sort
import Mathlib.Tactic
import Std.Data.ExtTreeMap.Lemmas

/-!
# Ordered stores of byte strings

A key-value store whose keys are byte strings, read in lexicographic order, with
the views on it that share a key prefix.

* `bigEndian`, `uint64ToBigEndian` — fixed-width big-endian numbers, their
  inverse (`fromBigEndian_bigEndian`) and the fact that byte order is number
  order (`compare_bigEndian`).
* `KVStore` — a finite ordered map from byte strings; `entries s p` is the
  iteration over all keys that start with `p`, in key order and with `p`
  removed.
* `mem_entries` — an iteration shows exactly what is stored under the prefix.
-/

namespace ByteStore

/-- A Go byte slice. -/
abbrev Bytes := List UInt8

instance : LawfulBEq Bytes := inferInstance

/-- The bytes of a text of ASCII characters. -/
def asciiBytes (s : String) : Bytes := s.toList.map fun c => UInt8.ofNat c.toNat

/-! ## Comparing byte strings -/

theorem compare_append_left (p a b : Bytes) : compare (p ++ a) (p ++ b) = compare a b := by
  induction p with
  | nil => rfl
  | cons x p ih =>
      rw [List.cons_append, List.cons_append, List.compare_cons_cons]
      simp [ih]

theorem compare_append_of_length_eq {a b : Bytes} (h : a.length = b.length) (u v : Bytes) :
    compare (a ++ u) (b ++ v) = (compare a b).then (compare u v) := by
  induction a generalizing b with
  | nil =>
      obtain rfl : b = [] := List.length_eq_zero_iff.mp (by simpa using h.symm)
      rfl
  | cons x a ih =>
      cases b with
      | nil => simp at h
      | cons y b =>
          have hlen : a.length = b.length := by simpa using h
          simp only [List.cons_append, List.compare_cons_cons, ih hlen]
          cases compare x y <;> rfl

/-! ## The bytes of an array -/

theorem toList_loop_eq (b : ByteArray) (i : ℕ) (r : Bytes) :
    ByteArray.toList.loop b i r = r.reverse ++ b.data.toList.drop i := by
  fun_induction ByteArray.toList.loop b i r with
  | case1 i r h ih =>
      have hi : i < b.data.toList.length := h
      have hget : b.get! i = b.data.toList[i] := by
        show b.data[i]! = _
        rw [getElem!_pos b.data i h, Array.getElem_toList]
      rw [ih, List.drop_eq_getElem_cons hi, hget]
      simp
  | case2 i r h =>
      have hi : b.data.toList.length ≤ i := Nat.le_of_not_lt h
      rw [List.drop_eq_nil_of_le hi, List.append_nil]

theorem toList_injective : Function.Injective ByteArray.toList := by
  intro b b' h
  have hdata : b.data.toList = b'.data.toList :=
    (toList_loop_eq b 0 []).symm.trans (h.trans (toList_loop_eq b' 0 []))
  exact ByteArray.ext (Array.toList_inj.mp hdata)

/-! ## Big-endian numbers -/

/-- `n` modulo `256 ^ k` in `k` bytes, the most significant first. -/
def bigEndian : Nat → Nat → Bytes
  | 0, _ => []
  | k + 1, n => UInt8.ofNat (n / 256 ^ k) :: bigEndian k n

/-- The number a big-endian byte string stands for. -/
def fromBigEndian (bz : Bytes) : Nat := bz.foldl (fun acc b => acc * 256 + b.toNat) 0

/-- `sdk.Uint64ToBigEndian`. -/
def uint64ToBigEndian (n : UInt64) : Bytes := bigEndian 8 n.toNat

/-- `binary.BigEndian.Uint64`, which reads the first eight bytes. -/
def bigEndianToUint64 (bz : Bytes) : UInt64 := UInt64.ofNat (fromBigEndian (bz.take 8))

@[simp] theorem length_bigEndian (k n : Nat) : (bigEndian k n).length = k := by
  induction k with
  | zero => rfl
  | succ k ih => simp [bigEndian, ih]

@[simp] theorem length_uint64ToBigEndian (n : UInt64) : (uint64ToBigEndian n).length = 8 :=
  length_bigEndian 8 n.toNat

theorem foldl_bigEndian (k n acc : Nat) :
    (bigEndian k n).foldl (fun acc b => acc * 256 + b.toNat) acc = acc * 256 ^ k + n % 256 ^ k := by
  induction k generalizing acc with
  | zero => simp [bigEndian, Nat.mod_one]
  | succ k ih =>
      rw [bigEndian, List.foldl_cons, ih]
      have hdigit : (UInt8.ofNat (n / 256 ^ k)).toNat = n / 256 ^ k % 256 := by simp
      rw [hdigit, pow_succ, Nat.mod_mul, Nat.add_mul]
      ring

theorem fromBigEndian_bigEndian (k n : Nat) : fromBigEndian (bigEndian k n) = n % 256 ^ k := by
  rw [fromBigEndian, foldl_bigEndian]
  simp

@[simp] theorem bigEndianToUint64_uint64ToBigEndian (n : UInt64) :
    bigEndianToUint64 (uint64ToBigEndian n) = n := by
  have htake : (uint64ToBigEndian n).take 8 = uint64ToBigEndian n :=
    List.take_of_length_le (by simp)
  have hlt : n.toNat % 256 ^ 8 = n.toNat := Nat.mod_eq_of_lt n.toNat_lt
  rw [bigEndianToUint64, htake, uint64ToBigEndian, fromBigEndian_bigEndian, hlt]
  simp

theorem uint64ToBigEndian_injective : Function.Injective uint64ToBigEndian :=
  Function.LeftInverse.injective bigEndianToUint64_uint64ToBigEndian

theorem bigEndian_add_mul (k n m : Nat) : bigEndian k (n + m * 256 ^ k) = bigEndian k n := by
  induction k generalizing m with
  | zero => rfl
  | succ k ih =>
      have hpos : 0 < 256 ^ k := by positivity
      have hdiv : (n + m * 256 ^ (k + 1)) / 256 ^ k = n / 256 ^ k + m * 256 := by
        rw [show m * 256 ^ (k + 1) = (m * 256) * 256 ^ k by ring, Nat.add_mul_div_right _ _ hpos]
      have hhead : UInt8.ofNat (n / 256 ^ k + m * 256) = UInt8.ofNat (n / 256 ^ k) := by
        rw [← UInt8.toNat_inj]
        simp
      have htail : bigEndian k (n + m * 256 ^ (k + 1)) = bigEndian k n := by
        rw [show m * 256 ^ (k + 1) = (m * 256) * 256 ^ k by ring, ih]
      rw [bigEndian, bigEndian, hdiv, hhead, htail]

theorem foldl_fromBigEndian (bz : Bytes) (acc : Nat) :
    bz.foldl (fun acc b => acc * 256 + b.toNat) acc = fromBigEndian bz + acc * 256 ^ bz.length := by
  induction bz generalizing acc with
  | nil => simp [fromBigEndian]
  | cons b rest ih =>
      have hcons : fromBigEndian (b :: rest) =
          fromBigEndian rest + b.toNat * 256 ^ rest.length := by
        rw [fromBigEndian, List.foldl_cons, ih]
        simp
      rw [List.foldl_cons, ih, hcons, List.length_cons, pow_succ]
      ring

theorem fromBigEndian_lt (bz : Bytes) : fromBigEndian bz < 256 ^ bz.length := by
  induction bz with
  | nil => simp [fromBigEndian]
  | cons b rest ih =>
      rw [fromBigEndian, List.foldl_cons, foldl_fromBigEndian, List.length_cons, pow_succ]
      have hb := b.toNat_lt
      nlinarith [Nat.mul_le_mul_right (256 ^ rest.length) (Nat.le_pred_of_lt hb)]

/-- Every byte string is the big-endian form of its number. -/
theorem bigEndian_fromBigEndian (bz : Bytes) : bigEndian bz.length (fromBigEndian bz) = bz := by
  induction bz with
  | nil => rfl
  | cons b rest ih =>
      have hpos : 0 < 256 ^ rest.length := by positivity
      have hcons : fromBigEndian (b :: rest) =
          fromBigEndian rest + b.toNat * 256 ^ rest.length := by
        rw [fromBigEndian, List.foldl_cons, foldl_fromBigEndian]
        simp
      have hhead : fromBigEndian (b :: rest) / 256 ^ rest.length = b.toNat := by
        rw [hcons, Nat.add_mul_div_right _ _ hpos, Nat.div_eq_of_lt (fromBigEndian_lt rest)]
        simp
      have htail : bigEndian rest.length (fromBigEndian (b :: rest)) = rest := by
        rw [hcons, bigEndian_add_mul, ih]
      rw [List.length_cons, bigEndian, hhead, htail]
      simp

theorem uint64ToBigEndian_bigEndianToUint64 {bz : Bytes} (h : bz.length = 8) :
    uint64ToBigEndian (bigEndianToUint64 bz) = bz := by
  have hlt := fromBigEndian_lt bz
  rw [h] at hlt
  have hnat : (UInt64.ofNat (fromBigEndian bz)).toNat = fromBigEndian bz := by
    rw [UInt64.toNat_ofNat']
    exact Nat.mod_eq_of_lt hlt
  rw [uint64ToBigEndian, bigEndianToUint64, List.take_of_length_le (by omega), hnat]
  have hall := bigEndian_fromBigEndian bz
  rwa [h] at hall

theorem mul_add_lt_mul_add {m x y r : Nat} (h : x < y) (hr : r < m) (t : Nat) :
    m * x + r < m * y + t :=
  calc m * x + r < m * x + m := by omega
    _ = m * (x + 1) := by ring
    _ ≤ m * y := Nat.mul_le_mul_left m h
    _ ≤ m * y + t := Nat.le_add_right _ _

/-- **Byte order is number order** for big-endian numbers of one width. -/
theorem compare_bigEndian (k a b : Nat) :
    compare (bigEndian k a) (bigEndian k b) = compare (a % 256 ^ k) (b % 256 ^ k) := by
  induction k with
  | zero => simp [bigEndian, Nat.mod_one]
  | succ k ih =>
      -- the leading byte decides unless it is the same on both sides
      have hsplit : ∀ n : Nat, n % 256 ^ (k + 1) = 256 ^ k * (n / 256 ^ k % 256) + n % 256 ^ k := by
        intro n
        rw [pow_succ, Nat.mod_mul]
        ring
      have hpos : 0 < 256 ^ k := by positivity
      have ha := Nat.mod_lt a hpos
      have hb := Nat.mod_lt b hpos
      rw [bigEndian, bigEndian, List.compare_cons_cons, ih, hsplit a, hsplit b]
      have hlead : compare (UInt8.ofNat (a / 256 ^ k)) (UInt8.ofNat (b / 256 ^ k)) =
          compare (a / 256 ^ k % 256) (b / 256 ^ k % 256) := by
        simp only [compare, compareOfLessAndEq, UInt8.lt_iff_toNat_lt, UInt8.toNat_ofNat',
          ← UInt8.toNat_inj]
      rw [hlead]
      rcases lt_trichotomy (a / 256 ^ k % 256) (b / 256 ^ k % 256) with h | h | h
      · rw [Nat.compare_eq_lt.mpr h, Nat.compare_eq_lt.mpr (mul_add_lt_mul_add h ha _)]
        rfl
      · rw [h, Nat.compare_eq_eq.mpr rfl]
        simp only [Ordering.then, compare, compareOfLessAndEq]
        simp
      · rw [Nat.compare_eq_gt.mpr h, Nat.compare_eq_gt.mpr (mul_add_lt_mul_add h hb _)]
        rfl

theorem compare_uint64ToBigEndian (a b : UInt64) :
    compare (uint64ToBigEndian a) (uint64ToBigEndian b) = compare a.toNat b.toNat := by
  have hlt : ∀ n : UInt64, n.toNat % 256 ^ 8 = n.toNat := fun n => Nat.mod_eq_of_lt n.toNat_lt
  rw [uint64ToBigEndian, uint64ToBigEndian, compare_bigEndian, hlt, hlt]

/-! ## Stores -/

/-- A key-value store with byte-string keys. -/
abbrev KVStore (V : Type) := Std.ExtTreeMap Bytes V compare

namespace KVStore

variable {V : Type}

/-- The iteration over all keys that start with `p`, in key order, as a prefix
store shows it: the prefix is removed from the keys. -/
def entries (s : KVStore V) (p : Bytes) : List (Bytes × V) :=
  s.toList.filterMap fun kv => (p.isPrefixOf? kv.1).map fun k => (k, kv.2)

theorem getElem?_insert_self (s : KVStore V) (k : Bytes) (v : V) : (s.insert k v)[k]? = some v := by
  rw [Std.ExtTreeMap.getElem?_insert]
  simp

theorem getElem?_insert_of_ne (s : KVStore V) {k k' : Bytes} (v : V) (h : k' ≠ k) :
    (s.insert k v)[k']? = s[k']? := by
  rw [Std.ExtTreeMap.getElem?_insert, if_neg]
  intro hcmp
  exact h (Std.LawfulEqCmp.eq_of_compare hcmp).symm

theorem getElem?_erase_self (s : KVStore V) (k : Bytes) : (s.erase k)[k]? = none := by
  rw [Std.ExtTreeMap.getElem?_erase]
  simp

theorem getElem?_erase_of_ne (s : KVStore V) {k k' : Bytes} (h : k' ≠ k) :
    (s.erase k)[k']? = s[k']? := by
  rw [Std.ExtTreeMap.getElem?_erase, if_neg]
  intro hcmp
  exact h (Std.LawfulEqCmp.eq_of_compare hcmp).symm

theorem mem_entries {s : KVStore V} {p k : Bytes} {v : V} :
    (k, v) ∈ entries s p ↔ s[p ++ k]? = some v := by
  unfold entries
  rw [List.mem_filterMap]
  constructor
  · rintro ⟨⟨k', v'⟩, hmem, hmap⟩
    rw [Option.map_eq_some_iff] at hmap
    obtain ⟨t, ht, hkv⟩ := hmap
    cases hkv
    rw [List.isPrefixOf?_eq_some_iff_append_eq] at ht
    have hget := Std.ExtTreeMap.mem_toList_iff_getElem?_eq_some.mp hmem
    rwa [ht]
  · intro h
    refine ⟨(p ++ k, v), Std.ExtTreeMap.mem_toList_iff_getElem?_eq_some.mpr h, ?_⟩
    rw [Option.map_eq_some_iff]
    exact ⟨k, List.isPrefixOf?_eq_some_iff_append_eq.mpr rfl, rfl⟩

/-- Iterations run in strictly increasing key order. -/
theorem pairwise_entries (s : KVStore V) (p : Bytes) :
    (entries s p).Pairwise fun a b => compare a.1 b.1 = .lt := by
  unfold entries
  rw [List.pairwise_filterMap]
  refine (Std.ExtTreeMap.ordered_keys_toList (t := s)).imp ?_
  intro kv kv' hlt x hx y hy
  rw [Option.map_eq_some_iff] at hx hy
  obtain ⟨a, ha, rfl⟩ := hx
  obtain ⟨b, hb, rfl⟩ := hy
  rw [List.isPrefixOf?_eq_some_iff_append_eq] at ha hb
  rw [← ha, ← hb, compare_append_left] at hlt
  exact hlt

theorem nodup_entries (s : KVStore V) (p : Bytes) : (entries s p).Nodup := by
  refine (pairwise_entries s p).imp ?_
  rintro a b hlt rfl
  simp at hlt

theorem nodup_keys_entries (s : KVStore V) (p : Bytes) : ((entries s p).map Prod.fst).Nodup := by
  refine List.pairwise_map.mpr ((pairwise_entries s p).imp ?_)
  intro a b hlt heq
  rw [heq] at hlt
  simp at hlt

/-- Stores that hold the same entries are equal. -/
theorem eq_of_getElem?_iff {s t : KVStore V}
    (h : ∀ (k : Bytes) (v : V), s[k]? = some v ↔ t[k]? = some v) : s = t :=
  Std.ExtTreeMap.ext_getElem? fun {k} => Option.ext (h k)

/-- Lists in key order with the same members are equal. -/
theorem eq_of_ordered {l l' : List (Bytes × V)} (hl : l.Pairwise fun a b => compare a.1 b.1 = .lt)
    (hl' : l'.Pairwise fun a b => compare a.1 b.1 = .lt) (hmem : ∀ kv, kv ∈ l ↔ kv ∈ l') :
    l = l' := by
  have hnodup : ∀ {l : List (Bytes × V)}, (l.Pairwise fun a b => compare a.1 b.1 = .lt) →
      l.Nodup := by
    intro l h
    refine h.imp ?_
    rintro a b hlt rfl
    simp at hlt
  refine ((List.perm_ext_iff_of_nodup (hnodup hl) (hnodup hl')).mpr hmem).eq_of_pairwise ?_ hl hl'
  intro a b _ _ hab hba
  rw [@Std.OrientedCmp.eq_swap _ compare _ _ _, hba] at hab
  cases hab

end KVStore
end ByteStore
