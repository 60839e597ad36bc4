import Wasmd.Lib.PrefixStore

/-!
# Logs in a store

A store may hold many logs: the entries of one lie behind its prefix, at positions of eight bytes
that count from one.  The prefix of one log may start with that of another.

* `logEntries` — what lies behind a prefix with exactly eight more bytes.
* `HoldsLogs` — the store holds exactly the given logs.
* `HoldsLogs.logEntries_eq` — **a log is read back as it is**, whatever the other prefixes.
* `HoldsLogs.append` — **appending to a log** touches that log only.
-/

namespace ByteStore
namespace KVStore

variable {α V : Type} {pre : α → Bytes} {s : KVStore V} {H : α → List V}

/-! ## Reading -/

/-- The entries behind a prefix that have eight more bytes, with these as numbers. -/
def logEntries (s : KVStore V) (p : Bytes) : List (UInt64 × V) :=
  (entries s p).filterMap fun kv =>
    if kv.1.length = 8 then some (bigEndianToUint64 kv.1, kv.2) else none

theorem mem_logEntries {p : Bytes} {pos : UInt64} {e : V} :
    (pos, e) ∈ logEntries s p ↔ s[p ++ uint64ToBigEndian pos]? = some e := by
  unfold logEntries
  rw [List.mem_filterMap]
  constructor
  · rintro ⟨⟨k, v⟩, hmem, hif⟩
    rw [mem_entries] at hmem
    split_ifs at hif with hlen
    cases hif
    rw [uint64ToBigEndian_bigEndianToUint64 hlen]
    exact hmem
  · intro h
    exact ⟨(uint64ToBigEndian pos, e), mem_entries.mpr h, by simp⟩

/-- Positions increase along a log. -/
theorem pairwise_logEntries (s : KVStore V) (p : Bytes) :
    (logEntries s p).Pairwise fun x y => x.1.toNat < y.1.toNat := by
  unfold logEntries
  rw [List.pairwise_filterMap]
  refine (pairwise_entries s _).imp ?_
  rintro ⟨k, v⟩ ⟨k', v'⟩ hlt x hx y hy
  split_ifs at hx hy with hlen hlen'
  cases hx
  cases hy
  rw [← uint64ToBigEndian_bigEndianToUint64 hlen, ← uint64ToBigEndian_bigEndianToUint64 hlen',
    compare_uint64ToBigEndian, Nat.compare_eq_lt] at hlt
  exact hlt

/-- A log has no more entries than there are positions. -/
theorem length_logEntries_le (s : KVStore V) (p : Bytes) : (logEntries s p).length ≤ 2 ^ 64 := by
  have hnodup : ((logEntries s p).map fun x => x.1.toNat).Nodup :=
    List.pairwise_map.mpr ((pairwise_logEntries s p).imp fun hlt heq => by omega)
  have hsub : (logEntries s p).map (fun x => x.1.toNat) ⊆ List.range (2 ^ 64) := by
    intro n hn
    obtain ⟨x, -, rfl⟩ := List.mem_map.mp hn
    exact List.mem_range.mpr x.1.toNat_lt
  have hlen := (List.subperm_of_subset hnodup hsub).length_le
  rwa [List.length_map, List.length_range] at hlen

/-- What lies at the position zero comes first. -/
theorem head?_logEntries {p : Bytes} {e : V} (h : s[p ++ uint64ToBigEndian 0]? = some e) :
    (logEntries s p).head? = some (0, e) := by
  have hmem := mem_logEntries.mpr h
  have hordered := pairwise_logEntries s p
  cases hlog : logEntries s p with
  | nil => rw [hlog] at hmem; cases hmem
  | cons x rest =>
      rw [hlog] at hmem hordered
      rcases List.mem_cons.mp hmem with rfl | hlater
      · rfl
      · exact absurd (List.rel_of_pairwise_cons hordered hlater) (Nat.not_lt_zero _)

/-! ## What a store of logs holds -/

/-- The key of an entry. -/
def logKey (p : Bytes) (pos : UInt64) : Bytes := p ++ uint64ToBigEndian pos

/-- The position is the last eight bytes, so the prefix is what stands before them. -/
theorem logKey_inj {p q : Bytes} {i j : UInt64} (h : logKey p i = logKey q j) : p = q ∧ i = j := by
  obtain ⟨hpre, hpos⟩ := List.append_inj' h (by simp)
  exact ⟨hpre, uint64ToBigEndian_injective hpos⟩

/-- The store holds exactly the logs `H`, that of `a` behind `pre a`. -/
structure HoldsLogs (pre : α → Bytes) (s : KVStore V) (H : α → List V) : Prop where
  length_lt : ∀ a, (H a).length < 2 ^ 64
  mem_iff : ∀ k e, s[k]? = some e ↔
    ∃ a i, k = logKey (pre a) (UInt64.ofNat (i + 1)) ∧ (H a)[i]? = some e

theorem toNat_position {i n : Nat} (h : i < n) (hn : n < 2 ^ 64) :
    (UInt64.ofNat (i + 1)).toNat = i + 1 := by
  rw [UInt64.toNat_ofNat']
  exact Nat.mod_eq_of_lt (by omega)

/-- The entries of a log with their positions, from one on. -/
def numbered (l : List V) : List (UInt64 × V) := l.mapIdx fun i e => (UInt64.ofNat (i + 1), e)

theorem mem_numbered {l : List V} {pos : UInt64} {e : V} :
    (pos, e) ∈ numbered l ↔ ∃ i, pos = UInt64.ofNat (i + 1) ∧ l[i]? = some e := by
  unfold numbered
  rw [List.mem_mapIdx]
  constructor
  · rintro ⟨i, hi, heq⟩
    cases heq
    exact ⟨i, rfl, List.getElem?_eq_getElem hi⟩
  · rintro ⟨i, rfl, he⟩
    obtain ⟨hi, rfl⟩ := List.getElem?_eq_some_iff.mp he
    exact ⟨i, hi, rfl⟩

theorem pairwise_numbered {l : List V} (hl : l.length < 2 ^ 64) :
    (numbered l).Pairwise fun x y => x.1.toNat < y.1.toNat := by
  rw [List.pairwise_iff_getElem]
  intro i j hi hj hij
  have hi' : i < l.length := by simpa [numbered] using hi
  have hj' : j < l.length := by simpa [numbered] using hj
  simp only [numbered, List.getElem_mapIdx, toNat_position hi' hl, toNat_position hj' hl]
  omega

theorem map_snd_numbered (l : List V) : (numbered l).map Prod.snd = l := by
  refine List.ext_getElem? fun i => ?_
  rw [numbered]
  cases he : l[i]? <;> simp [he]

theorem getLast?_numbered (l : List V) :
    ((numbered l).getLast?.map Prod.fst).getD 0 = UInt64.ofNat l.length := by
  rw [numbered, List.getLast?_mapIdx]
  cases l with
  | nil => rfl
  | cons e rest => simp [List.getLast?_cons]

/-- Two lists in increasing order of position with the same members are the same. -/
theorem eq_of_pairwise_of_mem {l l' : List (UInt64 × V)}
    (h : l.Pairwise fun x y => x.1.toNat < y.1.toNat)
    (h' : l'.Pairwise fun x y => x.1.toNat < y.1.toNat) (hmem : ∀ x, x ∈ l ↔ x ∈ l') : l = l' := by
  have hnd : ∀ {m : List (UInt64 × V)}, (m.Pairwise fun x y => x.1.toNat < y.1.toNat) →
      m.Nodup := by
    intro m hm
    refine hm.imp ?_
    rintro x y hlt rfl
    omega
  have hperm : l.Perm l' := (List.perm_ext_iff_of_nodup (hnd h) (hnd h')).mpr hmem
  refine hperm.eq_of_pairwise ?_ h h'
  intro x y _ _ hxy hyx
  omega

namespace HoldsLogs

theorem empty : HoldsLogs pre (∅ : KVStore V) fun _ => [] where
  length_lt _ := by simp
  mem_iff k e := by simp

/-- The logs determine the store. -/
theorem unique {s' : KVStore V} (h : HoldsLogs pre s H) (h' : HoldsLogs pre s' H) : s = s' :=
  eq_of_getElem?_iff fun k e => by rw [h.mem_iff, h'.mem_iff]

/-- **A log is read back as it is.** -/
theorem logEntries_eq (hpre : Function.Injective pre) (h : HoldsLogs pre s H) (a : α) :
    logEntries s (pre a) = numbered (H a) := by
  refine eq_of_pairwise_of_mem (pairwise_logEntries s _) (pairwise_numbered (h.length_lt a)) ?_
  rintro ⟨pos, e⟩
  rw [mem_logEntries, mem_numbered, h.mem_iff]
  constructor
  · rintro ⟨b, i, hk, he⟩
    obtain ⟨hab, rfl⟩ := logKey_inj hk
    obtain rfl := hpre hab
    exact ⟨i, rfl, he⟩
  · rintro ⟨i, rfl, he⟩
    exact ⟨a, i, rfl, he⟩

variable [DecidableEq α]

/-- One entry at the next position. -/
theorem insert_next (hpre : Function.Injective pre) (h : HoldsLogs pre s H) (a : α) (e : V)
    (hlen : (H a).length + 1 < 2 ^ 64) :
    HoldsLogs pre (s.insert (logKey (pre a) (UInt64.ofNat ((H a).length + 1))) e)
      (Function.update H a (H a ++ [e])) where
  length_lt b := by
    by_cases hb : b = a
    · subst hb
      simpa using hlen
    · rw [Function.update_of_ne hb]
      exact h.length_lt b
  mem_iff k e' := by
    by_cases hk : k = logKey (pre a) (UInt64.ofNat ((H a).length + 1))
    · subst hk
      rw [getElem?_insert_self]
      constructor
      · intro he
        cases he
        exact ⟨a, (H a).length, rfl, by simp⟩
      · rintro ⟨b, i, hkey, he⟩
        obtain ⟨hab, hpos⟩ := logKey_inj hkey
        obtain rfl := hpre hab
        rw [Function.update_self] at he
        have hi : i < (H a).length + 1 := by simpa using (List.getElem?_eq_some_iff.mp he).1
        have hnat := congrArg UInt64.toNat hpos
        rw [toNat_position hi hlen, toNat_position (Nat.lt_succ_self _) hlen] at hnat
        obtain rfl : (H a).length = i := by omega
        simpa using he
    · rw [getElem?_insert_of_ne _ _ hk, h.mem_iff]
      constructor
      · rintro ⟨b, i, rfl, he⟩
        refine ⟨b, i, rfl, ?_⟩
        by_cases hb : b = a
        · subst hb
          rw [Function.update_self]
          exact List.getElem?_append_left (List.getElem?_eq_some_iff.mp he).1 ▸ he
        · rwa [Function.update_of_ne hb]
      · rintro ⟨b, i, rfl, he⟩
        refine ⟨b, i, rfl, ?_⟩
        by_cases hb : b = a
        · subst hb
          rw [Function.update_self] at he
          have hi : i < (H b).length := by
            have hlt := (List.getElem?_eq_some_iff.mp he).1
            rw [List.length_append, List.length_singleton] at hlt
            rcases Nat.lt_succ_iff_lt_or_eq.mp hlt with hlt | rfl
            · exact hlt
            · exact absurd rfl hk
          rwa [List.getElem?_append_left hi] at he
        · rwa [Function.update_of_ne hb] at he

end HoldsLogs

/-! ## Writing -/

/-- Entries one after the other behind a prefix, from the position after `pos` on. -/
def appendFrom (p : Bytes) : UInt64 → List V → KVStore V → KVStore V
  | _, [], s => s
  | pos, e :: rest, s => appendFrom p (pos + 1) rest (s.insert (logKey p (pos + 1)) e)

/-- Appending writes at the positions it counts through and nowhere else. -/
theorem getElem?_appendFrom_of_ne {p key : Bytes} {pos : UInt64} {es : List V}
    (h : ∀ i < es.length, key ≠ logKey p (pos + UInt64.ofNat i + 1)) :
    (appendFrom p pos es s)[key]? = s[key]? := by
  induction es generalizing s pos with
  | nil => rfl
  | cons e rest ih =>
      have hfirst : key ≠ logKey p (pos + 1) := by
        have := h 0 (Nat.succ_pos _)
        rwa [show pos + UInt64.ofNat 0 + 1 = pos + 1 by simp] at this
      rw [appendFrom, ih fun i hi => ?_, getElem?_insert_of_ne _ _ hfirst]
      have hnext := h (i + 1) (Nat.succ_lt_succ hi)
      rwa [show pos + UInt64.ofNat (i + 1) + 1 = pos + 1 + UInt64.ofNat i + 1 by
        rw [UInt64.ofNat_add, show UInt64.ofNat 1 = 1 from rfl]; ac_rfl] at hnext

/-- The first of the entries is at the next position, unless the positions go all the way round. -/
theorem getElem?_appendFrom_first {p : Bytes} {pos : UInt64} {e : V} {rest : List V}
    (hlen : rest.length < 2 ^ 64) :
    (appendFrom p pos (e :: rest) s)[logKey p (pos + 1)]? = some e := by
  rw [appendFrom, getElem?_appendFrom_of_ne fun i hi hkey => ?_, getElem?_insert_self]
  have hnat := congrArg UInt64.toNat (logKey_inj hkey).2
  simp only [UInt64.toNat_add, UInt64.toNat_ofNat', UInt64.toNat_one] at hnat
  omega

/-- **Appending to a log** touches that log only. -/
theorem HoldsLogs.append [DecidableEq α] (hpre : Function.Injective pre)
    (h : HoldsLogs pre s H) (a : α) (es : List V) (hlen : (H a).length + es.length < 2 ^ 64) :
    HoldsLogs pre (appendFrom (pre a) (UInt64.ofNat (H a).length) es s)
      (Function.update H a (H a ++ es)) := by
  induction es generalizing s H with
  | nil =>
      rw [List.append_nil, Function.update_eq_self]
      exact h
  | cons e rest ih =>
      rw [List.length_cons] at hlen
      have hstep := h.insert_next hpre a e (by omega)
      have hall := ih hstep (by rw [Function.update_self]; simp; omega)
      rw [Function.update_self, Function.update_idem, List.append_assoc] at hall
      unfold appendFrom
      have hpos : UInt64.ofNat (H a).length + 1 = UInt64.ofNat ((H a).length + 1) := by simp
      rw [hpos]
      simpa using hall

end KVStore
end ByteStore
