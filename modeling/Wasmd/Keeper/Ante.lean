import Wasmd.Keeper.Isolation

/-!
# The counter of transactions

`CountTXDecorator` numbers the transactions of a block (`ante.go`).  The counter lies in one cell of
the store together with the height it belongs to, so that a rollback takes it back, and nothing
resets it.

* `decode_encodeHeightCounter` — what is stored is read back.
* `anteHandle` — the decorator in front of the rest of the chain.
* `Tx`, `Tx.run` — a transaction: if the chain fails, what it wrote is rolled back; if its messages
  fail later, what the chain wrote stays.
* `Counted` — the cell after some transactions of a block; `Counted.run` is the step.
* `tx_counter` — the counters of every block of every run.
-/

namespace Wasmd

open ByteStore Effects

/-! ## The cell -/

/-- `encodeHeightCounter`. -/
def encodeHeightCounter (height : Int64) (counter : UInt32) : Bytes :=
  uint64ToBigEndian height.toUInt64 ++ bigEndian 4 counter.toNat

/-- `decodeHeightCounter`, which panics when there are not enough bytes. -/
def decodeHeightCounter (bz : Bytes) : Except Panic (Int64 × UInt32) :=
  if bz.length < 12 then .error (.message "slice bounds out of range")
  else .ok ((bigEndianToUint64 (bz.take 8)).toInt64,
    UInt32.ofNat (fromBigEndian ((bz.drop 8).take 4)))

theorem decode_encodeHeightCounter (height : Int64) (counter : UInt32) :
    decodeHeightCounter (encodeHeightCounter height counter) = .ok (height, counter) := by
  have hlen : (encodeHeightCounter height counter).length = 12 := by simp [encodeHeightCounter]
  have htake : (encodeHeightCounter height counter).take 8 = uint64ToBigEndian height.toUInt64 :=
    List.take_left' (length_uint64ToBigEndian _)
  have hdrop : (encodeHeightCounter height counter).drop 8 = bigEndian 4 counter.toNat :=
    List.drop_left' (length_uint64ToBigEndian _)
  have hcounter : fromBigEndian ((bigEndian 4 counter.toNat).take 4) = counter.toNat := by
    rw [List.take_of_length_le (by simp), fromBigEndian_bigEndian]
    exact Nat.mod_eq_of_lt counter.toNat_lt
  rw [decodeHeightCounter, if_neg (by omega), htake, hdrop, hcounter,
    bigEndianToUint64_uint64ToBigEndian, UInt32.ofNat_toNat]
  rfl

/-! ## The decorator -/

/-- A call on the store of the module. -/
abbrev StoreM := GoM (KVStore Bytes) GoError

/-- The counter that the decorator computes from the cell. -/
def nextCounter (currentHeight : Int64) : Option Bytes → Except Panic UInt32
  | none => .ok 0
  | some bz => do
    let (lastHeight, val) ← decodeHeightCounter bz
    return if currentHeight = lastHeight then val else 0

/-- `CountTXDecorator.AnteHandle`.  Of the context it looks at the height and sets the counter,
which the rest of the chain is given; the store does not fail. -/
def anteHandle {α : Type} (currentHeight : Int64) (ctxCounter : Option UInt32) (simulate : Bool)
    (next : Option UInt32 → StoreM α) : StoreM α :=
  if simulate then next ctxCounter
  else do
    let bz ← GoM.gets fun store => store[txCounterPrefix]?
    let txCounter ← GoM.ofExcept ((nextCounter currentHeight bz).mapError .panic)
    GoM.modify fun store =>
      store.insert txCounterPrefix (encodeHeightCounter currentHeight (txCounter + 1))
    next (some txCounter)

/-! ## Transactions -/

/-- A transaction: the rest of its chain, which is given the counter of the context, and its
messages.  Neither writes to the cell. -/
structure Tx where
  simulate : Bool
  next : Option UInt32 → StoreM Unit
  deliver : StoreM Unit
  next_keeps : ∀ counter store, (next counter store).2[txCounterPrefix]? = store[txCounterPrefix]?
  deliver_keeps : ∀ store, (deliver store).2[txCounterPrefix]? = store[txCounterPrefix]?

namespace Tx

/-- The chain of a transaction; it returns the counter that was passed on. -/
def ante (height : Int64) (tx : Tx) : StoreM (Option UInt32) :=
  anteHandle height none tx.simulate fun counter => do
    tx.next counter
    return counter

/-- The transaction on the store: what was passed on if the chain succeeds, and the store.  A chain
that fails is rolled back; messages that fail are rolled back to what the chain wrote.  Simulations
are not rolled back here, so that nothing depends on it. -/
def run (height : Int64) (tx : Tx) (store : KVStore Bytes) :
    Option (Option UInt32) × KVStore Bytes :=
  match tx.ante height store with
  | (.error _, _) => (none, store)
  | (.ok counter, store₁) =>
    match tx.deliver store₁ with
    | (.error _, _) => (some counter, store₁)
    | (.ok _, store₂) => (some counter, store₂)

end Tx

/-- A block. -/
structure Block where
  height : Int64
  txs : List Tx

/-- The transactions of a block one after the other: each with what was passed on, and the store. -/
def runTxs (height : Int64) :
    List Tx → KVStore Bytes → List (Tx × Option (Option UInt32)) × KVStore Bytes
  | [], store => ([], store)
  | tx :: rest, store =>
    ((tx, (tx.run height store).1) :: (runTxs height rest (tx.run height store).2).1,
      (runTxs height rest (tx.run height store).2).2)

/-- The blocks one after the other. -/
def runBlocks : List Block → KVStore Bytes → List (Block × List (Tx × Option (Option UInt32)))
  | [], _ => []
  | block :: rest, store =>
    (block, (runTxs block.height block.txs store).1) ::
      runBlocks rest (runTxs block.height block.txs store).2

/-- What the successful chains of transactions that are not simulated passed on, in order. -/
def passedOn (results : List (Tx × Option (Option UInt32))) : List (Option UInt32) :=
  results.filterMap fun r => if r.1.simulate then none else r.2

theorem passedOn_cons (r : Tx × Option (Option UInt32))
    (results : List (Tx × Option (Option UInt32))) :
    passedOn (r :: results) = (if r.1.simulate then none else r.2).toList ++ passedOn results := by
  unfold passedOn
  rw [List.filterMap_cons]
  cases (if r.1.simulate then none else r.2) <;> rfl

/-! ## One transaction -/

/-- After `n` successful chains of a block, the cell holds `n` with the height; before the first
one, it holds nothing or the height of an earlier block. -/
def Counted (height : Int64) (n : ℕ) (store : KVStore Bytes) : Prop :=
  if n = 0 then ∀ bz, store[txCounterPrefix]? = some bz →
    ∃ lastHeight counter, lastHeight < height ∧ bz = encodeHeightCounter lastHeight counter
  else store[txCounterPrefix]? = some (encodeHeightCounter height (UInt32.ofNat n))

theorem Counted.congr {height : Int64} {n : ℕ} {store store' : KVStore Bytes}
    (h : Counted height n store) (heq : store'[txCounterPrefix]? = store[txCounterPrefix]?) :
    Counted height n store' := by
  unfold Counted at h ⊢
  rw [heq]
  exact h

theorem Counted.nextCounter {height : Int64} {n : ℕ} {store : KVStore Bytes}
    (h : Counted height n store) :
    nextCounter height store[txCounterPrefix]? = .ok (UInt32.ofNat n) := by
  unfold Counted at h
  by_cases hn : n = 0
  · rw [if_pos hn] at h
    subst hn
    cases hcell : store[txCounterPrefix]? with
    | none => rfl
    | some bz =>
        obtain ⟨lastHeight, counter, hlt, rfl⟩ := h bz hcell
        have hne : height ≠ lastHeight := (Int64.ne_of_lt hlt).symm
        simp [Wasmd.nextCounter, decode_encodeHeightCounter, hne]
  · rw [if_neg hn] at h
    rw [h]
    simp [Wasmd.nextCounter, decode_encodeHeightCounter]

namespace Tx

variable {tx : Tx} {height : Int64} {store : KVStore Bytes}

/-- The rest of a chain that succeeds. -/
theorem next_ok {ctxCounter counter : Option UInt32} {store₁ : KVStore Bytes}
    (h : (do tx.next ctxCounter; return ctxCounter : StoreM (Option UInt32)) store =
      (.ok counter, store₁)) :
    counter = ctxCounter ∧ store₁[txCounterPrefix]? = store[txCounterPrefix]? := by
  obtain ⟨u, store₂, hnext, hret⟩ := GoM.bind_ok_iff.mp h
  obtain ⟨rfl, rfl⟩ := GoM.pure_ok_iff.mp hret
  have hkeeps := tx.next_keeps counter store
  rw [hnext] at hkeeps
  exact ⟨rfl, hkeeps⟩

/-- A transaction whose chain fails is rolled back; after one whose chain succeeds, the cell is what
the chain left. -/
theorem run_cases (tx : Tx) (height : Int64) (store : KVStore Bytes) :
    ((tx.run height store).1 = none ∧ (tx.run height store).2 = store) ∨
      ∃ counter store₁, tx.ante height store = (.ok counter, store₁) ∧
        (tx.run height store).1 = some counter ∧
        (tx.run height store).2[txCounterPrefix]? = store₁[txCounterPrefix]? := by
  unfold run
  cases hante : tx.ante height store with
  | mk res store₁ =>
      cases res with
      | error e => exact Or.inl ⟨rfl, rfl⟩
      | ok counter =>
          refine Or.inr ⟨counter, store₁, rfl, ?_⟩
          dsimp only
          have hkeeps := tx.deliver_keeps store₁
          cases hdeliver : tx.deliver store₁ with
          | mk res' store₂ =>
              rw [hdeliver] at hkeeps
              cases res' with
              | error e => exact ⟨rfl, rfl⟩
              | ok u => exact ⟨rfl, hkeeps⟩

/-- **A simulation** is passed no counter and leaves the cell alone. -/
theorem run_simulated (hsim : tx.simulate = true) :
    ((tx.run height store).1 = none ∨ (tx.run height store).1 = some none) ∧
      (tx.run height store).2[txCounterPrefix]? = store[txCounterPrefix]? := by
  rcases tx.run_cases height store with ⟨hnone, hstore⟩ | ⟨counter, store₁, hante, hsome, hcell⟩
  · exact ⟨Or.inl hnone, by rw [hstore]⟩
  · rw [ante, anteHandle, if_pos hsim] at hante
    obtain ⟨rfl, hkept⟩ := next_ok hante
    exact ⟨Or.inr hsome, hcell.trans hkept⟩

/-- **A transaction that is not simulated**: if its chain succeeds, it is passed the count, which
grows, whatever becomes of its messages; if its chain fails, the count stays. -/
theorem run_counted (hsim : tx.simulate = false) {n : ℕ} (h : Counted height n store) :
    ((tx.run height store).1 = none ∧ Counted height n (tx.run height store).2) ∨
      ((tx.run height store).1 = some (some (UInt32.ofNat n)) ∧
        Counted height (n + 1) (tx.run height store).2) := by
  rcases tx.run_cases height store with ⟨hnone, hstore⟩ | ⟨counter, store₁, hante, hsome, hcell⟩
  · exact Or.inl ⟨hnone, hstore.symm ▸ h⟩
  · rw [ante, anteHandle, if_neg (by simp [hsim])] at hante
    obtain ⟨bz, store₂, hget, hante⟩ := GoM.bind_ok_iff.mp hante
    obtain ⟨rfl, rfl⟩ := GoM.gets_ok_iff.mp hget
    obtain ⟨txCounter, store₃, hcounter, hante⟩ := GoM.bind_ok_iff.mp hante
    obtain ⟨hcounter, rfl⟩ := GoM.ofExcept_ok_iff.mp hcounter
    rw [except_mapError_ok_iff, h.nextCounter] at hcounter
    obtain rfl := Except.ok.inj hcounter
    obtain ⟨u, store₄, hset, hante⟩ := GoM.bind_ok_iff.mp hante
    obtain rfl := GoM.modify_ok_iff.mp hset
    obtain ⟨rfl, hkept⟩ := next_ok hante
    refine Or.inr ⟨hsome, ?_⟩
    have hsucc : UInt32.ofNat n + 1 = UInt32.ofNat (n + 1) := by simp
    rw [hsucc, KVStore.getElem?_insert_self] at hkept
    rw [Counted, if_neg (Nat.succ_ne_zero n)]
    exact hcell.trans hkept

end Tx

/-! ## Whole runs -/

/-- What is passed on from a count on. -/
def countFrom (n m : ℕ) : List (Option UInt32) :=
  (List.range' n m).map fun k => some (UInt32.ofNat k)

/-- **A block counts on**: by induction on its transactions, the successful chains are passed
consecutive counts, and the cell holds the count in the end. -/
theorem runTxs_counted {height : Int64} {txs : List Tx} {store : KVStore Bytes} {n : ℕ}
    (h : Counted height n store) :
    ∃ m, passedOn (runTxs height txs store).1 = countFrom n m ∧
      Counted height (n + m) (runTxs height txs store).2 := by
  induction txs generalizing store n with
  | nil => exact ⟨0, rfl, h⟩
  | cons tx rest ih =>
      rw [runTxs]
      cases hsim : tx.simulate with
      | true =>
          obtain ⟨m, hpassed, hcounted⟩ := ih (h.congr (Tx.run_simulated hsim).2)
          refine ⟨m, ?_, hcounted⟩
          rw [passedOn_cons, hsim]
          exact hpassed
      | false =>
          rcases Tx.run_counted hsim h with ⟨hres, hnext⟩ | ⟨hres, hnext⟩
          · obtain ⟨m, hpassed, hcounted⟩ := ih hnext
            refine ⟨m, ?_, hcounted⟩
            rw [passedOn_cons, hsim, hres]
            exact hpassed
          · obtain ⟨m, hpassed, hcounted⟩ := ih hnext
            refine ⟨m + 1, ?_, ?_⟩
            · rw [passedOn_cons, hsim, hres, hpassed, countFrom, countFrom, List.range'_succ,
                List.map_cons]
              rfl
            · rwa [Nat.add_assoc, Nat.add_comm 1 m] at hcounted

/-- A simulation of a block is passed no counter. -/
theorem runTxs_simulated {height : Int64} {txs : List Tx} {store : KVStore Bytes}
    {r : Tx × Option (Option UInt32)} (hr : r ∈ (runTxs height txs store).1)
    (hsim : r.1.simulate = true) : r.2 = none ∨ r.2 = some none := by
  induction txs generalizing store with
  | nil => cases hr
  | cons tx rest ih =>
      rcases List.mem_cons.mp hr with rfl | hr
      · exact (Tx.run_simulated hsim).1
      · exact ih hr

/-- The cell belongs to earlier blocks. -/
theorem Counted.later {height later : Int64} {n : ℕ} {store : KVStore Bytes}
    (h : Counted height n store) (hlt : height < later) : Counted later 0 store := by
  rw [Counted, if_pos rfl]
  intro bz hbz
  rw [Counted] at h
  split_ifs at h with hn
  · obtain ⟨lastHeight, counter, hlast, rfl⟩ := h bz hbz
    exact ⟨lastHeight, counter, Int64.lt_trans hlast hlt, rfl⟩
  · rw [h] at hbz
    exact ⟨height, UInt32.ofNat n, hlt, (Option.some.inj hbz).symm⟩

/-- What a block of a run has passed on. -/
structure CountsTransactions (results : List (Tx × Option (Option UInt32))) : Prop where
  /-- The k-th successful chain that is not simulated is passed the count before it. -/
  passed : ∀ k counter, (passedOn results)[k]? = some counter →
    counter = some (UInt32.ofNat k) ∧ k < 2 ^ 32
  /-- Simulations are passed no counter. -/
  simulated : ∀ r ∈ results, r.1.simulate = true → r.2 = none ∨ r.2 = some none

theorem length_runTxs (height : Int64) (txs : List Tx) (store : KVStore Bytes) :
    (runTxs height txs store).1.length = txs.length := by
  induction txs generalizing store with
  | nil => rfl
  | cons tx rest ih => rw [runTxs, List.length_cons, List.length_cons, ih]

theorem runTxs_countsTransactions {height : Int64} {txs : List Tx} (hfew : txs.length < 2 ^ 32)
    {store : KVStore Bytes} (h : Counted height 0 store) :
    CountsTransactions (runTxs height txs store).1 where
  passed k counter hk := by
    have hlen : k < txs.length := by
      have hk' := (List.getElem?_eq_some_iff.mp hk).1
      have hle : (passedOn (runTxs height txs store).1).length ≤ _ := List.length_filterMap_le _ _
      rw [length_runTxs] at hle
      omega
    obtain ⟨m, hpassed, -⟩ := runTxs_counted h
    rw [hpassed, countFrom, List.getElem?_map, Option.map_eq_some_iff] at hk
    obtain ⟨i, hi, rfl⟩ := hk
    obtain ⟨hlt, rfl⟩ := List.getElem?_eq_some_iff.mp hi
    refine ⟨?_, by omega⟩
    simp
  simulated r hr hsim := runTxs_simulated hr hsim

/-- **Transactions are numbered block by block.**  In every run of blocks with increasing heights
and fewer than `2 ^ 32` transactions each, the k-th successful chain of a block that is not
simulated is passed `k - 1`, whether its messages fail or not, and simulations are passed no
counter. -/
theorem tx_counter (blocks : List Block) (hheights : blocks.Pairwise fun a b => a.height < b.height)
    (hfew : ∀ b ∈ blocks, b.txs.length < 2 ^ 32) (store : KVStore Bytes)
    (hstart : store[txCounterPrefix]? = none) :
    ∀ r ∈ runBlocks blocks store, CountsTransactions r.2 := by
  have hcounted : ∀ b ∈ blocks, Counted b.height 0 store := by
    intro b _
    rw [Counted, if_pos rfl]
    intro bz hbz
    rw [hstart] at hbz
    cases hbz
  clear hstart
  induction blocks generalizing store with
  | nil => exact fun r hr => by cases hr
  | cons block rest ih =>
      obtain ⟨hlower, hrest⟩ := List.pairwise_cons.mp hheights
      have hhere := hcounted block List.mem_cons_self
      intro r hr
      rcases List.mem_cons.mp hr with rfl | hr
      · exact runTxs_countsTransactions (hfew block List.mem_cons_self) hhere
      · refine ih hrest (fun b hb => hfew b (List.mem_cons_of_mem _ hb)) _ (fun b hb => ?_) r hr
        obtain ⟨m, -, hafter⟩ := runTxs_counted hhere
        exact hafter.later (hlower b hb)

/-- A transaction whose chain and messages write nothing and succeed or fail. -/
def plainTx (simulate anteOk deliverOk : Bool) : Tx where
  simulate := simulate
  next _ := GoM.ensure anteOk (.foreign "ante")
  deliver := GoM.ensure deliverOk (.foreign "deliver")
  next_keeps _ _ := by cases anteOk <;> rfl
  deliver_keeps _ := by cases deliverOk <;> rfl

/-- Two blocks: a chain that fails, one whose messages fail, a simulation and one that succeeds; and
one more in the next block. -/
def mixedBlocks : List Block :=
  [⟨5, [plainTx false false true, plainTx false true false, plainTx true true true,
    plainTx false true true]⟩, ⟨9, [plainTx false true true]⟩]

theorem tx_counter_mixed :
    (runBlocks mixedBlocks ∅).map (fun r => passedOn r.2) = [[some 0, some 1], [some 0]] ∧
      ∀ r ∈ runBlocks mixedBlocks ∅, CountsTransactions r.2 := by
  refine ⟨by decide +kernel, tx_counter mixedBlocks ?_ ?_ ∅ rfl⟩
  · exact List.pairwise_pair.mpr (by decide)
  · intro b hb
    simp only [mixedBlocks, List.mem_cons, List.not_mem_nil, or_false] at hb
    rcases hb with rfl | rfl <;> decide

end Wasmd
