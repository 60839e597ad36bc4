import Wasmd.Keeper.Store

/-!
# Histories of contracts with addresses of any length

The keys of a history carry no length of the address, so that an iteration over one history may run
through the keys of another.  The keeper looks at the length of the rest of the key, the query for
histories does not (`keeper.go`, `querier.go`).

* `Histories.appendToContractHistory`, `getContractHistory`, `mustGetLastContractHistoryEntry` — the
  functions of the keeper, for any byte slice as an address; `getContractHistory_eq` and
  `appendToContractHistory_eq` compare them with those of `WasmStore`.
* `histories_separate` — any interleaving of calls for any addresses is read back.
* `contractHistory`, `historyPages` — the query, and its pages one after the other.
* `history_query_agrees_iff` — when the pages of a query are the history.
-/

namespace Wasmd

open ByteStore KVStore Effects

/-! ## The keeper -/

namespace Histories

/-- `types.GetContractCodeHistoryElementPrefix`. -/
def getContractCodeHistoryElementPrefix (contractAddr : Bytes) : Bytes := 0x05 :: contractAddr

variable (history : KVStore ContractCodeHistoryEntry) (contractAddr : Bytes)

/-- What a reverse iterator comes to first among the keys with eight more bytes. -/
def lastElement : Option (Bytes × ContractCodeHistoryEntry) :=
  (prefixIterator history (getContractCodeHistoryElementPrefix contractAddr) none none true).find?
    fun kv => kv.1.length = 8

/-- `appendToContractHistory`. -/
def appendToContractHistory (newEntries : List ContractCodeHistoryEntry) :
    KVStore ContractCodeHistoryEntry :=
  let pos := match lastElement history contractAddr with
    | some kv => bigEndianToUint64 kv.1
    | none => 0
  appendFrom (getContractCodeHistoryElementPrefix contractAddr) pos newEntries history

/-- `GetContractHistory`. -/
def getContractHistory : List ContractCodeHistoryEntry :=
  (prefixIterator history (getContractCodeHistoryElementPrefix contractAddr) none none
    false).filterMap fun kv => if kv.1.length ≠ 8 then none else some kv.2

/-- `mustGetLastContractHistoryEntry`; `text` is the address as it is written. -/
def mustGetLastContractHistoryEntry (text : String) : Except Panic ContractCodeHistoryEntry :=
  match lastElement history contractAddr with
  | some kv => .ok kv.2
  | none => .error (.message s!"no history for {text}")

variable {history contractAddr}

/-! ### The loops and the log -/

theorem getElementPrefix_injective : Function.Injective getContractCodeHistoryElementPrefix := by
  intro a b h
  exact (List.cons.inj h).2

/-- The reverse loop stops at the last entry of the log. -/
theorem lastElement_eq :
    (lastElement history contractAddr).map (fun kv => (bigEndianToUint64 kv.1, kv.2)) =
    (logEntries history (getContractCodeHistoryElementPrefix contractAddr)).getLast? := by
  have hlog : logEntries history (getContractCodeHistoryElementPrefix contractAddr) =
      ((entries history (getContractCodeHistoryElementPrefix contractAddr)).filter
        fun kv => kv.1.length = 8).map fun kv => (bigEndianToUint64 kv.1, kv.2) := by
    rw [← List.filterMap_eq_map, List.filterMap_filter, logEntries]
    refine List.filterMap_congr fun kv _ => ?_
    by_cases hlen : kv.1.length = 8 <;> simp [hlen]
  rw [hlog, List.getLast?_map, lastElement, prefixIterator_all, ← List.head?_filter, if_pos rfl,
    List.filter_reverse, List.head?_reverse]

/-- The forward loop collects the log. -/
theorem getContractHistory_eq_log : getContractHistory history contractAddr =
    (logEntries history (getContractCodeHistoryElementPrefix contractAddr)).map Prod.snd := by
  rw [getContractHistory, prefixIterator_all, logEntries, List.map_filterMap]
  refine List.filterMap_congr fun kv _ => ?_
  by_cases hlen : kv.1.length = 8 <;> simp [hlen]

theorem mustGetLast_ok_iff {text : String} {e : ContractCodeHistoryEntry} :
    mustGetLastContractHistoryEntry history contractAddr text = .ok e ↔
      (logEntries history (getContractCodeHistoryElementPrefix contractAddr)).getLast?.map
        Prod.snd =
        some e := by
  rw [← lastElement_eq, mustGetLastContractHistoryEntry]
  cases lastElement history contractAddr <;> simp

theorem appendToContractHistory_eq_log (newEntries : List ContractCodeHistoryEntry) :
    appendToContractHistory history contractAddr newEntries =
      appendFrom (getContractCodeHistoryElementPrefix contractAddr)
        (((logEntries history (getContractCodeHistoryElementPrefix contractAddr)).getLast?.map
          Prod.fst).getD 0) newEntries history := by
  rw [← lastElement_eq, appendToContractHistory]
  cases lastElement history contractAddr <;> rfl

/-! ### The functions of the store -/

theorem getContractHistory_eq (s : WasmStore) (a : AccAddress) :
    s.getContractHistory a = getContractHistory s.history a.bytes := by
  rw [getContractHistory_eq_log]
  rfl

theorem appendToContractHistory_eq (s : WasmStore) (a : AccAddress)
    (newEntries : List ContractCodeHistoryEntry) :
    (s.appendToContractHistory a newEntries).history =
      appendToContractHistory s.history a.bytes newEntries := by
  rw [appendToContractHistory_eq_log, WasmStore.appendToContractHistory,
    WasmStore.history_appendHistoryFrom]
  rfl

/-! ### Calls one after the other -/

/-- A call of `appendToContractHistory`. -/
structure Call where
  contractAddr : Bytes
  newEntries : List ContractCodeHistoryEntry

/-- The calls one after the other. -/
def appendAll (calls : List Call) (history : KVStore ContractCodeHistoryEntry) :
    KVStore ContractCodeHistoryEntry :=
  calls.foldl (fun h call => appendToContractHistory h call.contractAddr call.newEntries) history

/-- What the calls append for an address, in order. -/
def appendedFor (calls : List Call) (contractAddr : Bytes) : List ContractCodeHistoryEntry :=
  (calls.filter fun call => call.contractAddr = contractAddr).flatMap Call.newEntries

/-- How many entries the calls append. -/
def appendedCount (calls : List Call) : ℕ := (calls.map fun call => call.newEntries.length).sum

theorem appendedFor_cons (call : Call) (calls : List Call) (a : Bytes) :
    appendedFor (call :: calls) a =
      (if call.contractAddr = a then call.newEntries else []) ++ appendedFor calls a := by
  unfold appendedFor
  by_cases h : call.contractAddr = a <;> simp [h]

/-- One call: the log of its address grows by its entries. -/
theorem holdsLogs_append {H : Bytes → List ContractCodeHistoryEntry}
    (h : HoldsLogs getContractCodeHistoryElementPrefix history H) (contractAddr : Bytes)
    (newEntries : List ContractCodeHistoryEntry)
    (hlen : (H contractAddr).length + newEntries.length < 2 ^ 64) :
    HoldsLogs getContractCodeHistoryElementPrefix
      (appendToContractHistory history contractAddr newEntries)
      (Function.update H contractAddr (H contractAddr ++ newEntries)) := by
  rw [appendToContractHistory_eq_log, h.logEntries_eq getElementPrefix_injective, getLast?_numbered]
  exact h.append getElementPrefix_injective contractAddr newEntries hlen

/-- All calls, by induction on the calls: each log grows by what is appended for its address. -/
theorem holdsLogs_appendAll {H : Bytes → List ContractCodeHistoryEntry}
    (h : HoldsLogs getContractCodeHistoryElementPrefix history H) {calls : List Call}
    (hfew : ∀ a, (H a).length + appendedCount calls < 2 ^ 64) :
    HoldsLogs getContractCodeHistoryElementPrefix (appendAll calls history)
      fun a => H a ++ appendedFor calls a := by
  induction calls generalizing history H with
  | nil => simpa [appendedFor, appendAll] using h
  | cons call calls ih =>
      have hcount : appendedCount (call :: calls) =
          call.newEntries.length + appendedCount calls := by
        simp [appendedCount]
      have hhere := hfew call.contractAddr
      have hstep := holdsLogs_append h call.contractAddr call.newEntries (by omega)
      have hrest := ih hstep fun a => by
        have ha := hfew a
        by_cases haddr : a = call.contractAddr
        · subst haddr
          rw [Function.update_self, List.length_append]
          omega
        · rw [Function.update_of_ne haddr]
          omega
      have hsame : (fun a => H a ++ appendedFor (call :: calls) a) = fun a =>
          Function.update H call.contractAddr (H call.contractAddr ++ call.newEntries) a ++
            appendedFor calls a := by
        funext a
        rw [appendedFor_cons]
        by_cases haddr : call.contractAddr = a
        · subst haddr
          rw [Function.update_self, if_pos rfl, List.append_assoc]
        · rw [Function.update_of_ne (Ne.symm haddr), if_neg haddr, List.nil_append]
      rw [hsame]
      exact hrest

end Histories

open Histories in
/-- **Histories are separate**, whatever the lengths of the addresses: after any calls with fewer
than `2 ^ 64` entries, the history of an address is what was appended for it, in order, and its last
entry is the last of them. -/
theorem histories_separate (calls : List Histories.Call) (hfew : appendedCount calls < 2 ^ 64)
    (contractAddr : Bytes) :
    getContractHistory (appendAll calls ∅) contractAddr = appendedFor calls contractAddr ∧
      ∀ text e, (appendedFor calls contractAddr).getLast? = some e →
        mustGetLastContractHistoryEntry (appendAll calls ∅) contractAddr text = .ok e := by
  have hall : HoldsLogs getContractCodeHistoryElementPrefix (appendAll calls ∅)
      fun a => [] ++ appendedFor calls a :=
        holdsLogs_appendAll HoldsLogs.empty (by simpa using hfew)
  have hlog := hall.logEntries_eq getElementPrefix_injective contractAddr
  rw [List.nil_append] at hlog
  refine ⟨?_, fun text e he => ?_⟩
  · rw [getContractHistory_eq_log, hlog, map_snd_numbered]
  · rw [mustGetLast_ok_iff, hlog, ← List.getLast?_map, map_snd_numbered, he]

/-- An entry of a history that is told apart by its code. -/
def historyEntry (codeID : UInt64) : ContractCodeHistoryEntry := ⟨.init, codeID, ⟨1, 0⟩, []⟩

/-- Calls for an address, for one that starts with it and goes on like a position, and again for the
first. -/
def prefixCalls : List Histories.Call :=
  [⟨[7], [historyEntry 1]⟩, ⟨[7, 0, 0, 0, 0, 0, 0, 0, 1], [historyEntry 2, historyEntry 3]⟩,
    ⟨[7], [historyEntry 4]⟩]

theorem histories_separate_prefix :
    Histories.appendedFor prefixCalls [7] = [historyEntry 1, historyEntry 4] ∧
      Histories.getContractHistory (Histories.appendAll prefixCalls ∅) [7] =
        Histories.appendedFor prefixCalls [7] :=
  ⟨by decide, (histories_separate prefixCalls (by decide) [7]).1⟩

/-! ## The query -/

/-- `query.PageRequest`. -/
structure PageRequest where
  key : Bytes
  offset : UInt64
  limit : UInt64
  countTotal : Bool
  reverse : Bool
  deriving DecidableEq, Repr

/-- `query.DefaultLimit`. -/
def defaultLimit : UInt64 := 100

/-- `maxResultEntries`. -/
def maxResultEntries : UInt64 := 100

/-- `errLegacyPaginationUnsupported`. -/
def errLegacyPaginationUnsupported : GoError :=
  .foreign "rpc error: code = InvalidArgument desc = offset and count queries not supported"

/-- `ensurePaginationParams`. -/
def ensurePaginationParams : Option PageRequest → Except GoError PageRequest
  | none => .ok ⟨[], 0, defaultLimit, false, false⟩
  | some req =>
    if req.offset ≠ 0 ∨ req.countTotal then .error errLegacyPaginationUnsupported
    else if maxResultEntries < req.limit ∨ req.limit ≤ 0 then
      .ok { req with limit := maxResultEntries }
    else .ok req

/-- `query.FilteredPaginate` with a callback that accepts every entry: the entries of the page, and
the next key. -/
abbrev Paginate (V : Type) := KVStore V → PageRequest → List (Bytes × V) × Option Bytes

/-- `QueryContractHistoryRequest`. -/
structure QueryContractHistoryRequest where
  address : String
  pagination : Option PageRequest

/-- `ContractHistory`: the entries of the page, and the next key. -/
def contractHistory (paginate : Paginate ContractCodeHistoryEntry) (codec : AddressCodec)
    (s : WasmStore) (req : Option QueryContractHistoryRequest) :
    Except GoError (List ContractCodeHistoryEntry × Option Bytes) :=
  match req with
  | none => .error (.foreign "rpc error: code = InvalidArgument desc = empty request")
  | some req => do
    let contractAddr ← (codec.accAddressFromBech32 req.address).mapError .foreign
    let paginationParams ← ensurePaginationParams req.pagination
    let prefixStore := view s.history (contractCodeHistoryElementPrefix contractAddr)
    let page := paginate prefixStore paginationParams
    return (page.1.map Prod.snd, page.2)

/-- The request for a page of a given size. -/
def pageRequest (limit : UInt64) (key : Bytes) : PageRequest := ⟨key, 0, limit, false, false⟩

/-- All pages of a size from a key on, following the next keys. -/
def pagesFrom {V : Type} (paginate : Paginate V) (store : KVStore V) (limit : UInt64) :
    ℕ → Bytes → Option (List (Bytes × V))
  | 0, _ => none
  | fuel + 1, key =>
    match paginate store (pageRequest limit key) with
    | (page, none) => some page
    | (page, some nextKey) => (pagesFrom paginate store limit fuel nextKey).map (page ++ ·)

/-- Key pagination visits every entry of a store once, in key order. -/
def VisitsAll {V : Type} (paginate : Paginate V) : Prop :=
  ∀ store limit, limit ≠ 0 → ∃ fuel, pagesFrom paginate store limit fuel [] = some store.toList

/-- The entries of all pages of a query for the history of an address. -/
def historyPages (paginate : Paginate ContractCodeHistoryEntry) (codec : AddressCodec)
    (s : WasmStore) (address : String) (limit : UInt64) :
    ℕ → Bytes → Option (List ContractCodeHistoryEntry)
  | 0, _ => none
  | fuel + 1, key =>
    match contractHistory paginate codec s (some ⟨address, some (pageRequest limit key)⟩) with
    | .error _ => none
    | .ok (page, none) => some page
    | .ok (page, some nextKey) =>
      (historyPages paginate codec s address limit fuel nextKey).map (page ++ ·)

/-! ### All pages -/

/-- The page size that is used. -/
def pageSize (limit : UInt64) : UInt64 :=
  if maxResultEntries < limit ∨ limit ≤ 0 then maxResultEntries else limit

theorem pageSize_ne_zero (limit : UInt64) : pageSize limit ≠ 0 := by
  unfold pageSize
  split_ifs with h
  · decide
  · rintro rfl
    exact h (Or.inr (UInt64.le_refl 0))

theorem ensurePaginationParams_pageRequest (limit : UInt64) (key : Bytes) :
    ensurePaginationParams (some (pageRequest limit key)) =
      .ok (pageRequest (pageSize limit) key) := by
  have hkeyed : ¬ ((0 : UInt64) ≠ 0 ∨ false = true) := by simp
  unfold ensurePaginationParams pageSize pageRequest
  dsimp only
  rw [if_neg hkeyed]
  split_ifs <;> rfl

/-- The pages of the query are those of the store behind the prefix. -/
theorem historyPages_eq {paginate : Paginate ContractCodeHistoryEntry} {codec : AddressCodec}
    {s : WasmStore} {address : String} {a : AccAddress}
    (ha : codec.accAddressFromBech32 address = .ok a) (limit : UInt64) (fuel : ℕ) (key : Bytes) :
    historyPages paginate codec s address limit fuel key =
      (pagesFrom paginate (view s.history (contractCodeHistoryElementPrefix a))
        (pageSize limit) fuel key).map fun l => l.map Prod.snd := by
  induction fuel generalizing key with
  | zero => rfl
  | succ fuel ih =>
      have hpage : contractHistory paginate codec s (some ⟨address, some (pageRequest limit key)⟩) =
          .ok ((paginate (view s.history (contractCodeHistoryElementPrefix a))
            (pageRequest (pageSize limit) key)).1.map Prod.snd,
            (paginate (view s.history (contractCodeHistoryElementPrefix a))
              (pageRequest (pageSize limit) key)).2) := by
        unfold contractHistory
        dsimp only
        rw [ha, ensurePaginationParams_pageRequest]
        rfl
      rw [historyPages, hpage, pagesFrom]
      cases paginate (view s.history (contractCodeHistoryElementPrefix a))
          (pageRequest (pageSize limit) key) with
      | mk page next =>
          cases next with
          | none => rfl
          | some nextKey =>
              dsimp only
              rw [ih, Option.map_map, Option.map_map]
              congr 1
              funext l
              simp

/-- More fuel does not change what is collected. -/
theorem pagesFrom_mono {V : Type} {paginate : Paginate V} {store : KVStore V} {limit : UInt64}
    {fuel fuel' : ℕ} (hle : fuel ≤ fuel') {key : Bytes} {l : List (Bytes × V)}
    (h : pagesFrom paginate store limit fuel key = some l) :
    pagesFrom paginate store limit fuel' key = some l := by
  induction fuel generalizing fuel' key l with
  | zero => cases h
  | succ fuel ih =>
      obtain ⟨n, rfl⟩ : ∃ n, fuel' = n + 1 := ⟨fuel' - 1, by omega⟩
      rw [pagesFrom] at h ⊢
      cases hpage : paginate store (pageRequest limit key) with
      | mk page next =>
          rw [hpage] at h
          cases next with
          | none => exact h
          | some nextKey =>
              dsimp only at h ⊢
              obtain ⟨rest, hrest, rfl⟩ := Option.map_eq_some_iff.mp h
              rw [ih (by omega) hrest]
              rfl

/-- **What all pages show**: everything behind the prefix. -/
theorem historyPages_eq_some_iff {paginate : Paginate ContractCodeHistoryEntry}
    (hall : VisitsAll paginate) {codec : AddressCodec} {s : WasmStore} {address : String}
    {a : AccAddress} (ha : codec.accAddressFromBech32 address = .ok a) (limit : UInt64)
    {l : List ContractCodeHistoryEntry} :
    (∃ fuel, historyPages paginate codec s address limit fuel [] = some l) ↔
      l = (entries s.history (contractCodeHistoryElementPrefix a)).map Prod.snd := by
  obtain ⟨n, hn⟩ := hall (view s.history (contractCodeHistoryElementPrefix a)) (pageSize limit)
    (pageSize_ne_zero limit)
  rw [toList_view] at hn
  constructor
  · rintro ⟨fuel, h⟩
    rw [historyPages_eq ha] at h
    obtain ⟨l', hl', rfl⟩ := Option.map_eq_some_iff.mp h
    have hmax := pagesFrom_mono (Nat.le_max_left fuel n) hl'
    rw [pagesFrom_mono (Nat.le_max_right fuel n) hn] at hmax
    rw [Option.some.inj hmax]
  · rintro rfl
    exact ⟨n, by rw [historyPages_eq ha, hn]; rfl⟩

/-! ### When they are the history -/

/-- `types.ContractAddrLen` and `types.SDKAddrLen`, the lengths that `VerifyAddressLen` allows. -/
def verifyAddressLen (addr : Bytes) : Bool := addr.length = 32 ∨ addr.length = 20

/-- The keeper reads everything behind the prefix if and only if all keys there have eight more
bytes. -/
theorem getContractHistory_eq_entries_iff {s : WasmStore} {a : AccAddress} :
    s.getContractHistory a = (entries s.history (contractCodeHistoryElementPrefix a)).map Prod.snd ↔
      ∀ kv ∈ entries s.history (contractCodeHistoryElementPrefix a), kv.1.length = 8 := by
  have hfilter : s.getContractHistory a =
      ((entries s.history (contractCodeHistoryElementPrefix a)).filter
        fun kv => kv.1.length = 8).map Prod.snd := by
    rw [← List.filterMap_eq_map, List.filterMap_filter, WasmStore.getContractHistory,
      WasmStore.historyEntries, List.map_filterMap]
    refine List.filterMap_congr fun kv _ => ?_
    by_cases hlen : kv.1.length = 8 <;> simp [hlen]
  rw [hfilter]
  constructor
  · intro h kv hkv
    have hlength := congrArg List.length h
    rw [List.length_map, List.length_map, List.length_filter_eq_length_iff] at hlength
    exact of_decide_eq_true (hlength kv hkv)
  · intro h
    rw [List.filter_eq_self.mpr fun kv hkv => decide_eq_true (h kv hkv)]

/-- Behind the prefix of an address lie the histories of the addresses that start with it. -/
theorem exists_longer_key_iff {s : WasmStore} {H : AccAddress → List ContractCodeHistoryEntry}
    (hs : s.HoldsHistories H) (hlen : ∀ b, H b ≠ [] → verifyAddressLen b.bytes = true)
    {a : AccAddress} (halen : verifyAddressLen a.bytes = true) :
    (∀ kv ∈ entries s.history (contractCodeHistoryElementPrefix a), kv.1.length = 8) ↔
      ∀ b, H b ≠ [] → a.bytes <+: b.bytes → b = a := by
  have hlens : ∀ {b : AccAddress}, verifyAddressLen b.bytes = true →
      b.bytes.length = 32 ∨ b.bytes.length = 20 := fun h => of_decide_eq_true h
  constructor
  · rintro h b hb ⟨rest, hrest⟩
    obtain ⟨e, es, hH⟩ := List.exists_cons_of_ne_nil hb
    -- the first entry of `b` shows behind the prefix of `a`
    have hstored : s.history[contractCodeHistoryElementKey b (UInt64.ofNat (0 + 1))]? = some e :=
      (hs.mem_iff _ _).mpr ⟨b, 0, rfl, by rw [hH]; rfl⟩
    have hkey : contractCodeHistoryElementKey b (UInt64.ofNat (0 + 1)) =
        contractCodeHistoryElementPrefix a ++
            (rest ++ uint64ToBigEndian (UInt64.ofNat (0 + 1))) := by
      rw [contractCodeHistoryElementKey, contractCodeHistoryElementPrefix,
        contractCodeHistoryElementPrefix, ← hrest]
      simp
    rw [hkey] at hstored
    have hlength := h _ (mem_entries.mpr hstored)
    rw [List.length_append, length_uint64ToBigEndian] at hlength
    have hnil : rest = [] := List.length_eq_zero_iff.mp (by omega)
    rw [hnil, List.append_nil] at hrest
    exact AccAddress.bytes_injective hrest.symm
  · rintro h ⟨k, v⟩ hkv
    obtain ⟨b, i, hkey, hi⟩ := (hs.mem_iff _ _).mp (mem_entries.mp hkv)
    have hb : H b ≠ [] := by
      intro hnil
      rw [hnil] at hi
      cases hi
    have hlength := congrArg List.length hkey
    simp only [contractCodeHistoryElementKey, contractCodeHistoryElementPrefix, List.cons_append,
      List.length_cons, List.length_append, length_uint64ToBigEndian] at hlength
    have hprefix : a.bytes <+: b.bytes := by
      have hshort : a.bytes.length ≤ b.bytes.length := by
        rcases hlens halen with ha | ha <;> rcases hlens (hlen b hb) with hb' | hb' <;> omega
      have hcons : a.bytes ++ k = b.bytes ++ uint64ToBigEndian (UInt64.ofNat (i + 1)) :=
        (List.cons.inj hkey).2
      have hb : b.bytes <+: a.bytes ++ k := hcons ▸ List.prefix_append _ _
      exact List.prefix_of_prefix_length_le (List.prefix_append _ _) hb hshort
    obtain rfl := h b hb hprefix
    dsimp only
    omega

/-- **When the query agrees with the keeper.**  The pages of a query for an address are its history
if and only if no other address with a history starts with it. -/
theorem history_query_agrees_iff (paginate : Paginate ContractCodeHistoryEntry)
    (hall : VisitsAll paginate) (codec : AddressCodec) (s : WasmStore)
    (H : AccAddress → List ContractCodeHistoryEntry) (hs : s.HoldsHistories H)
    (hlen : ∀ b, H b ≠ [] → verifyAddressLen b.bytes = true) (a : AccAddress)
    (halen : verifyAddressLen a.bytes = true) (address : String)
    (haddress : codec.accAddressFromBech32 address = .ok a) (limit : UInt64) :
    (∃ fuel, historyPages paginate codec s address limit fuel [] = some (s.getContractHistory a)) ↔
      ∀ b, H b ≠ [] → a.bytes <+: b.bytes → b = a := by
  rw [historyPages_eq_some_iff hall haddress limit, getContractHistory_eq_entries_iff,
    exists_longer_key_iff hs hlen halen]

/-! ### A short address that starts a long one -/

/-- Pages by key: the entries from the key on, and the key of the first one that is left out. -/
def keyPaginate {V : Type} : Paginate V := fun store req =>
  ((range store req.key none).take req.limit.toNat,
    ((range store req.key none).drop req.limit.toNat).head?.map Prod.fst)

theorem visitsAll_keyPaginate {V : Type} : VisitsAll (keyPaginate : Paginate V) := by
  intro store limit hlimit
  have hpos : 0 < limit.toNat := Nat.pos_of_ne_zero fun h => hlimit (UInt64.toNat_inj.mp h)
  have hpages : ∀ fuel key, (range store key none).length < fuel →
      pagesFrom keyPaginate store limit fuel key = some (range store key none) := by
    intro fuel
    induction fuel with
    | zero => exact fun key h => absurd h (Nat.not_lt_zero _)
    | succ fuel ih =>
        intro key hfuel
        rw [pagesFrom, keyPaginate, pageRequest]
        cases hrest : (range store key none).drop limit.toNat with
        | nil => simp [List.take_of_length_le (List.drop_eq_nil_iff.mp hrest)]
        | cons kv rest =>
            -- a page that leaves something out holds at least one entry
            have hsplit : range store key none =
                (range store key none).take limit.toNat ++ kv :: rest := by
              rw [← hrest, List.take_append_drop]
            have hnext := range_from hsplit
            have hlength := congrArg List.length hrest
            rw [List.length_drop, List.length_cons] at hlength
            have hfuel' : (range store kv.1 none).length < fuel := by
              rw [hnext, List.length_cons]
              omega
            simp only [List.head?_cons, Option.map_some]
            rw [ih kv.1 hfuel', hnext, Option.map_some, ← hsplit]
  have hrange : range store [] none = store.toList := by
    refine List.filter_eq_self.mpr ?_
    rintro ⟨k, v⟩ -
    cases k <;> rfl
  exact ⟨_, hrange ▸ hpages _ [] (Nat.lt_succ_self _)⟩

/-- An account address. -/
def shortContract : AccAddress := .twenty 1

/-- A contract address that starts with it. -/
def longContract : AccAddress := .thirtyTwo 1

/-- A codec for any addresses. -/
def historyCodec : AddressCodec := AddressTable.empty.codec

/-- A store with one entry for each of them. -/
def mixedStore : WasmStore :=
  (WasmStore.empty.appendToContractHistory shortContract [historyEntry 1]).appendToContractHistory
    longContract [historyEntry 2]

/-- Their histories. -/
def mixedHistories : AccAddress → List ContractCodeHistoryEntry :=
  Function.update (Function.update (fun _ => []) shortContract [historyEntry 1]) longContract
    [historyEntry 2]

theorem mixedStore_holds : mixedStore.HoldsHistories mixedHistories := by
  have hempty : WasmStore.empty.HoldsHistories fun _ => [] := by
    have hlogs : HoldsLogs contractCodeHistoryElementPrefix
        (∅ : KVStore ContractCodeHistoryEntry) fun _ => [] := HoldsLogs.empty
    exact ⟨hlogs.length_lt, hlogs.mem_iff⟩
  have hshort := hempty.append shortContract [historyEntry 1] (by decide)
  exact hshort.append longContract [historyEntry 2] (by decide)

theorem of_mixedHistories {b : AccAddress} (h : mixedHistories b ≠ []) :
    b = longContract ∨ b = shortContract := by
  by_contra hno
  rw [not_or] at hno
  refine h ?_
  rw [mixedHistories, Function.update_of_ne hno.1, Function.update_of_ne hno.2]

/-- The query for the long address agrees with the keeper. -/
theorem history_query_agrees_long :
    ∃ fuel, historyPages keyPaginate historyCodec mixedStore
      (historyCodec.string longContract) 10 fuel []
      = some (mixedStore.getContractHistory longContract) := by
  refine (history_query_agrees_iff keyPaginate visitsAll_keyPaginate historyCodec mixedStore
    mixedHistories mixedStore_holds (fun b hb => ?_) longContract (by decide)
    (historyCodec.string longContract) (historyCodec.decode_string longContract) 10).mpr ?_
  · rcases of_mixedHistories hb with rfl | rfl <;> decide
  · intro b hb hprefix
    rcases of_mixedHistories hb with rfl | rfl
    · rfl
    · exact absurd hprefix.length_le (by decide)

/-- **The query shows entries of another contract.**  Both contracts have one entry; the keeper
reads the one of the short address, the query shows both. -/
theorem history_query_mixes :
    mixedStore.getContractHistory shortContract = [historyEntry 1] ∧
      historyPages keyPaginate historyCodec mixedStore (historyCodec.string shortContract) 10 1 [] =
        some [historyEntry 1, historyEntry 2] := by
  constructor <;> decide +kernel

end Wasmd
