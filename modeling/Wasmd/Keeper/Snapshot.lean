import Wasmd.Keeper.Genesis
import Wasmd.Keeper.Pins

/-!
# Snapshots of the codes

`x/wasm/keeper/snapshotter.go`: a state snapshot holds the store of the module, but not the files of
the VM, which are added to it as payloads.

* `snapshotExtension` — one packed code for every checksum that was not seen before.
* `restoreExtension` — the payloads are given to the VM one by one until the reader is at its end,
  then the pinned codes are loaded.
* `snapshotLoop_ok` — **what the loop writes**: the codes of the checksums not seen before, each
  once.
* `snapshot_restored` — a node restored from the payloads has the codes of the source.
-/

namespace Wasmd

open ByteStore Effects Gas

variable {ε C : Type}

namespace Keeper

variable (k : Keeper ε C)

/-! ## The snapshot -/

/-- The call of `payloadWriter`, which may fail.  The state is the list of the payloads written. -/
def writePayload (payloadWriter : List Bytes → Bytes → Except GoError Unit) (payload : Bytes) :
    GoM (List Bytes) GoError Unit := do
  let written ← GoM.get
  GoM.ofExcept ((payloadWriter written payload).mapError .error)
  GoM.modify (· ++ [payload])

/-- The loop over the codes, with the checksums seen before in hexadecimal. -/
def snapshotLoop (gzipIt : Bytes → Except String Bytes)
    (payloadWriter : List Bytes → Bytes → Except GoError Unit) (s : WasmStore) (vm : VMState) :
    List (UInt64 × CodeInfo) → List String → GoM (List Bytes) GoError Unit
  | [], _ => pure ()
  | (id, info) :: rest, seenBefore =>
    if hexEncode info.codeHash ∈ seenBefore then
      snapshotLoop gzipIt payloadWriter s vm rest seenBefore
    else do
      let wasmBytes ← GoM.ofExcept ((getByteCode s vm id).mapError fun err => .error (.foreign err))
      let compressedWasm ← GoM.ofExcept ((gzipIt wasmBytes).mapError fun err =>
        .error (.foreign err))
      writePayload payloadWriter compressedWasm
      snapshotLoop gzipIt payloadWriter s vm rest (hexEncode info.codeHash :: seenBefore)

/-- `SnapshotExtension`.  The store at a height is read with `CacheMultiStoreWithVersion`. -/
def snapshotExtension (gzipIt : Bytes → Except String Bytes)
    (storeAt : UInt64 → Except GoError WasmStore) (vm : VMState) (height : UInt64)
    (payloadWriter : List Bytes → Bytes → Except GoError Unit) : GoM (List Bytes) GoError Unit := do
  let s ← GoM.ofExcept ((storeAt height).mapError .error)
  snapshotLoop gzipIt payloadWriter s vm s.codeInfos []

/-! ## The restoration -/

/-- `SnapshotFormat`. -/
def snapshotFormat : UInt32 := 1

/-- `restoreV1`. -/
def restoreV1 (compressedCode : Bytes) : KeeperM ε Unit := do
  GoM.ensure (isGzip compressedCode = true) (errInvalid.wrap "not a gzip")
  let wasmCode ← orError ((k.uncompress compressedCode (2 ^ 63 - 1)).mapError errCreateFailed.wrap)
  let _ ← k.storeCodeUnchecked wasmCode

/-- `finalizeV1`. -/
def finalizeV1 : KeeperM ε Unit := k.initializePinnedCodes

/-- `processAllItems`.  The reader hands out the payloads and then ends with `io.EOF`, or with
another error. -/
def processAllItems (readerError : Option GoError) (cb : Bytes → KeeperM ε Unit)
    (finalize : KeeperM ε Unit) : List Bytes → KeeperM ε Unit
  | [] =>
    match readerError with
    | some err => GoM.failWith err
    | none => finalize
  | payload :: rest => do
    GoM.mapError (.wrapped "processing snapshot item") (cb payload)
    processAllItems readerError cb finalize rest

/-- `RestoreExtension`. -/
def restoreExtension (format : UInt32) (payloads : List Bytes) (readerError : Option GoError) :
    KeeperM ε Unit :=
  if format = snapshotFormat then processAllItems readerError k.restoreV1 k.finalizeV1 payloads
  else GoM.failWith (.foreign "unknown snapshot format")

end Keeper

/-! ## Checksums in hexadecimal -/

theorem digitChar_inj {m n : Nat} (hm : m < 16) (hn : n < 16)
    (h : Nat.digitChar m = Nat.digitChar n) : m = n := by
  have hall : ∀ i j : Fin 16, Nat.digitChar i = Nat.digitChar j → i = j := by decide
  exact congrArg Fin.val (hall ⟨m, hm⟩ ⟨n, hn⟩ h)

theorem hexEncode_injective : Function.Injective hexEncode := by
  intro a b h
  have hchars := String.ofList_injective h
  induction a generalizing b with
  | nil =>
      cases b with
      | nil => rfl
      | cons y b => cases hchars
  | cons x a ih =>
      cases b with
      | nil => cases hchars
      | cons y b =>
          simp only [List.flatMap_cons, List.cons_append, List.nil_append,
            List.cons.injEq] at hchars
          obtain ⟨hhigh, hlow, hrest⟩ := hchars
          have hx := x.toNat_lt
          have hy := y.toNat_lt
          have hdiv := digitChar_inj (by omega) (by omega) hhigh
          have hmod := digitChar_inj (by omega) (by omega) hlow
          rw [ih (congrArg String.ofList hrest) hrest,
            UInt8.toNat_inj.mp (by omega : x.toNat = y.toNat)]

/-! ## What is written -/

section Snapshot

variable {k : Keeper ε C} {gzipIt : Bytes → Except String Bytes}
  {payloadWriter : List Bytes → Bytes → Except GoError Unit} {s : WasmStore} {vm : VMState}
  {w : World (Multistore ε) Shared}

/-- The keys of the codes are made of their ids. -/
def WasmStore.CodeKeys (s : WasmStore) : Prop :=
  ∀ (key : Bytes) (info : CodeInfo), s.codes[key]? = some info → ∃ id, key = codeKey id

theorem WasmStore.CodeKeys.mem_codeInfos (h : s.CodeKeys) {id : UInt64} {info : CodeInfo} :
    (id, info) ∈ s.codeInfos ↔ s.getCodeInfo id = some info := by
  rw [WasmStore.codeInfos, List.mem_map]
  constructor
  · rintro ⟨⟨key, info'⟩, hmem, heq⟩
    obtain ⟨rfl, rfl⟩ := Prod.mk.inj heq
    have hkey := KVStore.mem_entries.mp hmem
    obtain ⟨id, hid⟩ := h _ _ hkey
    obtain rfl : key = uint64ToBigEndian id := (List.cons.inj hid).2
    rw [bigEndianToUint64_uint64ToBigEndian]
    exact hkey
  · intro hinfo
    exact ⟨(uint64ToBigEndian id, info), KVStore.mem_entries.mpr hinfo,
      by rw [bigEndianToUint64_uint64ToBigEndian]⟩

/-- The checksum of a code in the store. -/
def WasmStore.StoredChecksum (s : WasmStore) (checksum : Bytes) : Prop :=
  ∃ id info, s.getCodeInfo id = some info ∧ info.codeHash = checksum

/-- The payload is the packed code with the checksum. -/
def Packed (gzipIt : Bytes → Except String Bytes) (vm : VMState) (checksum payload : Bytes) :
    Prop :=
  ∃ code, vm.codes[checksum]? = some code ∧ gzipIt code = .ok payload

theorem getByteCode_ok {id : UInt64} {info : CodeInfo} {code : Bytes}
    (hinfo : s.getCodeInfo id = some info) (h : Keeper.getByteCode s vm id = .ok code) :
    vm.codes[info.codeHash]? = some code := by
  unfold Keeper.getByteCode at h
  rw [hinfo] at h
  dsimp only at h
  split at h
  · cases h
    assumption
  · cases h

theorem writePayload_ok {payload : Bytes} {ps ps' : List Bytes} {u : Unit}
    (h : Keeper.writePayload payloadWriter payload ps = (.ok u, ps')) : ps' = ps ++ [payload] := by
  obtain ⟨written, ps₁, hget, h₁⟩ := GoM.bind_ok_iff.mp h
  obtain ⟨_, ps₂, hwrite, h₂⟩ := GoM.bind_ok_iff.mp h₁
  obtain ⟨-, rfl⟩ := GoM.ofExcept_ok_iff.mp hwrite
  cases hget
  exact GoM.modify_ok_iff.mp h₂

/-- **What the loop writes**: the codes of the checksums not seen before, each once. -/
theorem snapshotLoop_ok {infos : List (UInt64 × CodeInfo)} {seenBefore : List String}
    {ps ps' : List Bytes} {u : Unit} (hinfos : ∀ p ∈ infos, s.getCodeInfo p.1 = some p.2)
    (h : Keeper.snapshotLoop gzipIt payloadWriter s vm infos seenBefore ps = (.ok u, ps')) :
    ∃ checksums payloads, ps' = ps ++ payloads ∧ checksums.Nodup ∧
      (∀ c, c ∈ checksums ↔ hexEncode c ∉ seenBefore ∧ ∃ p ∈ infos, p.2.codeHash = c) ∧
      List.Forall₂ (Packed gzipIt vm) checksums payloads := by
  induction infos generalizing seenBefore ps with
  | nil =>
      obtain ⟨-, rfl⟩ := GoM.pure_ok_iff.mp h
      exact ⟨[], [], (List.append_nil _).symm, List.nodup_nil, by simp, .nil⟩
  | cons p infos ih =>
      obtain ⟨id, info⟩ := p
      obtain ⟨hinfo, hrest⟩ := List.forall_mem_cons.mp hinfos
      rw [Keeper.snapshotLoop] at h
      by_cases hseen : hexEncode info.codeHash ∈ seenBefore
      · rw [if_pos hseen] at h
        obtain ⟨checksums, payloads, hps, hnodup, hmem, hpacked⟩ := ih hrest h
        refine ⟨checksums, payloads, hps, hnodup, fun c => ?_, hpacked⟩
        rw [hmem, List.exists_mem_cons_iff]
        refine and_congr_right fun hnew => (or_iff_right ?_).symm
        rintro rfl
        exact hnew hseen
      · rw [if_neg hseen] at h
        obtain ⟨code, ps₁, hload, h₁⟩ := GoM.bind_ok_iff.mp h
        obtain ⟨hcode, rfl⟩ := GoM.ofExcept_ok_iff.mp hload
        have hfile := getByteCode_ok hinfo (except_mapError_ok_iff.mp hcode)
        obtain ⟨payload, ps₂, hpack, h₂⟩ := GoM.bind_ok_iff.mp h₁
        obtain ⟨hgzip, rfl⟩ := GoM.ofExcept_ok_iff.mp hpack
        obtain ⟨_, ps₃, hwrite, h₃⟩ := GoM.bind_ok_iff.mp h₂
        obtain ⟨checksums, payloads, hps, hnodup, hmem, hpacked⟩ := ih hrest h₃
        rw [writePayload_ok hwrite, List.append_assoc] at hps
        refine ⟨info.codeHash :: checksums, payload :: payloads, hps, ?_, fun c => ?_, ?_⟩
        · refine List.nodup_cons.mpr ⟨fun h => ?_, hnodup⟩
          exact ((hmem _).mp h).1 List.mem_cons_self
        · rw [List.mem_cons, hmem, List.exists_mem_cons_iff, List.mem_cons, not_or, and_or_left]
          constructor
          · rintro (rfl | ⟨⟨-, hnew⟩, hrest⟩)
            · exact .inl ⟨hseen, rfl⟩
            · exact .inr ⟨hnew, hrest⟩
          · rintro (⟨-, rfl⟩ | ⟨hnew, hrest⟩)
            · exact .inl rfl
            · by_cases heq : c = info.codeHash
              · exact .inl heq
              · exact .inr ⟨⟨fun h => heq (hexEncode_injective h), hnew⟩, hrest⟩
        · exact .cons ⟨code, hfile, except_mapError_ok_iff.mp hgzip⟩ hpacked

/-! ## What is restored -/

/-- Of the codes of the source, the VM has those with a checksum in the list, and no others. -/
def Restored (source : VMState) (checksums : List Bytes) (vm : VMState) : Prop :=
  ∀ c : Bytes, vm.codes[c]? = if c ∈ checksums then source.codes[c]? else none

variable (k gzipIt) in
/-- What is assumed of the VM and of the archives: the files of the source lie under their
checksums, the VM takes them again, it pins what it has, and packed code is unpacked to itself. -/
structure RestorableVM (source : VMState) : Prop where
  checksum : ∀ (c code : Bytes), source.codes[c]? = some code → k.wasmVM.checksum code = c
  compileUnchecked : ∀ (c code : Bytes), source.codes[c]? = some code →
    k.wasmVM.compileUnchecked code = .ok ()
  pin : ∀ (vm : VMState) (checksums : List Bytes), (∀ c ∈ checksums, (vm.codes[c]?).isSome) →
    k.wasmVM.pin vm checksums = .ok ()
  gzip : ∀ code packed, gzipIt code = .ok packed →
    isGzip packed = true ∧ k.uncompress packed (2 ^ 63 - 1) = .ok code

/-- A payload gives the VM one more code of the source. -/
theorem restoreV1_run (hvm : RestorableVM k gzipIt vm) {checksum payload : Bytes}
    (hpacked : Packed gzipIt vm checksum payload) {done : List Bytes}
    (hdone : Restored vm done w.shared.vm) :
    ∃ w', k.restoreV1 payload w = (.ok (), w') ∧ w'.ms = w.ms ∧
      w'.shared.vm.pinned = w.shared.vm.pinned ∧ Restored vm (checksum :: done) w'.shared.vm := by
  obtain ⟨code, hcode, hgzip⟩ := hpacked
  obtain ⟨hisGzip, hunpack⟩ := hvm.gzip code payload hgzip
  have hstore : k.storeCodeUnchecked code w =
      (.ok (k.wasmVM.checksum code), (k.writeCodeFile code w).2) := by
    unfold Keeper.storeCodeUnchecked
    rw [hvm.compileUnchecked _ _ hcode]
    rfl
  refine ⟨(k.writeCodeFile code w).2, ?_, rfl, rfl, fun c => ?_⟩
  · unfold Keeper.restoreV1
    rw [GoM.bind_run_ok (GoM.ensure_run_true hisGzip _ _),
      GoM.bind_run_ok (orError_ok_iff.mpr ⟨except_mapError_ok_iff.mpr hunpack, rfl⟩),
      GoM.bind_run_ok hstore]
    rfl
  · show (w.shared.vm.codes.insert (k.wasmVM.checksum code) code)[c]? = _
    rw [hvm.checksum _ _ hcode]
    by_cases hc : c = checksum
    · rw [hc, KVStore.getElem?_insert_self, if_pos List.mem_cons_self, hcode]
    · rw [KVStore.getElem?_insert_of_ne _ _ hc, hdone c]
      simp only [List.mem_cons, hc, false_or]

/-- The loop over the payloads comes to the end with all their codes in the VM. -/
theorem processAllItems_run (hvm : RestorableVM k gzipIt vm) (finalize : KeeperM ε Unit)
    {checksums payloads : List Bytes} (hpacked : List.Forall₂ (Packed gzipIt vm) checksums payloads)
    {done : List Bytes} (hdone : Restored vm done w.shared.vm) :
    ∃ w', Keeper.processAllItems none k.restoreV1 finalize payloads w = finalize w' ∧
      w'.ms = w.ms ∧ w'.shared.vm.pinned = w.shared.vm.pinned ∧
      Restored vm (checksums.reverse ++ done) w'.shared.vm := by
  induction hpacked generalizing w done with
  | nil => exact ⟨w, rfl, rfl, rfl, hdone⟩
  | cons hfirst _ ih =>
      obtain ⟨w₁, hrun, hms, hpinned, hw₁⟩ := restoreV1_run hvm hfirst hdone
      obtain ⟨w₂, hrest, hms₂, hpinned₂, hw₂⟩ := ih hw₁
      refine ⟨w₂, ?_, hms₂.trans hms, hpinned₂.trans hpinned, ?_⟩
      · rw [Keeper.processAllItems, GoM.bind_run_ok (GoM.mapError_ok_iff.mpr hrun)]
        exact hrest
      · rw [List.reverse_cons, List.append_assoc]
        exact hw₂

/-- **A snapshot holds every code once, and a node is restored from it.**  The codes in the store
have their files in the VM of the source, and every mark of a pinned code is that of a code in the
store. -/
theorem snapshot_restored (k : Keeper ε C) (gzipIt : Bytes → Except String Bytes)
    (storeAt : UInt64 → Except GoError WasmStore) (height : UInt64) (s : WasmStore)
    (source : VMState) (payloadWriter : List Bytes → Bytes → Except GoError Unit)
    (payloads : List Bytes) (hvm : RestorableVM k gzipIt source) (hstore : storeAt height = .ok s)
    (hkeys : s.CodeKeys) (hfiles : ∀ c, s.StoredChecksum c → (source.codes[c]?).isSome)
    (hpins : s.PinsStored)
    (h : Keeper.snapshotExtension gzipIt storeAt source height payloadWriter [] =
      (.ok (), payloads)) :
    (∃ checksums, checksums.Nodup ∧ (∀ c, c ∈ checksums ↔ s.StoredChecksum c) ∧
      List.Forall₂ (Packed gzipIt source) checksums payloads) ∧
    ∀ w : World (Multistore ε) Shared, w.ms.wasm = s → w.shared.vm = ⟨∅, []⟩ →
      ∃ w', k.restoreExtension Keeper.snapshotFormat payloads none w = (.ok (), w') ∧
        w'.ms.wasm = s ∧
        (∀ id, Keeper.getByteCode s w'.shared.vm id = Keeper.getByteCode s source id) ∧
        (∀ c, (w'.shared.vm.codes[c]?).isSome ↔ s.StoredChecksum c) ∧
        ∀ c, c ∈ w'.shared.vm.pinned ↔ s.PinnedChecksum c := by
  obtain ⟨s', ps, hread, hloop⟩ := GoM.bind_ok_iff.mp h
  obtain ⟨hs', rfl⟩ := GoM.ofExcept_ok_iff.mp hread
  obtain rfl : s = s' := Except.ok.inj (hstore.symm.trans (except_mapError_ok_iff.mp hs'))
  obtain ⟨checksums, payloads', hps, hnodup, hmem, hpacked⟩ :=
    snapshotLoop_ok (fun p hp => hkeys.mem_codeInfos.mp hp) hloop
  obtain rfl : payloads = payloads' := hps
  have hstored : ∀ c, c ∈ checksums ↔ s.StoredChecksum c := by
    intro c
    rw [hmem, and_iff_right List.not_mem_nil, WasmStore.StoredChecksum]
    simp only [Prod.exists, hkeys.mem_codeInfos]
  refine ⟨⟨checksums, hnodup, hstored, hpacked⟩, fun w hw hempty => ?_⟩
  have hnone : Restored source [] w.shared.vm := by
    intro c
    rw [hempty]
    simp
  obtain ⟨w₁, hrun, hms, hpinned, hw₁⟩ := processAllItems_run hvm k.finalizeV1 hpacked hnone
  have hs : w₁.ms.wasm = s := by rw [hms, hw]
  have hcodes : ∀ c : Bytes, s.StoredChecksum c → w₁.shared.vm.codes[c]? = source.codes[c]? := by
    intro c hc
    rw [hw₁ c, if_pos (by simpa using (hstored c).mpr hc)]
  have hfiles₁ : ∀ c : Bytes, (w₁.shared.vm.codes[c]?).isSome ↔ s.StoredChecksum c := by
    intro c
    by_cases hc : s.StoredChecksum c
    · rw [hcodes c hc]
      exact iff_of_true (hfiles c hc) hc
    · rw [hw₁ c, if_neg (by simpa using fun h => hc ((hstored c).mp h))]
      exact iff_of_false Bool.false_ne_true hc
  unfold Keeper.restoreExtension
  rw [if_pos rfl, hrun, Keeper.finalizeV1]
  rcases initializePinnedCodes_cases (k := k) (hs ▸ hpins) (hpinned.trans (by rw [hempty])) with
    ⟨w₂, hinit, hms₂, hcodes₂, hpinned₂⟩ | ⟨list, err, hlist, hrefused, -⟩
  · refine ⟨w₂, hinit, by rw [hms₂, hs], fun id => ?_, fun c => by rw [hcodes₂, hfiles₁],
      fun c => ?_⟩
    · unfold Keeper.getByteCode
      cases hinfo : s.getCodeInfo id with
      | none => rfl
      | some info =>
          dsimp only
          rw [hcodes₂, hcodes _ ⟨id, info, hinfo, rfl⟩]
    · rw [hpinned₂, hs]
  · -- the VM pins what it has
    have hpin := hvm.pin w₁.shared.vm list fun c hc => ?_
    · rw [hpin] at hrefused
      cases hrefused
    · rw [hlist, hs] at hc
      obtain ⟨id, info, -, hinfo, hsum⟩ := hc
      exact (hfiles₁ c).mpr ⟨id, info, hinfo, hsum⟩

end Snapshot

/-! ### Two codes in one file -/

/-- Archives that are the code behind the three bytes of a gzip header. -/
def packIt (code : Bytes) : Except String Bytes := .ok ([0x1f, 0x8b, 0x08] ++ code)

/-- The keeper on a plain chain, with these archives. -/
def packKeeper : Keeper Unit Unit :=
  { plainKeeper Unit with uncompress := fun bz _ => .ok (bz.drop 3) }

/-- The code of `twinStore`. -/
def sevenVM : VMState := ⟨(∅ : KVStore Bytes).insert [7] [7], []⟩

theorem sevenVM_codes {c code : Bytes} (h : sevenVM.codes[c]? = some code) :
    c = [7] ∧ code = [7] := by
  by_cases hc : c = [7]
  · rw [hc] at h
    exact ⟨hc, (Option.some.inj ((KVStore.getElem?_insert_self _ _ _).symm.trans h)).symm⟩
  · rw [show sevenVM.codes[c]? = none from (KVStore.getElem?_insert_of_ne _ _ hc).trans
      (by simp)] at h
    cases h

theorem sevenVM_restorable : RestorableVM packKeeper packIt sevenVM where
  checksum c code h := by
    obtain ⟨rfl, rfl⟩ := sevenVM_codes h
    rfl
  compileUnchecked _ _ _ := rfl
  pin _ _ _ := rfl
  gzip code packed h := by
    cases h
    exact ⟨rfl, rfl⟩

theorem twinStore_codes {key : Bytes} {info : CodeInfo} (h : twinStore.codes[key]? = some info) :
    (∃ id, key = codeKey id) ∧ info = sevenInfo := by
  by_cases htwo : key = codeKey 2
  · rw [htwo] at h
    exact ⟨⟨2, htwo⟩, (Option.some.inj ((KVStore.getElem?_insert_self _ _ _).symm.trans h)).symm⟩
  · have h₁ := (KVStore.getElem?_insert_of_ne _ _ htwo).symm.trans h
    by_cases hone : key = codeKey 1
    · rw [hone] at h₁
      exact ⟨⟨1, hone⟩, (Option.some.inj ((KVStore.getElem?_insert_self _ _ _).symm.trans h₁)).symm⟩
    · have h₂ := (KVStore.getElem?_insert_of_ne _ _ hone).symm.trans h₁
      exact absurd h₂ (by simp [WasmStore.empty])

/-- The codes of `twinStore` have their file, whatever is marked. -/
theorem twinStore_files (marks : KVStore Unit) :
    WasmStore.CodeKeys { twinStore with pinned := marks } ∧
      ∀ c, WasmStore.StoredChecksum { twinStore with pinned := marks } c →
        (sevenVM.codes[c]?).isSome := by
  refine ⟨fun key info h => (twinStore_codes h).1, ?_⟩
  rintro c ⟨id, info, hinfo, rfl⟩
  rw [(twinStore_codes hinfo).2]
  exact Option.isSome_of_eq_some (KVStore.getElem?_insert_self _ _ _)

/-- The one payload of `twinStore`. -/
def sevenPayloads : List Bytes := [[0x1f, 0x8b, 0x08, 7]]

/-- The node to be restored. -/
def restoredNode (s : WasmStore) : World (Multistore Unit) Shared :=
  ⟨⟨s, [], ()⟩, .infinite 0, [], ⟨none, ⟨∅, []⟩⟩⟩

theorem snapshot_restored_twins :
    Keeper.snapshotExtension packIt (fun _ => .ok twinStore) sevenVM 5 (fun _ _ => .ok ()) [] =
        (.ok (), sevenPayloads) ∧
      ∃ w', packKeeper.restoreExtension Keeper.snapshotFormat sevenPayloads none
          (restoredNode twinStore) = (.ok (), w') ∧
        ∀ c, c ∈ w'.shared.vm.pinned ↔ twinStore.PinnedChecksum c := by
  have hrun : Keeper.snapshotExtension packIt (fun _ => .ok twinStore) sevenVM 5 (fun _ _ => .ok ())
      [] = (.ok (), sevenPayloads) := by decide +kernel
  obtain ⟨hkeys, hfiles⟩ := twinStore_files twinStore.pinned
  obtain ⟨w', hrestored, -, -, -,
    hpinned⟩ := (snapshot_restored packKeeper packIt _ 5 twinStore sevenVM _ sevenPayloads
    sevenVM_restorable rfl hkeys hfiles twinStore_pinsStored hrun).2
    (restoredNode twinStore) rfl rfl
  exact ⟨hrun, w', hrestored, hpinned⟩

/-- The codes 1 and 2 of `twinStore`, and a mark for a code 3 that does not exist. -/
def strayStore : WasmStore := twinStore.mark 3

/-- The snapshot is written, but a node is not restored from it. -/
theorem snapshot_stray_mark :
    RestorableVM packKeeper packIt sevenVM ∧ strayStore.CodeKeys ∧
      (∀ c, strayStore.StoredChecksum c → (sevenVM.codes[c]?).isSome) ∧
      Keeper.snapshotExtension packIt (fun _ => .ok strayStore) sevenVM 5 (fun _ _ => .ok ()) [] =
        (.ok (), sevenPayloads) ∧
      (packKeeper.restoreExtension Keeper.snapshotFormat sevenPayloads none
        (restoredNode strayStore)).1 =
        .error (.error (errNoSuchCodeFn 3)) :=
  ⟨sevenVM_restorable, (twinStore_files strayStore.pinned).1, (twinStore_files strayStore.pinned).2,
    by decide +kernel, by decide +kernel⟩

end Wasmd
