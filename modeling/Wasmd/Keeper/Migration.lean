import Wasmd.Types.Contract
import Wasmd.Types.Keys

/-!
# The migration of the store from version 3 to version 4

`x/wasm/migrations/v3`: version 3 had a kind of permission for a single address, with a field of its
own for it.  The migration rewrites the parameters and all codes.  The store is not split by the
records it holds here, since those of both versions lie under the same keys.

* `V3.AccessConfig`, `V3.Params`, `V3.CodeInfo` — the old types, and whom the old permissions allow.
* `updateAccessConfig_allows` — **a permission allows the same accounts as before.**
* `migrate3to4` — the migration.
* `migration_keeps_permissions` — it succeeds, keeps who may do what, and touches nothing else.
-/

namespace Wasmd

open ByteStore Effects

/-! ## Version 3 -/

namespace V3

/-- `v3.AccessType`. -/
inductive AccessType where
  | unspecified
  | nobody
  | onlyAddress
  | everybody
  | anyOfAddresses
  /-- A number the enumeration does not name. -/
  | unknown (n : Nat)
  deriving DecidableEq, Repr

/-- The number of the enumeration. -/
def AccessType.number : AccessType → Nat
  | unspecified => 0
  | nobody => 1
  | onlyAddress => 2
  | everybody => 3
  | anyOfAddresses => 4
  | unknown n => n

/-- `v3.AccessConfig`. -/
structure AccessConfig where
  permission : AccessType
  address : String
  addresses : List String
  deriving DecidableEq, Repr

/-- `v3.Params`. -/
structure Params where
  codeUploadAccess : AccessConfig
  instantiateDefaultPermission : AccessType
  deriving DecidableEq, Repr

/-- `v3.CodeInfo`. -/
structure CodeInfo where
  codeHash : Bytes
  creator : String
  instantiateConfig : AccessConfig
  deriving DecidableEq, Repr

/-- One of the four kinds that a valid permission has. -/
def AccessType.Valid : AccessType → Prop
  | nobody | onlyAddress | everybody | anyOfAddresses => True
  | _ => False

/-- Whom a permission allowed. -/
def AccessConfig.Allows (codec : AddressCodec) (c : AccessConfig) (actor : Option AccAddress) :
    Prop :=
  match c.permission with
  | .everybody => True
  | .onlyAddress => codec.stringOf actor = c.address
  | .anyOfAddresses => codec.stringOf actor ∈ c.addresses
  | _ => False

/-- Whom the default permission allowed for the codes of a creator. -/
def AccessType.AllowsFor (codec : AddressCodec) (p : AccessType) (creator : AccAddress)
    (actor : Option AccAddress) : Prop :=
  match p with
  | everybody => True
  | onlyAddress | anyOfAddresses => codec.stringOf actor = codec.string creator
  | _ => False

end V3

/-! ## The new values -/

/-- The conversion of a number to `types.AccessType`. -/
def AccessType.ofNumber : Nat → AccessType
  | 0 => .unspecified
  | 1 => .nobody
  | 3 => .everybody
  | 4 => .anyOfAddresses
  | n => .unknown n

/-- `updateAccessConfig`. -/
def updateAccessConfig (legacy : V3.AccessConfig) : AccessConfig :=
  match legacy.permission with
  | .onlyAddress => ⟨.anyOfAddresses, [legacy.address]⟩
  | permission => ⟨.ofNumber permission.number, legacy.addresses⟩

/-- The new parameters. -/
def updateParams (legacy : V3.Params) : Params where
  codeUploadAccess := updateAccessConfig legacy.codeUploadAccess
  instantiateDefaultPermission :=
    if legacy.instantiateDefaultPermission = .onlyAddress then .anyOfAddresses
    else .ofNumber legacy.instantiateDefaultPermission.number

/-- The new code. -/
def updateCodeInfo (legacy : V3.CodeInfo) : CodeInfo where
  codeHash := legacy.codeHash
  creator := legacy.creator
  instantiateConfig := updateAccessConfig legacy.instantiateConfig

/-! ## The migration -/

/-- `codec.BinaryCodec` on the messages that the migration reads and writes.  The values `V` of the
store are bytes; only the codec looks into them. -/
structure BinaryCodec (V : Type) where
  unmarshalLegacyParams : V → Except String V3.Params
  unmarshalLegacyCodeInfo : V → Except String V3.CodeInfo
  marshalParams : Params → V
  unmarshalParams : V → Except String Params
  marshalCodeInfo : CodeInfo → V
  unmarshalCodeInfo : V → Except String CodeInfo
  unmarshal_marshalParams : ∀ p, unmarshalParams (marshalParams p) = .ok p
  unmarshal_marshalCodeInfo : ∀ c, unmarshalCodeInfo (marshalCodeInfo c) = .ok c

/-- `MustUnmarshal`. -/
def mustUnmarshal {σ ε α : Type} (r : Except String α) : GoM σ ε α :=
  GoM.ofExcept (r.mapError fun e => .panic (.message e))

/-- `binary.BigEndian.Uint64`. -/
def readUint64 {σ ε : Type} (bz : Bytes) : GoM σ ε UInt64 :=
  if bz.length < 8 then GoM.raise (.message "index out of range") else pure (bigEndianToUint64 bz)

namespace Migrator

variable {V : Type} (cdc : BinaryCodec V)

/-- The part of `Migrate3to4` on the parameters. -/
def migrateParams : GoM (KVStore V) GoError Unit := do
  let bz ← GoM.gets fun store : KVStore V => store[paramsKey]?
  match bz with
  | none => pure ()
  | some bz => do
    let legacyParams ← mustUnmarshal (cdc.unmarshalLegacyParams bz)
    GoM.modify (·.insert paramsKey (cdc.marshalParams (updateParams legacyParams)))

/-- The body of the loop of `Migrate3to4`. -/
def migrateCode (kv : Bytes × V) : GoM (KVStore V) GoError Unit := do
  let legacyCodeInfo ← mustUnmarshal (cdc.unmarshalLegacyCodeInfo kv.2)
  let codeID ← readUint64 kv.1
  GoM.modify (·.insert (codeKey codeID) (cdc.marshalCodeInfo (updateCodeInfo legacyCodeInfo)))

/-- `Migrate3to4`.  The iterator shows the store as it is before the loop. -/
def migrate3to4 : GoM (KVStore V) GoError Unit := do
  migrateParams cdc
  let codes ← GoM.gets fun store => KVStore.entries store [0x01]
  GoM.forEach codes (migrateCode cdc)

end Migrator

/-! ## Whom the permissions allow -/

/-- The configuration decides for every account, as the predicate says. -/
def AccessConfig.Decides (codec : AddressCodec) (c : AccessConfig)
    (allows : Option AccAddress → Prop) : Prop :=
  ∀ actor, ∃ ok, c.allowed codec actor = .ok ok ∧ (ok = true ↔ allows actor)

/-- **A permission allows the same accounts as before.** -/
theorem updateAccessConfig_allows {codec : AddressCodec} {legacy : V3.AccessConfig}
    (hvalid : legacy.permission.Valid) :
    (updateAccessConfig legacy).Decides codec (legacy.Allows codec) := by
  intro actor
  unfold updateAccessConfig V3.AccessConfig.Allows AccessConfig.allowed
  cases hp : legacy.permission with
  | nobody => exact ⟨false, rfl, by simp⟩
  | onlyAddress => exact ⟨_, rfl, by simp⟩
  | everybody => exact ⟨true, rfl, by simp⟩
  | anyOfAddresses => exact ⟨_, rfl, by simp⟩
  | unspecified => rw [hp] at hvalid; exact hvalid.elim
  | unknown n => rw [hp] at hvalid; exact hvalid.elim

/-- The same for the default permission, applied to the creator of a code. -/
theorem updateParams_default {codec : AddressCodec} {legacy : V3.Params}
    (hvalid : legacy.instantiateDefaultPermission.Valid) (creator : AccAddress) :
    ∃ config, (updateParams legacy).instantiateDefaultPermission.withAddrs codec [creator] =
      .ok config ∧
      config.Decides codec (legacy.instantiateDefaultPermission.AllowsFor codec creator) := by
  have hwith : ∀ {p : AccessType} {config : AccessConfig}, _ →
      p.withAddrs codec [creator] = .ok config :=
    AccessType.withAddrs_singleton_ok_iff.mpr
  unfold updateParams V3.AccessType.AllowsFor AccessConfig.Decides AccessConfig.allowed
  cases hp : legacy.instantiateDefaultPermission with
  | nobody => exact ⟨_, hwith (.inl ⟨rfl, rfl⟩), fun actor => ⟨false, rfl, by simp⟩⟩
  | onlyAddress => exact ⟨_, hwith (.inr (.inr ⟨rfl, rfl⟩)), fun actor => ⟨_, rfl, by simp⟩⟩
  | everybody => exact ⟨_, hwith (.inr (.inl ⟨rfl, rfl⟩)), fun actor => ⟨true, rfl, by simp⟩⟩
  | anyOfAddresses => exact ⟨_, hwith (.inr (.inr ⟨rfl, rfl⟩)), fun actor => ⟨_, rfl, by simp⟩⟩
  | unspecified => rw [hp] at hvalid; exact hvalid.elim
  | unknown n => rw [hp] at hvalid; exact hvalid.elim

/-! ## What the migration does -/

section Migrate

variable {V : Type} {cdc : BinaryCodec V} {store : KVStore V}

/-- `GetCodeInfo` of version 3. -/
def legacyCodeInfo (cdc : BinaryCodec V) (store : KVStore V) (codeID : UInt64) :
    Option V3.CodeInfo :=
  store[codeKey codeID]?.bind fun bz => (cdc.unmarshalLegacyCodeInfo bz).toOption

/-- `GetCodeInfo` of version 4. -/
def readCodeInfo (cdc : BinaryCodec V) (store : KVStore V) (codeID : UInt64) : Option CodeInfo :=
  store[codeKey codeID]?.bind fun bz => (cdc.unmarshalCodeInfo bz).toOption

/-- `GetParams` of version 4. -/
def readParams (cdc : BinaryCodec V) (store : KVStore V) : Option Params :=
  store[paramsKey]?.bind fun bz => (cdc.unmarshalParams bz).toOption

/-- A store of version 3: what lies under the prefix of the codes are codes with valid permissions,
and the parameters, if there are any, are valid. -/
structure LegacyStore (cdc : BinaryCodec V) (store : KVStore V) : Prop where
  params : ∀ bz, store[paramsKey]? = some bz → ∃ legacy, cdc.unmarshalLegacyParams bz = .ok legacy ∧
    legacy.codeUploadAccess.permission.Valid ∧ legacy.instantiateDefaultPermission.Valid
  codes : ∀ rest bz, store[0x01 :: rest]? = some bz → ∃ id legacy, rest = uint64ToBigEndian id ∧
    cdc.unmarshalLegacyCodeInfo bz = .ok legacy ∧ legacy.instantiateConfig.permission.Valid

theorem LegacyStore.code (h : LegacyStore cdc store) {id : UInt64} {legacy : V3.CodeInfo}
    (hid : legacyCodeInfo cdc store id = some legacy) :
    ∃ bz, store[codeKey id]? = some bz ∧ cdc.unmarshalLegacyCodeInfo bz = .ok legacy ∧
      legacy.instantiateConfig.permission.Valid := by
  obtain ⟨bz, hbz, hlegacy⟩ := Option.bind_eq_some_iff.mp hid
  obtain ⟨-, legacy', -, hlegacy', hvalid⟩ := h.codes _ _ hbz
  rw [hlegacy'] at hlegacy
  cases hlegacy
  exact ⟨bz, hbz, hlegacy', hvalid⟩

theorem migrateParams_run (h : LegacyStore cdc store) :
    ∃ store', Migrator.migrateParams cdc store = (.ok (), store') ∧
      (∀ bz legacy, store[paramsKey]? = some bz → cdc.unmarshalLegacyParams bz = .ok legacy →
        store'[paramsKey]? = some (cdc.marshalParams (updateParams legacy))) ∧
      (store[paramsKey]? = none → store'[paramsKey]? = none) ∧
      ∀ key, key ≠ paramsKey → store'[key]? = store[key]? := by
  unfold Migrator.migrateParams
  rw [GoM.bind_run_ok (GoM.gets_ok_iff.mpr ⟨rfl, rfl⟩)]
  cases hbz : store[paramsKey]? with
  | none => exact ⟨store, rfl, nofun, fun _ => hbz, fun _ _ => rfl⟩
  | some bz =>
      obtain ⟨legacy, hlegacy, -⟩ := h.params bz hbz
      refine ⟨store.insert paramsKey (cdc.marshalParams (updateParams legacy)), ?_, ?_, nofun,
        fun key hkey => KVStore.getElem?_insert_of_ne _ _ hkey⟩
      · dsimp only
        rw [hlegacy]
        rfl
      · rintro _ legacy' ⟨⟩ hlegacy'
        cases hlegacy.symm.trans hlegacy'
        exact KVStore.getElem?_insert_self _ _ _

/-- The codes of the list are rewritten, and nothing else is. -/
structure CodesMigrated (cdc : BinaryCodec V) (store : KVStore V) (codes : List (Bytes × V))
    (store' : KVStore V) : Prop where
  others : ∀ key : Bytes, (∀ kv ∈ codes, key ≠ 0x01 :: kv.1) → store'[key]? = store[key]?
  codes : ∀ kv ∈ codes, ∀ legacy, cdc.unmarshalLegacyCodeInfo kv.2 = .ok legacy →
    store'[0x01 :: kv.1]? = some (cdc.marshalCodeInfo (updateCodeInfo legacy))

/-- The loop rewrites each code under its own key. -/
theorem migrateCodes_run {codes : List (Bytes × V)}
    (hcodes : ∀ kv ∈ codes, ∃ id legacy, kv.1 = uint64ToBigEndian id ∧
      cdc.unmarshalLegacyCodeInfo kv.2 = .ok legacy) (hdistinct : (codes.map Prod.fst).Nodup) :
    ∃ store', GoM.forEach codes (Migrator.migrateCode cdc) store = (.ok (), store') ∧
      CodesMigrated cdc store codes store' := by
  refine GoM.forEach_runs (fun done kv rest s hsplit hdone => ?_)
    ⟨fun _ _ => rfl, fun kv hkv => absurd hkv List.not_mem_nil⟩
  obtain ⟨id, legacy, hkey, hlegacy⟩ := hcodes kv (by rw [hsplit]; simp)
  have hfresh : ∀ kv' ∈ done, kv'.1 ≠ kv.1 := by
    rw [hsplit, List.map_append, List.nodup_append] at hdistinct
    exact fun kv' hkv' => hdistinct.2.2 _ (List.mem_map_of_mem hkv') _ List.mem_cons_self
  refine ⟨s.insert (0x01 :: kv.1) (cdc.marshalCodeInfo (updateCodeInfo legacy)), ?_, ?_, ?_⟩
  · unfold Migrator.migrateCode readUint64
    rw [hlegacy, hkey, if_neg (by simp), bigEndianToUint64_uint64ToBigEndian]
    rfl
  · intro key hne
    rw [List.forall_mem_append, List.forall_mem_singleton] at hne
    rw [KVStore.getElem?_insert_of_ne _ _ hne.2, hdone.others key hne.1]
  · intro kv' hkv' legacy' hlegacy'
    rcases List.mem_append.mp hkv' with hkv' | hkv'
    · rw [KVStore.getElem?_insert_of_ne _ _ fun h => hfresh kv' hkv' (List.cons.inj h).2]
      exact hdone.codes kv' hkv' legacy' hlegacy'
    · obtain rfl := List.mem_singleton.mp hkv'
      cases hlegacy.symm.trans hlegacy'
      exact KVStore.getElem?_insert_self _ _ _

theorem migrate3to4_run (h : LegacyStore cdc store) :
    ∃ store', Migrator.migrate3to4 cdc store = (.ok (), store') ∧
      (∀ bz legacy, store[paramsKey]? = some bz → cdc.unmarshalLegacyParams bz = .ok legacy →
        store'[paramsKey]? = some (cdc.marshalParams (updateParams legacy))) ∧
      (∀ id legacy, legacyCodeInfo cdc store id = some legacy →
        store'[codeKey id]? = some (cdc.marshalCodeInfo (updateCodeInfo legacy))) ∧
      ∀ key, store[key]? = none ∨ key ≠ paramsKey ∧ (∀ id, key ≠ codeKey id) →
        store'[key]? = store[key]? := by
  obtain ⟨store₁, hparams, hnew, hnone, hothers⟩ := migrateParams_run h
  have hsame : ∀ rest : Bytes, store₁[0x01 :: rest]? = store[0x01 :: rest]? :=
    fun rest => hothers _ (by simp [paramsKey])
  have hlisted : ∀ {kv : Bytes × V}, kv ∈ KVStore.entries store₁ [0x01] ↔
      store[0x01 :: kv.1]? = some kv.2 := by
    intro kv
    rw [← hsame]
    exact KVStore.mem_entries
  have hcodes : ∀ kv ∈ KVStore.entries store₁ [0x01], ∃ id legacy, kv.1 = uint64ToBigEndian id ∧
      cdc.unmarshalLegacyCodeInfo kv.2 = .ok legacy := by
    intro kv hkv
    obtain ⟨id, legacy, hkey, hlegacy, -⟩ := h.codes _ _ (hlisted.mp hkv)
    exact ⟨id, legacy, hkey, hlegacy⟩
  obtain ⟨store', hloop, hmigrated⟩ : ∃ store', GoM.forEach (KVStore.entries store₁ [0x01])
      (Migrator.migrateCode cdc) store₁ = (.ok (), store') ∧
        CodesMigrated cdc store₁ (KVStore.entries store₁ [0x01]) store' :=
    migrateCodes_run hcodes (KVStore.nodup_keys_entries store₁ [0x01])
  refine ⟨store', ?_, fun bz legacy hbz hlegacy => ?_, fun id legacy hid => ?_, fun key hkey => ?_⟩
  · unfold Migrator.migrate3to4
    rw [GoM.bind_run_ok hparams, GoM.bind_run_ok (GoM.gets_ok_iff.mpr ⟨rfl, rfl⟩), hloop]
  · rw [hmigrated.others _ fun kv _ => by simp [paramsKey]]
    exact hnew bz legacy hbz hlegacy
  · obtain ⟨bz, hbz, hlegacy, -⟩ := h.code hid
    exact hmigrated.codes (uint64ToBigEndian id, bz) (hlisted.mpr hbz) legacy hlegacy
  · rw [hmigrated.others key ?_]
    · by_cases heq : key = paramsKey
      · subst heq
        rcases hkey with hkey | hkey
        · rw [hnone hkey, hkey]
        · exact absurd rfl hkey.1
      · exact hothers key heq
    · rintro kv hkv rfl
      obtain ⟨id, -, hid, -⟩ := hcodes kv hkv
      rcases hkey with hkey | hkey
      · exact Option.some_ne_none _ ((hlisted.mp hkv).symm.trans hkey)
      · exact hkey.2 id (by rw [hid]; rfl)

/-- **The migration keeps who may do what.**  It succeeds on every store of version 3.  The
permission to upload and those to instantiate the codes allow the same accounts as before, and so
does the default permission for every creator.  The codes have the same ids, checksums and creators,
and all other keys are untouched. -/
theorem migration_keeps_permissions (codec : AddressCodec) (cdc : BinaryCodec V) (store : KVStore V)
    (h : LegacyStore cdc store) :
    ∃ store', Migrator.migrate3to4 cdc store = (.ok (), store') ∧
      (∀ bz legacy, store[paramsKey]? = some bz → cdc.unmarshalLegacyParams bz = .ok legacy →
        ∃ params, readParams cdc store' = some params ∧
          params.codeUploadAccess.Decides codec (legacy.codeUploadAccess.Allows codec) ∧
          ∀ creator, ∃ config,
            params.instantiateDefaultPermission.withAddrs codec [creator] = .ok config ∧
            config.Decides codec (legacy.instantiateDefaultPermission.AllowsFor codec creator)) ∧
      (store[paramsKey]? = none → store'[paramsKey]? = none) ∧
      (∀ id, (readCodeInfo cdc store' id).isSome ↔ (legacyCodeInfo cdc store id).isSome) ∧
      (∀ id legacy, legacyCodeInfo cdc store id = some legacy →
        ∃ info, readCodeInfo cdc store' id = some info ∧ info.codeHash = legacy.codeHash ∧
          info.creator = legacy.creator ∧
          info.instantiateConfig.Decides codec (legacy.instantiateConfig.Allows codec)) ∧
      ∀ key, key ≠ paramsKey → (∀ id, key ≠ codeKey id) → store'[key]? = store[key]? := by
  obtain ⟨store', hrun, hparams, hcodes, hothers⟩ := migrate3to4_run h
  have hread : ∀ id legacy, legacyCodeInfo cdc store id = some legacy →
      readCodeInfo cdc store' id = some (updateCodeInfo legacy) := by
    intro id legacy hid
    rw [readCodeInfo, hcodes id legacy hid, Option.bind_some, cdc.unmarshal_marshalCodeInfo]
    rfl
  refine ⟨store', hrun, fun bz legacy hbz hlegacy => ?_, fun hnone => ?_, fun id => ⟨fun hid => ?_,
    fun hid => ?_⟩, fun id legacy hid => ?_,
      fun key hparams hcode => hothers key (.inr ⟨hparams, hcode⟩)⟩
  · obtain ⟨legacy', hlegacy', hupload, hdefault⟩ := h.params bz hbz
    cases hlegacy.symm.trans hlegacy'
    refine ⟨updateParams legacy, ?_, updateAccessConfig_allows hupload,
      updateParams_default hdefault⟩
    rw [readParams, hparams bz legacy hbz hlegacy, Option.bind_some, cdc.unmarshal_marshalParams]
    rfl
  · rw [hothers _ (.inl hnone), hnone]
  · -- a code is found, so there was one before
    cases hbz : store[codeKey id]? with
    | none =>
        rw [readCodeInfo, hothers _ (.inl hbz), hbz] at hid
        cases hid
    | some bz =>
        obtain ⟨-, legacy, -, hlegacy, -⟩ := h.codes _ _ hbz
        rw [legacyCodeInfo, hbz, Option.bind_some, hlegacy]
        rfl
  · obtain ⟨legacy, hlegacy⟩ := Option.isSome_iff_exists.mp hid
    rw [hread id legacy hlegacy]
    rfl
  · obtain ⟨-, -, -, hvalid⟩ := h.code hid
    exact ⟨updateCodeInfo legacy, hread id legacy hid, rfl, rfl, updateAccessConfig_allows hvalid⟩

end Migrate

/-! ### A store with one code -/

/-- A record that need not be encoded. -/
inductive Plain where
  | legacyParams (p : V3.Params)
  | legacyCodeInfo (c : V3.CodeInfo)
  | params (p : Params)
  | codeInfo (c : CodeInfo)

/-- The codec of plain records. -/
def plainCodec : BinaryCodec Plain where
  unmarshalLegacyParams
    | .legacyParams p => .ok p
    | _ => .error "not parameters"
  unmarshalLegacyCodeInfo
    | .legacyCodeInfo c => .ok c
    | _ => .error "not a code"
  marshalParams := .params
  unmarshalParams
    | .params p => .ok p
    | _ => .error "not parameters"
  marshalCodeInfo := .codeInfo
  unmarshalCodeInfo
    | .codeInfo c => .ok c
    | _ => .error "not a code"
  unmarshal_marshalParams _ := rfl
  unmarshal_marshalCodeInfo _ := rfl

/-- A permission of version 3 for one account. -/
def onlyAlice : V3.AccessConfig := ⟨.onlyAddress, "alice", []⟩

/-- Everything in this store is for one account only. -/
def aliceStore : KVStore Plain :=
  ((∅ : KVStore Plain).insert paramsKey (.legacyParams ⟨onlyAlice, .onlyAddress⟩)).insert
    (codeKey 1) (.legacyCodeInfo ⟨[7], "alice", onlyAlice⟩)

theorem aliceStore_legacy : LegacyStore plainCodec aliceStore where
  params bz hbz := by
    have hparams : aliceStore[paramsKey]? = some (.legacyParams ⟨onlyAlice, .onlyAddress⟩) :=
      (KVStore.getElem?_insert_of_ne _ _ (by decide)).trans (KVStore.getElem?_insert_self _ _ _)
    cases hparams.symm.trans hbz
    exact ⟨_, rfl, trivial, trivial⟩
  codes rest bz hbz := by
    by_cases hkey : 0x01 :: rest = codeKey 1
    · rw [hkey] at hbz
      cases (KVStore.getElem?_insert_self _ _ _).symm.trans hbz
      exact ⟨1, _, (List.cons.inj hkey).2, rfl, trivial⟩
    · have hnone : aliceStore[0x01 :: rest]? = none := by
        refine (KVStore.getElem?_insert_of_ne _ _ hkey).trans ?_
        rw [KVStore.getElem?_insert_of_ne _ _ (by simp [paramsKey])]
        simp
      rw [hnone] at hbz
      cases hbz

/-- The account with that address. -/
def aliceTable : AddressTable where
  rows := [(AccAddress.twenty 1, "alice")]
  text_inj := by decide
  unmarked := by decide
  nonempty := by decide

theorem migration_keeps_permissions_alice :
    ∃ store' info, Migrator.migrate3to4 plainCodec aliceStore = (.ok (), store') ∧
      readCodeInfo plainCodec store' 1 = some info ∧
      info.instantiateConfig.Decides aliceTable.codec fun actor =>
        aliceTable.codec.stringOf actor = "alice" := by
  obtain ⟨store', hrun, -, -, -, hcodes, -⟩ :=
    migration_keeps_permissions aliceTable.codec plainCodec aliceStore aliceStore_legacy
  have hcode : legacyCodeInfo plainCodec aliceStore 1 = some ⟨[7], "alice", onlyAlice⟩ := by
    rw [legacyCodeInfo, show aliceStore[codeKey 1]? = _ from KVStore.getElem?_insert_self _ _ _]
    rfl
  obtain ⟨info, hinfo, -, -, hdecides⟩ := hcodes 1 _ hcode
  exact ⟨store', info, hrun, hinfo, hdecides⟩

end Wasmd
