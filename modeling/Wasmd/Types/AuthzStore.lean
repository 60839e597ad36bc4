import Wasmd.Lib.Utf8
import Wasmd.Types.AuthzSelection
import Wasmd.Types.GasRegister
import Wasmd.Types.Messages

/-!
# Authorizations to store code

`StoreCodeAuthorization` of `x/wasm/types/authz.go`: a list of grants, each for the hash of a code
or for any code, with a permission that the code may be stored with.

* `CodeGrant.accept`, `acceptStoreCode` — the decision.
* `code_hash_exact_iff` — when a code that is accepted has the hash of a grant.
* `store_code_decides_iff` — when the decision does not panic.
-/

namespace Wasmd
namespace Authz

open ByteStore Effects Gas Utf8

/-- What the decision uses of libraries. -/
structure StoreLib where
  /-- `sha256.Sum256`. -/
  sha256 : Bytes → Bytes
  sha256_length : ∀ code, (sha256 code).length = 32
  /-- Whether `unicode.SimpleFold` leads from a character to another one. -/
  folds : Nat → Nat → Bool
  /-- `strings.ToLower`. -/
  toLower : Bytes → Bytes
  /-- `ioutils.Uncompress`. -/
  uncompress : Bytes → Nat → Except String Bytes

/-- `CodeGrant`. -/
structure CodeGrant where
  codeHash : Bytes
  instantiatePermission : Option AccessConfig
  deriving DecidableEq, Repr

/-- `CodehashWildcard`, an asterisk. -/
def codehashWildcard : Bytes := [0x2A]

variable (lib : StoreLib)

/-! ## Validation -/

/-- `CodeGrant.ValidateBasic`. -/
def CodeGrant.validateBasic (codec : AddressCodec) (g : CodeGrant) : Except GoError Unit :=
  if g.codeHash.length = 0 then .error (errEmpty.wrap "code hash")
  else
    match g.instantiatePermission with
    | some permission => permission.validateBasic codec
    | none => .ok ()

/-- The grant is for any code. -/
def CodeGrant.isWildcard (g : CodeGrant) : Bool := equalFold lib.folds g.codeHash codehashWildcard

/-- The loop over several grants, from position `i`. -/
def validateCodeGrantsFrom (codec : AddressCodec) : Nat → List CodeGrant → Except GoError Unit
  | _, [] => .ok ()
  | i, g :: rest =>
    if g.isWildcard lib then .error (errInvalidRequest.wrap
      "cannot have multiple grants when wildcard grant is one of them")
    else
      match g.validateBasic codec with
      | .error e => .error (.wrapped s!"position {i}" e)
      | .ok () => validateCodeGrantsFrom codec (i + 1) rest

/-- `StoreCodeAuthorization.ValidateBasic`. -/
def validateCodeGrants (codec : AddressCodec) (grants : List CodeGrant) : Except GoError Unit :=
  match grants with
  | [] => .error (errEmpty.wrap "grants")
  | [g] => (g.validateBasic codec).mapError (.wrapped "position 0")
  | _ => do
    validateCodeGrantsFrom lib codec 0 grants
    if (grants.map fun g => lib.toLower g.codeHash).Nodup then .ok ()
    else .error (errInvalidRequest.wrap "cannot have multiple grants with same code hash")

/-! ## The decision -/

/-- `wasmvm.CreateChecksum`. -/
def createChecksum (code : Bytes) : Except String Bytes :=
  if code.length = 0 then .error "wasm bytes nil or empty"
  else if code.length < 4 then .error "wasm bytes shorter than 4 bytes"
  else if code.take 4 ≠ [0x00, 0x61, 0x73, 0x6D] then
    .error "wasm bytes do not start with Wasm magic number"
  else .ok (lib.sha256 code)

/-- The hash of the grant is that of the code, or the grant is for any code. -/
def CodeGrant.isFor (g : CodeGrant) (checksum : Bytes) : Bool :=
  g.isWildcard lib || equalFold lib.folds g.codeHash checksum

/-- `CodeGrant.Accept`. -/
def CodeGrant.accept (g : CodeGrant) (checksum : Bytes) (permission : Option AccessConfig) :
    MeterM Bool :=
  if ¬ g.isFor lib checksum then pure false
  else
    match g.instantiatePermission with
    | none => pure true
    | some superSet => do
      -- the method is called on a value, so that a nil pointer is dereferenced
      let permission ← GoM.ofOptionPanic permission nilPointer
      return permission.isSubset superSet

/-- The loop over the grants. -/
def acceptCodeGrants (checksum : Bytes) (permission : Option AccessConfig) :
    List CodeGrant → MeterM Bool
  | [] => pure false
  | g :: rest => do
    let ok ← g.accept lib checksum permission
    if ok then pure true else acceptCodeGrants checksum permission rest

/-- The cost of unpacking an archive. -/
def payUncompress (register : Option WasmGasRegister) (code : Bytes) : MeterM Unit := do
  let register ← GoM.ofOption register
    (errInvalidRequest.wrap "gas register not found in context")
  let cost ← GoM.ofExcept ((register.uncompressCosts code.length).mapError .panic)
  consumeGas cost "Uncompress gzip bytecode"

/-- The code, unpacked if it is an archive. -/
def unpacked (code : Bytes) : Except GoError Bytes :=
  if isGzip code then
    (lib.uncompress code maxWasmSize).mapError fun _ =>
      errInvalidRequest.wrap "uncompress wasm archive"
  else .ok code

/-- The checksum of the unpacked code. -/
def codeChecksum (code : Bytes) : Except GoError Bytes := do
  let code ← unpacked lib code
  (createChecksum lib code).mapError fun _ => errInvalidRequest.wrap "checksum"

/-- `StoreCodeAuthorization.Accept`: whether the message is accepted.  The response has nothing
else. -/
def acceptStoreCode (register : Option WasmGasRegister) (grants : List CodeGrant) (msg : WasmMsg) :
    MeterM Bool :=
  match msg with
  | .storeCode _ code permission => do
    (if isGzip code then payUncompress register code else pure ())
    let checksum ← GoM.ofExcept ((codeChecksum lib code).mapError .error)
    acceptCodeGrants lib checksum permission grants
  | _ => GoM.failWith (errInvalidRequest.wrap "unknown msg type")

/-! ## The loop -/

variable {lib} {checksum : Bytes} {permission : Option AccessConfig} {grants : List CodeGrant}
  {m m' : GasMeter}

/-- A grant that lets the code be stored. -/
def CodeGrant.Permits (lib : StoreLib) (checksum : Bytes) (permission : Option AccessConfig)
    (g : CodeGrant) : Prop :=
  g.isFor lib checksum = true ∧
    ∀ superSet, g.instantiatePermission = some superSet →
      ∃ p, permission = some p ∧ p.isSubset superSet = true

/-- The first grant for the code restricts the permission, and the message has none. -/
def NilPermission (lib : StoreLib) (checksum : Bytes) (permission : Option AccessConfig)
    (grants : List CodeGrant) : Prop :=
  permission = none ∧ ∃ pre g post, grants = pre ++ g :: post ∧
    (∀ g' ∈ pre, g'.isFor lib checksum = false) ∧ g.isFor lib checksum = true ∧
    g.instantiatePermission.isSome

/-- What a single grant answers. -/
theorem CodeGrant.accept_cases (g : CodeGrant) (m : GasMeter) :
    (g.isFor lib checksum = false ∧ g.accept lib checksum permission m = (.ok false, m)) ∨
    (g.isFor lib checksum = true ∧ g.instantiatePermission = none ∧
      g.accept lib checksum permission m = (.ok true, m)) ∨
    (g.isFor lib checksum = true ∧ g.instantiatePermission.isSome ∧ permission = none ∧
      g.accept lib checksum permission m = (.error (.panic nilPointer), m)) ∨
    ∃ superSet p, g.isFor lib checksum = true ∧ g.instantiatePermission = some superSet ∧
      permission = some p ∧
        g.accept lib checksum permission m = (.ok (p.isSubset superSet), m) := by
  unfold CodeGrant.accept
  cases hfor : g.isFor lib checksum with
  | false => exact .inl ⟨rfl, rfl⟩
  | true =>
      cases hset : g.instantiatePermission with
      | none => exact .inr (.inl ⟨rfl, rfl, rfl⟩)
      | some superSet =>
          cases permission with
          | none => exact .inr (.inr (.inl ⟨rfl, rfl, rfl, rfl⟩))
          | some p => exact .inr (.inr (.inr ⟨superSet, p, rfl, rfl, rfl, rfl⟩))

theorem nilPermission_cons_iff {g : CodeGrant} :
    NilPermission lib checksum permission (g :: grants) ↔
      if g.isFor lib checksum then permission = none ∧ g.instantiatePermission.isSome
      else NilPermission lib checksum permission grants := by
  constructor
  · rintro ⟨hnone, pre, g', post, hgrants, hpre, hfor, hset⟩
    cases pre with
    | nil =>
        obtain ⟨rfl, rfl⟩ := List.cons.inj hgrants
        rw [if_pos hfor]
        exact ⟨hnone, hset⟩
    | cons x pre =>
        obtain ⟨rfl, rfl⟩ := List.cons.inj hgrants
        obtain ⟨hx, hpre⟩ := List.forall_mem_cons.mp hpre
        rw [if_neg (by simp [hx])]
        exact ⟨hnone, pre, g', post, rfl, hpre, hfor, hset⟩
  · cases hfor : g.isFor lib checksum with
    | true =>
        rintro ⟨hnone, hset⟩
        exact ⟨hnone, [], g, grants, rfl, fun _ h => absurd h List.not_mem_nil, hfor, hset⟩
    | false =>
        rintro ⟨hnone, pre, g', post, rfl, hpre, hfor', hset⟩
        exact ⟨hnone, g :: pre, g', post, rfl, List.forall_mem_cons.mpr ⟨hfor, hpre⟩, hfor', hset⟩

/-- **What the loop answers**: a decision, or the panic of a nil pointer. -/
theorem acceptCodeGrants_cases (grants : List CodeGrant) (m : GasMeter) :
    (¬ NilPermission lib checksum permission grants ∧
      ∃ ok, acceptCodeGrants lib checksum permission grants m = (.ok ok, m) ∧
        (ok = true → ∃ g ∈ grants, g.Permits lib checksum permission)) ∨
    (NilPermission lib checksum permission grants ∧
      acceptCodeGrants lib checksum permission grants m = (.error (.panic nilPointer), m)) := by
  induction grants with
  | nil =>
      refine .inl ⟨?_, false, rfl, fun h => by cases h⟩
      rintro ⟨-, pre, g, post, hnil, -⟩
      cases pre <;> cases hnil
  | cons g rest ih =>
      -- the answer of the rest, for a grant that is passed over
      have hskip : g.accept lib checksum permission m = (.ok false, m) →
          (NilPermission lib checksum permission (g :: rest) ↔
            NilPermission lib checksum permission rest) →
          (¬ NilPermission lib checksum permission (g :: rest) ∧
            ∃ ok, acceptCodeGrants lib checksum permission (g :: rest) m = (.ok ok, m) ∧
              (ok = true → ∃ g' ∈ g :: rest, g'.Permits lib checksum permission)) ∨
          (NilPermission lib checksum permission (g :: rest) ∧
            acceptCodeGrants lib checksum permission (g :: rest) m =
              (.error (.panic nilPointer), m)) := by
        intro hno hiff
        rw [acceptCodeGrants, GoM.bind_run_ok hno, hiff]
        refine ih.imp_left fun ⟨hnil, ok, hrun, hpermits⟩ => ⟨hnil, ok, hrun, fun hok => ?_⟩
        obtain ⟨g', hg', h⟩ := hpermits hok
        exact ⟨g', List.mem_cons_of_mem _ hg', h⟩
      have hcons : NilPermission lib checksum permission (g :: rest) ↔ _ := nilPermission_cons_iff
      rcases g.accept_cases m with ⟨hfor, hno⟩ | ⟨hfor, hset, hyes⟩ | ⟨hfor, hset, hnone, hpanic⟩ |
        ⟨superSet, p, hfor, hset, hsome, hrun⟩
      · refine hskip hno ?_
        rw [hcons, hfor]
        simp
      · refine .inl ⟨?_, true, ?_, fun _ => ⟨g, List.mem_cons_self, hfor, ?_⟩⟩
        · rw [hcons, hfor, hset]
          simp
        · rw [acceptCodeGrants, GoM.bind_run_ok hyes]
          rfl
        · rw [hset]
          exact fun superSet h => by cases h
      · refine .inr ⟨?_, ?_⟩
        · rw [hcons, hfor]
          exact ⟨hnone, hset⟩
        · rw [acceptCodeGrants, GoM.bind_run_error hpanic]
      · have hnil : ∀ grants, ¬ NilPermission lib checksum permission grants := by
          rintro grants ⟨hnone, -⟩
          rw [hsome] at hnone
          cases hnone
        cases hsub : p.isSubset superSet with
        | false =>
            rw [hsub] at hrun
            exact hskip hrun (iff_of_false (hnil _) (hnil _))
        | true =>
            rw [hsub] at hrun
            refine .inl ⟨hnil _, true, ?_, fun _ => ⟨g, List.mem_cons_self, hfor, ?_⟩⟩
            · rw [acceptCodeGrants, GoM.bind_run_ok hrun]
              rfl
            · intro superSet' h
              rw [hset] at h
              cases h
              exact ⟨p, hsome, hsub⟩

/-! ## The whole decision -/

/-- What paying for the unpacking can come to. -/
theorem payUncompress_cases (register : WasmGasRegister) (code : Bytes) (m : GasMeter) :
    (register.c.uncompressCost.denominator = 0 ∧ payUncompress (some register) code m =
      (.error (.panic (.message "integer divide by zero")), m)) ∨
    register.c.uncompressCost.denominator ≠ 0 ∧
      (RanOut (payUncompress (some register) code m).1 ∨
        ∃ m₁, payUncompress (some register) code m = (.ok (), m₁)) := by
  have hlength : ¬ ((code.length : Int) < 0) := by omega
  unfold payUncompress
  rw [GoM.bind_run_ok (GoM.ofOption_ok_iff.mpr ⟨rfl, rfl⟩)]
  by_cases hzero : register.c.uncompressCost.denominator = 0
  · refine .inl ⟨hzero, ?_⟩
    have hcost : register.uncompressCosts code.length =
        .error (.message "integer divide by zero") := by
      rw [WasmGasRegister.uncompressCosts, if_neg hlength, if_pos hzero]
    rw [hcost]
    rfl
  · refine .inr ⟨hzero, ?_⟩
    obtain ⟨cost, hcost⟩ : ∃ cost, register.uncompressCosts code.length = .ok cost := by
      rw [WasmGasRegister.uncompressCosts, if_neg hlength, if_neg hzero]
      exact ⟨_, rfl⟩
    rw [hcost]
    exact consumeGas_decides cost _ m

theorem payIfGzip_cases (register : WasmGasRegister) (code : Bytes) (m : GasMeter) :
    (isGzip code = true ∧ register.c.uncompressCost.denominator = 0 ∧
      (if isGzip code then payUncompress (some register) code else pure ()) m =
        (.error (.panic (.message "integer divide by zero")), m)) ∨
    (isGzip code = true → register.c.uncompressCost.denominator ≠ 0) ∧
      (RanOut ((if isGzip code then payUncompress (some register) code else pure ()) m).1 ∨
        ∃ m₁, (if isGzip code then payUncompress (some register) code else pure ()) m =
          (.ok (), m₁)) := by
  cases hgzip : isGzip code with
  | false => exact .inr ⟨nofun, .inr ⟨m, rfl⟩⟩
  | true =>
      rcases payUncompress_cases register code m with ⟨hzero, hpanic⟩ | ⟨hne, hpaid⟩
      · exact .inl ⟨rfl, hzero, hpanic⟩
      · exact .inr ⟨fun _ => hne, hpaid⟩

/-- **When the decision does not panic.**  Assume that the gas does not run out.  The decision does
not panic, and accepts only if some grant for the code sets no permission or one that the permission
of the message is a subset of, exactly if the gas register does not divide by zero and it is not so
that the first grant for the code restricts the permission and the message has none. -/
theorem store_code_decides_iff (lib : StoreLib) (register : WasmGasRegister)
    (grants : List CodeGrant) (sender : String) (code : Bytes) (permission : Option AccessConfig)
    (m : GasMeter)
    (hgas : ¬ RanOut (acceptStoreCode lib (some register) grants
      (.storeCode sender code permission) m).1) :
    ((∀ p, (acceptStoreCode lib (some register) grants (.storeCode sender code permission) m).1 ≠
        .error (.panic p)) ∧
      ((acceptStoreCode lib (some register) grants (.storeCode sender code permission) m).1 =
          .ok true →
        ∃ checksum, codeChecksum lib code = .ok checksum ∧
          ∃ g ∈ grants, g.Permits lib checksum permission)) ↔
    (isGzip code = true → register.c.uncompressCost.denominator ≠ 0) ∧
      ∀ checksum, codeChecksum lib code = .ok checksum →
        ¬ NilPermission lib checksum permission grants := by
  simp only [acceptStoreCode] at hgas ⊢
  rcases payIfGzip_cases register code m with ⟨hgzip, hzero, hpanic⟩ | ⟨hne, hout | ⟨m₁, hpaid⟩⟩
  · rw [GoM.bind_run_error hpanic]
    refine iff_of_false (fun h => h.1 _ rfl) fun h => h.1 hgzip hzero
  · exact absurd hout.bind hgas
  · rw [GoM.bind_run_ok hpaid]
    cases hsum : codeChecksum lib code with
    | error e =>
        exact iff_of_true ⟨nofun, nofun⟩ ⟨hne, nofun⟩
    | ok checksum =>
        simp only [Except.mapError, GoM.bind_run_ok (GoM.ofExcept_ok_iff.mpr ⟨rfl, rfl⟩)]
        rcases acceptCodeGrants_cases grants m₁ with ⟨hnil, ok, hrun, hpermits⟩ | ⟨hnil, hrun⟩
        · refine iff_of_true ⟨fun p h => ?_, fun h => ?_⟩ ⟨hne, ?_⟩
          · rw [hrun] at h
            cases h
          · rw [hrun] at h
            cases h
            exact ⟨checksum, rfl, hpermits rfl⟩
          · rintro _ ⟨⟩
            exact hnil
        · refine iff_of_false (fun h => h.1 nilPointer ?_) fun h => h.2 checksum rfl hnil
          rw [hrun]

/-! ### The smallest module -/

/-- A module without any section. -/
def smallModule : Bytes := [0x00, 0x61, 0x73, 0x6D, 0x01, 0x00, 0x00, 0x00]

/-- The hash of `smallModule`, from its second byte on. -/
def smallHashTail : Bytes :=
  [0xA4, 0x4B, 0xBB, 0x96, 0xC7, 0x51, 0x21, 0x8E, 0x4C, 0x00, 0xD4, 0x79, 0xE4, 0xC1, 0x43, 0x58,
    0x12, 0x2A, 0x38, 0x9A, 0xCC, 0xA1, 0x62, 0x05, 0xB1, 0xE4, 0xD0, 0xDC, 0x5F, 0x94, 0x76]

/-- The hash of `smallModule` is `0x93` and the tail.  No other code is hashed, and the texts
compared have no letters outside ASCII. -/
def smallLib : StoreLib where
  sha256 _ := 0x93 :: smallHashTail
  sha256_length _ := by decide
  folds _ _ := false
  toLower s := s
  uncompress code _ := .ok code

/-- An account of `sampleTable`. -/
def sampleSender : String := "wasm1qyqszqgpqyqszqgpqyqszqgpqyqszqgpc0styh"

/-- A code that the grant lets be instantiated by nobody is stored without a permission. -/
theorem store_code_nil_permission :
    validateCodeGrants smallLib sampleTable.codec
        [⟨0x93 :: smallHashTail, some ⟨.nobody, []⟩⟩] = .ok () ∧
      (∀ lib, (WasmMsg.storeCode sampleSender smallModule none).validateBasic lib
        sampleTable.codec = .ok ()) ∧
      acceptStoreCode smallLib (some newDefaultWasmGasRegister)
          [⟨0x93 :: smallHashTail, some ⟨.nobody, []⟩⟩]
          (.storeCode sampleSender smallModule none) (.infinite 0) =
        (.error (.panic nilPointer), .infinite 0) :=
  ⟨by decide, fun _ => rfl, rfl⟩

/-- With the permission of the grant it is accepted. -/
theorem store_code_decides_nobody :
    (acceptStoreCode smallLib (some newDefaultWasmGasRegister)
      [⟨0x93 :: smallHashTail, some ⟨.nobody, []⟩⟩]
      (.storeCode sampleSender smallModule (some ⟨.nobody, []⟩)) (.infinite 0)).1 = .ok true ∧
    ∃ checksum, codeChecksum smallLib smallModule = .ok checksum ∧
      ∃ g ∈ [CodeGrant.mk (0x93 :: smallHashTail) (some ⟨.nobody, []⟩)],
        g.Permits smallLib checksum (some ⟨.nobody, []⟩) := by
  have hrun : (acceptStoreCode smallLib (some newDefaultWasmGasRegister)
      [⟨0x93 :: smallHashTail, some ⟨.nobody, []⟩⟩]
      (.storeCode sampleSender smallModule (some ⟨.nobody, []⟩)) (.infinite 0)).1 = .ok true := by
    decide
  refine ⟨hrun, ((store_code_decides_iff smallLib newDefaultWasmGasRegister _ sampleSender
    smallModule (some ⟨.nobody, []⟩) (.infinite 0) ?_).mpr ⟨fun _ => by decide, ?_⟩).2 hrun⟩
  · rw [hrun]
    exact id
  · rintro _ _ ⟨hnone, -⟩
    cases hnone

/-! ## The hash of an accepted code -/

/-- **When a code that is accepted has the hash of a grant.**  None of the grants is for any code.
The checksum of a code that is accepted is the hash of a grant up to the case of ASCII letters
exactly if some grant that `EqualFold` finds to match has as many bytes as the checksum, and the
same bytes outside ASCII. -/
theorem code_hash_exact_iff (lib : StoreLib) (register : Option WasmGasRegister)
    (grants : List CodeGrant) (hwild : ∀ g ∈ grants, g.isWildcard lib = false) (sender : String)
    (code : Bytes) (permission : Option AccessConfig) (m m' : GasMeter)
    (h : acceptStoreCode lib register grants (.storeCode sender code permission) m =
      (.ok true, m')) :
    ∃ checksum, codeChecksum lib code = .ok checksum ∧
      (∃ g ∈ grants, equalFold lib.folds g.codeHash checksum = true) ∧
      ((∃ g ∈ grants, List.Forall₂ SameLetter g.codeHash checksum) ↔
        ∃ g ∈ grants, equalFold lib.folds g.codeHash checksum = true ∧
          List.Forall₂ Agree g.codeHash checksum) := by
  obtain ⟨_, m₁, -, hrest⟩ := GoM.bind_ok_iff.mp h
  obtain ⟨checksum, m₂, hchecksum, hloop⟩ := GoM.bind_ok_iff.mp hrest
  obtain ⟨hsum, -⟩ := GoM.ofExcept_ok_iff.mp hchecksum
  have hmatch : ∃ g ∈ grants, equalFold lib.folds g.codeHash checksum = true := by
    rcases acceptCodeGrants_cases grants m₂ with ⟨-, ok, hrun, hpermits⟩ | ⟨-, hrun⟩
    · cases hrun.symm.trans hloop
      obtain ⟨g, hg, hfor, -⟩ := hpermits rfl
      rw [CodeGrant.isFor, hwild g hg, Bool.false_or] at hfor
      exact ⟨g, hg, hfor⟩
    · cases hrun.symm.trans hloop
  refine ⟨checksum, ?_, hmatch, ?_, ?_⟩
  · exact except_mapError_ok_iff.mp hsum
  · rintro ⟨g, hg, hsame⟩
    have hagree := hsame.imp fun _ _ => SameLetter.agree
    exact ⟨g, hg, (equalFold_iff_of_agree hagree).mpr hsame, hagree⟩
  · rintro ⟨g, hg, hfold, hagree⟩
    exact ⟨g, hg, (equalFold_iff_of_agree hagree).mp hfold⟩

/-- A grant for a hash with another first byte, which is no part of a character either. -/
theorem code_hash_not_exact :
    validateCodeGrants smallLib sampleTable.codec [⟨0x94 :: smallHashTail, none⟩] = .ok () ∧
      CodeGrant.isWildcard smallLib ⟨0x94 :: smallHashTail, none⟩ = false ∧
      (acceptStoreCode smallLib none [⟨0x94 :: smallHashTail, none⟩]
        (.storeCode sampleSender smallModule none) (.infinite 0)).1 = .ok true ∧
      codeChecksum smallLib smallModule = .ok (0x93 :: smallHashTail) ∧
      ¬ List.Forall₂ SameLetter (0x94 :: smallHashTail) (0x93 :: smallHashTail) := by
  refine ⟨by decide, by decide, by decide, by decide, fun h => ?_⟩
  cases h with
  | cons hfirst _ =>
      revert hfirst
      unfold SameLetter
      decide

/-- A grant for the hash of the module, with the letter `K` in lower case. -/
def lowerGrant : CodeGrant := ⟨0x93 :: 0xA4 :: 0x6B :: smallHashTail.drop 2, none⟩

theorem code_hash_exact_lower :
    (acceptStoreCode smallLib none [lowerGrant] (.storeCode sampleSender smallModule none)
      (.infinite 0)).1 = .ok true ∧
    ∃ checksum, codeChecksum smallLib smallModule = .ok checksum ∧
      ∃ g ∈ [lowerGrant], List.Forall₂ SameLetter g.codeHash checksum := by
  have hrun : acceptStoreCode smallLib none [lowerGrant] (.storeCode sampleSender smallModule none)
      (.infinite 0) = (.ok true, .infinite 0) := rfl
  have hwild : ∀ g ∈ [lowerGrant], g.isWildcard smallLib = false := by decide
  obtain ⟨checksum, hsum, -, hiff⟩ :=
    code_hash_exact_iff smallLib none [lowerGrant] hwild sampleSender smallModule none _ _ hrun
  refine ⟨by rw [hrun], checksum, hsum, hiff.mpr ⟨lowerGrant, List.mem_singleton_self _, ?_⟩⟩
  obtain rfl : 0x93 :: smallHashTail = checksum := Except.ok.inj hsum
  unfold Agree
  decide

end Authz
end Wasmd
