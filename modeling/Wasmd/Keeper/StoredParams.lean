import Wasmd.Keeper.Import
import Wasmd.Keeper.Runs

/-!
# The stored params over a sequence of messages

`MsgUpdateParams` replaces the params by ones that pass `ValidateBasic`.
`MsgAddCodeUploadParamsAddresses` and `MsgRemoveCodeUploadParamsAddresses` edit the list of
addresses without looking at the result.

* `WasmMsg.editParams` — the params after a message.
* `WasmMsg.KeepsValid` — what keeps them valid.
* `stored_params_valid_iff` — valid params stay valid through a sequence of successful messages
  exactly if every message keeps them so.
-/

namespace Wasmd

open ByteStore Effects Gas

variable {ε C : Type} {k : Keeper ε C} {lib : MsgLib} {ctx : SdkContext} {msg : WasmMsg}
  {handler : Response SdkContext C → KeeperM ε (Option Bytes)}
  {w w' : World (Multistore ε) Shared}

/-! ## One message -/

/-- The params with another list of addresses. -/
def Params.withUploadAddresses (p : Params) (addresses : List String) : Params :=
  { p with codeUploadAccess := { p.codeUploadAccess with addresses := addresses } }

namespace WasmMsg

/-- The messages that edit the params. -/
def EditsParams : WasmMsg → Prop
  | updateParams .. => True
  | addCodeUploadParamsAddresses .. => True
  | removeCodeUploadParamsAddresses .. => True
  | _ => False

/-- The params after a message. -/
def editParams (p : Params) : WasmMsg → Params
  | updateParams _ params => params
  | addCodeUploadParamsAddresses _ addresses =>
    p.withUploadAddresses (addAddresses p.codeUploadAccess.addresses addresses)
  | removeCodeUploadParamsAddresses _ addresses =>
    p.withUploadAddresses (removeAddresses p.codeUploadAccess.addresses addresses)
  | _ => p

/-- What keeps the params valid.  An addition: the addresses that are listed and those that are new
are at most fifty, and none of the new ones is listed in another spelling.  A removal: some address
that is listed is not removed. -/
def KeepsValid (p : Params) : WasmMsg → Prop
  | addCodeUploadParamsAddresses _ addresses =>
    p.codeUploadAccess.addresses.length +
        addresses.countP (· ∉ p.codeUploadAccess.addresses) ≤ maxAddressCount ∧
      ∀ new ∈ addresses, new ∉ p.codeUploadAccess.addresses →
        ∀ listed ∈ p.codeUploadAccess.addresses, listed.toUpper ≠ new.toUpper
  | removeCodeUploadParamsAddresses _ addresses =>
    ∃ listed ∈ p.codeUploadAccess.addresses, listed ∉ addresses
  | _ => True

/-- What a successful message says about its contents and about the params it edits. -/
def Accepted (codec : AddressCodec) (p : Params) : WasmMsg → Prop
  | updateParams _ params => params.validateBasic codec = .ok ()
  | addCodeUploadParamsAddresses _ addresses =>
    p.codeUploadAccess.permission = .anyOfAddresses ∧
      validateBech32Addresses codec addresses = .ok ()
  | removeCodeUploadParamsAddresses _ addresses =>
    p.codeUploadAccess.permission = .anyOfAddresses ∧
      validateBech32Addresses codec addresses = .ok ()
  | _ => True

end WasmMsg

/-- A check that was passed. -/
theorem attempt_ok {α β : Type} {x : Except GoError α} {f : α → KeeperScript ε C β} {b : β}
    (h : (attempt x >>= f).run handler w = (.ok b, w')) :
    ∃ a, x = .ok a ∧ (f a).run handler w = (.ok b, w') := by
  rw [Script.run_bind] at h
  obtain ⟨a, w₁, hx, hf⟩ := GoM.bind_ok_iff.mp h
  obtain ⟨a', w₂, hx', hret⟩ := GoM.bind_ok_iff.mp hx
  obtain ⟨hok, rfl⟩ := orError_ok_iff.mp hx'
  obtain ⟨rfl, rfl⟩ := GoM.pure_ok_iff.mp hret
  exact ⟨a, hok, hf⟩

/-- An effect and an empty response. -/
theorem lift_empty_ok {x : KeeperM ε Unit} {out : WasmMsgResponse}
    (h : (Script.lift x >>= fun _ => pure .empty : KeeperScript ε C WasmMsgResponse).run handler w =
      (.ok out, w')) : x w = (.ok (), w') := by
  rw [Script.run_bind] at h
  obtain ⟨u, w₁, hx, hret⟩ := GoM.bind_ok_iff.mp h
  obtain ⟨u', w₂, hx', hret'⟩ := GoM.bind_ok_iff.mp hx
  obtain ⟨-, rfl⟩ := GoM.pure_ok_iff.mp hret
  obtain ⟨-, rfl⟩ := GoM.pure_ok_iff.mp hret'
  exact hx'

theorem editUploadAddresses_ok {edit : List String → List String} {p : Params} {u : Unit}
    (h : (editUploadAddresses edit : KeeperM ε Unit) w = (.ok u, w'))
    (hp : w.ms.wasm.params = some p) :
    p.codeUploadAccess.permission = .anyOfAddresses ∧
      w'.ms.wasm.params = some (p.withUploadAddresses (edit p.codeUploadAccess.addresses)) := by
  obtain ⟨params, w₁, hget, h₁⟩ := GoM.bind_ok_iff.mp h
  obtain ⟨hparams, rfl⟩ := getParams_ok hget
  obtain rfl : p = params := Option.some.inj (hp.symm.trans hparams)
  obtain ⟨_, w₂, hcheck, h₂⟩ := GoM.bind_ok_iff.mp h₁
  obtain ⟨hpermission, rfl⟩ := GoM.ensure_ok_iff.mp hcheck
  obtain rfl := writeStore_ok_iff.mp h₂
  exact ⟨hpermission, rfl⟩

/-- What is checked after an address. -/
theorem of_decodeAddress_ok {codec : AddressCodec} {field addr : String} {x : Except GoError Unit}
    {u : Unit} (h : (do
      let _ ← decodeAddress codec field addr
      x) = .ok u) : x = .ok () := by
  cases hdecode : decodeAddress codec field addr with
  | error e =>
      rw [hdecode] at h
      cases h
  | ok a =>
      rw [hdecode] at h
      exact h

/-- **What a successful message does to the params.** -/
theorem msgServer_params {out : WasmMsgResponse} {p : Params} (hedits : msg.EditsParams)
    (h : (k.msgServer lib ctx msg).run handler w = (.ok out, w'))
    (hp : w.ms.wasm.params = some p) :
    msg.Accepted k.codec p ∧ w'.ms.wasm.params = some (msg.editParams p) := by
  cases msg with
  | updateParams authority params =>
      obtain ⟨u, hvalid, h₁⟩ := attempt_ok h
      obtain ⟨u', -, h₂⟩ := attempt_ok h₁
      obtain rfl := writeStore_ok_iff.mp (lift_empty_ok h₂)
      exact ⟨of_decodeAddress_ok hvalid, rfl⟩
  | addCodeUploadParamsAddresses authority addresses =>
      obtain ⟨u, hvalid, h₁⟩ := attempt_ok h
      obtain ⟨u', -, h₂⟩ := attempt_ok h₁
      obtain ⟨hpermission, hparams⟩ := editUploadAddresses_ok (lift_empty_ok h₂) hp
      exact ⟨⟨hpermission, of_decodeAddress_ok hvalid⟩, hparams⟩
  | removeCodeUploadParamsAddresses authority addresses =>
      obtain ⟨u, hvalid, h₁⟩ := attempt_ok h
      obtain ⟨u', -, h₂⟩ := attempt_ok h₁
      obtain ⟨hpermission, hparams⟩ := editUploadAddresses_ok (lift_empty_ok h₂) hp
      exact ⟨⟨hpermission, of_decodeAddress_ok hvalid⟩, hparams⟩
  | _ => exact absurd hedits (by simp [WasmMsg.EditsParams])

/-! ## Validity -/

theorem Params.validateBasic_ok_iff {codec : AddressCodec} {p : Params} :
    p.validateBasic codec = .ok () ↔
      validateAccessType p.instantiateDefaultPermission = .ok () ∧
        p.codeUploadAccess.validateBasic codec = .ok () := by
  unfold Params.validateBasic
  cases hdefault : validateAccessType p.instantiateDefaultPermission with
  | error e => simp [Except.mapError, bind, Except.bind]
  | ok u =>
      cases hupload : p.codeUploadAccess.validateBasic codec <;>
        simp [Except.mapError, bind, Except.bind]

/-- Params that list addresses, with another list. -/
theorem Params.withUploadAddresses_valid {codec : AddressCodec} {p : Params}
    {addresses : List String} (hvalid : p.validateBasic codec = .ok ())
    (hany : p.codeUploadAccess.permission = .anyOfAddresses) :
    (p.withUploadAddresses addresses).validateBasic codec = .ok () ↔
      validateBech32Addresses codec addresses = .ok () := by
  have hdefault := (Params.validateBasic_ok_iff.mp hvalid).1
  rw [Params.validateBasic_ok_iff]
  simp only [Params.withUploadAddresses, hdefault, true_and, AccessConfig.validateBasic, hany]
  cases validateBech32Addresses codec addresses <;> simp [Except.mapError]

theorem uploadAddresses_valid {codec : AddressCodec} {p : Params}
    (hvalid : p.validateBasic codec = .ok ())
    (hany : p.codeUploadAccess.permission = .anyOfAddresses) :
    validateBech32Addresses codec p.codeUploadAccess.addresses = .ok () :=
  (Params.withUploadAddresses_valid hvalid hany).mp hvalid

/-- The addresses that are not listed yet come behind, if the message has none twice. -/
theorem addAddresses_eq {addresses new : List String} (hnodup : new.Nodup) :
    addAddresses addresses new = addresses ++ new.filter (· ∉ addresses) := by
  unfold addAddresses
  induction new generalizing addresses with
  | nil => simp
  | cons a rest ih =>
      obtain ⟨hnotin, hrest⟩ := List.nodup_cons.mp hnodup
      rw [List.foldl_cons, ih hrest]
      split_ifs with ha
      · rw [List.filter_cons_of_neg (by simpa using ha)]
      · rw [List.filter_cons_of_pos (by simpa using ha), List.append_assoc, List.singleton_append]
        congr 2
        refine List.filter_congr fun b hb => ?_
        have hne : b ≠ a := fun heq => hnotin (heq ▸ hb)
        simp [hne]

theorem mem_addAddresses {addresses new : List String} (hnodup : new.Nodup) {a : String} :
    a ∈ addAddresses addresses new ↔ a ∈ addresses ∨ a ∈ new := by
  rw [addAddresses_eq hnodup, List.mem_append, List.mem_filter, decide_eq_true_eq]
  by_cases ha : a ∈ addresses <;> simp [ha]

/-- The merged list is valid if it is not too long and no new address is listed in another
spelling. -/
theorem addAddresses_valid_iff {codec : AddressCodec} {addresses new : List String}
    (hlisted : validateBech32Addresses codec addresses = .ok ())
    (hnew : validateBech32Addresses codec new = .ok ()) :
    validateBech32Addresses codec (addAddresses addresses new) = .ok () ↔
      addresses.length + new.countP (· ∉ addresses) ≤ maxAddressCount ∧
        ∀ a ∈ new, a ∉ addresses → ∀ b ∈ addresses, b.toUpper ≠ a.toUpper := by
  obtain ⟨hne, -, hdecode, hnodup⟩ := validateBech32_ok_iff.mp hlisted
  obtain ⟨-, -, hdecode', hnodup'⟩ := validateBech32_ok_iff.mp hnew
  have hfresh : ((new.filter (· ∉ addresses)).map String.toUpper).Nodup :=
    hnodup'.sublist (List.filter_sublist.map _)
  rw [addAddresses_eq hnodup'.of_map, validateBech32_ok_iff, List.length_append,
    ← List.countP_eq_length_filter, List.map_append, List.nodup_append]
  constructor
  · rintro ⟨-, hlength, -, -, -, hapart⟩
    refine ⟨hlength, fun a ha hnot b hb => hapart _ (List.mem_map_of_mem hb) _ ?_⟩
    exact List.mem_map_of_mem (List.mem_filter.mpr ⟨ha, by simpa using hnot⟩)
  · rintro ⟨hlength, hapart⟩
    refine ⟨fun hnil => hne (List.append_eq_nil_iff.mp hnil).1, hlength, fun a ha => ?_, hnodup,
      hfresh, ?_⟩
    · exact (List.mem_append.mp ha).elim (hdecode a) fun h => hdecode' a (List.mem_filter.mp h).1
    · intro x hx y hy
      obtain ⟨b, hb, rfl⟩ := List.mem_map.mp hx
      obtain ⟨a, ha, rfl⟩ := List.mem_map.mp hy
      obtain ⟨hmem, hnot⟩ := List.mem_filter.mp ha
      exact hapart a hmem (by simpa using hnot) b hb

/-- What is left of a valid list is valid if something is left. -/
theorem removeAddresses_valid_iff {codec : AddressCodec} {addresses removed : List String}
    (hlisted : validateBech32Addresses codec addresses = .ok ()) :
    validateBech32Addresses codec (removeAddresses addresses removed) = .ok () ↔
      ∃ a ∈ addresses, a ∉ removed := by
  obtain ⟨-, hlength, hdecode, hnodup⟩ := validateBech32_ok_iff.mp hlisted
  have hsub : (removeAddresses addresses removed).Sublist addresses := List.filter_sublist
  have hleft : removeAddresses addresses removed ≠ [] ↔ ∃ a ∈ addresses, a ∉ removed := by
    simp [removeAddresses]
  rw [validateBech32_ok_iff, hleft]
  constructor
  · rintro ⟨hne, -⟩
    exact hne
  · intro hne
    exact ⟨hne, hsub.length_le.trans hlength, fun a ha => hdecode a (hsub.subset ha),
      hnodup.sublist (hsub.map _)⟩

/-- **Which messages keep valid params valid.** -/
theorem WasmMsg.editParams_valid_iff {codec : AddressCodec} {p : Params}
    (hvalid : p.validateBasic codec = .ok ()) (hedits : msg.EditsParams)
    (haccepted : msg.Accepted codec p) :
    (msg.editParams p).validateBasic codec = .ok () ↔ msg.KeepsValid p := by
  cases msg with
  | updateParams authority params => exact iff_of_true haccepted trivial
  | addCodeUploadParamsAddresses authority addresses =>
      obtain ⟨hany, hnew⟩ := haccepted
      exact (Params.withUploadAddresses_valid hvalid hany).trans
        (addAddresses_valid_iff (uploadAddresses_valid hvalid hany) hnew)
  | removeCodeUploadParamsAddresses authority addresses =>
      obtain ⟨hany, -⟩ := haccepted
      exact (Params.withUploadAddresses_valid hvalid hany).trans
        (removeAddresses_valid_iff (uploadAddresses_valid hvalid hany))
  | _ => exact absurd hedits (by simp [WasmMsg.EditsParams])

/-! ## Sequences of messages -/

/-- The messages one after the other, each in its own context. -/
def Keeper.runMessages (k : Keeper ε C) (lib : MsgLib)
    (handler : Response SdkContext C → KeeperM ε (Option Bytes))
    (msgs : List (SdkContext × WasmMsg)) : KeeperM ε Unit :=
  GoM.forEach msgs fun (ctx, msg) => do
    let _ ← (k.msgServer lib ctx msg).run handler
    return ()

/-- The params after the messages. -/
def paramsAfter (p : Params) (msgs : List (SdkContext × WasmMsg)) : Params :=
  msgs.foldl (fun p msg => msg.2.editParams p) p

/-- Every message keeps the params valid that it finds. -/
def KeepValid (p : Params) : List (SdkContext × WasmMsg) → Prop
  | [] => True
  | msg :: rest => msg.2.KeepsValid p ∧ KeepValid (msg.2.editParams p) rest

theorem runMessages_ok {msgs : List (SdkContext × WasmMsg)} {p : Params}
    (hedits : ∀ msg ∈ msgs, msg.2.EditsParams) (hp : w.ms.wasm.params = some p)
    (hrun : k.runMessages lib handler msgs w = (.ok (), w')) :
    w'.ms.wasm.params = some (paramsAfter p msgs) ∧ (p.validateBasic k.codec = .ok () →
      ((∀ done, done <+: msgs → (paramsAfter p done).validateBasic k.codec = .ok ()) ↔
        KeepValid p msgs)) := by
  induction msgs generalizing w p with
  | nil =>
      obtain ⟨-, rfl⟩ := GoM.pure_ok_iff.mp hrun
      refine ⟨hp, fun hvalid => iff_of_true (fun done hdone => ?_) trivial⟩
      rw [List.prefix_nil.mp hdone]
      exact hvalid
  | cons msg rest ih =>
      obtain ⟨_, w₁, hbody, hrest⟩ := GoM.bind_ok_iff.mp hrun
      obtain ⟨out, w₂, hmsg, hret⟩ := GoM.bind_ok_iff.mp hbody
      obtain ⟨-, rfl⟩ := GoM.pure_ok_iff.mp hret
      have hkind := hedits msg List.mem_cons_self
      obtain ⟨haccepted, hp₁⟩ := msgServer_params hkind hmsg hp
      obtain ⟨hlast, hall⟩ := ih (fun msg' h => hedits msg' (List.mem_cons_of_mem _ h)) hp₁ hrest
      refine ⟨hlast, fun hvalid => ?_⟩
      have hone := WasmMsg.editParams_valid_iff hvalid hkind haccepted
      constructor
      · intro hdone
        have hnext := hdone [msg] ⟨rest, rfl⟩
        exact ⟨hone.mp hnext, (hall hnext).mp fun done h =>
          hdone (msg :: done) (List.cons_prefix_cons.mpr ⟨rfl, h⟩)⟩
      · rintro ⟨hkeeps, hothers⟩ done hdone
        have hnext := hone.mpr hkeeps
        rcases List.prefix_cons_iff.mp hdone with rfl | ⟨done', rfl, hdone'⟩
        · exact hvalid
        · exact (hall hnext).mpr hothers done' hdone'

theorem exportGenesis_params {s : WasmStore} {vm : VMState} {data : GenesisState}
    (h : k.exportGenesis s vm = .ok data) : s.params = some data.params := by
  unfold Keeper.exportGenesis at h
  cases hparams : s.params with
  | none =>
      rw [hparams] at h
      cases h
  | some params =>
      rw [hparams] at h
      cases hcodes : Keeper.exportCodes s vm with
      | error e =>
          rw [hcodes] at h
          cases h
      | ok codes =>
          rw [hcodes] at h
          cases h
          rfl

/-- **The stored params over a sequence of messages.**  Start with valid params and make any number
of successful `MsgUpdateParams`, `MsgAddCodeUploadParamsAddresses` and
`MsgRemoveCodeUploadParamsAddresses`.  The params are valid after every message exactly if, with the
list it finds, every addition brings no more addresses than fifty leave room for and none that is
listed in another spelling, and every removal spares an address; the params at the end are those
that `ExportGenesis` exports. -/
theorem stored_params_valid_iff (k : Keeper ε C) (lib : MsgLib)
    (handler : Response SdkContext C → KeeperM ε (Option Bytes))
    (msgs : List (SdkContext × WasmMsg)) (hedits : ∀ msg ∈ msgs, msg.2.EditsParams)
    (w w' : World (Multistore ε) Shared) (p : Params) (hp : w.ms.wasm.params = some p)
    (hvalid : p.validateBasic k.codec = .ok ())
    (hrun : k.runMessages lib handler msgs w = (.ok (), w')) :
    w'.ms.wasm.params = some (paramsAfter p msgs) ∧
      (∀ vm data, k.exportGenesis w'.ms.wasm vm = .ok data → data.params = paramsAfter p msgs) ∧
      ((∀ done, done <+: msgs → (paramsAfter p done).validateBasic k.codec = .ok ()) ↔
        KeepValid p msgs) := by
  obtain ⟨hlast, hall⟩ := runMessages_ok hedits hp hrun
  refine ⟨hlast, fun vm data hexport => ?_, hall hvalid⟩
  exact Option.some.inj ((exportGenesis_params hexport).symm.trans hlast)

/-! ### A list that becomes too long, and one that becomes empty -/

/-- An address that only differs in the byte. -/
def paramsAddress (n : UInt8) : AccAddress := .single n

/-- A chain on which that is the address of the authority. -/
def paramsKeeper : Keeper Unit Unit :=
  { plainKeeper Unit with authority := markedText (paramsAddress 0) }

/-- Params that let the first address upload. -/
def oneUploader : Params :=
  ⟨⟨.anyOfAddresses, [markedText (paramsAddress 0)]⟩, .everybody⟩

/-- The messages of the authority, from these params. -/
def runParams (msgs : List WasmMsg) :
    Except (Failure GoError) Unit × World (Multistore Unit) Shared :=
  paramsKeeper.runMessages plainLib (fun _ => pure none) (msgs.map fun msg => (ibcCtx, msg))
    (plainWorld { WasmStore.empty with params := some oneUploader } (.infinite 0))

theorem runParams_ok {msgs : List WasmMsg} (h : (runParams msgs).1.toOption = some ()) :
    paramsKeeper.runMessages plainLib (fun _ => pure none) (msgs.map fun msg => (ibcCtx, msg))
      (plainWorld { WasmStore.empty with params := some oneUploader } (.infinite 0)) =
      (.ok (), (runParams msgs).2) :=
  GoM.ok_of_toOption h

/-- Add that many addresses. -/
def addUploaders (n : Nat) : WasmMsg :=
  .addCodeUploadParamsAddresses paramsKeeper.authority
    ((List.range n).map fun i => markedText (paramsAddress (.ofNat (i + 1))))

/-- Take the first address away. -/
def removeUploader : WasmMsg :=
  .removeCodeUploadParamsAddresses paramsKeeper.authority [markedText (paramsAddress 0)]

/-- What `ValidateBasic` says about the params at the end. -/
def verdict (msgs : List WasmMsg) : Option (Except GoError Unit) :=
  (runParams msgs).2.ms.wasm.params.map (·.validateBasic paramsKeeper.codec)

theorem stored_params_valid_two :
    (runParams [addUploaders 2, removeUploader]).2.ms.wasm.params = some
      ⟨⟨.anyOfAddresses, [markedText (paramsAddress 1), markedText (paramsAddress 2)]⟩,
        .everybody⟩ ∧
    ∀ done, done <+: [addUploaders 2, removeUploader].map (fun msg => (ibcCtx, msg)) →
      (paramsAfter oneUploader done).validateBasic paramsKeeper.codec = .ok () := by
  refine ⟨by decide +kernel, ?_⟩
  refine (stored_params_valid_iff paramsKeeper plainLib (fun _ => pure none) _ ?_ _ _
    oneUploader rfl (by decide +kernel) (runParams_ok (by decide +kernel))).2.2.mpr ?_
  · rintro msg hmsg
    rcases List.mem_cons.mp hmsg with rfl | hmsg
    · exact trivial
    · obtain rfl := List.mem_singleton.mp hmsg
      exact trivial
  · refine ⟨⟨by decide +kernel, by decide +kernel⟩, ?_, trivial⟩
    exact ⟨markedText (paramsAddress 1), by decide +kernel, by decide +kernel⟩

/-- **Valid params become invalid**: one successful message makes the list of addresses too long,
and another leaves it empty. -/
theorem stored_params_invalid :
    oneUploader.validateBasic paramsKeeper.codec = .ok () ∧
      (runParams [addUploaders 50]).1 = .ok () ∧
      verdict [addUploaders 50] = some (.error (.wrapped "upload access" (.wrapped "addresses"
        (errInvalidRequest.wrap "total number of addresses is greater than 50")))) ∧
      (runParams [removeUploader]).1 = .ok () ∧
      verdict [removeUploader] = some (.error (.wrapped "upload access" (.wrapped "addresses"
        (errEmpty.wrap "addresses")))) := by
  decide +kernel

end Wasmd
