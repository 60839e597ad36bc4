import Wasmd.Keeper.StoredParams
import Wasmd.Types.PortID

/-!
# Who may upload after the list was edited

`MsgAddCodeUploadParamsAddresses` and `MsgRemoveCodeUploadParamsAddresses` compare texts
(`msg_server.go`).  `Allowed` looks for the text that is written for an account (`params.go`), and
`ValidateBasic` accepts every text that can be read as one.

* `UploadAllowed` — the accounts that may upload.
* `Names` — the accounts that a request names.
* `upload_addresses_iff` — when the messages add and remove the accounts that are named.
-/

namespace Wasmd

open ByteStore Effects Gas

variable {ε C : Type}

/-- `CodeUploadAccess.Allowed` with the stored params. -/
def UploadAllowed (k : Keeper ε C) (s : WasmStore) (a : AccAddress) : Prop :=
  ∃ p, s.params = some p ∧ p.codeUploadAccess.allowed k.codec (some a) = .ok true

instance (k : Keeper ε C) (s : WasmStore) (a : AccAddress) : Decidable (UploadAllowed k s a) :=
  decidable_of_iff ((s.params.map fun p => p.codeUploadAccess.allowed k.codec (some a)) =
    some (.ok true)) (by simp [UploadAllowed])

/-- One of the texts is read as this account. -/
def Names (codec : AddressCodec) (addresses : List String) (a : AccAddress) : Prop :=
  ∃ s ∈ addresses, codec.accAddressFromBech32 s = .ok a

/-! ## Texts and accounts -/

section Texts

variable {codec : AddressCodec} {hrp s : String} {addresses : List String} {a : AccAddress}

theorem Names.of_mem (h : codec.string a ∈ addresses) : Names codec addresses a :=
  ⟨_, h, codec.decode_string a⟩

/-- A text in lower case is the one written for the account. -/
theorem eq_string_iff (hb : codec.IsBech32 hrp) (hs : codec.accAddressFromBech32 s = .ok a) :
    s = codec.string a ↔ s.toLower = s := by
  constructor
  · rintro rfl
    exact hb.lower a
  · intro hlower
    rcases (hb.decode_iff s a).mp hs with rfl | rfl
    · rfl
    · exact toUpper_eq_of_lower (hb.lower a) hlower

/-- Two texts of one account are the same in upper case, so a valid list has one of them. -/
theorem mem_string_iff (hb : codec.IsBech32 hrp)
    (hvalid : validateBech32Addresses codec addresses = .ok ()) (hmem : s ∈ addresses)
    (hs : codec.accAddressFromBech32 s = .ok a) : codec.string a ∈ addresses ↔ s.toLower = s := by
  rw [← eq_string_iff hb hs]
  constructor
  · intro hstring
    have hupper : s.toUpper = (codec.string a).toUpper := by
      rcases (hb.decode_iff s a).mp hs with rfl | rfl
      · rfl
      · rw [← toUpper_toLower, toLower_toUpper, toUpper_toLower]
    exact List.inj_on_of_nodup_map (validateBech32_ok_iff.mp hvalid).2.2.2 hmem hstring hupper
  · rintro rfl
    exact hmem

theorem uploadAllowed_iff {k : Keeper ε C} {store : WasmStore} {p : Params}
    (hp : store.params = some p) (hany : p.codeUploadAccess.permission = .anyOfAddresses) :
    UploadAllowed k store a ↔ k.codec.string a ∈ p.codeUploadAccess.addresses := by
  have hallowed : p.codeUploadAccess.allowed k.codec (some a) =
      .ok (decide (k.codec.string a ∈ p.codeUploadAccess.addresses)) := by
    rw [AccessConfig.allowed, hany]
    rfl
  constructor
  · rintro ⟨p', hp', h⟩
    cases hp.symm.trans hp'
    rw [hallowed] at h
    exact of_decide_eq_true (Except.ok.inj h)
  · intro h
    exact ⟨p, hp, by rw [hallowed, decide_eq_true h]⟩

end Texts

/-- **The accounts that may upload after the list was edited.**  An addition allows the accounts
that it names, beside those that were allowed, exactly if each of its texts is in lower case or of
an account that was allowed.  A removal takes the accounts that it names away exactly if each of its
texts is in lower case or of an account that was not allowed. -/
theorem upload_addresses_iff (k : Keeper ε C) (lib : MsgLib) (hrp : String)
    (hb : k.codec.IsBech32 hrp) (handler : Response SdkContext C → KeeperM ε (Option Bytes))
    (ctx : SdkContext) (authority : String) (addresses : List String) (rsp : WasmMsgResponse)
    (w w' : World (Multistore ε) Shared) (p : Params) (hp : w.ms.wasm.params = some p) :
    ((k.msgServer lib ctx (.addCodeUploadParamsAddresses authority addresses)).run handler w =
        (.ok rsp, w') →
      ((∀ a, UploadAllowed k w'.ms.wasm a ↔
          UploadAllowed k w.ms.wasm a ∨ Names k.codec addresses a) ↔
        ∀ s ∈ addresses, ∀ a, k.codec.accAddressFromBech32 s = .ok a →
          s.toLower = s ∨ UploadAllowed k w.ms.wasm a)) ∧
    ((k.msgServer lib ctx (.removeCodeUploadParamsAddresses authority addresses)).run handler w =
        (.ok rsp, w') →
      ((∀ a, UploadAllowed k w'.ms.wasm a ↔
          UploadAllowed k w.ms.wasm a ∧ ¬ Names k.codec addresses a) ↔
        ∀ s ∈ addresses, ∀ a, k.codec.accAddressFromBech32 s = .ok a →
          s.toLower = s ∨ ¬ UploadAllowed k w.ms.wasm a)) := by
  constructor
  · intro hrun
    have hedits : (WasmMsg.addCodeUploadParamsAddresses authority addresses).EditsParams := trivial
    obtain ⟨⟨hany, hvalid⟩, hp'⟩ := msgServer_params hedits hrun hp
    have hbefore : ∀ a, UploadAllowed k w.ms.wasm a ↔
        k.codec.string a ∈ p.codeUploadAccess.addresses :=
      fun a => uploadAllowed_iff hp hany
    have hafter : ∀ a, UploadAllowed k w'.ms.wasm a ↔
        UploadAllowed k w.ms.wasm a ∨ k.codec.string a ∈ addresses := fun a => by
      rw [uploadAllowed_iff hp' hany, hbefore]
      exact mem_addAddresses (validateBech32_ok_iff.mp hvalid).2.2.2.of_map
    constructor
    · intro hspec s hs a hdecode
      rcases (hafter a).mp ((hspec a).mpr (.inr ⟨s, hs, hdecode⟩)) with hallowed | hmem
      · exact .inr hallowed
      · exact .inl ((mem_string_iff hb hvalid hs hdecode).mp hmem)
    · intro hcond a
      rw [hafter]
      refine or_congr_right' fun hnew => ⟨Names.of_mem, ?_⟩
      rintro ⟨s, hs, hdecode⟩
      exact (mem_string_iff hb hvalid hs hdecode).mpr ((hcond s hs a hdecode).resolve_right hnew)
  · intro hrun
    have hedits : (WasmMsg.removeCodeUploadParamsAddresses authority addresses).EditsParams :=
      trivial
    obtain ⟨⟨hany, hvalid⟩, hp'⟩ := msgServer_params hedits hrun hp
    have hbefore : ∀ a, UploadAllowed k w.ms.wasm a ↔
        k.codec.string a ∈ p.codeUploadAccess.addresses :=
      fun a => uploadAllowed_iff hp hany
    have hafter : ∀ a, UploadAllowed k w'.ms.wasm a ↔
        UploadAllowed k w.ms.wasm a ∧ k.codec.string a ∉ addresses := fun a => by
      rw [uploadAllowed_iff hp' hany, hbefore]
      show _ ∈ p.codeUploadAccess.addresses.filter _ ↔ _
      rw [List.mem_filter, decide_eq_true_eq]
    constructor
    · intro hspec s hs a hdecode
      by_cases hallowed : UploadAllowed k w.ms.wasm a
      · have hgone : ¬ UploadAllowed k w'.ms.wasm a := fun h => ((hspec a).mp h).2 ⟨s, hs, hdecode⟩
        rw [hafter, not_and_not_right] at hgone
        exact .inl ((mem_string_iff hb hvalid hs hdecode).mp (hgone hallowed))
      · exact .inr hallowed
    · intro hcond a
      rw [hafter]
      refine and_congr_right fun hallowed => not_congr ⟨Names.of_mem, ?_⟩
      rintro ⟨s, hs, hdecode⟩
      exact (mem_string_iff hb hvalid hs hdecode).mpr
        ((hcond s hs a hdecode).resolve_right (not_not.mpr hallowed))

/-! ### Addresses in upper case -/

/-- The authority, and an account that may upload. -/
def uploadKeeper : Keeper Unit Unit :=
  { plainKeeper Unit with
    codec := letterCodec
    authority := letterText letterContract }

/-- Another account. -/
def otherUploader : AccAddress := .single 1

/-- The account may upload. -/
def uploadWorld : World (Multistore Unit) Shared :=
  plainWorld { WasmStore.empty with
    params := some ⟨⟨.anyOfAddresses, [letterText letterContract]⟩, .everybody⟩ } (.infinite 0)

/-- The list is edited. -/
def uploadRun (msg : WasmMsg) : KeeperM Unit WasmMsgResponse :=
  (uploadKeeper.msgServer loopMessenger.lib ibcCtx msg).run (fun _ => pure none)

/-- The other account is added, spelled like this. -/
def additionOf (s : String) : WasmMsg :=
  .addCodeUploadParamsAddresses (letterText letterContract) [s]

/-- The account is removed, spelled like this. -/
def removalOf (s : String) : WasmMsg :=
  .removeCodeUploadParamsAddresses (letterText letterContract) [s]

/-- **Addresses in upper case have no effect.**  The account that is removed may still upload, and
the one that is added may not. -/
theorem upload_addresses_ignored :
    (uploadRun (removalOf (letterText letterContract).toUpper) uploadWorld).1.toOption =
      some .empty ∧
      UploadAllowed uploadKeeper
        (uploadRun (removalOf (letterText letterContract).toUpper) uploadWorld).2.ms.wasm
        letterContract ∧
      (uploadRun (additionOf (letterText otherUploader).toUpper) uploadWorld).1.toOption =
        some .empty ∧
      ¬ UploadAllowed uploadKeeper
        (uploadRun (additionOf (letterText otherUploader).toUpper) uploadWorld).2.ms.wasm
        otherUploader := by
  -- the texts are evaluated first: the run reads them again and again
  have hremoved : (letterText letterContract).toUpper =
      "WASM1BCBCBCBCBCBCBCBCBCBCBCBCBCBCBCBCBCBCBCBCBCBCBCBCBCBCBCBCBCBCBCBC" := by decide +kernel
  have hadded : (letterText otherUploader).toUpper = "WASM1AB" := by decide +kernel
  rw [hremoved, hadded]
  decide +kernel

/-- Spelled in lower case, the account that is removed may not upload. -/
theorem upload_addresses_removed :
    uploadRun (removalOf (letterText letterContract)) uploadWorld =
        (.ok .empty, (uploadRun (removalOf (letterText letterContract)) uploadWorld).2) ∧
      ¬ UploadAllowed uploadKeeper
        (uploadRun (removalOf (letterText letterContract)) uploadWorld).2.ms.wasm
          letterContract := by
  have hrun : uploadRun (removalOf (letterText letterContract)) uploadWorld =
      (.ok .empty, (uploadRun (removalOf (letterText letterContract)) uploadWorld).2) :=
    GoM.ok_of_toOption (by decide +kernel)
  have hiff := (upload_addresses_iff uploadKeeper loopMessenger.lib "wasm" letterCodec_isBech32
    (fun _ => pure none) ibcCtx (letterText letterContract)
      [letterText letterContract] .empty uploadWorld
    _ _ rfl).2 hrun
  have hlower : ∀ s ∈ [letterText letterContract], ∀ a, letterCodec.accAddressFromBech32 s = .ok a →
      s.toLower = s ∨ ¬ UploadAllowed uploadKeeper uploadWorld.ms.wasm a := by
    intro s hs a _
    rw [List.mem_singleton.mp hs]
    exact .inl (lower_startedText lower_wasm1 letterContract)
  exact ⟨hrun, fun h => ((hiff.mpr hlower letterContract).mp h).2
    ⟨_, List.mem_singleton_self _, letterCodec.decode_string letterContract⟩⟩

end Wasmd
