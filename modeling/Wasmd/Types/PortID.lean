import Wasmd.Types.Contract
import Mathlib

/-!
# The ports of contracts

`PortIDForContract` and `PortIDForContractV2` write the address of a contract into a port, and
`ContractFromPortID` and `ContractFromPortID2` read it back.

* `AddressCodec.IsBech32` — what is assumed of bech32: texts are written in lower case and read in
  lower and in upper case.
* `one_port_iff` — which ports lead to a contract: the one written for it, and the same in upper
  case.
-/

namespace Wasmd

/-! ## Lower and upper case -/

theorem toList_toUpper (s : String) : s.toUpper.toList = s.toList.map Char.toUpper := by
  simp [String.toUpper]

theorem toList_toLower (s : String) : s.toLower.toList = s.toList.map Char.toLower := by
  simp [String.toLower]

theorem lower_of_chars {s : String} (h : s.toList.map Char.toLower = s.toList) : s.toLower = s :=
  String.toList_inj.mp ((toList_toLower s).trans h)

theorem toLower_toUpper (s : String) : s.toUpper.toLower = s.toLower := by
  refine String.toList_inj.mp ?_
  simp [toList_toLower, toList_toUpper]

theorem toUpper_toLower (s : String) : s.toLower.toUpper = s.toUpper := by
  refine String.toList_inj.mp ?_
  simp [toList_toLower, toList_toUpper]

theorem toLower_append (s t : String) : (s ++ t).toLower = s.toLower ++ t.toLower := by
  refine String.toList_inj.mp ?_
  simp [toList_toLower]

theorem toUpper_append (s t : String) : (s ++ t).toUpper = s.toUpper ++ t.toUpper := by
  refine String.toList_inj.mp ?_
  simp [toList_toUpper]

theorem length_toList_toUpper (s : String) : s.toUpper.toList.length = s.toList.length := by
  rw [toList_toUpper, List.length_map]

/-- A text in lower case that is the upper case of `s` is `s`. -/
theorem toUpper_eq_of_lower {s : String} (hs : s.toLower = s) (h : s.toUpper.toLower = s.toUpper) :
    s.toUpper = s := by
  rw [← h, toLower_toUpper, hs]

/-- A text written behind another determines both, when the first ones are of the same length. -/
theorem append_inj_of_length {s s' t t' : String} (h : s ++ t = s' ++ t')
    (hlen : s.toList.length = s'.toList.length) : s = s' ∧ t = t' := by
  have hlist := congrArg String.toList h
  rw [String.toList_append, String.toList_append] at hlist
  obtain ⟨hs, ht⟩ := List.append_inj hlist hlen
  exact ⟨String.toList_inj.mp hs, String.toList_inj.mp ht⟩

theorem lower_portIDPrefix : portIDPrefix.toLower = portIDPrefix := lower_of_chars (by decide)

theorem lower_portIDPrefixV2 : portIDPrefixV2.toLower = portIDPrefixV2 := lower_of_chars (by decide)

/-! ## Bech32 -/

/-- The addresses of a chain with the prefix `hrp` in bech32: the text of an address is in lower
case and starts with the prefix, and it is accepted in lower and in upper case. -/
structure AddressCodec.IsBech32 (codec : AddressCodec) (hrp : String) : Prop where
  lower : ∀ a, (codec.string a).toLower = codec.string a
  starts : ∀ a, ∃ rest, codec.string a = hrp ++ rest
  decode_iff : ∀ s a, codec.accAddressFromBech32 s = .ok a ↔
    s = codec.string a ∨ s = (codec.string a).toUpper

section Ports

variable {codec : AddressCodec} {hrp p : String} {a : AccAddress}

/-- The lower case of a port is the lower case of what is behind its start. -/
theorem lower_port_iff {start rest : String} (hstart : start.toLower = start) :
    (start ++ rest).toLower = start ++ rest ↔ rest.toLower = rest := by
  rw [toLower_append, hstart]
  constructor
  · exact fun h => (append_inj_of_length h rfl).2
  · exact fun h => by rw [h]

theorem contractFromPortID_portIDForContract (codec : AddressCodec) (a : AccAddress) :
    contractFromPortID codec (portIDForContract codec a) = .ok a :=
  contractFromPortID_ok_iff.mpr ⟨_, rfl, codec.decode_string a⟩

theorem portIDForContractV2_eq {rest : String} (h : codec.string a = hrp ++ rest) :
    portIDForContractV2 codec hrp a = portIDPrefixV2 ++ rest := by
  rw [portIDForContractV2, h, trimPrefix_append]

theorem contractFromPortID2_portIDForContractV2 (h : codec.IsBech32 hrp) (a : AccAddress) :
    contractFromPortID2 codec hrp (portIDForContractV2 codec hrp a) = .ok a := by
  obtain ⟨rest, hrest⟩ := h.starts a
  rw [portIDForContractV2_eq hrest]
  exact contractFromPort_ok_iff.mpr ⟨rest, rfl, hrest ▸ codec.decode_string a⟩

/-- A port of IBC v1 that leads to a contract. -/
theorem eq_portIDForContract_iff (h : codec.IsBech32 hrp)
    (hp : contractFromPortID codec p = .ok a) : p = portIDForContract codec a ↔ p.toLower = p := by
  obtain ⟨rest, rfl, hdecode⟩ := contractFromPortID_ok_iff.mp hp
  rw [lower_port_iff lower_portIDPrefix, portIDForContract]
  rcases (h.decode_iff rest a).mp hdecode with rfl | rfl
  · exact iff_of_true rfl (h.lower a)
  · constructor
    · intro heq
      rw [(append_inj_of_length heq rfl).2]
      exact h.lower a
    · intro hlower
      rw [toUpper_eq_of_lower (h.lower a) hlower]

/-- A port of IBC v2 that leads to a contract: its text is the one written for the contract, or the
prefix of the chain is its own upper case. -/
theorem contractFromPortID2_cases (h : codec.IsBech32 hrp)
    (hp : contractFromPortID2 codec hrp p = .ok a) :
    ∃ rest, codec.string a = hrp ++ rest ∧
      (p = portIDPrefixV2 ++ rest ∨ hrp.toUpper = hrp ∧ p = portIDPrefixV2 ++ rest.toUpper) := by
  obtain ⟨tail, rfl, hdecode⟩ := contractFromPort_ok_iff.mp hp
  obtain ⟨rest, hrest⟩ := h.starts a
  refine ⟨rest, hrest, ?_⟩
  rw [h.decode_iff, hrest, toUpper_append] at hdecode
  rcases hdecode with heq | heq
  · exact .inl (by rw [(append_inj_of_length heq rfl).2])
  · obtain ⟨hhrp, htail⟩ := append_inj_of_length heq (length_toList_toUpper hrp).symm
    exact .inr ⟨hhrp.symm, by rw [htail]⟩

theorem eq_portIDForContractV2_iff (h : codec.IsBech32 hrp)
    (hp : contractFromPortID2 codec hrp p = .ok a) :
    p = portIDForContractV2 codec hrp a ↔ p.toLower = p := by
  obtain ⟨rest, hrest, hcases⟩ := contractFromPortID2_cases h hp
  have hlower : rest.toLower = rest := by
    have hall := h.lower a
    rw [hrest, toLower_append] at hall
    exact (append_inj_of_length hall (by rw [toList_toLower, List.length_map])).2
  rw [portIDForContractV2_eq hrest]
  rcases hcases with rfl | ⟨-, rfl⟩
  · exact iff_of_true rfl ((lower_port_iff lower_portIDPrefixV2).mpr hlower)
  · rw [lower_port_iff lower_portIDPrefixV2]
    constructor
    · intro heq
      rw [(append_inj_of_length heq rfl).2]
      exact hlower
    · intro hupper
      rw [toUpper_eq_of_lower hlower hupper]

theorem eq_portIDForContractV2 (h : codec.IsBech32 hrp) (hhrp : hrp.toUpper ≠ hrp)
    (hp : contractFromPortID2 codec hrp p = .ok a) : p = portIDForContractV2 codec hrp a := by
  obtain ⟨rest, hrest, hcases⟩ := contractFromPortID2_cases h hp
  rw [portIDForContractV2_eq hrest]
  exact hcases.resolve_right fun hupper => hhrp hupper.1

end Ports

/-- **The ports that lead to a contract.**  The port written for a contract leads to it.  A port
that leads to a contract is the one written for it exactly if it has no upper case; with a prefix
that has a letter, a port of IBC v2 always is.  No port belongs to both versions. -/
theorem one_port_iff (codec : AddressCodec) (hrp : String) (h : codec.IsBech32 hrp) :
    (∀ a, contractFromPortID codec (portIDForContract codec a) = .ok a ∧
      contractFromPortID2 codec hrp (portIDForContractV2 codec hrp a) = .ok a) ∧
    (∀ p a, contractFromPortID codec p = .ok a →
      (p = portIDForContract codec a ↔ p.toLower = p)) ∧
    (∀ p a, contractFromPortID2 codec hrp p = .ok a →
      (p = portIDForContractV2 codec hrp a ↔ p.toLower = p) ∧
      (hrp.toUpper ≠ hrp → p = portIDForContractV2 codec hrp a)) ∧
    ∀ p a b, contractFromPortID codec p = .ok a → contractFromPortID2 codec hrp p ≠ .ok b := by
  refine ⟨fun a => ⟨contractFromPortID_portIDForContract codec a,
    contractFromPortID2_portIDForContractV2 h a⟩, fun p a hp => eq_portIDForContract_iff h hp,
    fun p a hp => ⟨eq_portIDForContractV2_iff h hp, fun hhrp => eq_portIDForContractV2 h hhrp hp⟩,
    ?_⟩
  intro p a b hp hp'
  obtain ⟨rest, rfl, -⟩ := contractFromPortID_ok_iff.mp hp
  obtain ⟨rest', heq, -⟩ := contractFromPort_ok_iff.mp hp'
  exact portIDPrefix_ne rest rest' heq

/-! ### A codec with letters

Every byte is written as two of the letters from `a` to `p`. -/

/-- The letter of a number below 16. -/
def letter (n : Nat) : Char := Char.ofNat (97 + n)

/-- The number of a letter. -/
def ofLetter (c : Char) : Nat := c.toNat - 97

/-- The bytes in letters. -/
def letters (bz : ByteStore.Bytes) : List Char :=
  bz.flatMap fun b => [letter (b.toNat / 16), letter (b.toNat % 16)]

/-- Two letters are a byte. -/
def ofLetters : List Char → ByteStore.Bytes
  | c :: d :: rest => UInt8.ofNat (ofLetter c * 16 + ofLetter d) :: ofLetters rest
  | _ => []

theorem ofLetter_letter {n : Nat} (h : n < 16) : ofLetter (letter n) = n := by
  have hvalid : (97 + n).isValidChar := Or.inl (by omega)
  rw [ofLetter, letter, Char.toNat_ofNat, if_pos hvalid]
  omega

theorem ofLetters_letters (bz : ByteStore.Bytes) : ofLetters (letters bz) = bz := by
  induction bz with
  | nil => rfl
  | cons b rest ih =>
      have hb : b.toNat < 256 := b.toNat_lt
      show UInt8.ofNat (ofLetter (letter (b.toNat / 16)) * 16 + ofLetter (letter (b.toNat % 16))) ::
        ofLetters (letters rest) = b :: rest
      rw [ih, ofLetter_letter (by omega), ofLetter_letter (by omega), Nat.div_add_mod',
        UInt8.ofNat_toNat]

theorem toLower_letter : ∀ n < 16, (letter n).toLower = letter n := by decide

theorem toLower_letters (bz : ByteStore.Bytes) : (letters bz).map Char.toLower = letters bz := by
  induction bz with
  | nil => rfl
  | cons b rest ih =>
      have hb : b.toNat < 256 := b.toNat_lt
      show _ :: _ :: (letters rest).map Char.toLower = _ :: _ :: letters rest
      rw [ih, toLower_letter _ (by omega), toLower_letter _ (by omega)]

/-- The address behind a start. -/
def startedText (start : String) (a : AccAddress) : String :=
  start ++ String.ofList (letters a.bytes)

/-- The address of a text in lower case. -/
def ofStartedText (start s : String) : Except String AccAddress :=
  match AccAddress.ofBytes? (ofLetters (s.toList.drop start.toList.length)) with
  | some a => if startedText start a = s then .ok a else .error "decoding bech32 failed"
  | none => .error "decoding bech32 failed"

/-- A text in upper case is read in lower case. -/
def readStartedText (start s : String) : Except String AccAddress :=
  if s.toUpper = s then ofStartedText start s.toLower else ofStartedText start s

theorem ofStartedText_ok_iff {start s : String} {a : AccAddress} :
    ofStartedText start s = .ok a ↔ s = startedText start a := by
  constructor
  · intro h
    unfold ofStartedText at h
    split at h
    · split at h
      · rename_i htext
        cases h
        exact htext.symm
      · cases h
    · cases h
  · rintro rfl
    have hdrop : (startedText start a).toList.drop start.toList.length = letters a.bytes := by
      simp [startedText]
    unfold ofStartedText
    rw [hdrop, ofLetters_letters, AccAddress.ofBytes?_bytes]
    exact if_pos rfl

theorem lower_startedText {start : String} (hstart : start.toLower = start) (a : AccAddress) :
    (startedText start a).toLower = startedText start a := by
  have hletters : (String.ofList (letters a.bytes)).toLower = String.ofList (letters a.bytes) :=
    lower_of_chars (by rw [String.toList_ofList, toLower_letters])
  rw [startedText, toLower_append, hstart, hletters]

theorem readStartedText_ok_iff {start : String} (hstart : start.toLower = start) (s : String)
    (a : AccAddress) :
    readStartedText start s = .ok a ↔
      s = startedText start a ∨ s = (startedText start a).toUpper := by
  unfold readStartedText
  split
  · rename_i hupper
    rw [ofStartedText_ok_iff]
    constructor
    · intro h
      exact .inr (by rw [← h, toUpper_toLower, hupper])
    · rintro (rfl | rfl)
      · exact lower_startedText hstart a
      · rw [toLower_toUpper, lower_startedText hstart]
  · rename_i hupper
    rw [ofStartedText_ok_iff]
    constructor
    · exact .inl
    · rintro (rfl | rfl)
      · rfl
      · exact absurd (by rw [← toUpper_toLower, toLower_toUpper, toUpper_toLower]) hupper

theorem readStartedText_empty {start : String} (hstart : start.toLower = start) (hne : start ≠ "") :
    ∃ e, readStartedText start "" = .error e := by
  have hlist : start.toList ≠ [] := fun h => hne (String.toList_inj.mp h)
  have hno : ∀ a, readStartedText start "" ≠ .ok a := by
    intro a ha
    rcases (readStartedText_ok_iff hstart "" a).mp ha with h | h
    · have hempty := congrArg String.toList h
      simp [startedText, hlist] at hempty
    · have hempty := congrArg String.toList h
      simp [startedText, toList_toUpper, hlist] at hempty
  cases h : readStartedText start "" with
  | ok a => exact absurd h (hno a)
  | error e => exact ⟨e, rfl⟩

/-- The codec whose texts have this start. -/
def startedCodec (start : String) (hstart : start.toLower = start) (hne : start ≠ "") :
    AddressCodec where
  string := startedText start
  accAddressFromBech32 := readStartedText start
  decode_string a := (readStartedText_ok_iff hstart _ a).mpr (.inl rfl)
  decode_empty := readStartedText_empty hstart hne

theorem startedCodec_isBech32 {start hrp rest : String} (hstart : start.toLower = start)
    (hne : start ≠ "") (h : start = hrp ++ rest) :
    (startedCodec start hstart hne).IsBech32 hrp where
  lower := lower_startedText hstart
  starts a := ⟨rest ++ String.ofList (letters a.bytes), by
    rw [← String.append_assoc, ← h]
    rfl⟩
  decode_iff := readStartedText_ok_iff hstart

/-! ### The prefix of the chain -/

theorem lower_wasm1 : "wasm1".toLower = "wasm1" := lower_of_chars (by decide)

/-- The address behind the prefix `wasm1`. -/
def letterText : AccAddress → String := startedText "wasm1"

/-- The codec. -/
def letterCodec : AddressCodec := startedCodec "wasm1" lower_wasm1 (by decide)

theorem letterCodec_isBech32 : letterCodec.IsBech32 "wasm" :=
  startedCodec_isBech32 lower_wasm1 (by decide) (by decide : "wasm1" = "wasm" ++ "1")

/-- A contract. -/
def letterContract : AccAddress := .thirtyTwo 18

theorem one_port_iff_letters :
    letterCodec.IsBech32 "wasm" ∧
      contractFromPortID letterCodec (portIDForContract letterCodec letterContract)
        = .ok letterContract :=
  ⟨letterCodec_isBech32,
    ((one_port_iff letterCodec "wasm" letterCodec_isBech32).1 letterContract).1⟩

/-- **The port in upper case** leads to the contract, and is not the one written for it. -/
theorem second_port :
    letterCodec.IsBech32 "wasm" ∧
      contractFromPortID letterCodec (portIDPrefix ++ (letterText letterContract).toUpper)
        = .ok letterContract ∧
      portIDPrefix ++ (letterText letterContract).toUpper
        ≠ portIDForContract letterCodec letterContract := by
  refine ⟨letterCodec_isBech32, ?_, ?_⟩
  · exact contractFromPortID_ok_iff.mpr
      ⟨_, rfl, (readStartedText_ok_iff lower_wasm1 _ _).mpr (.inr rfl)⟩
  · intro h
    have hupper : (letterText letterContract).toUpper = letterText letterContract :=
      (append_inj_of_length h rfl).2
    have hfirst := congrArg (fun s : String => s.toList.head?) hupper
    simp [toList_toUpper, letterText, startedText] at hfirst

end Wasmd
