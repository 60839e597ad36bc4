import Wasmd.Keeper.Encoders
import Wasmd.Lib.CoinSum
import Mathlib.Data.UInt

/-!
# What the encoders convert

The coins and the packets of contracts on their way to other modules
(`handler_plugin_encoders.go`).

* `convertCoinsFrom_ok_iff` — the loop over coins reads them all and adds them.
* `coin_conversion_exact` — which lists of coins are refused, and what the others become.
* `unixSeconds_eq_iff` — which times survive the detour through a signed number.
* `encode_ibc2_send_iff` — a packet of version two is preserved exactly for these times.
-/

namespace Wasmd

open ByteStore Effects Gas

variable {ε : Type}

namespace EncoderLib

variable (lib : EncoderLib ε)

/-! ## Coins -/

/-- The amount does not parse, is negative, or the denomination is invalid. -/
def Refused (coin : Wasmvm.Coin) : Prop :=
  lib.newIntFromString coin.amount = none ∨
    (∃ n, lib.newIntFromString coin.amount = some n ∧ n < 0) ∨ Coins.validDenom coin.denom = false

/-- The coin as it is read; what does not parse counts as zero. -/
def readCoin (coin : Wasmvm.Coin) : Coins.Coin :=
  ⟨coin.denom, (lib.newIntFromString coin.amount).getD 0⟩

/-- What a list of coins holds of a denomination. -/
def total (coins : List Wasmvm.Coin) (denom : String) : Int :=
  Coins.total (coins.map lib.readCoin) denom

variable {lib}

theorem validateSdkCoin_ok_iff {c : Coins.Coin} {u : Unit} :
    validateSdkCoin c = .ok u ↔ Coins.Addable c := by
  unfold validateSdkCoin Coins.Addable
  by_cases hdenom : Coins.validDenom c.denom = true
  · rw [if_neg (not_not.mpr hdenom)]
    by_cases hneg : c.amount < 0
    · rw [if_pos hneg]
      exact ⟨nofun, fun h => absurd h.2 (not_le.mpr hneg)⟩
    · rw [if_neg hneg]
      exact ⟨fun _ => ⟨hdenom, not_lt.mp hneg⟩, fun _ => rfl⟩
  · rw [if_pos hdenom]
    exact ⟨nofun, fun h => absurd h.1 hdenom⟩

theorem not_refused_iff {coin : Wasmvm.Coin} :
    ¬ lib.Refused coin ↔
      (lib.newIntFromString coin.amount).isSome ∧ Coins.Addable (lib.readCoin coin) := by
  unfold Refused Coins.Addable readCoin
  cases lib.newIntFromString coin.amount with
  | none => simp
  | some n => simp [and_comm]

theorem convertCoin_ok_iff {coin : Wasmvm.Coin} {c : Coins.Coin} {w w' : World ε Unit} :
    lib.convertCoin coin w = (.ok c, w') ↔ ¬ lib.Refused coin ∧ c = lib.readCoin coin ∧ w' = w := by
  rw [not_refused_iff]
  unfold convertCoin readCoin
  cases lib.newIntFromString coin.amount with
  | none =>
      refine ⟨fun h => ?_, fun h => absurd h.1.1 Bool.false_ne_true⟩
      cases h
  | some n =>
      simp only [GoM.bind_ok_iff, GoM.ofExcept_ok_iff, GoM.pure_ok_iff, except_mapError_ok_iff,
        validateSdkCoin_ok_iff, Option.getD_some, Option.isSome_some, true_and]
      constructor
      · rintro ⟨u, w₁, ⟨hok, rfl⟩, rfl, rfl⟩
        exact ⟨hok, rfl, rfl⟩
      · rintro ⟨hok, rfl, rfl⟩
        exact ⟨(), w', ⟨hok, rfl⟩, rfl, rfl⟩

/-- **The loop over coins**: it returns if no coin is refused and the coins as read can be added. -/
theorem convertCoinsFrom_ok_iff {toSend r : Coins.CoinSet} {coins : List Wasmvm.Coin}
    {w w' : World ε Unit} :
    lib.convertCoinsFrom toSend coins w = (.ok r, w') ↔
      (∀ coin ∈ coins, ¬ lib.Refused coin) ∧
        (∃ s, (coins.map lib.readCoin).foldlM lib.addCoin toSend = .ok s ∧ r = lib.sortCoins s) ∧
        w' = w := by
  induction coins generalizing toSend w with
  | nil =>
      unfold convertCoinsFrom
      rw [GoM.pure_ok_iff]
      constructor
      · rintro ⟨rfl, rfl⟩
        exact ⟨by simp, ⟨toSend, rfl, rfl⟩, rfl⟩
      · rintro ⟨-, ⟨s, hs, rfl⟩, rfl⟩
        cases hs
        exact ⟨rfl, rfl⟩
  | cons coin rest ih =>
      unfold convertCoinsFrom
      simp only [GoM.bind_ok_iff, convertCoin_ok_iff, GoM.ofExcept_ok_iff,
        except_mapError_ok_iff, ih, List.forall_mem_cons, List.map_cons, List.foldlM_cons,
        except_bind_ok_iff]
      constructor
      · rintro ⟨c, w₁, ⟨hcoin, rfl, rfl⟩, cs, w₂, ⟨hadd, rfl⟩, hrest, ⟨s, hs, rfl⟩, rfl⟩
        exact ⟨⟨hcoin, hrest⟩, ⟨s, ⟨cs, hadd, hs⟩, rfl⟩, rfl⟩
      · rintro ⟨⟨hcoin, hrest⟩, ⟨s, ⟨cs, hadd, hs⟩, rfl⟩, rfl⟩
        exact ⟨_, _, ⟨hcoin, rfl, rfl⟩, cs, _, ⟨hadd, rfl⟩, hrest, ⟨s, hs, rfl⟩, rfl⟩

/-- What is assumed of the coins of the SDK: adding is exact, and sorting leaves a sorted set
alone. -/
structure CoinsExact (lib : EncoderLib ε) : Prop where
  add : Coins.AddsExactly lib.addCoin
  sort : ∀ cs, Coins.Valid cs → lib.sortCoins cs = cs

/-- A list without refused coins becomes the valid set with its totals. -/
theorem convertCoins_run (h : lib.CoinsExact) {coins : List Wasmvm.Coin}
    (hfit : ∀ d, lib.total coins d < Coins.maxAmount) (hok : ∀ coin ∈ coins, ¬ lib.Refused coin)
    (w : World ε Unit) :
    ∃ r, lib.convertCoins coins w = (.ok r, w) ∧ Coins.Valid r ∧
      ∀ d, Coins.amountOf r d = lib.total coins d := by
  have haddable : ∀ c ∈ coins.map lib.readCoin, Coins.Addable c := by
    intro c hc
    obtain ⟨coin, hcoin, rfl⟩ := List.mem_map.mp hc
    exact (not_refused_iff.mp (hok coin hcoin)).2
  have hempty : Coins.Valid [] := ⟨List.Pairwise.nil, by simp⟩
  have hfits : ∀ d, Coins.amountOf [] d + Coins.total (coins.map lib.readCoin) d <
      Coins.maxAmount := by
    intro d
    rw [Coins.amountOf_nil, zero_add]
    exact hfit d
  obtain ⟨r, hrun, hvalid, hamount⟩ := Coins.sum_exact h.add haddable hempty hfits
  refine ⟨r, ?_, hvalid, fun d => ?_⟩
  · exact convertCoinsFrom_ok_iff.mpr ⟨hok, ⟨r, hrun, (h.sort r hvalid).symm⟩, rfl⟩
  · rw [hamount, Coins.amountOf_nil, zero_add]
    rfl

theorem total_eq_of_perm {coins coins' : List Wasmvm.Coin} (h : coins.Perm coins') (d : String) :
    lib.total coins d = lib.total coins' d :=
  Coins.total_perm (h.map _) d

/-- What `ConvertWasmCoinsToSdkCoins` makes of a list of coins. -/
structure ConvertsExactly (lib : EncoderLib ε) (coins : List Wasmvm.Coin) (w : World ε Unit) :
    Prop where
  fails_iff : (∃ e, (lib.convertCoins coins w).1 = .error e) ↔ ∃ coin ∈ coins, lib.Refused coin
  sorted : ∀ r, (lib.convertCoins coins w).1 = .ok r → r.Pairwise fun a b => a.denom < b.denom
  positive : ∀ r, (lib.convertCoins coins w).1 = .ok r → ∀ c ∈ r, 0 < c.amount
  exact : ∀ r, (lib.convertCoins coins w).1 = .ok r → ∀ d, Coins.amountOf r d = lib.total coins d
  zero : ∀ r, (lib.convertCoins coins w).1 = .ok r →
    ∀ d, lib.total coins d = 0 → ∀ c ∈ r, c.denom ≠ d
  perm : ∀ coins', coins.Perm coins' →
    (lib.convertCoins coins' w).1.toOption = (lib.convertCoins coins w).1.toOption

/-- **Coins are converted exactly, in any order.** -/
theorem coin_conversion_exact (lib : EncoderLib ε) (h : lib.CoinsExact) (coins : List Wasmvm.Coin)
    (hfit : ∀ d, lib.total coins d < 2 ^ 256) (w : World ε Unit) : lib.ConvertsExactly coins w := by
  by_cases hok : ∀ coin ∈ coins, ¬ lib.Refused coin
  · obtain ⟨r, hrun, hvalid, hamount⟩ := convertCoins_run h hfit hok w
    have hr : ∀ r', (lib.convertCoins coins w).1 = .ok r' → r' = r := by
      intro r' hr'
      rw [hrun] at hr'
      exact (Except.ok.inj hr').symm
    refine ⟨⟨?_, ?_⟩, ?_, ?_, ?_, ?_, ?_⟩
    · rintro ⟨e, he⟩
      rw [hrun] at he
      cases he
    · rintro ⟨coin, hcoin, hrefused⟩
      exact absurd hrefused (hok coin hcoin)
    · intro r' hr'
      exact hr r' hr' ▸ hvalid.sorted
    · intro r' hr' c hc
      exact (hvalid.coin c (hr r' hr' ▸ hc)).2
    · intro r' hr'
      exact hr r' hr' ▸ hamount
    · intro r' hr' d hzero c hc hd
      have hmem : c ∈ r := hr r' hr' ▸ hc
      have hpos := hvalid.amountOf_pos_iff.mpr ⟨c, hmem, hd⟩
      rw [hamount, hzero] at hpos
      exact lt_irrefl _ hpos
    · intro coins' hperm
      have hfit' : ∀ d, lib.total coins' d < Coins.maxAmount := fun d => by
        rw [← total_eq_of_perm hperm]
        exact hfit d
      obtain ⟨r', hrun', hvalid', hamount'⟩ :=
        convertCoins_run h hfit' (fun coin hcoin => hok coin (hperm.mem_iff.mpr hcoin)) w
      rw [hrun, hrun',
        hvalid'.ext hvalid fun d => by rw [hamount, hamount', total_eq_of_perm hperm]]
  · push Not at hok
    obtain ⟨coin, hcoin, hrefused⟩ := hok
    have hfails : ∀ {l : List Wasmvm.Coin}, coin ∈ l →
        ∃ e, (lib.convertCoins l w).1 = .error e := by
      intro l hl
      cases hres : lib.convertCoins l w with
      | mk res w' =>
          cases res with
          | error e => exact ⟨e, rfl⟩
          | ok r => exact absurd hrefused ((convertCoinsFrom_ok_iff.mp hres).1 coin hl)
    obtain ⟨e, he⟩ := hfails hcoin
    have hno : ∀ r, (lib.convertCoins coins w).1 ≠ .ok r := by
      intro r hr
      rw [he] at hr
      cases hr
    refine ⟨⟨fun _ => ⟨coin, hcoin, hrefused⟩, fun _ => ⟨e, he⟩⟩, fun r hr => absurd hr (hno r),
      fun r hr => absurd hr (hno r), fun r hr => absurd hr (hno r),
        fun r hr => absurd hr (hno r), ?_⟩
    intro coins' hperm
    obtain ⟨e', he'⟩ := hfails (hperm.mem_iff.mp hcoin)
    rw [he, he']
    rfl

/-- A number in decimals. -/
def readDecimals (s : String) : Option Int :=
  s.toList.foldlM (fun n c => if c.isDigit then some (10 * n + (c.toNat - '0'.toNat)) else none) 0

/-- The surroundings of the encoders with coins that are written in decimals. -/
def coinLib : EncoderLib Unit :=
  { MessageEncoders.plainLib with
    newIntFromString := readDecimals
    addCoin := Coins.add
    sortCoins := id }

theorem coinsExact_coinLib : coinLib.CoinsExact := ⟨Coins.addsExactly_add, fun _ _ => rfl⟩

/-- Two amounts of one denomination around a zero. -/
def mixedCoins : List Wasmvm.Coin := [⟨"5", "atom"⟩, ⟨"0", "stake"⟩, ⟨"7", "atom"⟩]

theorem total_mixedCoins (d : String) : coinLib.total mixedCoins d < 2 ^ 256 := by
  have hread : mixedCoins.map coinLib.readCoin = [⟨"atom", 5⟩, ⟨"stake", 0⟩, ⟨"atom", 7⟩] := by
    decide +kernel
  unfold total
  rw [hread, Coins.total_cons, Coins.total_cons, Coins.total_cons]
  unfold Coins.total
  split_ifs <;> norm_num

theorem coin_conversion_exact_mixed :
    (coinLib.convertCoins mixedCoins ⟨(), .infinite 0, [], ()⟩).1 = .ok [⟨"atom", 12⟩] ∧
      coinLib.ConvertsExactly mixedCoins ⟨(), .infinite 0, [], ()⟩ :=
  ⟨by decide +kernel,
    coin_conversion_exact coinLib coinsExact_coinLib mixedCoins total_mixedCoins _⟩

/-! ## Packets of version two -/

/-- A time as a signed number: the upper half of the range is negative. -/
theorem toInt_toInt64 (t : UInt64) :
    t.toInt64.toInt = if t.toNat < 2 ^ 63 then (t.toNat : Int) else t.toNat - 2 ^ 64 := by
  have hbits : t.toInt64.toInt = t.toBitVec.toInt := rfl
  rw [hbits, BitVec.toInt_eq_toNat_cond, UInt64.toNat_toBitVec]
  split_ifs <;> first | rfl | omega

theorem toNat_ofInt (i : Int) : ((UInt64.ofInt i).toNat : Int) = i % 2 ^ 64 := by
  unfold UInt64.ofInt
  simp only [UInt64.toNat_ofNat']
  omega

/-- **Which times survive**: those that are not negative as signed numbers. -/
theorem unixSeconds_eq_iff (t : UInt64) :
    (unixSeconds t).toNat = t.toNat / 1000000000 ↔ t.toNat < 2 ^ 63 := by
  have hlt := t.toNat_lt
  have hval : ((unixSeconds t).toNat : Int) = t.toInt64.toInt.fdiv 1000000000 % 2 ^ 64 :=
    toNat_ofInt _
  rw [toInt_toInt64, Int.fdiv_eq_ediv_of_nonneg _ (by decide)] at hval
  split_ifs at hval with hsmall
  · omega
  · omega

/-- A payload that is the given one, field by field. -/
def SamePayload (given : Wasmvm.Payload) (sent : PayloadV2) : Prop :=
  sent.sourcePort = given.sourcePort ∧ sent.destinationPort = given.destinationPort ∧
    sent.version = given.version ∧ sent.encoding = given.encoding ∧ sent.value = given.value

theorem convertPayloads_same (payloads : List Wasmvm.Payload) :
    List.Forall₂ SamePayload payloads (convertPayloads payloads) := by
  -- the induction is on the payloads that are left; what is converted already stands before them
  have hloop : ∀ (done : List Wasmvm.Payload) (acc : List PayloadV2),
      List.Forall₂ SamePayload done acc →
      List.Forall₂ SamePayload (done ++ payloads) (payloads.foldl (fun acc payload => acc ++ [
        { sourcePort := payload.sourcePort
          destinationPort := payload.destinationPort
          version := payload.version
          encoding := payload.encoding
          value := payload.value }]) acc) := by
    induction payloads with
    | nil =>
        intro done acc h
        rw [List.append_nil]
        exact h
    | cons payload rest ih =>
        intro done acc h
        rw [List.append_cons]
        refine ih _ _ (List.rel_append h ?_)
        exact List.Forall₂.cons ⟨rfl, rfl, rfl, rfl, rfl⟩ List.Forall₂.nil
  exact hloop [] [] List.Forall₂.nil

/-- The message sends the packet: its payloads in order, through its client, signed by the sender,
and with its timeout rounded down to seconds. -/
def Preserves (codec : AddressCodec) (sender : AccAddress) (packet : Wasmvm.IBC2SendPacketMsg) :
    ForeignMsg → Prop
  | .sendPacketV2 sourceClient timeoutTimestamp payloads signer =>
    List.Forall₂ SamePayload packet.payloads payloads ∧ sourceClient = packet.sourceClient ∧
      signer = codec.string sender ∧ timeoutTimestamp.toNat = packet.timeout.toNat / 10 ^ 9
  | _ => False

/-- **A packet of version two is preserved** exactly when its timeout is a signed number.
Everything but the timeout always is. -/
theorem encode_ibc2_send_iff (lib : EncoderLib ε) (sender : AccAddress)
    (packet : Wasmvm.IBC2SendPacketMsg) (ack : Option Wasmvm.IBC2WriteAcknowledgementMsg) :
    lib.encodeIBCv2Msg sender ⟨some packet, ack⟩ = lib.single (lib.sendPacketMsg sender packet) ∧
      (Preserves lib.codec sender packet (lib.sendPacketMsg sender packet) ↔
        packet.timeout.toNat < 2 ^ 63) := by
  refine ⟨rfl, ?_⟩
  rw [← unixSeconds_eq_iff]
  exact ⟨fun h => h.2.2.2, fun h => ⟨convertPayloads_same _, rfl, rfl, h⟩⟩

/-- **A timeout that wraps**: `2 ^ 63` nanoseconds become some `1.8 * 10 ^ 19` seconds. -/
theorem encode_ibc2_send_wraps :
    MessageEncoders.plainLib.sendPacketMsg MessageEncoders.anyContract
      ⟨"07-tendermint-0", [], 2 ^ 63⟩ =
        .sendPacketV2 "07-tendermint-0" 18446744064486179579 []
          (MessageEncoders.plainLib.codec.string MessageEncoders.anyContract) ∧
      ¬ Preserves MessageEncoders.plainLib.codec MessageEncoders.anyContract
        ⟨"07-tendermint-0", [], 2 ^ 63⟩
        (MessageEncoders.plainLib.sendPacketMsg MessageEncoders.anyContract
          ⟨"07-tendermint-0", [], 2 ^ 63⟩) := by
  refine ⟨by decide +kernel, fun h => ?_⟩
  exact absurd h.2.2.2 (by decide +kernel)

end EncoderLib

end Wasmd
