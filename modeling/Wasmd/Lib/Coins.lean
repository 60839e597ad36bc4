import Wasmd.Lib.Effects
import Mathlib.Data.String.Basic
import Mathlib.Data.List.Sort
import Mathlib.Tactic

/-!
# Coin sets

The coin sets of the Cosmos SDK: lists of amounts, one per denomination.  A set
is valid when its denominations are well formed and strictly increasing and its
amounts are positive; the operations are exact on valid sets.

* `validate_eq_none_iff` — the checker accepts exactly the valid sets.
* `sub_of_covered` — subtracting a set that is covered by another is subtraction
  denomination by denomination, and the result is valid again.
* `newCoins_of_valid` — the sanitising constructor leaves a valid set alone.
-/

namespace Coins

open Effects

/-- An amount of one denomination. -/
structure Coin where
  denom : String
  amount : Int
  deriving DecidableEq, Repr

/-- `sdk.Coins`. -/
abbrev CoinSet := List Coin

/-! ## Validation -/

/-- The characters allowed after the first one in a denomination. -/
def isDenomChar (c : Char) : Bool :=
  c.isAlphanum || c == '/' || c == ':' || c == '.' || c == '_' || c == '-'

/-- `sdk.ValidateDenom`: the pattern `[a-zA-Z][a-zA-Z0-9/:._-]{2,127}`. -/
def validDenom (s : String) : Bool :=
  match s.toList with
  | [] => false
  | c :: rest => c.isAlpha && rest.all isDenomChar && decide (2 ≤ rest.length) &&
      decide (rest.length ≤ 127)

/-- The checks on a single coin; the result is the error, if any. -/
def validateCoin (c : Coin) : Option String :=
  if ¬ validDenom c.denom then some s!"invalid denom: {c.denom}"
  else if ¬ 0 < c.amount then some s!"coin {c.denom} amount is not positive"
  else none

/-- The checks on the coins after one of denomination `low`. -/
def validateFrom (low : String) : CoinSet → Option String
  | [] => none
  | c :: rest =>
      if ¬ validDenom c.denom then some s!"invalid denom: {c.denom}"
      else if c.denom < low then some s!"denomination {c.denom} is not sorted"
      else if c.denom = low then some s!"duplicate denomination {c.denom}"
      else if ¬ 0 < c.amount then some s!"coin {c.denom} amount is not positive"
      else validateFrom c.denom rest

/-- `Coins.Validate`. -/
def validate : CoinSet → Option String
  | [] => none
  | c :: rest =>
      match validateCoin c with
      | some e => some e
      | none => validateFrom c.denom rest

/-- A valid coin set. -/
structure Valid (cs : CoinSet) : Prop where
  sorted : cs.Pairwise fun a b => a.denom < b.denom
  coin : ∀ c ∈ cs, validDenom c.denom = true ∧ 0 < c.amount

/-! ## Operations -/

/-- `Coins.Empty`. -/
def empty (cs : CoinSet) : Bool := cs.isEmpty

/-- `Coins.IsZero`: no coin has an amount other than zero. -/
def isZero (cs : CoinSet) : Bool := cs.all fun c => decide (c.amount = 0)

/-- `Coins.AmountOf`. -/
def amountOf (cs : CoinSet) (denom : String) : Int :=
  match cs.find? fun c => decide (c.denom = denom) with
  | some c => c.amount
  | none => 0

/-- `Coins.IsAllGTE`. -/
def isAllGTE (cs other : CoinSet) : Bool :=
  if other.length = 0 then true
  else if cs.length = 0 then false
  else other.all fun c => decide (¬ amountOf cs c.denom < c.amount)

/-- `Coins.IsAllLTE`. -/
def isAllLTE (cs other : CoinSet) : Bool := isAllGTE other cs

/-- The coins left after subtracting, without those that became zero. -/
def difference (cs other : CoinSet) : CoinSet :=
  cs.filterMap fun c =>
    if c.amount - amountOf other c.denom = 0 then none
    else some { c with amount := c.amount - amountOf other c.denom }

/-- `Coins.Sub`, which panics when an amount would become negative. -/
def sub (cs other : CoinSet) : Except Panic CoinSet :=
  if other.any fun c => decide (amountOf cs c.denom < c.amount) then
    .error (.message "negative coin amount")
  else .ok (difference cs other)

/-- `sdk.NewCoins`: drop zero coins, sort, and panic when the result is not
valid. -/
def newCoins (cs : CoinSet) : Except Panic CoinSet :=
  let sorted := (cs.filter fun c => decide (c.amount ≠ 0)).mergeSort fun a b =>
    decide (a.denom ≤ b.denom)
  match validate sorted with
  | some e => .error (.message e)
  | none => .ok sorted

/-! ## The checker -/

theorem validateFrom_eq_none_iff {low : String} {cs : CoinSet} :
    validateFrom low cs = none ↔ Valid cs ∧ ∀ c ∈ cs, low < c.denom := by
  induction cs generalizing low with
  | nil => exact ⟨fun _ => ⟨⟨List.Pairwise.nil, by simp⟩, by simp⟩, fun _ => rfl⟩
  | cons c rest ih =>
      constructor
      · intro h
        unfold validateFrom at h
        split_ifs at h with hdenom hsort hdup hpos
        rw [ih] at h
        obtain ⟨hrest, hlow⟩ := h
        have hlt : low < c.denom := lt_of_le_of_ne (not_lt.mp hsort) (Ne.symm hdup)
        refine ⟨⟨List.pairwise_cons.mpr ⟨hlow, hrest.sorted⟩, ?_⟩, ?_⟩
        · intro x hx
          rcases List.mem_cons.mp hx with rfl | hx
          · exact ⟨hdenom, hpos⟩
          · exact hrest.coin x hx
        · intro x hx
          rcases List.mem_cons.mp hx with rfl | hx
          · exact hlt
          · exact lt_trans hlt (hlow x hx)
      · rintro ⟨hv, hlow⟩
        have hc := hv.coin c List.mem_cons_self
        have hlt := hlow c List.mem_cons_self
        have hsorted := List.pairwise_cons.mp hv.sorted
        unfold validateFrom
        rw [if_neg (not_not.mpr hc.1), if_neg (not_lt.mpr hlt.le), if_neg hlt.ne',
          if_neg (not_not.mpr hc.2), ih]
        exact ⟨⟨hsorted.2, fun x hx => hv.coin x (List.mem_cons_of_mem _ hx)⟩, hsorted.1⟩

/-- **The checker accepts exactly the valid sets.** -/
theorem validate_eq_none_iff {cs : CoinSet} : validate cs = none ↔ Valid cs := by
  cases cs with
  | nil => exact ⟨fun _ => ⟨List.Pairwise.nil, by simp⟩, fun _ => rfl⟩
  | cons c rest =>
      have hcoin : validateCoin c = none ↔ validDenom c.denom = true ∧ 0 < c.amount := by
        unfold validateCoin
        split_ifs with h₁ h₂ <;> simp_all
      constructor
      · intro h
        simp only [validate] at h
        split at h
        · cases h
        · rename_i hc
          obtain ⟨hv, hlow⟩ := validateFrom_eq_none_iff.mp h
          refine ⟨List.pairwise_cons.mpr ⟨hlow, hv.sorted⟩, ?_⟩
          intro x hx
          rcases List.mem_cons.mp hx with rfl | hx
          · exact hcoin.mp hc
          · exact hv.coin x hx
      · intro hv
        have hsorted := List.pairwise_cons.mp hv.sorted
        simp only [validate, hcoin.mpr (hv.coin c List.mem_cons_self)]
        exact validateFrom_eq_none_iff.mpr
          ⟨⟨hsorted.2, fun x hx => hv.coin x (List.mem_cons_of_mem _ hx)⟩, hsorted.1⟩

/-! ## Amounts -/

@[simp] theorem amountOf_nil (d : String) : amountOf [] d = 0 := rfl

theorem amountOf_cons (c : Coin) (cs : CoinSet) (d : String) :
    amountOf (c :: cs) d = if c.denom = d then c.amount else amountOf cs d := by
  unfold amountOf
  rw [List.find?_cons]
  by_cases h : c.denom = d <;> simp [h]

theorem Valid.tail {c : Coin} {cs : CoinSet} (h : Valid (c :: cs)) : Valid cs :=
  ⟨(List.pairwise_cons.mp h.sorted).2, fun x hx => h.coin x (List.mem_cons_of_mem _ hx)⟩

/-- In a valid set a coin of the list is the amount of its denomination. -/
theorem Valid.amountOf_of_mem {cs : CoinSet} (h : Valid cs) {c : Coin} (hc : c ∈ cs) :
    amountOf cs c.denom = c.amount := by
  induction cs with
  | nil => cases hc
  | cons a cs ih =>
      rw [amountOf_cons]
      rcases List.mem_cons.mp hc with rfl | hmem
      · rw [if_pos rfl]
      · have hlt := (List.pairwise_cons.mp h.sorted).1 c hmem
        rw [if_neg hlt.ne, ih h.tail hmem]

theorem amountOf_eq_zero_of_not_mem {cs : CoinSet} {d : String}
    (h : ∀ c ∈ cs, c.denom ≠ d) : amountOf cs d = 0 := by
  induction cs with
  | nil => rfl
  | cons a cs ih =>
      rw [amountOf_cons, if_neg (h a List.mem_cons_self),
        ih fun c hc => h c (List.mem_cons_of_mem _ hc)]

theorem Valid.amountOf_nonneg {cs : CoinSet} (h : Valid cs) (d : String) : 0 ≤ amountOf cs d := by
  by_cases hex : ∃ c ∈ cs, c.denom = d
  · obtain ⟨c, hc, rfl⟩ := hex
    rw [h.amountOf_of_mem hc]
    exact (h.coin c hc).2.le
  · rw [amountOf_eq_zero_of_not_mem fun c hc hd => hex ⟨c, hc, hd⟩]

/-- A valid set covers another exactly when it does so in every denomination. -/
theorem isAllGTE_iff {cs other : CoinSet} (hcs : Valid cs) (hother : Valid other) :
    isAllGTE cs other = true ↔ ∀ d, amountOf other d ≤ amountOf cs d := by
  constructor
  · intro h d
    by_cases hex : ∃ c ∈ other, c.denom = d
    · obtain ⟨c, hc, rfl⟩ := hex
      have hne : other.length ≠ 0 := by
        intro h0
        rw [List.length_eq_zero_iff.mp h0] at hc
        cases hc
      unfold isAllGTE at h
      rw [if_neg hne] at h
      split at h
      · cases h
      · rw [List.all_eq_true] at h
        have := h c hc
        rw [hother.amountOf_of_mem hc]
        simpa using this
    · rw [amountOf_eq_zero_of_not_mem fun c hc hd => hex ⟨c, hc, hd⟩]
      exact hcs.amountOf_nonneg d
  · intro h
    unfold isAllGTE
    split
    · rfl
    · rename_i hne
      obtain ⟨c, hc⟩ := List.exists_mem_of_length_pos (Nat.pos_of_ne_zero hne)
      have hpos : 0 < amountOf cs c.denom := by
        have h1 := h c.denom
        rw [hother.amountOf_of_mem hc] at h1
        exact lt_of_lt_of_le (hother.coin c hc).2 h1
      have hcsne : cs.length ≠ 0 := by
        intro h0
        rw [List.length_eq_zero_iff.mp h0] at hpos
        simp at hpos
      rw [if_neg hcsne, List.all_eq_true]
      intro x hx
      have := h x.denom
      rw [hother.amountOf_of_mem hx] at this
      simpa using this

/-! ## Subtraction -/

theorem mem_difference {cs other : CoinSet} {x : Coin} (hx : x ∈ difference cs other) :
    ∃ c ∈ cs, c.denom = x.denom ∧ x.amount = c.amount - amountOf other c.denom ∧ x.amount ≠ 0 := by
  unfold difference at hx
  obtain ⟨c, hc, hif⟩ := List.mem_filterMap.mp hx
  split at hif
  · cases hif
  · rename_i hne
    cases hif
    exact ⟨c, hc, rfl, rfl, hne⟩

theorem valid_difference {cs other : CoinSet} (hcs : Valid cs)
    (hle : ∀ d, amountOf other d ≤ amountOf cs d) : Valid (difference cs other) := by
  constructor
  · unfold difference
    rw [List.pairwise_filterMap]
    refine hcs.sorted.imp ?_
    intro a b hab x hx y hy
    split at hx
    · cases hx
    · cases hx
      split at hy
      · cases hy
      · cases hy
        exact hab
  · intro x hx
    obtain ⟨c, hc, hd, ha, hne⟩ := mem_difference hx
    have hcov := hle c.denom
    rw [hcs.amountOf_of_mem hc] at hcov
    refine ⟨hd ▸ (hcs.coin c hc).1, ?_⟩
    omega

theorem amountOf_difference {cs other : CoinSet} (hcs : Valid cs) {d : String}
    (hother : 0 ≤ amountOf other d) (hle : amountOf other d ≤ amountOf cs d) :
    amountOf (difference cs other) d = amountOf cs d - amountOf other d := by
  induction cs with
  | nil =>
      rw [amountOf_nil] at hle
      have : amountOf other d = 0 := le_antisymm hle hother
      simp [difference, this]
  | cons c cs ih =>
      have hcons : difference (c :: cs) other =
          if c.amount - amountOf other c.denom = 0 then difference cs other
          else { c with amount := c.amount - amountOf other c.denom } :: difference cs other := by
        unfold difference
        rw [List.filterMap_cons]
        split_ifs <;> rfl
      rw [amountOf_cons] at hle ⊢
      rw [hcons]
      by_cases hd : c.denom = d
      · -- the head is the coin of `d`; the rest holds no other one
        subst hd
        rw [if_pos rfl]
        have hrest : ∀ x ∈ difference cs other, x.denom ≠ c.denom := by
          intro x hx heq
          obtain ⟨y, hy, hyd, -, -⟩ := mem_difference hx
          have hlt := (List.pairwise_cons.mp hcs.sorted).1 y hy
          rw [hyd, heq] at hlt
          exact lt_irrefl _ hlt
        split_ifs with h0
        · rw [amountOf_eq_zero_of_not_mem hrest, h0]
        · rw [amountOf_cons, if_pos rfl]
      · rw [if_neg hd] at hle ⊢
        split_ifs with h0
        · exact ih hcs.tail hle
        · rw [amountOf_cons, if_neg (by exact hd)]
          exact ih hcs.tail hle

/-- **Subtraction is exact.**  Taking a covered valid set from a valid one
returns a valid set with every amount reduced. -/
theorem sub_of_covered {cs other : CoinSet} (hcs : Valid cs) (hother : Valid other)
    (h : isAllGTE cs other = true) :
    ∃ r, sub cs other = .ok r ∧ Valid r ∧ ∀ d, amountOf r d = amountOf cs d - amountOf other d := by
  have hle := (isAllGTE_iff hcs hother).mp h
  refine ⟨difference cs other, ?_, valid_difference hcs hle, ?_⟩
  · unfold sub
    rw [if_neg]
    intro hany
    obtain ⟨c, hc, hlt⟩ := List.any_eq_true.mp hany
    have hcov := hle c.denom
    rw [hother.amountOf_of_mem hc] at hcov
    exact absurd (of_decide_eq_true hlt) (not_lt.mpr hcov)
  · intro d
    exact amountOf_difference hcs (hother.amountOf_nonneg d) (hle d)

theorem newCoins_of_valid {cs : CoinSet} (h : Valid cs) : newCoins cs = .ok cs := by
  have hfilter : (cs.filter fun c => decide (c.amount ≠ 0)) = cs := by
    rw [List.filter_eq_self]
    intro c hc
    have := (h.coin c hc).2
    simp only [ne_eq, decide_not, Bool.not_eq_true', decide_eq_false_iff_not]
    omega
  have hsort : cs.mergeSort (fun a b => decide (a.denom ≤ b.denom)) = cs := by
    refine List.mergeSort_of_pairwise (h.sorted.imp ?_)
    intro a b hab
    simpa using hab.le
  unfold newCoins
  simp only [hfilter, hsort, validate_eq_none_iff.mpr h]

end Coins
