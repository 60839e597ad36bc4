import Wasmd.Lib.Coins

/-!
# Sums of coins

Adding coins one after the other to a set.

* `Valid.ext` — a valid set is determined by its amounts.
* `total` — what a list of coins holds of a denomination; the order does not matter.
* `AddsExactly` — what is asked of an operation that adds a coin.
* `sum_exact` — folding such an operation over a list gives the totals.
* `add` — an operation of this kind, for sorted sets.
-/

namespace Coins

open Effects

/-! ## Sets and their amounts -/

theorem Valid.amountOf_pos_iff {cs : CoinSet} (h : Valid cs) {d : String} :
    0 < amountOf cs d ↔ ∃ c ∈ cs, c.denom = d := by
  constructor
  · intro hpos
    by_contra hno
    rw [amountOf_eq_zero_of_not_mem fun c hc hd => hno ⟨c, hc, hd⟩] at hpos
    exact lt_irrefl _ hpos
  · rintro ⟨c, hc, rfl⟩
    rw [h.amountOf_of_mem hc]
    exact (h.coin c hc).2

/-- A coin belongs to a valid set if its amount is the positive amount of its denomination. -/
theorem Valid.mem_iff {cs : CoinSet} (h : Valid cs) {c : Coin} :
    c ∈ cs ↔ 0 < c.amount ∧ amountOf cs c.denom = c.amount := by
  constructor
  · intro hc
    exact ⟨(h.coin c hc).2, h.amountOf_of_mem hc⟩
  · rintro ⟨hpos, hamount⟩
    obtain ⟨x, hx, hdenom⟩ := h.amountOf_pos_iff.mp (hamount ▸ hpos)
    have hx' := h.amountOf_of_mem hx
    rw [hdenom, hamount] at hx'
    obtain ⟨denom, amount⟩ := x
    cases hdenom
    cases hx'
    exact hx

/-- **A valid set is determined by its amounts.** -/
theorem Valid.ext {cs cs' : CoinSet} (h : Valid cs) (h' : Valid cs')
    (hamount : ∀ d, amountOf cs d = amountOf cs' d) : cs = cs' := by
  have hmem : ∀ c, c ∈ cs ↔ c ∈ cs' := fun c => by rw [h.mem_iff, h'.mem_iff, hamount]
  have hnodup : ∀ {l : CoinSet}, Valid l → l.Nodup := fun hl =>
    hl.sorted.imp fun hab heq => hab.ne (congrArg Coin.denom heq)
  refine List.Perm.eq_of_pairwise (fun a b _ _ hab hba => absurd hab hba.asymm)
    h.sorted h'.sorted ?_
  exact (List.perm_ext_iff_of_nodup (hnodup h) (hnodup h')).mpr hmem

/-! ## Totals -/

/-- What a list of coins holds of a denomination. -/
def total (cs : List Coin) (d : String) : Int :=
  (cs.map fun c => if c.denom = d then c.amount else 0).sum

theorem total_cons (c : Coin) (cs : List Coin) (d : String) :
    total (c :: cs) d = (if c.denom = d then c.amount else 0) + total cs d := by
  rw [total, List.map_cons, List.sum_cons, total]

theorem total_perm {cs cs' : List Coin} (h : cs.Perm cs') (d : String) : total cs d = total cs' d :=
  (h.map _).sum_eq

theorem total_nonneg {cs : List Coin} (h : ∀ c ∈ cs, 0 ≤ c.amount) (d : String) :
    0 ≤ total cs d := by
  refine List.sum_nonneg fun x hx => ?_
  obtain ⟨c, hc, rfl⟩ := List.mem_map.mp hx
  split
  · exact h c hc
  · exact le_rfl

/-! ## Adding one by one -/

/-- The largest amount has 256 bits. -/
def maxAmount : Int := 2 ^ 256

/-- A coin that may be added: its amount may be zero. -/
def Addable (c : Coin) : Prop := validDenom c.denom = true ∧ 0 ≤ c.amount

/-- Adding a coin to a valid set returns the valid set with the amount added, as long as it fits. -/
def AddsExactly (addCoin : CoinSet → Coin → Except Panic CoinSet) : Prop :=
  ∀ cs c, Valid cs → Addable c → amountOf cs c.denom + c.amount < maxAmount →
    ∃ r, addCoin cs c = .ok r ∧ Valid r ∧
      ∀ d, amountOf r d = amountOf cs d + if c.denom = d then c.amount else 0

/-- **Adding a list is exact**: by induction on the list, what was added and what is left make up
the totals. -/
theorem sum_exact {addCoin : CoinSet → Coin → Except Panic CoinSet} (hadd : AddsExactly addCoin)
    {coins : List Coin} (hcoins : ∀ c ∈ coins, Addable c) {cs : CoinSet} (hcs : Valid cs)
    (hfit : ∀ d, amountOf cs d + total coins d < maxAmount) :
    ∃ r, coins.foldlM addCoin cs = .ok r ∧ Valid r ∧
      ∀ d, amountOf r d = amountOf cs d + total coins d := by
  induction coins generalizing cs with
  | nil => exact ⟨cs, rfl, hcs, fun d => by simp [total]⟩
  | cons c rest ih =>
      have hrest : ∀ x ∈ rest, Addable x := fun x hx => hcoins x (List.mem_cons_of_mem _ hx)
      have hnonneg := total_nonneg fun x hx => (hrest x hx).2
      have hhere : amountOf cs c.denom + c.amount < maxAmount := by
        have hc := hfit c.denom
        rw [total_cons, if_pos rfl] at hc
        have := hnonneg c.denom
        omega
      obtain ⟨cs', hstep, hvalid, hamount⟩ := hadd cs c hcs (hcoins c List.mem_cons_self) hhere
      obtain ⟨r, hrun, hr, htotal⟩ := ih hrest hvalid fun d => by
        rw [hamount, add_assoc, ← total_cons]
        exact hfit d
      refine ⟨r, ?_, hr, fun d => ?_⟩
      · rw [List.foldlM_cons, hstep]
        exact hrun
      · rw [htotal, hamount, total_cons, add_assoc]

/-! ## An exact addition -/

/-- The coin, unless its amount is zero, before a set. -/
def consNonzero (c : Coin) (cs : CoinSet) : CoinSet := if c.amount = 0 then cs else c :: cs

/-- The coin at its place in a sorted set. -/
def merge (c : Coin) : CoinSet → CoinSet
  | [] => consNonzero c []
  | a :: cs =>
    if c.denom < a.denom then consNonzero c (a :: cs)
    else if c.denom = a.denom then consNonzero ⟨a.denom, a.amount + c.amount⟩ cs
    else a :: merge c cs

/-- `Coins.Add` of one coin; the sum panics when it does not fit. -/
def add (cs : CoinSet) (c : Coin) : Except Panic CoinSet :=
  if maxAmount ≤ amountOf cs c.denom + c.amount then .error (.message "Int overflow")
  else .ok (merge c cs)

theorem mem_consNonzero {c x : Coin} {cs : CoinSet} (h : x ∈ consNonzero c cs) :
    (x = c ∧ c.amount ≠ 0) ∨ x ∈ cs := by
  unfold consNonzero at h
  split at h
  · exact Or.inr h
  · rename_i hne
    rcases List.mem_cons.mp h with rfl | hx
    · exact Or.inl ⟨rfl, hne⟩
    · exact Or.inr hx

theorem valid_consNonzero {c : Coin} {cs : CoinSet} (hc : Addable c) (hcs : Valid cs)
    (hlow : ∀ x ∈ cs, c.denom < x.denom) : Valid (consNonzero c cs) := by
  unfold consNonzero
  split
  · exact hcs
  · rename_i hne
    have hpos : 0 < c.amount := lt_of_le_of_ne hc.2 (Ne.symm hne)
    refine ⟨List.pairwise_cons.mpr ⟨hlow, hcs.sorted⟩, fun x hx => ?_⟩
    rcases List.mem_cons.mp hx with rfl | hx
    · exact ⟨hc.1, hpos⟩
    · exact hcs.coin x hx

theorem amountOf_consNonzero {c : Coin} {cs : CoinSet} (hlow : ∀ x ∈ cs, c.denom < x.denom)
    (d : String) :
    amountOf (consNonzero c cs) d = (if c.denom = d then c.amount else 0) + amountOf cs d := by
  have hhere : amountOf cs c.denom = 0 := amountOf_eq_zero_of_not_mem fun x hx => (hlow x hx).ne'
  unfold consNonzero
  split
  · rename_i hzero
    split <;> omega
  · rw [amountOf_cons]
    split
    · rename_i hd
      rw [← hd, hhere, add_zero]
    · rw [zero_add]

/-- The denominations after a merge. -/
theorem denom_of_mem_merge {c x : Coin} {cs : CoinSet} (h : x ∈ merge c cs) :
    x.denom = c.denom ∨ ∃ a ∈ cs, a.denom = x.denom := by
  induction cs with
  | nil =>
      rcases mem_consNonzero h with ⟨rfl, -⟩ | hx
      · exact Or.inl rfl
      · cases hx
  | cons a cs ih =>
      unfold merge at h
      split_ifs at h with hlt heq
      · rcases mem_consNonzero h with ⟨rfl, -⟩ | hx
        · exact Or.inl rfl
        · exact Or.inr ⟨x, hx, rfl⟩
      · rcases mem_consNonzero h with ⟨rfl, -⟩ | hx
        · exact Or.inl heq.symm
        · exact Or.inr ⟨x, List.mem_cons_of_mem _ hx, rfl⟩
      · rcases List.mem_cons.mp h with rfl | hx
        · exact Or.inr ⟨x, List.mem_cons_self, rfl⟩
        · rcases ih hx with hc | ⟨b, hb, hbx⟩
          · exact Or.inl hc
          · exact Or.inr ⟨b, List.mem_cons_of_mem _ hb, hbx⟩

theorem merge_spec {c : Coin} (hc : Addable c) {cs : CoinSet} (hcs : Valid cs) :
    Valid (merge c cs) ∧
      ∀ d, amountOf (merge c cs) d = amountOf cs d + if c.denom = d then c.amount else 0 := by
  induction cs with
  | nil =>
      refine ⟨valid_consNonzero hc hcs (by simp), fun d => ?_⟩
      rw [merge, amountOf_consNonzero (by simp), add_comm]
  | cons a cs ih =>
      have hlow := (List.pairwise_cons.mp hcs.sorted).1
      have ha := hcs.coin a List.mem_cons_self
      unfold merge
      split_ifs with hlt heq
      · have hbefore : ∀ x ∈ a :: cs, c.denom < x.denom := by
          intro x hx
          rcases List.mem_cons.mp hx with rfl | hx
          · exact hlt
          · exact lt_trans hlt (hlow x hx)
        refine ⟨valid_consNonzero hc hcs hbefore, fun d => ?_⟩
        rw [amountOf_consNonzero hbefore, add_comm]
      · have hsum : Addable ⟨a.denom, a.amount + c.amount⟩ := ⟨ha.1, add_nonneg ha.2.le hc.2⟩
        refine ⟨valid_consNonzero hsum hcs.tail hlow, fun d => ?_⟩
        have hhere : amountOf cs a.denom = 0 := amountOf_eq_zero_of_not_mem fun x hx =>
          (hlow x hx).ne'
        have hrest : ∀ x ∈ cs, (Coin.mk a.denom (a.amount + c.amount)).denom < x.denom := hlow
        rw [amountOf_consNonzero hrest, amountOf_cons, heq]
        dsimp only
        split
        · rename_i hd
          rw [← hd, hhere, add_zero]
        · rw [zero_add, add_zero]
      · obtain ⟨hvalid, hamount⟩ := ih hcs.tail
        have hafter : a.denom < c.denom := lt_of_le_of_ne (not_lt.mp hlt) (Ne.symm heq)
        refine ⟨⟨List.pairwise_cons.mpr ⟨fun x hx => ?_, hvalid.sorted⟩, fun x hx => ?_⟩,
          fun d => ?_⟩
        · rcases denom_of_mem_merge hx with hx | ⟨b, hb, hbx⟩
          · exact hx ▸ hafter
          · exact hbx ▸ hlow b hb
        · rcases List.mem_cons.mp hx with rfl | hx
          · exact ha
          · exact hvalid.coin x hx
        · rw [amountOf_cons, amountOf_cons]
          split
          · rename_i hd
            rw [if_neg (hd ▸ heq), add_zero]
          · exact hamount d

theorem addsExactly_add : AddsExactly add := by
  intro cs c hcs hc hfit
  obtain ⟨hvalid, hamount⟩ := merge_spec hc hcs
  exact ⟨merge c cs, if_neg (not_le.mpr hfit), hvalid, hamount⟩

end Coins
