import Wasmd.Types.Messages

/-!
# The order of access configurations

`AccessConfig.IsSubset` compares permissions and counts addresses; it means inclusion of the
accounts that are allowed.

* `AccessConfig.Permits` — the configuration allows the account.
* `validateBasic_cases` — the three kinds of valid configurations.
* `isSubset_refl`, `isSubset_trans` — it is a preorder.
* `isSubset_of_permits` — inclusion implies it, if addresses are written in one way only and the
  accounts do not all fit on a list.
-/

namespace Wasmd

open Effects

namespace AccessConfig

variable {codec : AddressCodec} {a b c : AccessConfig}

/-- The configuration allows the account. -/
def Permits (codec : AddressCodec) (a : AccessConfig) (actor : AccAddress) : Prop :=
  a.allowed codec (some actor) = .ok true

/-- The kinds of valid configurations: a list is not empty and has at most fifty members. -/
theorem validateBasic_cases (h : a.validateBasic codec = .ok ()) :
    a.permission = .nobody ∨ a.permission = .everybody ∨
      (a.permission = .anyOfAddresses ∧ a.addresses ≠ [] ∧
        a.addresses.length ≤ maxAddressCount) := by
  unfold validateBasic at h
  cases hp : a.permission with
  | unspecified => simp [hp] at h
  | unknown n => simp [hp] at h
  | nobody => exact Or.inl rfl
  | everybody => exact Or.inr (Or.inl rfl)
  | anyOfAddresses =>
      rw [hp] at h
      obtain ⟨hne, hlen, -⟩ := validateBech32_ok_iff.mp (except_mapError_ok_iff.mp h)
      exact Or.inr (Or.inr ⟨rfl, hne, hlen⟩)

/-! ## Who is permitted -/

theorem not_permits_of_nobody (h : a.permission = .nobody) (x : AccAddress) :
    ¬ a.Permits codec x := by
  simp [Permits, allowed, h]

theorem permits_of_everybody (h : a.permission = .everybody) (x : AccAddress) :
    a.Permits codec x := by
  simp [Permits, allowed, h]

theorem permits_iff_listed (h : a.permission = .anyOfAddresses) (x : AccAddress) :
    a.Permits codec x ↔ codec.string x ∈ a.addresses := by
  simp only [Permits, allowed, h, Except.ok.injEq, decide_eq_true_eq]
  exact Iff.rfl

/-! ## The comparison -/

theorem isSubset_nobody_iff (hb : b.permission = .nobody) :
    a.isSubset b = true ↔ a.permission = .nobody := by
  simp [isSubset, AccessType.isSubset, hb]

theorem isSubset_everybody_iff (hb : b.permission = .everybody) :
    a.isSubset b = true ↔ a.permission ≠ .unspecified := by
  simp [isSubset, AccessType.isSubset, hb]

theorem isSubset_listed_iff (hb : b.permission = .anyOfAddresses) :
    a.isSubset b = true ↔ a.permission = .nobody ∨
      (a.permission = .anyOfAddresses ∧ ∀ o ∈ a.addresses, o ∈ b.addresses) := by
  simp [isSubset, hb, isSubsetList_iff]

theorem permission_ne_unspecified (h : a.validateBasic codec = .ok ()) :
    a.permission ≠ .unspecified := by
  rcases validateBasic_cases h with hp | hp | ⟨hp, -⟩ <;> simp [hp]

theorem isSubset_refl (h : a.validateBasic codec = .ok ()) : a.isSubset a = true := by
  rcases validateBasic_cases h with hp | hp | ⟨hp, -⟩
  · exact (isSubset_nobody_iff hp).mpr hp
  · exact (isSubset_everybody_iff hp).mpr (permission_ne_unspecified h)
  · exact (isSubset_listed_iff hp).mpr (Or.inr ⟨hp, fun _ ho => ho⟩)

theorem isSubset_trans (ha : a.validateBasic codec = .ok ()) (hc : c.validateBasic codec = .ok ())
    (hab : a.isSubset b = true) (hbc : b.isSubset c = true) : a.isSubset c = true := by
  rcases validateBasic_cases hc with hp | hp | ⟨hp, -⟩
  · rw [isSubset_nobody_iff hp] at hbc ⊢
    exact (isSubset_nobody_iff hbc).mp hab
  · exact (isSubset_everybody_iff hp).mpr (permission_ne_unspecified ha)
  · rw [isSubset_listed_iff hp] at hbc ⊢
    rcases hbc with hb | ⟨hb, hsub⟩
    · exact Or.inl ((isSubset_nobody_iff hb).mp hab)
    · rcases (isSubset_listed_iff hb).mp hab with ha' | ⟨ha', hsub'⟩
      · exact Or.inl ha'
      · exact Or.inr ⟨ha', fun o ho => hsub o (hsub' o ho)⟩

/-! ## Inclusion -/

/-- More accounts than fit on a list: one of them is not on it. -/
theorem exists_not_listed {accounts : Set AccAddress} {addresses : List String}
    (hlen : addresses.length ≤ maxAddressCount) (hmany : 50 < accounts.encard) :
    ∃ x ∈ accounts, codec.string x ∉ addresses := by
  by_contra hall
  push Not at hall
  have himage : codec.string '' accounts ⊆ {s | s ∈ addresses} := by
    rintro s ⟨x, hx, rfl⟩
    exact hall x hx
  have hcard : accounts.encard ≤ 50 := by
    calc accounts.encard = (codec.string '' accounts).encard :=
          (codec.string_injective.injOn.encard_image).symm
      _ ≤ {s | s ∈ addresses}.encard := Set.encard_le_encard himage
      _ = (addresses.toFinset.card : ℕ∞) := by
          rw [← Set.encard_coe_eq_coe_finsetCard, List.coe_toFinset]
      _ ≤ 50 := by exact_mod_cast (List.toFinset_card_le _).trans hlen
  exact absurd hmany (not_lt.mpr hcard)

/-- **Inclusion implies the comparison.** -/
theorem isSubset_of_permits {accounts : Set AccAddress} (hmany : 50 < accounts.encard)
    (ha : a.validateBasic codec = .ok ()) (hb : b.validateBasic codec = .ok ())
    (hcanonical : ∀ s ∈ a.addresses, ∃ x ∈ accounts, s = codec.string x)
    (h : ∀ x ∈ accounts, a.Permits codec x → b.Permits codec x) : a.isSubset b = true := by
  have hsome : a.permission = .anyOfAddresses → a.addresses ≠ [] →
      ∃ x ∈ accounts, a.Permits codec x := by
    intro hp hne
    obtain ⟨s, hs⟩ := List.exists_mem_of_ne_nil _ hne
    obtain ⟨x, hx, rfl⟩ := hcanonical s hs
    exact ⟨x, hx, (permits_iff_listed hp x).mpr hs⟩
  rcases validateBasic_cases hb with hpb | hpb | ⟨hpb, -, hlen⟩
  · rw [isSubset_nobody_iff hpb]
    rcases validateBasic_cases ha with hpa | hpa | ⟨hpa, hne, -⟩
    · exact hpa
    · obtain ⟨x, hx⟩ := Set.encard_pos.mp (lt_of_le_of_lt zero_le hmany)
      exact absurd (h x hx (permits_of_everybody hpa x)) (not_permits_of_nobody hpb x)
    · obtain ⟨x, hx, hpermits⟩ := hsome hpa hne
      exact absurd (h x hx hpermits) (not_permits_of_nobody hpb x)
  · exact (isSubset_everybody_iff hpb).mpr (permission_ne_unspecified ha)
  · rw [isSubset_listed_iff hpb]
    rcases validateBasic_cases ha with hpa | hpa | ⟨hpa, -⟩
    · exact Or.inl hpa
    · obtain ⟨x, hx, hno⟩ : ∃ x ∈ accounts, codec.string x ∉ b.addresses :=
        exists_not_listed hlen hmany
      exact absurd ((permits_iff_listed hpb x).mp (h x hx (permits_of_everybody hpa x))) hno
    · refine Or.inr ⟨hpa, fun s hs => ?_⟩
      obtain ⟨x, hx, rfl⟩ := hcanonical s hs
      exact (permits_iff_listed hpb x).mp (h x hx ((permits_iff_listed hpa x).mpr hs))

/-- What `IsSubset` means for valid configurations. -/
structure MeansInclusion (codec : AddressCodec) : Prop where
  sound : ∀ a b : AccessConfig, a.validateBasic codec = .ok () → b.validateBasic codec = .ok () →
    a.isSubset b = true → ∀ x, a.Permits codec x → b.Permits codec x
  refl : ∀ a : AccessConfig, a.validateBasic codec = .ok () → a.isSubset a = true
  trans : ∀ a b c : AccessConfig, a.validateBasic codec = .ok () → b.validateBasic codec = .ok () →
    c.validateBasic codec = .ok () → a.isSubset b = true → b.isSubset c = true → a.isSubset c = true
  complete : ∀ accounts : Set AccAddress, 50 < accounts.encard →
    ∀ a b : AccessConfig, a.validateBasic codec = .ok () → b.validateBasic codec = .ok () →
      (∀ s ∈ a.addresses, ∃ x ∈ accounts, s = codec.string x) →
      (∀ s ∈ b.addresses, ∃ x ∈ accounts, s = codec.string x) →
      (∀ x ∈ accounts, a.Permits codec x → b.Permits codec x) → a.isSubset b = true

/-- **The comparison of configurations is inclusion.** -/
theorem isSubset_means_inclusion (codec : AddressCodec) : MeansInclusion codec where
  sound _ _ _ _ hsub _ hx := allowed_of_isSubset hsub hx
  refl _ ha := isSubset_refl ha
  trans _ _ _ ha _ hc hab hbc := isSubset_trans ha hc hab hbc
  complete _ hmany _ _ ha hb hcanonical _ h := isSubset_of_permits hmany ha hb hcanonical h

end AccessConfig

end Wasmd
