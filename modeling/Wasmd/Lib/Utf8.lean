import Wasmd.Lib.ByteStore

/-!
# Comparing bytes as text

`EqualFold` of the Go packages `bytes` and `strings` compares two byte sequences as UTF-8 text under
simple case folding.  The bytes need not be text: each byte that is no part of a character is read
as the replacement character.

* `decodeRune` — `utf8.DecodeRune`.
* `equalFold` — `bytes.EqualFold`.  What `unicode.SimpleFold` says about characters outside ASCII is
  a parameter.
* `equalFold_iff_of_agree` — **where two sequences agree outside ASCII, `equalFold` is equality up
  to the case of ASCII letters.**
-/

namespace Utf8

open ByteStore

/-! ## Decoding -/

/-- `utf8.RuneError`, the replacement character. -/
def runeError : Nat := 0xFFFD

/-- What the first byte of a character outside ASCII says: how many bytes it has, and the range of
the second one. -/
def leadByte (b : UInt8) : Option (Nat × UInt8 × UInt8) :=
  if b < 0xC2 then none
  else if b < 0xE0 then some (2, 0x80, 0xBF)
  else if b = 0xE0 then some (3, 0xA0, 0xBF)
  else if b = 0xED then some (3, 0x80, 0x9F)
  else if b < 0xF0 then some (3, 0x80, 0xBF)
  else if b = 0xF0 then some (4, 0x90, 0xBF)
  else if b < 0xF4 then some (4, 0x80, 0xBF)
  else if b = 0xF4 then some (4, 0x80, 0x8F)
  else none

/-- The byte lies in the range. -/
def inRange (low high b : UInt8) : Bool := low ≤ b && b ≤ high

/-- The bits of a byte that follows. -/
def tailBits (b : UInt8) : Nat := b.toNat % 64

/-- A character of several bytes, or the replacement character for the first byte alone. -/
def decodeTail (b : UInt8) : Nat × UInt8 × UInt8 → Bytes → Nat × Nat
  | (2, low, high), b₁ :: _ =>
    if inRange low high b₁ then (b.toNat % 32 * 64 + tailBits b₁, 2) else (runeError, 1)
  | (3, low, high), b₁ :: b₂ :: _ =>
    if inRange low high b₁ && inRange 0x80 0xBF b₂ then
      ((b.toNat % 16 * 64 + tailBits b₁) * 64 + tailBits b₂, 3)
    else (runeError, 1)
  | (4, low, high), b₁ :: b₂ :: b₃ :: _ =>
    if inRange low high b₁ && inRange 0x80 0xBF b₂ && inRange 0x80 0xBF b₃ then
      (((b.toNat % 8 * 64 + tailBits b₁) * 64 + tailBits b₂) * 64 + tailBits b₃, 4)
    else (runeError, 1)
  | _, _ => (runeError, 1)

/-- `utf8.DecodeRune`: the first character and how many bytes it has. -/
def decodeRune : Bytes → Nat × Nat
  | [] => (runeError, 0)
  | b :: rest =>
    if b.toNat < 0x80 then (b.toNat, 1)
    else
      match leadByte b with
      | none => (runeError, 1)
      | some lead => decodeTail b lead rest

/-! ## Comparing -/

/-- Two characters that `EqualFold` takes for the same.  `folds` says whether `unicode.SimpleFold`
leads from the smaller one to the larger one. -/
def sameRune (folds : Nat → Nat → Bool) (r r' : Nat) : Bool :=
  if r = r' then true
  else if max r r' < 0x80 then
    -- upper and lower case
    decide (0x41 ≤ min r r' ∧ min r r' ≤ 0x5A ∧ max r r' = min r r' + 0x20)
  else folds (min r r') (max r r')

/-- The loop of `EqualFold`.  In the source it begins with a faster one for ASCII, which makes the
same comparisons.  The first argument bounds the number of characters. -/
def equalFoldFrom (folds : Nat → Nat → Bool) : Nat → Bytes → Bytes → Bool
  | _, [], t => t = []
  | _, _ :: _, [] => false
  | 0, _ :: _, _ :: _ => false
  | n + 1, s@(_ :: _), t@(_ :: _) =>
    sameRune folds (decodeRune s).1 (decodeRune t).1 &&
      equalFoldFrom folds n (s.drop (decodeRune s).2) (t.drop (decodeRune t).2)

/-- `bytes.EqualFold` and `strings.EqualFold`. -/
def equalFold (folds : Nat → Nat → Bool) (s t : Bytes) : Bool := equalFoldFrom folds s.length s t

/-! ## Where two sequences agree outside ASCII -/

/-- Both bytes are ASCII, or they are the same. -/
def Agree (a b : UInt8) : Prop := a.toNat < 0x80 ∧ b.toNat < 0x80 ∨ a = b

/-- The same byte, up to the case of an ASCII letter. -/
def SameLetter (a b : UInt8) : Prop :=
  a = b ∨ (0x41 ≤ a.toNat ∧ a.toNat ≤ 0x5A ∧ b.toNat = a.toNat + 0x20) ∨
    (0x41 ≤ b.toNat ∧ b.toNat ≤ 0x5A ∧ a.toNat = b.toNat + 0x20)

theorem SameLetter.agree {a b : UInt8} (h : SameLetter a b) : Agree a b := by
  rcases h with rfl | ⟨h₁, h₂, h₃⟩ | ⟨h₁, h₂, h₃⟩
  · exact .inr rfl
  · exact .inl ⟨by omega, by omega⟩
  · exact .inl ⟨by omega, by omega⟩

/-- On ASCII the characters are compared up to case. -/
theorem sameRune_iff {folds : Nat → Nat → Bool} {a b : UInt8} (ha : a.toNat < 0x80)
    (hb : b.toNat < 0x80) : sameRune folds a.toNat b.toNat = true ↔ SameLetter a b := by
  unfold sameRune SameLetter
  by_cases heq : a.toNat = b.toNat
  · exact iff_of_true (by rw [if_pos heq]) (.inl (UInt8.toNat_inj.mp heq))
  · have hne : a ≠ b := fun h => heq (congrArg UInt8.toNat h)
    rw [if_neg heq, if_pos (by omega), decide_eq_true_iff]
    rcases Nat.lt_or_ge a.toNat b.toNat with hlt | hge
    · rw [Nat.min_eq_left hlt.le, Nat.max_eq_right hlt.le]
      constructor
      · exact fun h => .inr (.inl h)
      · rintro (h | h | h)
        · exact absurd h hne
        · exact h
        · omega
    · rw [Nat.min_eq_right hge, Nat.max_eq_left hge]
      constructor
      · exact fun h => .inr (.inr h)
      · rintro (h | h | h)
        · exact absurd h hne
        · omega
        · exact h

theorem decodeRune_ascii {b : UInt8} (hb : b.toNat < 0x80) (rest : Bytes) :
    decodeRune (b :: rest) = (b.toNat, 1) := by
  rw [decodeRune, if_pos hb]

/-- The second byte of a character is no ASCII. -/
theorem leadByte_low {b : UInt8} {size : Nat} {low high : UInt8}
    (h : leadByte b = some (size, low, high)) : 0x80 ≤ low.toNat := by
  unfold leadByte at h
  split_ifs at h <;> cases h <;> decide

/-- A byte in a range outside ASCII is one on both sides, and is then the same. -/
theorem Agree.inRange_eq {low a b : UInt8} (h : Agree a b) (hlow : 0x80 ≤ low.toNat)
    (high : UInt8) :
    inRange low high a = inRange low high b ∧ (inRange low high a = true → a = b) := by
  rcases h with ⟨ha, hb⟩ | rfl
  · have hout : ∀ c : UInt8, c.toNat < 0x80 → inRange low high c = false := by
      intro c hc
      unfold inRange
      rw [decide_eq_false (fun h => by rw [UInt8.le_iff_toNat_le] at h; omega), Bool.false_and]
    rw [hout a ha, hout b hb]
    exact ⟨rfl, fun h => by cases h⟩
  · exact ⟨rfl, fun _ => rfl⟩

/-- A character outside ASCII is the same on both sides, with its bytes. -/
theorem decodeTail_agree {a : UInt8} {size : Nat} {low high : UInt8} (hlow : 0x80 ≤ low.toNat)
    {s t : Bytes} (h : List.Forall₂ Agree s t) :
    decodeTail a (size, low, high) s = decodeTail a (size, low, high) t ∧
      ∃ n, (decodeTail a (size, low, high) s).2 = n + 1 ∧ s.take n = t.take n := by
  have hcont : 0x80 ≤ (0x80 : UInt8).toNat := by decide
  match size, h with
  | 2, .nil => exact ⟨rfl, 0, rfl, rfl⟩
  | 2, .cons h₁ _ =>
      obtain ⟨heq₁, hsame₁⟩ := h₁.inRange_eq hlow high
      simp only [decodeTail, ← heq₁]
      split
      · rename_i hin
        obtain rfl := hsame₁ hin
        exact ⟨rfl, 1, rfl, rfl⟩
      · exact ⟨rfl, 0, rfl, rfl⟩
  | 3, .nil => exact ⟨rfl, 0, rfl, rfl⟩
  | 3, .cons _ .nil => exact ⟨rfl, 0, rfl, rfl⟩
  | 3, .cons h₁ (.cons h₂ _) =>
      obtain ⟨heq₁, hsame₁⟩ := h₁.inRange_eq hlow high
      obtain ⟨heq₂, hsame₂⟩ := h₂.inRange_eq hcont 0xBF
      simp only [decodeTail, ← heq₁, ← heq₂]
      split
      · rename_i hin
        rw [Bool.and_eq_true] at hin
        obtain rfl := hsame₁ hin.1
        obtain rfl := hsame₂ hin.2
        exact ⟨rfl, 2, rfl, rfl⟩
      · exact ⟨rfl, 0, rfl, rfl⟩
  | 4, .nil => exact ⟨rfl, 0, rfl, rfl⟩
  | 4, .cons _ .nil => exact ⟨rfl, 0, rfl, rfl⟩
  | 4, .cons _ (.cons _ .nil) => exact ⟨rfl, 0, rfl, rfl⟩
  | 4, .cons h₁ (.cons h₂ (.cons h₃ _)) =>
      obtain ⟨heq₁, hsame₁⟩ := h₁.inRange_eq hlow high
      obtain ⟨heq₂, hsame₂⟩ := h₂.inRange_eq hcont 0xBF
      obtain ⟨heq₃, hsame₃⟩ := h₃.inRange_eq hcont 0xBF
      simp only [decodeTail, ← heq₁, ← heq₂, ← heq₃]
      split
      · rename_i hin
        rw [Bool.and_eq_true, Bool.and_eq_true] at hin
        obtain rfl := hsame₁ hin.1.1
        obtain rfl := hsame₂ hin.1.2
        obtain rfl := hsame₃ hin.2
        exact ⟨rfl, 3, rfl, rfl⟩
      · exact ⟨rfl, 0, rfl, rfl⟩
  | 0, _ => exact ⟨rfl, 0, rfl, rfl⟩
  | 1, _ => exact ⟨rfl, 0, rfl, rfl⟩
  | n + 5, _ => exact ⟨rfl, 0, rfl, rfl⟩

theorem decodeRune_agree {a : UInt8} (ha : 0x80 ≤ a.toNat) {s t : Bytes}
    (h : List.Forall₂ Agree s t) :
    decodeRune (a :: s) = decodeRune (a :: t) ∧
      ∃ n, (decodeRune (a :: s)).2 = n + 1 ∧ s.take n = t.take n := by
  have hna : ¬ a.toNat < 0x80 := by omega
  rw [decodeRune, decodeRune, if_neg hna, if_neg hna]
  cases hlead : leadByte a with
  | none => exact ⟨rfl, 0, rfl, rfl⟩
  | some lead =>
      obtain ⟨size, low, high⟩ := lead
      exact decodeTail_agree (leadByte_low hlead) h

theorem forall₂_drop_of_take {R : UInt8 → UInt8 → Prop} (hR : ∀ a, R a a) {n : Nat} {s t : Bytes}
    (h : s.take n = t.take n) :
    List.Forall₂ R s t ↔ List.Forall₂ R (s.drop n) (t.drop n) := by
  induction n generalizing s t with
  | zero => rfl
  | succ n ih =>
      cases s with
      | nil =>
          cases t with
          | nil => rfl
          | cons b t => cases h
      | cons a s =>
          cases t with
          | nil => cases h
          | cons b t =>
              obtain ⟨rfl, hrest⟩ := List.cons.inj h
              rw [List.forall₂_cons, List.drop_succ_cons, List.drop_succ_cons, ← ih hrest]
              exact and_iff_right (hR a)

theorem equalFoldFrom_iff {folds : Nat → Nat → Bool} {n : Nat} {s t : Bytes} (hn : s.length ≤ n)
    (h : List.Forall₂ Agree s t) :
    equalFoldFrom folds n s t = true ↔ List.Forall₂ SameLetter s t := by
  induction n generalizing s t with
  | zero =>
      obtain rfl := List.length_eq_zero_iff.mp (Nat.le_zero.mp hn)
      cases h
      simp [equalFoldFrom]
  | succ n ih =>
      cases h with
      | nil => simp [equalFoldFrom]
      | @cons a b s t hab hst =>
          have hlen : s.length ≤ n := Nat.le_of_succ_le_succ hn
          rw [equalFoldFrom, Bool.and_eq_true, List.forall₂_cons]
          by_cases hascii : a.toNat < 0x80 ∧ b.toNat < 0x80
          · rw [decodeRune_ascii hascii.1, decodeRune_ascii hascii.2]
            exact and_congr (sameRune_iff hascii.1 hascii.2) (ih hlen hst)
          · -- a character outside ASCII: the same on both sides
            obtain rfl := hab.resolve_left hascii
            obtain ⟨hsame, k, hsize, htake⟩ := decodeRune_agree (a := a) (by omega) hst
            rw [← hsame, hsize, List.drop_succ_cons, List.drop_succ_cons,
              ih (by rw [List.length_drop]; omega) (List.forall₂_drop k hst),
              ← forall₂_drop_of_take (fun c => .inl rfl) htake]
            exact and_congr (iff_of_true (by simp [sameRune]) (.inl rfl)) Iff.rfl

/-- **Where two sequences agree outside ASCII**, `equalFold` is equality up to the case of ASCII
letters. -/
theorem equalFold_iff_of_agree {folds : Nat → Nat → Bool} {s t : Bytes}
    (h : List.Forall₂ Agree s t) :
    equalFold folds s t = true ↔ List.Forall₂ SameLetter s t :=
  equalFoldFrom_iff le_rfl h

end Utf8
