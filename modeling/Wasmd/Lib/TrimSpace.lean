import Mathlib.Data.List.DropRight

/-!
# Trimming white space

`strings.TrimSpace` of the standard library: all leading and trailing white space goes, as Unicode
defines it.

* `isSpace` — `unicode.IsSpace`.
* `trimSpace` — what is left of a text.
* `Trimmed` — a text neither starts nor ends with white space; `trimmed_trimSpace` says that this is
  what trimming achieves.
-/

namespace Text

/-- `unicode.IsSpace`: the code points with the property `White_Space`. -/
def isSpace (c : Char) : Bool :=
  (9 ≤ c.toNat && c.toNat ≤ 13) || c.toNat = 0x20 || c.toNat = 0x85 || c.toNat = 0xA0 ||
    c.toNat = 0x1680 || (0x2000 ≤ c.toNat && c.toNat ≤ 0x200A) || c.toNat = 0x2028 ||
    c.toNat = 0x2029 || c.toNat = 0x202F || c.toNat = 0x205F || c.toNat = 0x3000

/-- `strings.TrimSpace`. -/
def trimSpace (s : String) : String :=
  String.ofList ((s.toList.dropWhile isSpace).rdropWhile isSpace)

/-- Neither the first nor the last character is white space. -/
structure Trimmed (s : String) : Prop where
  head : ∀ c, s.toList.head? = some c → isSpace c = false
  last : ∀ c, s.toList.getLast? = some c → isSpace c = false

theorem head?_dropWhile {α : Type} (p : α → Bool) (l : List α) (a : α)
    (h : (l.dropWhile p).head? = some a) : p a = false := by
  have := List.head?_dropWhile_not p l
  rw [h] at this
  simpa using this

theorem head?_rdropWhile {α : Type} {p : α → Bool} {l : List α} {a : α}
    (h : (l.rdropWhile p).head? = some a) : l.head? = some a := by
  obtain ⟨rest, hrest⟩ := List.rdropWhile_prefix p l
  rw [← hrest, List.head?_append, h]
  rfl

theorem getLast?_rdropWhile {α : Type} (p : α → Bool) (l : List α) (a : α)
    (h : (l.rdropWhile p).getLast? = some a) : p a = false := by
  rw [List.rdropWhile, List.getLast?_reverse] at h
  exact head?_dropWhile p _ a h

/-- **Trimming trims.** -/
theorem trimmed_trimSpace (s : String) : Trimmed (trimSpace s) where
  head c h := by
    rw [trimSpace, String.toList_ofList] at h
    exact head?_dropWhile isSpace _ c (head?_rdropWhile h)
  last c h := by
    rw [trimSpace, String.toList_ofList] at h
    exact getLast?_rdropWhile isSpace _ c h

example : trimSpace " \t_contract_address \n" = "_contract_address" := by decide +kernel

end Text
