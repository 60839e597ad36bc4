import Mathlib.Data.List.Basic
import Mathlib.Data.Int.Notation

/-!
# Readers

A reader fills buffers.  It may fill them only in part, and reports its end together with the last
bytes or by a read of its own.

* `Reader` — a read into a buffer of a given length.
* `Reader.limited` — at most so many bytes are read, and then the end is reported.
* `Reader.readAll` — reads into a growing buffer until an end or an error is reported.
* `Source` — a reader that keeps to the contract, with what it has still to deliver.
* `Source.closing` — what is reported with the last byte when it is read in this way.
-/

namespace Reading

variable {σ E α : Type}

/-- The error beside the bytes of a read: none, the end, or another. -/
inductive Report (E : Type) where
  | more
  | eof
  | failed (e : E)
  deriving DecidableEq, Repr

/-- A read into a buffer of a given length. -/
structure Reader (σ E α : Type) where
  read : σ → ℕ → (List α × Report E) × σ

namespace Reader

/-- `io.LimitedReader`: the number beside the state counts down. -/
def limited (r : Reader σ E α) : Reader (σ × ℤ) E α where
  read st len :=
    if st.2 ≤ 0 then (([], .eof), st)
    else
      let out := r.read st.1 (if st.2 < len then st.2.toNat else len)
      (out.1, (out.2, st.2 - out.1.1.length))

/-- The capacity after a read: a full buffer is grown. -/
def nextCap (grow : ℕ → ℕ) (cap filled : ℕ) : ℕ := if filled = cap then grow cap else cap

/-- The loop of `io.ReadAll`, from a buffer that holds `b`. -/
def readAllLoop (r : Reader σ E α) (grow : ℕ → ℕ) :
    ℕ → List α → ℕ → σ → Option (List α × Option E)
  | 0, _, _, _ => none
  | fuel + 1, b, cap, s =>
    match r.read s (cap - b.length) with
    | ((chunk, .failed e), _) => some (b ++ chunk, some e)
    | ((chunk, .eof), _) => some (b ++ chunk, none)
    | ((chunk, .more), s') =>
      readAllLoop r grow fuel (b ++ chunk) (nextCap grow cap (b ++ chunk).length) s'

/-- `io.ReadAll`: what was read, and the error. -/
def readAll (r : Reader σ E α) (grow : ℕ → ℕ) (fuel : ℕ) (s : σ) : Option (List α × Option E) :=
  r.readAllLoop grow fuel [] 512 s

section Loop

variable {r : Reader σ E α} {grow : ℕ → ℕ} {fuel : ℕ} {b : List α} {cap : ℕ} {s s' : σ}
    {chunk : List α}

theorem readAllLoop_more (h : r.read s (cap - b.length) = ((chunk, .more), s')) :
    r.readAllLoop grow (fuel + 1) b cap s =
      r.readAllLoop grow fuel (b ++ chunk) (nextCap grow cap (b ++ chunk).length) s' := by
  rw [readAllLoop, h]

theorem readAllLoop_eof (h : r.read s (cap - b.length) = ((chunk, .eof), s')) :
    r.readAllLoop grow (fuel + 1) b cap s = some (b ++ chunk, none) := by
  rw [readAllLoop, h]

theorem readAllLoop_failed {e : E} (h : r.read s (cap - b.length) = ((chunk, .failed e), s')) :
    r.readAllLoop grow (fuel + 1) b cap s = some (b ++ chunk, some e) := by
  rw [readAllLoop, h]

end Loop

/-- There is room in the next buffer. -/
theorem lt_nextCap {grow : ℕ → ℕ} (hgrow : ∀ c, c < grow c) {cap filled : ℕ} (h : filled ≤ cap) :
    filled < nextCap grow cap filled := by
  unfold nextCap
  split
  · rename_i heq
    rw [heq]
    exact hgrow cap
  · omega

end Reader

/-- A reader that keeps to the contract: a read delivers some of what remains, and the end is
reported with the last of it or by a read of its own. -/
structure Source (σ E α : Type) extends Reader σ E α where
  remaining : σ → List α
  read_done : ∀ s len, 0 < len → remaining s = [] →
    (read s len).1 = ([], .eof) ∧ remaining (read s len).2 = []
  read_some : ∀ s len, 0 < len → remaining s ≠ [] →
    (read s len).1.1 ≠ [] ∧ (read s len).1.1.length ≤ len ∧
      remaining s = (read s len).1.1 ++ remaining (read s len).2 ∧
      ((read s len).1.2 = .more ∨ (read s len).1.2 = .eof ∧ remaining (read s len).2 = [])

namespace Source

/-- What is reported with the last byte, when at most `n` bytes are read by `io.ReadAll` into a
buffer of capacity `cap` that is filled up to `filled`. -/
def closing (r : Source σ E α) (grow : ℕ → ℕ) : ℕ → ℕ → ℕ → ℕ → σ → Report E
  | 0, _, _, _, _ => .more
  | fuel + 1, filled, cap, n, s =>
    let out := r.read s (min n (cap - filled))
    if (r.remaining out.2).isEmpty then out.1.2
    else closing r grow fuel (filled + out.1.1.length)
      (Reader.nextCap grow cap (filled + out.1.1.length)) (n - out.1.1.length) out.2

theorem closing_last {r : Source σ E α} {grow : ℕ → ℕ} {fuel filled cap n : ℕ} {s s' : σ}
    {chunk : List α} {report : Report E}
    (h : r.read s (min n (cap - filled)) = ((chunk, report), s')) (hlast : r.remaining s' = []) :
    r.closing grow (fuel + 1) filled cap n s = report := by
  simp [closing, h, hlast]

theorem closing_more {r : Source σ E α} {grow : ℕ → ℕ} {fuel filled cap n : ℕ} {s s' : σ}
    {chunk : List α} {report : Report E}
    (h : r.read s (min n (cap - filled)) = ((chunk, report), s')) (hmore : r.remaining s' ≠ []) :
    r.closing grow (fuel + 1) filled cap n s =
      r.closing grow fuel (filled + chunk.length) (Reader.nextCap grow cap (filled + chunk.length))
        (n - chunk.length) s' := by
  simp [closing, h, hmore]

/-- The two kinds of reads. -/
theorem read_cases (r : Source σ E α) (s : σ) {len : ℕ} (hlen : 0 < len) :
    (r.remaining s = [] ∧ ∃ s', r.read s len = (([], .eof), s')) ∨
      ∃ chunk report s', r.read s len = ((chunk, report), s') ∧ chunk ≠ [] ∧ chunk.length ≤ len ∧
        r.remaining s = chunk ++ r.remaining s' ∧
        (report = .more ∨ report = .eof ∧ r.remaining s' = []) := by
  by_cases hdone : r.remaining s = []
  · exact .inl ⟨hdone, _, Prod.ext (r.read_done s len hlen hdone).1 rfl⟩
  · exact .inr ⟨_, _, _, rfl, r.read_some s len hlen hdone⟩

end Source

end Reading
