import Wasmd.Lib.Reader
import Wasmd.Types.Basic

/-!
# The size limit of decompression

`ioutils.Uncompress` reads a gzip archive through `LimitReader`, which answers `errLimit` as soon as
the limit is used up.

* `limitReader`, `uncompress` — the code.
* `readAllLoop_limit` — what `io.ReadAll` returns through the limit.
* `size_limit_exact_iff` — the limit is exact unless its last byte comes without the end of the
  file.
-/

namespace Wasmd

open ByteStore Reading

variable {σ : Type}

namespace Ioutils

/-- `errLimit`. -/
def errLimit : GoError := .foreign "exceeds limit"

/-- `errors.Is(err, errLimit)`. -/
def isErrLimit : GoError → Bool
  | .wrapped _ cause => isErrLimit cause
  | .deterministic cause => isErrLimit cause
  | err => err = errLimit

/-- `LimitReader`: `LimitedReader.Read` before the limited reader of the library. -/
def limitReader (r : Reader σ GoError UInt8) : Reader (σ × ℤ) GoError UInt8 where
  read st len := if st.2 ≤ 0 then (([], .failed errLimit), st) else r.limited.read st len

/-- `gzip.NewReader`, and the reader it returns. -/
structure Gzip (σ : Type) where
  newReader : Bytes → Except GoError σ
  reader : Reader σ GoError UInt8

/-- `Uncompress`. -/
def uncompress (gzip : Gzip σ) (grow : ℕ → ℕ) (fuel : ℕ) (gzipSrc : Bytes) (limit : ℤ) :
    Option (Except GoError Bytes) :=
  if limit < gzipSrc.length then some (.error (.wrapped s!"max {limit} bytes" errLimit))
  else
    match gzip.newReader gzipSrc with
    | .error err => some (.error err)
    | .ok zr =>
      match (limitReader gzip.reader).readAll grow fuel (zr, limit) with
      | none => none
      | some (bz, none) => some (.ok bz)
      | some (_, some err) =>
        if isErrLimit err then some (.error (.wrapped s!"max {limit} bytes" errLimit))
        else some (.error err)

/-! ## Reads through the limit -/

theorem limitReader_read {r : Reader σ GoError UInt8} {s s' : σ} {n len : ℕ} {chunk : Bytes}
    {report : Report GoError} (hn : 0 < n) (h : r.read s (min n len) = ((chunk, report), s')) :
    (limitReader r).read (s, (n : ℤ)) len = ((chunk, report), (s', (n : ℤ) - chunk.length)) := by
  have hpos : ¬ ((n : ℤ) ≤ 0) := by omega
  have hlen : (if (n : ℤ) < len then (n : ℤ).toNat else len) = min n len := by
    split <;> omega
  simp only [limitReader, Reader.limited, if_neg hpos, hlen, h]

theorem limitReader_spent (r : Reader σ GoError UInt8) (s : σ) (len : ℕ) :
    (limitReader r).read (s, 0) len = (([], .failed errLimit), (s, 0)) := rfl

/-- What is read through a limit of `n` bytes, beside what was read before. -/
def limitedResult (x : Bytes) (n : ℕ) (closing : Report GoError) : Bytes × Option GoError :=
  if x.length < n then (x, none)
  else if n < x.length then (x.take n, some errLimit)
  else (x, if closing = .eof then none else some errLimit)

/-- A read that leaves something of the limit. -/
theorem limitedResult_append {chunk rest : Bytes} {n : ℕ} {closing closing' : Report GoError}
    (hn : chunk.length < n) (hclosing : rest ≠ [] → closing = closing') :
    limitedResult (chunk ++ rest) n closing =
      (chunk ++ (limitedResult rest (n - chunk.length) closing').1,
        (limitedResult rest (n - chunk.length) closing').2) := by
  unfold limitedResult
  rw [List.length_append]
  by_cases hshort : rest.length < n - chunk.length
  · rw [if_pos (by omega), if_pos hshort]
  · have hne : rest ≠ [] := by
      rintro rfl
      exact hshort (Nat.sub_pos_of_lt hn)
    rw [if_neg (by omega), if_neg hshort]
    by_cases hlong : n - chunk.length < rest.length
    · rw [if_pos (by omega), if_pos hlong, List.take_append, List.take_of_length_le hn.le]
    · rw [if_neg (by omega), if_neg hlong, hclosing hne]

/-- A read that uses up the limit without an end. -/
theorem limitedResult_spent {chunk rest : Bytes} {n : ℕ} {closing : Report GoError}
    (hn : chunk.length = n) (hclosing : rest = [] → closing = .more) :
    limitedResult (chunk ++ rest) n closing = (chunk, some errLimit) := by
  unfold limitedResult
  rw [List.length_append, if_neg (by omega)]
  by_cases hlong : n < chunk.length + rest.length
  · rw [if_pos hlong, ← hn, List.take_left]
  · have hrest : rest = [] := List.eq_nil_of_length_eq_zero (by omega)
    rw [if_neg hlong, hclosing hrest, hrest, List.append_nil, if_neg nofun]

/-- A read that ends with the end of the file. -/
theorem limitedResult_eof {chunk : Bytes} {n : ℕ} (hn : chunk.length ≤ n) :
    limitedResult chunk n .eof = (chunk, none) := by
  unfold limitedResult
  rw [if_neg (by omega : ¬ n < chunk.length), if_pos rfl, ite_self]

/-- **What `io.ReadAll` returns through the limit.** -/
theorem readAllLoop_limit (r : Source σ GoError UInt8) {grow : ℕ → ℕ} (hgrow : ∀ c, c < grow c)
    (fuel : ℕ) (b : Bytes) (cap n : ℕ) (s : σ) (hfuel : (r.remaining s).length + 1 < fuel)
    (hcap : b.length < cap) (hn : 0 < n) :
    (limitReader r.toReader).readAllLoop grow fuel b cap (s, (n : ℤ)) =
      some (b ++ (limitedResult (r.remaining s) n (r.closing grow fuel b.length cap n s)).1,
        (limitedResult (r.remaining s) n (r.closing grow fuel b.length cap n s)).2) := by
  -- each read takes at least one byte of what remains, so the fuel suffices
  induction fuel generalizing b cap n s with
  | zero => omega
  | succ fuel ih =>
      have hlen : 0 < min n (cap - b.length) := by omega
      rcases r.read_cases s hlen with ⟨hdone, s', hread⟩ |
        ⟨chunk, report, s', hread, hne, hle, hrest, hreport⟩
      · rw [Reader.readAllLoop_eof (limitReader_read hn hread), hdone]
        simp [limitedResult, hn]
      · have hpos : 0 < chunk.length := List.length_pos_iff.mpr hne
        have hlength : (r.remaining s).length = chunk.length + (r.remaining s').length := by
          rw [hrest, List.length_append]
        rcases hreport with rfl | ⟨rfl, hlast⟩
        · rw [Reader.readAllLoop_more (limitReader_read hn hread), hrest]
          by_cases hspent : chunk.length = n
          · obtain ⟨fuel, rfl⟩ : ∃ f, fuel = f + 1 := ⟨fuel - 1, by omega⟩
            have hzero : (n : ℤ) - chunk.length = 0 := by omega
            rw [hzero, Reader.readAllLoop_failed (limitReader_spent _ _ _),
              limitedResult_spent hspent fun hlast => Source.closing_last hread hlast,
                List.append_nil]
          · have hcast : (n : ℤ) - chunk.length = ((n - chunk.length : ℕ) : ℤ) := by omega
            have hroom : (b ++ chunk).length ≤ cap := by
              rw [List.length_append]
              omega
            rw [hcast, ih _ _ _ _ (by omega) (Reader.lt_nextCap hgrow hroom) (by omega),
              List.length_append, limitedResult_append (by omega) (Source.closing_more hread),
              List.append_assoc]
        · rw [Reader.readAllLoop_eof (limitReader_read hn hread), hrest, hlast, List.append_nil,
            Source.closing_last hread hlast, limitedResult_eof (by omega)]

/-! ## The limit is exact -/

/-- What `io.ReadAll` returns through a limit of `n` bytes. -/
def readLimited (r : Source σ GoError UInt8) (grow : ℕ → ℕ) (fuel : ℕ) (s : σ) (n : ℕ) :
    Option (Bytes × Option GoError) :=
  (limitReader r.toReader).readAll grow fuel (s, (n : ℤ))

/-- The limit of `n` bytes is exact for what the reader delivers from `s`. -/
structure SizeLimitExact (r : Source σ GoError UInt8) (grow : ℕ → ℕ) (fuel : ℕ) (s : σ) (n : ℕ) :
    Prop where
  /-- What is within the limit is returned. -/
  within : (r.remaining s).length ≤ n → readLimited r grow fuel s n = some (r.remaining s, none)
  /-- What is longer fails. -/
  beyond : n < (r.remaining s).length →
    ∃ bz, readLimited r grow fuel s n = some (bz, some errLimit)
  /-- An archive that is itself within the limit is accepted if its contents are. -/
  uncompress : ∀ (newReader : Bytes → Except GoError σ) (gzipSrc : Bytes), gzipSrc.length ≤ n →
    newReader gzipSrc = .ok s →
      ((∃ bz, uncompress ⟨newReader, r.toReader⟩ grow fuel gzipSrc n = some (.ok bz)) ↔
        (r.remaining s).length ≤ n)

/-- The limit is reached with the last byte, and the end of the file comes with that byte. -/
def ClosedInTime (r : Source σ GoError UInt8) (grow : ℕ → ℕ) (fuel : ℕ) (s : σ) (n : ℕ) : Prop :=
  (r.remaining s).length = n → r.closing grow fuel 0 512 n s = .eof

section Exact

variable {r : Source σ GoError UInt8} {grow : ℕ → ℕ} {fuel : ℕ} {s : σ} {n : ℕ}

theorem readLimited_eq (hgrow : ∀ c, c < grow c) (hn : 0 < n)
    (hfuel : (r.remaining s).length + 1 < fuel) :
    readLimited r grow fuel s n =
      some (limitedResult (r.remaining s) n (r.closing grow fuel 0 512 n s)) :=
  readAllLoop_limit r hgrow fuel [] 512 n s hfuel (by decide) hn

/-- Reads succeed through the limit if the contents are shorter, or as long and closed in time. -/
theorem limitedResult_none_iff {x : Bytes} {closing : Report GoError} :
    (limitedResult x n closing).2 = none ↔ x.length ≤ n ∧ (x.length = n → closing = .eof) := by
  unfold limitedResult
  by_cases hshort : x.length < n
  · rw [if_pos hshort]
    exact ⟨fun _ => ⟨hshort.le, fun heq => absurd heq hshort.ne⟩, fun _ => rfl⟩
  · rw [if_neg hshort]
    by_cases hlong : n < x.length
    · rw [if_pos hlong]
      exact ⟨nofun, fun h => absurd h.1 (by omega)⟩
    · have heq : x.length = n := by omega
      rw [if_neg hlong]
      by_cases hclosing : closing = .eof
      · simp [hclosing, heq]
      · simp [hclosing, heq]

/-- If no error comes, all was read; the only error is that of the limit. -/
theorem limitedResult_cases (x : Bytes) (n : ℕ) (closing : Report GoError) :
    limitedResult x n closing = (x, none) ∨
      ∃ bz, limitedResult x n closing = (bz, some errLimit) := by
  unfold limitedResult
  split
  · exact .inl rfl
  · split
    · exact .inr ⟨_, rfl⟩
    · split
      · exact .inl rfl
      · exact .inr ⟨_, rfl⟩

/-- An archive is accepted if its contents are read without an error. -/
theorem uncompress_ok_iff {newReader : Bytes → Except GoError σ} {gzipSrc : Bytes}
    {result : Bytes × Option GoError} (hsize : gzipSrc.length ≤ n)
    (hopen : newReader gzipSrc = .ok s) (hread : readLimited r grow fuel s n = some result) :
    (∃ bz, uncompress ⟨newReader, r.toReader⟩ grow fuel gzipSrc n = some (.ok bz)) ↔
      result.2 = none := by
  have hsmall : ¬ ((n : ℤ) < gzipSrc.length) := by omega
  have hread' : (limitReader r.toReader).readAll grow fuel (s, (n : ℤ)) = some result := hread
  obtain ⟨bz, err⟩ := result
  simp only [uncompress, if_neg hsmall, hopen, hread']
  cases err with
  | none => exact ⟨fun _ => rfl, fun _ => ⟨bz, rfl⟩⟩
  | some err =>
      refine ⟨fun ⟨bz', h⟩ => ?_, nofun⟩
      dsimp only at h
      split at h
      · cases h
      · cases h

end Exact

/-- **The limit is exact, unless its last byte comes without the end of the file.** -/
theorem size_limit_exact_iff (r : Source σ GoError UInt8) (grow : ℕ → ℕ) (hgrow : ∀ c, c < grow c)
    (s : σ) (n : ℕ) (hn : 0 < n) (fuel : ℕ) (hfuel : (r.remaining s).length + 1 < fuel) :
    SizeLimitExact r grow fuel s n ↔ ClosedInTime r grow fuel s n := by
  have hread := readLimited_eq hgrow hn hfuel
  constructor
  · intro hexact heq
    have hok := hread.symm.trans (hexact.within heq.le)
    have hnone := congrArg Prod.snd (Option.some.inj hok)
    exact (limitedResult_none_iff.mp hnone).2 heq
  · intro hclosed
    have hnone : (limitedResult (r.remaining s) n (r.closing grow fuel 0 512 n s)).2 = none ↔
        (r.remaining s).length ≤ n :=
      limitedResult_none_iff.trans ⟨And.left, fun hle => ⟨hle, hclosed⟩⟩
    refine ⟨fun hle => ?_, fun hlt => ?_, fun newReader gzipSrc hsize hopen => ?_⟩
    · rw [hread]
      rcases limitedResult_cases (r.remaining s) n (r.closing grow fuel 0 512 n s) with h | ⟨bz, h⟩
      · rw [h]
      · have hno := hnone.mpr hle
        rw [h] at hno
        cases hno
    · rw [hread]
      rcases limitedResult_cases (r.remaining s) n (r.closing grow fuel 0 512 n s) with h | ⟨bz, h⟩
      · exact absurd (hnone.mp (by rw [h])) (by omega)
      · exact ⟨bz, by rw [h]⟩
    · exact (uncompress_ok_iff hsize hopen hread).trans hnone

/-! ### Two readers of one byte -/

/-- A reader that fills the buffer, and reports the end with the last bytes or by a read of its
own. -/
def plainSource (together : Bool) : Source Bytes GoError UInt8 where
  read s len :=
    ((s.take len, if s = [] ∨ together = true ∧ s.length ≤ len then .eof else .more), s.drop len)
  remaining s := s
  read_done s len hlen hs := by
    subst hs
    simp
  read_some s len hlen hs := by
    refine ⟨?_, List.length_take_le len s, (List.take_append_drop len s).symm, ?_⟩
    · rw [Ne, List.take_eq_nil_iff]
      exact fun h => h.elim (by omega) hs
    · by_cases hlast : s = [] ∨ together = true ∧ s.length ≤ len
      · refine .inr ⟨if_pos hlast, ?_⟩
        rcases hlast with hempty | ⟨-, hle⟩
        · exact absurd hempty hs
        · exact List.drop_eq_nil_of_le hle
      · exact .inl (if_neg hlast)

/-- The end comes with the byte, and one byte is read through a limit of one byte. -/
theorem size_limit_exact_together :
    SizeLimitExact (plainSource true) (· + 512) 3 [1] 1 :=
  (size_limit_exact_iff (plainSource true) (· + 512) (fun c => by omega) [1] 1 (by decide) 3
    (by decide)).mpr fun _ => by decide

/-- **One byte does not fit a limit of one byte** if the end of the file comes by a read of its
own. -/
theorem size_limit_fails_separate :
    readLimited (plainSource false) (· + 512) 3 [1] 1 = some ([1], some errLimit) ∧
      ¬ SizeLimitExact (plainSource false) (· + 512) 3 [1] 1 := by
  have hread : readLimited (plainSource false) (· + 512) 3 [1] 1 = some ([1], some errLimit) := by
    decide
  refine ⟨hread, fun hexact => ?_⟩
  have hok := hexact.within (by decide)
  rw [hread] at hok
  cases hok

end Ioutils

end Wasmd
