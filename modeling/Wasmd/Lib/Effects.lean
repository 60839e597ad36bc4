import Mathlib.Data.List.Forall2
import Mathlib.Logic.Basic
import Mathlib.Tactic.Common

/-!
# Stateful computations that return, fail or panic

A call of a Go method on a context ends in one of three ways: it returns a value
with a nil error, it returns an error, or it panics.  Whatever it wrote through
the pointers it was given stays written in all three cases; undoing it is the
caller's business.  This file is the small calculus the rest of the development
computes in.

* `GoM σ ε α` — a computation over a state `σ`: the state after it is there even
  when it failed.
* `bind_ok_iff`, `ensure_ok_iff`, `ofOption_ok_iff`, `mapError_ok_iff` — what a
  successful run of a sequence of statements says about each of them.
* `Keeps` — the frame rule: a computation leaves a part of the state alone,
  however it ends.
* `forEach` — a loop over a list, with the rule that carries an invariant through
  it (`forEach_invariant`).
* `firstOf` — computations that are tried in order until one takes effect.
-/

namespace Effects

/-- The value a Go panic carries. -/
inductive Panic where
  /-- `storetypes.ErrorOutOfGas`. -/
  | outOfGas (descriptor : String)
  /-- `storetypes.ErrorGasOverflow`. -/
  | gasOverflow (descriptor : String)
  /-- Any other value. -/
  | message (text : String)
  deriving DecidableEq, Repr

/-- How a call ends when it does not end with a nil error. -/
inductive Failure (ε : Type) where
  | error (e : ε)
  | panic (p : Panic)
  deriving DecidableEq, Repr

/-- A computation over the state `σ` with errors in `ε`. -/
def GoM (σ ε α : Type) : Type := σ → Except (Failure ε) α × σ

namespace GoM

variable {σ ε α β γ : Type}

instance : Monad (GoM σ ε) where
  pure a := fun s => (.ok a, s)
  bind x f := fun s =>
    match x s with
    | (.ok a, s') => f a s'
    | (.error e, s') => (.error e, s')

/-- Read the state. -/
def get : GoM σ ε σ := fun s => (.ok s, s)

/-- Read a part of the state. -/
def gets (f : σ → α) : GoM σ ε α := fun s => (.ok (f s), s)

/-- Change the state. -/
def modify (f : σ → σ) : GoM σ ε Unit := fun s => (.ok (), f s)

/-- Return an error. -/
def failWith (e : ε) : GoM σ ε α := fun s => (.error (.error e), s)

/-- Panic. -/
def raise (p : Panic) : GoM σ ε α := fun s => (.error (.panic p), s)

/-- Go on only when the condition holds, else return the error. -/
def ensure (c : Prop) [Decidable c] (e : ε) : GoM σ ε Unit :=
  if c then pure () else failWith e

/-- The value of an option, or an error when there is none. -/
def ofOption (o : Option α) (e : ε) : GoM σ ε α :=
  match o with
  | some a => pure a
  | none => failWith e

/-- The value of an option, or a panic when there is none. -/
def ofOptionPanic (o : Option α) (p : Panic) : GoM σ ε α :=
  match o with
  | some a => pure a
  | none => raise p

/-- A pure computation that may fail. -/
def ofExcept (r : Except (Failure ε) α) : GoM σ ε α := fun s => (r, s)

/-- Rewrite the error of a computation, as wrapping it does; a panic passes through. -/
def mapError (f : ε → ε) (x : GoM σ ε α) : GoM σ ε α := fun s =>
  match x s with
  | (.error (.error e), s') => (.error (.error (f e)), s')
  | other => other

/-- A loop over a list whose body may end the whole call. -/
def forEach (l : List α) (body : α → GoM σ ε Unit) : GoM σ ε Unit :=
  match l with
  | [] => pure ()
  | a :: rest => do
    body a
    forEach rest body

/-- A loop over a list and the indices of its elements, which are counted from `i` on. -/
def forEachFrom (i : Nat) (l : List α) (body : Nat → α → GoM σ ε Unit) : GoM σ ε Unit :=
  match l with
  | [] => pure ()
  | a :: rest => do
    body i a
    forEachFrom (i + 1) rest body

/-! ## Running a computation -/

@[simp] theorem pure_run (a : α) (s : σ) : (pure a : GoM σ ε α) s = (.ok a, s) := rfl

theorem bind_run (x : GoM σ ε α) (f : α → GoM σ ε β) (s : σ) :
    (x >>= f) s = match x s with
      | (.ok a, s') => f a s'
      | (.error e, s') => (.error e, s') := rfl

theorem bind_run_ok {x : GoM σ ε α} {s s' : σ} {a : α} (h : x s = (.ok a, s'))
    (f : α → GoM σ ε β) : (x >>= f) s = f a s' := by
  rw [bind_run, h]

theorem bind_run_error {x : GoM σ ε α} {s s' : σ} {e : Failure ε} (h : x s = (.error e, s'))
    (f : α → GoM σ ε β) : (x >>= f) s = (.error e, s') := by
  rw [bind_run, h]

/-- Two runs in a row agree if the first parts do and the second parts do wherever they begin. -/
theorem bind_run_congr {x y : GoM σ ε α} {f g : α → GoM σ ε β} {s : σ} (hx : x s = y s)
    (hf : ∀ a s', y s = (.ok a, s') → f a s' = g a s') : (x >>= f) s = (y >>= g) s := by
  rw [bind_run, bind_run, hx]
  cases hy : y s with
  | mk r s' =>
      cases r with
      | ok a => exact hf a s' hy
      | error e => rfl

@[simp] theorem gets_run (f : σ → α) (s : σ) : (gets f : GoM σ ε α) s = (.ok (f s), s) := rfl

@[simp] theorem modify_run (f : σ → σ) (s : σ) : (modify f : GoM σ ε Unit) s = (.ok (), f s) := rfl

@[simp] theorem failWith_run (e : ε) (s : σ) :
    (failWith e : GoM σ ε α) s = (.error (.error e), s) := rfl

@[simp] theorem raise_run (p : Panic) (s : σ) :
    (raise p : GoM σ ε α) s = (.error (.panic p), s) := rfl

@[simp] theorem ofExcept_run (r : Except (Failure ε) α) (s : σ) :
    (ofExcept r : GoM σ ε α) s = (r, s) := rfl

theorem ensure_run_true {c : Prop} [Decidable c] (h : c) (e : ε) (s : σ) :
    (ensure c e : GoM σ ε Unit) s = (.ok (), s) := by
  simp [ensure, h]

theorem ensure_run_false {c : Prop} [Decidable c] (h : ¬ c) (e : ε) (s : σ) :
    (ensure c e : GoM σ ε Unit) s = (.error (.error e), s) := by
  simp [ensure, h]

/-! ## What a successful run says about its parts -/

theorem bind_ok_iff {x : GoM σ ε α} {f : α → GoM σ ε β} {s s' : σ} {b : β} :
    (x >>= f) s = (.ok b, s') ↔ ∃ a s₁, x s = (.ok a, s₁) ∧ f a s₁ = (.ok b, s') := by
  rw [bind_run]
  constructor
  · intro h
    split at h
    · rename_i a s₁ hx
      exact ⟨a, s₁, hx, h⟩
    · cases h
  · rintro ⟨a, s₁, hx, hf⟩
    rw [hx]
    exact hf

theorem pure_ok_iff {a b : α} {s s' : σ} :
    (pure a : GoM σ ε α) s = (.ok b, s') ↔ b = a ∧ s' = s := by
  rw [pure_run]
  constructor
  · intro h
    cases h
    exact ⟨rfl, rfl⟩
  · rintro ⟨rfl, rfl⟩
    rfl

theorem gets_ok_iff {f : σ → α} {a : α} {s s' : σ} :
    (gets f : GoM σ ε α) s = (.ok a, s') ↔ a = f s ∧ s' = s := by
  rw [gets_run]
  constructor
  · intro h
    cases h
    exact ⟨rfl, rfl⟩
  · rintro ⟨rfl, rfl⟩
    rfl

theorem modify_ok_iff {f : σ → σ} {u : Unit} {s s' : σ} :
    (modify f : GoM σ ε Unit) s = (.ok u, s') ↔ s' = f s := by
  rw [modify_run]
  constructor
  · intro h
    cases h
    rfl
  · rintro rfl
    rfl

/-- A run whose result is known to be a value. -/
theorem ok_of_toOption {x : GoM σ ε α} {s : σ} {a : α} (h : (x s).1.toOption = some a) :
    x s = (.ok a, (x s).2) := by
  cases hx : x s with
  | mk r s' =>
      cases r with
      | error e => simp [hx, Except.toOption] at h
      | ok b => simp_all [Except.toOption]

theorem failWith_ne_ok {e : ε} {a : α} {s s' : σ} :
    (failWith e : GoM σ ε α) s ≠ (.ok a, s') := by
  intro h
  cases h

theorem raise_ne_ok {p : Panic} {a : α} {s s' : σ} :
    (raise p : GoM σ ε α) s ≠ (.ok a, s') := by
  intro h
  cases h

theorem ensure_ok_iff {c : Prop} [Decidable c] {e : ε} {u : Unit} {s s' : σ} :
    (ensure c e : GoM σ ε Unit) s = (.ok u, s') ↔ c ∧ s' = s := by
  unfold ensure
  split
  · rename_i hc
    rw [pure_ok_iff]
    exact ⟨fun h => ⟨hc, h.2⟩, fun h => ⟨rfl, h.2⟩⟩
  · rename_i hc
    exact ⟨fun h => absurd h failWith_ne_ok, fun h => absurd h.1 hc⟩

theorem ofOption_ok_iff {o : Option α} {e : ε} {a : α} {s s' : σ} :
    (ofOption o e : GoM σ ε α) s = (.ok a, s') ↔ o = some a ∧ s' = s := by
  cases o with
  | none => exact ⟨fun h => absurd h failWith_ne_ok, fun h => absurd h.1 (by simp)⟩
  | some b =>
    rw [show (ofOption (some b) e : GoM σ ε α) = pure b from rfl, pure_ok_iff]
    exact ⟨fun h => ⟨by rw [h.1], h.2⟩, fun h => ⟨(Option.some.inj h.1).symm, h.2⟩⟩

theorem ofOptionPanic_ok_iff {o : Option α} {p : Panic} {a : α} {s s' : σ} :
    (ofOptionPanic o p : GoM σ ε α) s = (.ok a, s') ↔ o = some a ∧ s' = s := by
  cases o with
  | none => exact ⟨fun h => absurd h raise_ne_ok, fun h => absurd h.1 (by simp)⟩
  | some b =>
    rw [show (ofOptionPanic (some b) p : GoM σ ε α) = pure b from rfl, pure_ok_iff]
    exact ⟨fun h => ⟨by rw [h.1], h.2⟩, fun h => ⟨(Option.some.inj h.1).symm, h.2⟩⟩

theorem ofExcept_ok_iff {r : Except (Failure ε) α} {a : α} {s s' : σ} :
    (ofExcept r : GoM σ ε α) s = (.ok a, s') ↔ r = .ok a ∧ s' = s := by
  rw [ofExcept_run, Prod.mk.injEq]
  exact ⟨fun h => ⟨h.1, h.2.symm⟩, fun h => ⟨h.1, h.2.symm⟩⟩

theorem mapError_ok_iff {f : ε → ε} {x : GoM σ ε α} {a : α} {s s' : σ} :
    mapError f x s = (.ok a, s') ↔ x s = (.ok a, s') := by
  unfold mapError
  split
  · rename_i e s₁ hx
    rw [hx]
    constructor <;> intro h <;> cases h
  · rfl

/-! ## Errors that are wrapped -/

theorem mapError_mapError (f g : ε → ε) (x : GoM σ ε α) :
    mapError f (mapError g x) = mapError (f ∘ g) x := by
  funext s
  unfold mapError
  cases x s with
  | mk r s' =>
      cases r with
      | ok a => rfl
      | error e => cases e <;> rfl

theorem mapError_bind_run (f : ε → ε) (x : GoM σ ε α) (g : α → GoM σ ε β) (s : σ) :
    mapError f (x >>= g) s = (mapError f x >>= fun a => mapError f (g a)) s := by
  rw [bind_run]
  unfold mapError
  rw [bind_run]
  cases x s with
  | mk r s' =>
      cases r with
      | ok a => rfl
      | error e => cases e <;> rfl

/-! ## What a failed run says about its parts -/

theorem bind_error_iff {x : GoM σ ε α} {f : α → GoM σ ε β} {s : σ} {e : Failure ε} :
    ((x >>= f) s).1 = .error e ↔
      (x s).1 = .error e ∨ ∃ a s₁, x s = (.ok a, s₁) ∧ (f a s₁).1 = .error e := by
  rw [bind_run]
  cases hx : x s with
  | mk r s₁ =>
      cases r with
      | error e' => simp
      | ok a => simp

theorem ensure_error_iff {c : Prop} [Decidable c] {e : ε} {e' : Failure ε} {s : σ} :
    ((ensure c e : GoM σ ε Unit) s).1 = .error e' ↔ ¬ c ∧ e' = .error e := by
  unfold ensure
  split
  · rename_i hc
    simp [hc]
  · rename_i hc
    simp [hc, eq_comm]

theorem ofOption_error_iff {o : Option α} {e : ε} {e' : Failure ε} {s : σ} :
    ((ofOption o e : GoM σ ε α) s).1 = .error e' ↔ o = none ∧ e' = .error e := by
  cases o with
  | none => simp [ofOption, eq_comm]
  | some a => simp [ofOption]

theorem mapError_error_iff {f : ε → ε} {x : GoM σ ε α} {s : σ} {e : ε} :
    (mapError f x s).1 = .error (.error e) ↔ ∃ e', (x s).1 = .error (.error e') ∧ f e' = e := by
  unfold mapError
  split
  · rename_i e' s₁ hx
    simp [hx]
  · rename_i hno
    constructor
    · intro h
      exact (hno e (x s).2 (Prod.ext h rfl)).elim
    · rintro ⟨e', he', -⟩
      exact (hno e' (x s).2 (Prod.ext he' rfl)).elim

/-! ## Frames -/

/-- `x` leaves the part `π` of the state alone, however it ends. -/
def Keeps (π : σ → γ) (x : GoM σ ε α) : Prop := ∀ s, π (x s).2 = π s

variable {π : σ → γ}

theorem Keeps.of_ok {x : GoM σ ε α} (h : Keeps π x) {s s' : σ} {r : Except (Failure ε) α}
    (hx : x s = (r, s')) : π s' = π s := by
  have := h s
  rwa [hx] at this

theorem Keeps.pure (a : α) : Keeps π (Pure.pure a : GoM σ ε α) := fun _ => rfl

theorem Keeps.gets (f : σ → α) : Keeps π (gets f : GoM σ ε α) := fun _ => rfl

theorem Keeps.failWith (e : ε) : Keeps π (failWith e : GoM σ ε α) := fun _ => rfl

theorem Keeps.ofExcept (r : Except (Failure ε) α) : Keeps π (ofExcept r : GoM σ ε α) := fun _ => rfl

theorem Keeps.ensure (c : Prop) [Decidable c] (e : ε) : Keeps π (ensure c e : GoM σ ε Unit) := by
  intro s
  unfold GoM.ensure
  split <;> rfl

theorem Keeps.ofOption (o : Option α) (e : ε) : Keeps π (ofOption o e : GoM σ ε α) := by
  intro s
  cases o <;> rfl

theorem Keeps.ofOptionPanic (o : Option α) (p : Panic) :
    Keeps π (ofOptionPanic o p : GoM σ ε α) := by
  intro s
  cases o <;> rfl

theorem Keeps.bind {x : GoM σ ε α} {f : α → GoM σ ε β} (hx : Keeps π x) (hf : ∀ a, Keeps π (f a)) :
    Keeps π (x >>= f) := by
  intro s
  rw [bind_run]
  have h := hx s
  split
  · rename_i a s' hs
    rw [hs] at h
    rw [hf a s', h]
  · rename_i e s' hs
    rw [hs] at h
    exact h

theorem Keeps.ite {c : Prop} [Decidable c] {x y : GoM σ ε α} (hx : Keeps π x) (hy : Keeps π y) :
    Keeps π (if c then x else y) := by
  split
  · exact hx
  · exact hy

/-! ## Loops -/

/-- **The loop rule.**  What every iteration of a loop preserves, the loop
preserves when it runs to its end. -/
theorem forEach_invariant {P : σ → Prop} {body : α → GoM σ ε Unit} :
    ∀ (l : List α), (∀ a ∈ l, ∀ s u s', body a s = (.ok u, s') → P s → P s') →
      ∀ {s s' : σ} {u : Unit}, forEach l body s = (.ok u, s') → P s → P s' := by
  intro l
  induction l with
  | nil =>
      intro _ s s' u h hP
      obtain ⟨-, rfl⟩ := pure_ok_iff.mp h
      exact hP
  | cons a rest ih =>
      intro hbody s s' u h hP
      obtain ⟨v, s₁, h₁, h₂⟩ := bind_ok_iff.mp h
      exact ih (fun b hb => hbody b (List.mem_cons_of_mem _ hb)) h₂
        (hbody a List.mem_cons_self s v s₁ h₁ hP)

/-- What holds of the elements a loop is done with, holds of the whole list when it is done. -/
theorem forEachFrom_rule {P : List α → σ → Prop} {l : List α} {body : Nat → α → GoM σ ε Unit}
    (hstep : ∀ i done a s u s', a ∈ l → body i a s = (.ok u, s') → P done s → P (done ++ [a]) s')
    {i : Nat} {s s' : σ} {u : Unit} (h : forEachFrom i l body s = (.ok u, s')) (hP : P [] s) :
    P l s' := by
  have hrest : ∀ (rest done : List α) (i : Nat) (s : σ), (∀ a ∈ rest, a ∈ l) →
      forEachFrom i rest body s = (.ok u, s') → P done s → P (done ++ rest) s' := by
    intro rest
    induction rest with
    | nil =>
        intro done i s _ h hP
        obtain ⟨-, rfl⟩ := pure_ok_iff.mp h
        rwa [List.append_nil]
    | cons a rest ih =>
        intro done i s hmem h hP
        obtain ⟨v, s₁, h₁, h₂⟩ := bind_ok_iff.mp h
        rw [List.append_cons]
        exact ih _ _ s₁ (fun b hb => hmem b (List.mem_cons_of_mem _ hb)) h₂
          (hstep i done a s v s₁ (hmem a List.mem_cons_self) h₁ hP)
  exact hrest l [] i s (fun _ ha => ha) h hP

/-- **A loop that goes on.**  If every iteration succeeds after those before it, the loop does. -/
theorem forEach_runs {P : List α → σ → Prop} {l : List α} {body : α → GoM σ ε Unit} {s : σ}
    (hstep : ∀ done a rest s, l = done ++ a :: rest → P done s →
      ∃ s', body a s = (.ok (), s') ∧ P (done ++ [a]) s') (hP : P [] s) :
    ∃ s', forEach l body s = (.ok (), s') ∧ P l s' := by
  have hrest : ∀ (rest done : List α) (s : σ), l = done ++ rest → P done s →
      ∃ s', forEach rest body s = (.ok (), s') ∧ P l s' := by
    intro rest
    induction rest with
    | nil =>
        intro done s hl hP
        rw [List.append_nil] at hl
        exact ⟨s, rfl, hl ▸ hP⟩
    | cons a rest ih =>
        intro done s hl hP
        obtain ⟨s₁, hrun, hP₁⟩ := hstep done a rest s hl hP
        obtain ⟨s₂, hrest, hP₂⟩ := ih (done ++ [a]) s₁ (by rw [hl, List.append_cons]) hP₁
        exact ⟨s₂, by rw [GoM.forEach, bind_run_ok hrun, hrest], hP₂⟩
  exact hrest l [] s rfl hP

/-- The same for a loop that counts. -/
theorem forEachFrom_runs {P : List α → σ → Prop} {l : List α} {body : Nat → α → GoM σ ε Unit}
    {i : Nat} {s : σ} (hstep : ∀ i done a rest s, l = done ++ a :: rest → P done s →
      ∃ s', body i a s = (.ok (), s') ∧ P (done ++ [a]) s') (hP : P [] s) :
    ∃ s', forEachFrom i l body s = (.ok (), s') ∧ P l s' := by
  have hrest : ∀ (rest done : List α) (i : Nat) (s : σ), l = done ++ rest → P done s →
      ∃ s', forEachFrom i rest body s = (.ok (), s') ∧ P l s' := by
    intro rest
    induction rest with
    | nil =>
        intro done i s hl hP
        rw [List.append_nil] at hl
        exact ⟨s, rfl, hl ▸ hP⟩
    | cons a rest ih =>
        intro done i s hl hP
        obtain ⟨s₁, hrun, hP₁⟩ := hstep i done a rest s hl hP
        obtain ⟨s₂, hrest, hP₂⟩ := ih (done ++ [a]) (i + 1) s₁ (by rw [hl, List.append_cons]) hP₁
        exact ⟨s₂, by rw [GoM.forEachFrom, bind_run_ok hrun, hrest], hP₂⟩
  exact hrest l [] i s rfl hP

/-! ## One of several -/

/-- The computations are tried in order: an error that is to be skipped leads to the next one, with
whatever was written until then. -/
def firstOf (skip : ε → Bool) (last : ε) : List (GoM σ ε α) → GoM σ ε α
  | [] => failWith last
  | x :: rest => fun s =>
    match x s with
    | (.error (.error e), s') => if skip e then firstOf skip last rest s'
        else (.error (.error e), s')
    | other => other

/-- `x` does nothing but return an error that is skipped. -/
def Silent (skip : ε → Bool) (x : GoM σ ε α) : Prop :=
  ∀ s, ∃ e, skip e = true ∧ x s = (.error (.error e), s)

/-- The computations are run in order, and each of them returns an error that is skipped. -/
def Passes (skip : ε → Bool) : List (GoM σ ε α) → σ → σ → Prop
  | [], s, s' => s' = s
  | x :: rest, s, s' =>
    ∃ e s₁, skip e = true ∧ x s = (.error (.error e), s₁) ∧ Passes skip rest s₁ s'

variable {skip : ε → Bool} {last : ε}

theorem firstOf_cons_run (x : GoM σ ε α) (rest : List (GoM σ ε α)) (s : σ) :
    firstOf skip last (x :: rest) s = match x s with
      | (.error (.error e), s') => if skip e then firstOf skip last rest s'
          else (.error (.error e), s')
      | other => other := rfl

theorem Silent.failWith {e : ε} (he : skip e = true) : Silent skip (failWith e : GoM σ ε α) :=
  fun _ => ⟨e, he, rfl⟩

theorem Silent.ne_ok {x : GoM σ ε α} (h : Silent skip x) {s s' : σ} {a : α} :
    x s ≠ (.ok a, s') := by
  intro hx
  obtain ⟨e, -, he⟩ := h s
  cases hx.symm.trans he

/-- A computation that is silent hands over to the rest. -/
theorem firstOf_cons_silent {x : GoM σ ε α} (h : Silent skip x) (rest : List (GoM σ ε α)) :
    firstOf skip last (x :: rest) = firstOf skip last rest := by
  funext s
  obtain ⟨e, hskip, he⟩ := h s
  rw [firstOf_cons_run, he]
  exact if_pos hskip

theorem firstOf_silent {xs : List (GoM σ ε α)} (h : ∀ x ∈ xs, Silent skip x)
    (rest : List (GoM σ ε α)) : firstOf skip last (xs ++ rest) = firstOf skip last rest := by
  induction xs with
  | nil => rfl
  | cons x xs ih =>
      rw [List.cons_append, firstOf_cons_silent (h x List.mem_cons_self),
        ih fun y hy => h y (List.mem_cons_of_mem x hy)]

/-- **One among silent ones.**  If all the others are silent, only the error of the one is
changed. -/
theorem firstOf_single {pre post : List (GoM σ ε α)} {x : GoM σ ε α}
    (hpre : ∀ y ∈ pre, Silent skip y) (hpost : ∀ y ∈ post, Silent skip y) :
    firstOf skip last (pre ++ x :: post) = mapError (fun e => if skip e then last else e) x := by
  rw [firstOf_silent hpre]
  have hrest : firstOf skip last post = failWith last := by
    rw [← List.append_nil post, firstOf_silent hpost, firstOf]
  funext s
  rw [firstOf_cons_run, hrest]
  unfold mapError
  cases hx : x s with
  | mk r s' =>
      cases r with
      | ok a => rfl
      | error f =>
          cases f with
          | panic p => rfl
          | error e => cases hskip : skip e <;> simp [hskip]

theorem Passes.eq_of_silent {xs : List (GoM σ ε α)} (h : ∀ x ∈ xs, Silent skip x) {s s' : σ}
    (hpass : Passes skip xs s s') : s' = s := by
  induction xs generalizing s with
  | nil => exact hpass
  | cons x xs ih =>
      obtain ⟨e, s₁, -, hx, hrest⟩ := hpass
      obtain ⟨e', -, hx'⟩ := h x List.mem_cons_self s
      obtain rfl : s₁ = s := congrArg Prod.snd (hx.symm.trans hx')
      exact ih (fun y hy => h y (List.mem_cons_of_mem x hy)) hrest

/-- A success that comes after errors that were skipped: among silent ones nothing was done
before. -/
theorem Passes.eq_of_single {pre post pre' post' : List (GoM σ ε α)} {x y : GoM σ ε α}
    (hpre : ∀ z ∈ pre, Silent skip z) (hpost : ∀ z ∈ post, Silent skip z)
    (hsplit : pre ++ x :: post = pre' ++ y :: post') {s s₁ s' : σ} {a : α}
    (hpass : Passes skip pre' s s₁) (hy : y s₁ = (.ok a, s')) : s₁ = s := by
  rcases List.append_eq_append_iff.mp hsplit with ⟨mid, rfl, hrest⟩ | ⟨mid, rfl, hrest⟩
  · cases mid with
    | nil => exact Passes.eq_of_silent (by simpa using hpre) hpass
    | cons z mid =>
        -- the one is among those that were passed, so `y` is silent
        obtain ⟨-, hpost'⟩ := List.cons.inj hrest
        exact absurd hy (hpost y (by rw [hpost']; simp)).ne_ok
  · exact Passes.eq_of_silent (fun z hz => hpre z (List.mem_append_left _ hz)) hpass

end GoM

/-! ## Plain computations -/

theorem except_mapError_ok_iff {f : ε → γ} {x : Except ε α} {a : α} :
    x.mapError f = .ok a ↔ x = .ok a := by
  cases x <;> simp [Except.mapError]

theorem except_bind_ok_iff {x : Except ε α} {f : α → Except ε β} {b : β} :
    (x >>= f) = .ok b ↔ ∃ a, x = .ok a ∧ f a = .ok b := by
  constructor
  · intro h
    cases x with
    | error e => cases h
    | ok a => exact ⟨a, rfl, h⟩
  · rintro ⟨a, rfl, hf⟩
    exact hf

/-- A check returns nothing. -/
theorem exists_ok_iff {x : Except ε Unit} : (∃ u, x = .ok u) ↔ x = .ok () := by
  cases x <;> simp

/-- One check after the other. -/
theorem except_then_ok_iff {x y : Except ε Unit} :
    (x >>= fun _ => y) = .ok () ↔ x = .ok () ∧ y = .ok () := by
  cases x <;> simp [bind, Except.bind]

/-- A condition that is checked first. -/
theorem check_ok_iff {p : Prop} [Decidable p] {e : ε} {x : Except ε Unit} :
    (if p then (Except.error e : Except ε Unit) >>= fun _ => x else x) = .ok () ↔
      ¬ p ∧ x = .ok () := by
  by_cases h : p <;> simp [h, bind, Except.bind]

/-- A successful `mapM` of plain computations ran each of them successfully. -/
theorem mapM_ok_iff {f : α → Except ε β} {l : List α} {r : List β} :
    l.mapM f = .ok r ↔ List.Forall₂ (fun a b => f a = .ok b) l r := by
  induction l generalizing r with
  | nil =>
      rw [List.mapM_nil, List.forall₂_nil_left_iff]
      exact ⟨fun h => (Except.ok.inj h).symm, fun h => h ▸ rfl⟩
  | cons a l ih =>
      rw [List.mapM_cons, List.forall₂_cons_left_iff]
      constructor
      · intro h
        cases ha : f a with
        | error e => rw [ha] at h; cases h
        | ok b =>
            cases hl : l.mapM f with
            | error e => rw [ha, hl] at h; cases h
            | ok bs =>
                rw [ha, hl] at h
                cases h
                exact ⟨b, bs, rfl, ih.mp hl, rfl⟩
      · rintro ⟨b, bs, ha, hl, rfl⟩
        rw [ha, ih.mpr hl]
        rfl

theorem mem_of_mapM_ok {f : α → Except ε β} {l : List α} {r : List β} (h : l.mapM f = .ok r)
    {b : β} : b ∈ r ↔ ∃ a ∈ l, f a = .ok b := by
  induction mapM_ok_iff.mp h with
  | nil => simp
  | cons ha hrest ih =>
      rw [List.mem_cons, ih (mapM_ok_iff.mpr hrest), List.exists_mem_cons_iff, ha, Except.ok.injEq,
        eq_comm]

theorem exists_of_mapM_ok {f : α → Except ε β} {l : List α} {r : List β} (h : l.mapM f = .ok r)
    {a : α} (ha : a ∈ l) : ∃ b, f a = .ok b := by
  induction mapM_ok_iff.mp h with
  | nil => cases ha
  | cons hb hrest ih =>
      rcases List.mem_cons.mp ha with rfl | hmem
      · exact ⟨_, hb⟩
      · exact ih (mapM_ok_iff.mpr hrest) hmem

/-- What the results keep of the elements is in the same order. -/
theorem map_of_mapM_ok {γ : Type} {f : α → Except ε β} {l : List α} {r : List β}
    (h : l.mapM f = .ok r) {g : β → γ} {g' : α → γ} (hg : ∀ a b, f a = .ok b → g b = g' a) :
    r.map g = l.map g' := by
  induction mapM_ok_iff.mp h with
  | nil => rfl
  | cons hb hrest ih => rw [List.map_cons, List.map_cons, hg _ _ hb, ih (mapM_ok_iff.mpr hrest)]

/-- Where each of the computations succeeds, `mapM` does. -/
theorem mapM_runs {f : α → Except ε β} {l : List α} (h : ∀ a ∈ l, ∃ b, f a = .ok b) :
    ∃ r, l.mapM f = .ok r := by
  induction l with
  | nil => exact ⟨[], rfl⟩
  | cons a l ih =>
      obtain ⟨b, hb⟩ := h a List.mem_cons_self
      obtain ⟨r, hr⟩ := ih fun a ha => h a (List.mem_cons_of_mem _ ha)
      exact ⟨b :: r, mapM_ok_iff.mpr (.cons hb (mapM_ok_iff.mp hr))⟩

/-- A check that was passed. -/
theorem check_ok {p : Prop} [Decidable p] {e : ε} {x : Except ε α} {b : α}
    (h : (if p then .error e else x) = .ok b) : ¬ p ∧ x = .ok b := by
  split at h
  · cases h
  · rename_i hp
    exact ⟨hp, h⟩

end Effects
