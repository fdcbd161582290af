import Mathlib.Algebra.Field.Rat
import Mathlib.Data.NNRat.Defs
import Mathlib.Algebra.Order.Ring.Rat
import Xbench.Lib.Effect

/-!
# Retrying

The decorator around every remote call. It takes a list of delays and calls the
wrapped function once for each at most: an exception that is to be checked is
followed by the delay and the next attempt, unless more time has passed than
the whole may take. The last delay is never slept.

The delays come out of `iter_islast` with a flag at the last, and the loop over
them has four exits besides its end. `fRetry_spec` says where it leaves: at
some attempt `k`, before which every attempt was to be repeated, with what
`wayOut` makes of that attempt.

The time is read from a clock that may show anything, and it counts what the
function itself takes. What is written to the log is left out.

## Main definitions

* `iterIslast`: The delays, with a flag at the last.
* `RetryEvent`: An attempt, or a sleep.
* `Retry`: The parameters of the decorator.
* `Wrapped`: The function under it.
* `Retry.fRetry`: A call of the decorated function.
* `Retry.Retried`: An attempt is to be repeated.
* `Retry.wayOut`: What comes of an attempt after which there is none.
* `Retry.Law`: The law of retrying.
* `Retry.Passes`: An exception goes through as it is.
* `Retry.SigTermPasses`: The same for a `SigTermException` alone.
* `Retry.backoffWithJitter`: The delays that most callers ask for.
* `Retry.decorate`: The call of a decorated function that does something.
* `Retry.Succeeds`: The function comes to a value.

## Theorems

* `attempts_cons`: One attempt.
* `fRetry_spec`: Where a call leaves the loop.
* `retry_law`: A call obeys the law.
* `decorate_spec`: The attempts that are made.
* `decorate_returns_iff`: A decorated function returns when it succeeds.
* `fRetry_returned`: A function that returns at once is called once.
-/

namespace Xbench

open Effect

section Islast

variable {χ α : Type}

/-- The loop of `iter_islast`. -/
def iterFrom (prev : α) : List α → List (α × Bool)
  | [] => [(prev, true)]
  | item :: rest => (prev, false) :: iterFrom item rest

/-- `iter_islast`; without an element the generator itself fails. -/
def iterIslast (stopIteration : χ) : List α → Except χ (List (α × Bool))
  | [] => .error stopIteration
  | first :: rest => .ok (iterFrom first rest)

end Islast

/-- What a call does: attempts, which are numbered, and sleeps. -/
inductive RetryEvent where
  | call (attempt : Nat)
  | sleep (delay : NNRat)
deriving DecidableEq

def RetryEvent.call? : RetryEvent → Option Nat
  | .call i => some i
  | .sleep _ => none

def RetryEvent.sleep? : RetryEvent → Option NNRat
  | .call _ => none
  | .sleep d => some d

/-- The attempts of a call. -/
def calls (trace : List RetryEvent) : List Nat :=
  trace.filterMap RetryEvent.call?

/-- The delays that are slept. -/
def sleeps (trace : List RetryEvent) : List NNRat :=
  trace.filterMap RetryEvent.sleep?

/-- The parameters of `retry`, with what it asks of an exception: is it one of
    `exceptions_to_check`, is it a `SigTermException`, is it an `Exception` at
    all. -/
structure Retry (χ : Type) where
  exceptionsToCheck : χ → Bool
  sigTerm : χ → Bool
  isException : χ → Bool
  exceptionToRaise : String → χ
  stopIteration : χ
  maxDelay : ℚ
  delays : List NNRat

/-- The function, with what comes of each of its calls, and how it and its
    exceptions are written. -/
structure Wrapped (χ α : Type) where
  name : String
  args : String
  outcome : Nat → Except χ α
  str : χ → String
  excInfo : χ → String

namespace Retry

variable {χ α : Type} (self : Retry χ) (f : Wrapped χ α) (clock : Nat → Int)

/-- `int((now - time_started).total_seconds())` after an attempt. The clock is
    read in microseconds, before the first attempt and after each that is
    checked. -/
def timeWaited (clock : Nat → Int) (i : Nat) : Int :=
  (clock (i + 1) - clock 0).tdiv 1000000

def maxDelayMessage : String :=
  "Max delay time " ++ toString (self.maxDelay.num.tdiv self.maxDelay.den)
    ++ " seconds has reached for the function " ++ f.name

def unexpectedMessage (e : χ) : String :=
  "Unexpected error: " ++ f.str e ++ ", " ++ f.excInfo e

def maxAttemptsMessage (i : Nat) : String :=
  "Max attempts " ++ toString i ++ " reached for the function " ++ f.name
    ++ " with args " ++ f.args

/-- The loop, from attempt `i` on. -/
def attempts (i : Nat) : List (NNRat × Bool) → Effect RetryEvent χ α
  | [] => raise (self.exceptionToRaise (maxAttemptsMessage f (i - 1)))
  | (delay, last) :: rest => do
      tell (.call i)
      match f.outcome i with
      | .ok a => pure a
      | .error e =>
          if self.exceptionsToCheck e then
            if (timeWaited clock i : ℚ) > self.maxDelay then
              raise (self.exceptionToRaise (self.maxDelayMessage f))
            else do
              if !last then tell (.sleep delay)
              attempts (i + 1) rest
          else if self.sigTerm e then raise e
          else if self.isException e then raise (self.exceptionToRaise (unexpectedMessage f e))
          else raise e

/-- `f_retry`. -/
def fRetry : Effect RetryEvent χ α := do
  let delays ← ofExcept (iterIslast self.stopIteration self.delays)
  self.attempts f clock 0 delays

section Spec

/-- An attempt is to be repeated: it ended in a checked exception, in time. -/
def Retried (i : Nat) : Prop :=
  ∃ e, f.outcome i = .error e ∧ self.exceptionsToCheck e = true
    ∧ (timeWaited clock i : ℚ) ≤ self.maxDelay

/-- What comes of an attempt after which there is none. -/
def wayOut (i : Nat) : Except χ α :=
  match f.outcome i with
  | .ok a => .ok a
  | .error e =>
      if self.exceptionsToCheck e then
        if (timeWaited clock i : ℚ) > self.maxDelay then
          .error (self.exceptionToRaise (self.maxDelayMessage f))
        else .error (self.exceptionToRaise (maxAttemptsMessage f i))
      else if self.sigTerm e then .error e
      else if self.isException e then .error (self.exceptionToRaise (unexpectedMessage f e))
      else .error e

/-- Attempts from `i` on, with the given delays between them. -/
def eventsFrom (i : Nat) : List NNRat → List RetryEvent
  | [] => [.call i]
  | d :: ds => .call i :: .sleep d :: eventsFrom (i + 1) ds

/-- One attempt: it is repeated, after the delay if that is not the last, or it
    is the way out. -/
theorem attempts_cons (i : Nat) (delay : NNRat) (last : Bool) (rest : List (NNRat × Bool)) :
    (self.Retried f clock i ∧ self.attempts f clock i ((delay, last) :: rest)
        = ⟨.call i :: ((if last then [] else [.sleep delay])
            ++ (self.attempts f clock (i + 1) rest).trace),
          (self.attempts f clock (i + 1) rest).result⟩)
      ∨ (¬ self.Retried f clock i ∧ self.attempts f clock i ((delay, last) :: rest)
        = ⟨[.call i], self.wayOut f clock i⟩) := by
  rw [attempts, tell_bind]
  unfold wayOut
  cases hres : f.outcome i with
  | ok a =>
      refine Or.inr ⟨?_, rfl⟩
      rintro ⟨e, he, _⟩
      rw [hres] at he
      exact nomatch he
  | error e =>
      dsimp only
      -- an exception that is not to be checked, or comes too late, is not retried
      have hnot : self.exceptionsToCheck e = false ∨ (timeWaited clock i : ℚ) > self.maxDelay →
          ¬ self.Retried f clock i := by
        rintro h ⟨e', he', hchecked, htime⟩
        rw [hres] at he'
        rw [← Except.error.inj he'] at hchecked
        rcases h with h | h
        · rw [h] at hchecked
          exact nomatch hchecked
        · exact absurd htime (not_le.mpr h)
      -- the tests in the order of the source
      by_cases hchecked : self.exceptionsToCheck e = true
      · rw [if_pos hchecked, if_pos hchecked]
        by_cases htime : (timeWaited clock i : ℚ) > self.maxDelay
        · rw [if_pos htime, if_pos htime]
          exact Or.inr ⟨hnot (Or.inr htime), rfl⟩
        · rw [if_neg htime]
          refine Or.inl ⟨⟨e, hres, hchecked, not_lt.mp htime⟩, ?_⟩
          cases last with
          | true => rfl
          | false => rfl
      · rw [if_neg hchecked, if_neg hchecked]
        refine Or.inr ⟨hnot (Or.inl (Bool.eq_false_iff.mpr hchecked)), ?_⟩
        by_cases hsigTerm : self.sigTerm e = true
        · rw [if_pos hsigTerm, if_pos hsigTerm]
          rfl
        · rw [if_neg hsigTerm, if_neg hsigTerm]
          by_cases hexception : self.isException e = true
          · rw [if_pos hexception, if_pos hexception]
            rfl
          · rw [if_neg hexception, if_neg hexception]
            rfl

theorem wayOut_retried (i : Nat) (h : self.Retried f clock i) :
    self.wayOut f clock i = .error (self.exceptionToRaise (maxAttemptsMessage f i)) := by
  rcases h with ⟨e, he, hchecked, htime⟩
  rw [wayOut, he]
  dsimp only
  rw [if_pos hchecked, if_neg (not_lt.mpr htime)]

/-- Where the loop is left: at an attempt before which all were to be repeated,
    and which is not, unless it is the last. -/
theorem attempts_spec (first : NNRat) (rest : List NNRat) (i : Nat) :
    ∃ k ≤ rest.length,
      (self.attempts f clock i (iterFrom first rest)).trace = eventsFrom i ((first :: rest).take k)
      ∧ (self.attempts f clock i (iterFrom first rest)).result = self.wayOut f clock (i + k)
      ∧ (∀ j < k, self.Retried f clock (i + j))
      ∧ (k < rest.length → ¬ self.Retried f clock (i + k)) := by
  induction rest generalizing first i with
  | nil =>
      refine ⟨0, le_refl 0, ?_⟩
      rw [iterFrom]
      rcases self.attempts_cons f clock i first true [] with ⟨hretried, heq⟩ | ⟨_, heq⟩
      · rw [heq]
        refine ⟨rfl, (self.wayOut_retried f clock i hretried).symm, ?_, ?_⟩
        · exact fun j hj => absurd hj (Nat.not_lt_zero j)
        · exact fun h => absurd h (lt_irrefl 0)
      · rw [heq]
        refine ⟨rfl, rfl, ?_, ?_⟩
        · exact fun j hj => absurd hj (Nat.not_lt_zero j)
        · exact fun h => absurd h (lt_irrefl 0)
  | cons second rest ih =>
      rw [iterFrom]
      rcases self.attempts_cons f clock i first false (iterFrom second rest) with
        ⟨hretried, heq⟩ | ⟨hnot, heq⟩
      · -- the attempt is repeated, and the rest of the loop is the same
        rcases ih second (i + 1) with ⟨k, hk, htrace, hresult, hbefore, hlast⟩
        refine ⟨k + 1, Nat.succ_le_succ hk, ?_, ?_, ?_, ?_⟩
        · rw [heq, htrace]
          rfl
        · rw [heq, hresult]
          congr 1
          omega
        · intro j hj
          cases j with
          | zero => exact hretried
          | succ j =>
              have hj' := hbefore j (by omega)
              rw [show i + (j + 1) = i + 1 + j by omega]
              exact hj'
        · intro hlt
          rw [show i + (k + 1) = i + 1 + k by omega]
          exact hlast (Nat.lt_of_succ_lt_succ hlt)
      · refine ⟨0, Nat.zero_le _, ?_⟩
        rw [heq]
        exact ⟨rfl, rfl, fun j hj => absurd hj (Nat.not_lt_zero j), fun _ => hnot⟩

/-- Where a call leaves the loop. -/
theorem fRetry_spec (hdelays : self.delays ≠ []) :
    ∃ k < self.delays.length,
      (self.fRetry f clock).trace = eventsFrom 0 (self.delays.take k)
      ∧ (self.fRetry f clock).result = self.wayOut f clock k
      ∧ (∀ j < k, self.Retried f clock j)
      ∧ (k + 1 < self.delays.length → ¬ self.Retried f clock k) := by
  cases hlist : self.delays with
  | nil => exact absurd hlist hdelays
  | cons first rest =>
      have hcall : self.fRetry f clock = self.attempts f clock 0 (iterFrom first rest) := by
        rw [fRetry, hlist]
        rfl
      rcases self.attempts_spec f clock first rest 0 with ⟨k, hk, htrace, hresult, hbefore, hlast⟩
      simp only [Nat.zero_add] at hresult hbefore hlast
      rw [hcall]
      exact ⟨k, Nat.lt_succ_of_le hk, htrace, hresult, hbefore,
        fun hlt => hlast (Nat.lt_of_succ_lt_succ hlt)⟩

end Spec

section Events

theorem calls_eventsFrom (ds : List NNRat) (i : Nat) :
    calls (eventsFrom i ds) = List.range' i (ds.length + 1) := by
  induction ds generalizing i with
  | nil => rfl
  | cons d ds ih =>
      change i :: calls (eventsFrom (i + 1) ds) = _
      rw [ih]
      exact List.range'_succ.symm

theorem sleeps_eventsFrom (ds : List NNRat) (i : Nat) : sleeps (eventsFrom i ds) = ds := by
  induction ds generalizing i with
  | nil => rfl
  | cons d ds ih =>
      change d :: sleeps (eventsFrom (i + 1) ds) = _
      rw [ih]

theorem mem_calls (trace : List RetryEvent) (i : Nat) :
    i ∈ calls trace ↔ .call i ∈ trace := by
  rw [calls, List.mem_filterMap]
  constructor
  · rintro ⟨e, he, hi⟩
    cases e with
    | call j => rwa [← Option.some.inj hi]
    | sleep d => exact nomatch hi
  · exact fun h => ⟨.call i, h, rfl⟩

/-- An attempt ends what is done. -/
theorem getLast?_eventsFrom (ds : List NNRat) (i : Nat) :
    (eventsFrom i ds).getLast? = some (.call (i + ds.length)) := by
  induction ds generalizing i with
  | nil => rfl
  | cons d ds ih =>
      rw [eventsFrom, List.getLast?_cons_cons]
      have hne : eventsFrom (i + 1) ds ≠ [] := by
        cases ds with
        | nil => exact List.cons_ne_nil _ _
        | cons d' ds => exact List.cons_ne_nil _ _
      rcases List.exists_cons_of_ne_nil hne with ⟨e, es, hes⟩
      have hlast := ih (i + 1)
      rw [hes] at hlast ⊢
      rw [List.getLast?_cons_cons, hlast, List.length_cons]
      congr 2
      omega

/-- Between two attempts there is the delay of the first. -/
theorem eventsFrom_between (ds : List NNRat) (i j : Nat) (hj : j < ds.length) :
    ∃ d pre post, ds[j]? = some d ∧ eventsFrom i ds
      = pre ++ .call (i + j) :: .sleep d :: .call (i + j + 1) :: post := by
  induction ds generalizing i j with
  | nil => exact absurd hj (Nat.not_lt_zero j)
  | cons d ds ih =>
      cases j with
      | zero =>
          cases ds with
          | nil => exact ⟨d, [], [], rfl, rfl⟩
          | cons d' ds => exact ⟨d, [], .sleep d' :: eventsFrom (i + 2) ds, rfl, rfl⟩
      | succ j =>
          rcases ih (i + 1) j (Nat.lt_of_succ_lt_succ hj) with ⟨d', pre, post, hd', heq⟩
          refine ⟨d', .call i :: .sleep d :: pre, post, hd', ?_⟩
          rw [eventsFrom, heq, show i + 1 + j = i + (j + 1) by omega]
          rfl

end Events

section Law

/-- The law of a call: there are at most as many attempts as delays, each after
    one that was to be repeated and after its delay, with no other sleep and
    none at the end, and an attempt to be repeated is. The first value is
    returned, some exceptions go through as they are, and all else is the
    exception to raise. -/
structure Law (inst : Retry χ) (fn : Wrapped χ α) (time : Nat → Int) (passes : χ → Prop)
    (x : Effect RetryEvent χ α) : Prop where
  atMost : (calls x.trace).length ≤ inst.delays.length
  numbered : calls x.trace = List.range (calls x.trace).length
  repeated : ∀ i, .call (i + 1) ∈ x.trace → inst.Retried fn time i
    ∧ ∃ d pre post, inst.delays[i]? = some d
      ∧ x.trace = pre ++ .call i :: .sleep d :: .call (i + 1) :: post
  goesOn : ∀ i, .call i ∈ x.trace → inst.Retried fn time i → i + 1 < inst.delays.length
    → .call (i + 1) ∈ x.trace
  slept : sleeps x.trace = inst.delays.take ((calls x.trace).length - 1)
  lastCall : ∃ i, x.trace.getLast? = some (.call i)
  value : ∀ a, x.result = .ok a
    ↔ ∃ i, .call i ∈ x.trace ∧ fn.outcome i = .ok a ∧ ∀ j < i, ∀ b, fn.outcome j ≠ .ok b
  unchanged : ∀ i e, .call i ∈ x.trace → fn.outcome i = .error e → passes e → x.result = .error e
  raised : ∀ e, x.result = .error e
    → (∃ i, .call i ∈ x.trace ∧ fn.outcome i = .error e ∧ passes e)
      ∨ ∃ message, e = inst.exceptionToRaise message

/-- An exception goes through as it is: it is not checked, and a
    `SigTermException` or no `Exception` at all. -/
def Passes (self : Retry χ) (e : χ) : Prop :=
  self.exceptionsToCheck e = false ∧ (self.sigTerm e = true ∨ self.isException e = false)

/-- The same for a `SigTermException` alone. -/
def SigTermPasses (self : Retry χ) (e : χ) : Prop :=
  self.exceptionsToCheck e = false ∧ self.sigTerm e = true

theorem wayOut_ok_iff (i : Nat) (a : α) :
    self.wayOut f clock i = .ok a ↔ f.outcome i = .ok a := by
  unfold wayOut
  cases hres : f.outcome i with
  | ok b => exact Iff.rfl
  | error e =>
      dsimp only
      refine ⟨fun h => ?_, fun h => (nomatch h)⟩
      split at h
      · split at h <;> exact nomatch h
      · split at h
        · exact nomatch h
        · split at h <;> exact nomatch h

theorem wayOut_passes (i : Nat) (e : χ) (he : f.outcome i = .error e) (h : self.Passes e) :
    self.wayOut f clock i = .error e := by
  rw [wayOut, he]
  dsimp only
  rw [if_neg (by rw [h.1]; exact Bool.false_ne_true)]
  rcases h.2 with hsigTerm | hexception
  · rw [if_pos hsigTerm]
  · by_cases hsigTerm : self.sigTerm e = true
    · rw [if_pos hsigTerm]
    · rw [if_neg hsigTerm, if_neg (by rw [hexception]; exact Bool.false_ne_true)]

theorem wayOut_error (i : Nat) (e : χ) (h : self.wayOut f clock i = .error e) :
    (f.outcome i = .error e ∧ self.Passes e) ∨ ∃ message, e = self.exceptionToRaise message := by
  unfold wayOut at h
  cases hres : f.outcome i with
  | ok a =>
      rw [hres] at h
      exact nomatch h
  | error e' =>
      rw [hres] at h
      dsimp only at h
      by_cases hchecked : self.exceptionsToCheck e' = true
      · rw [if_pos hchecked] at h
        split at h <;> exact Or.inr ⟨_, (Except.error.inj h).symm⟩
      · rw [if_neg hchecked] at h
        have hfree : self.exceptionsToCheck e' = false := Bool.eq_false_iff.mpr hchecked
        by_cases hsigTerm : self.sigTerm e' = true
        · rw [if_pos hsigTerm] at h
          rw [← Except.error.inj h]
          exact Or.inl ⟨rfl, hfree, Or.inl hsigTerm⟩
        · rw [if_neg hsigTerm] at h
          by_cases hexception : self.isException e' = true
          · rw [if_pos hexception] at h
            exact Or.inr ⟨_, (Except.error.inj h).symm⟩
          · rw [if_neg hexception] at h
            rw [← Except.error.inj h]
            exact Or.inl ⟨rfl, hfree, Or.inr (Bool.eq_false_iff.mpr hexception)⟩

/-- A call obeys the law. -/
theorem retry_law (hdelays : self.delays ≠ []) :
    self.Law f clock self.Passes (self.fRetry f clock) := by
  rcases self.fRetry_spec f clock hdelays with ⟨k, hk, htrace, hresult, hbefore, hlast⟩
  have htaken : (self.delays.take k).length = k := by
    rw [List.length_take]
    omega
  have hcalls : calls (self.fRetry f clock).trace = List.range' 0 (k + 1) := by
    rw [htrace, calls_eventsFrom, htaken]
  have hlength : (calls (self.fRetry f clock).trace).length = k + 1 := by
    rw [hcalls, List.length_range']
  have hcall : ∀ i, .call i ∈ (self.fRetry f clock).trace ↔ i ≤ k := by
    intro i
    rw [← mem_calls, hcalls, List.mem_range'_1]
    omega
  -- an attempt that is not the last ended in an exception that is checked
  have hearlier : ∀ i, i ≤ k → (i = k ∨ self.Retried f clock i) := by
    intro i hi
    rcases Nat.lt_or_eq_of_le hi with hlt | heq
    · exact Or.inr (hbefore i hlt)
    · exact Or.inl heq
  refine ⟨?_, ?_, ?_, ?_, ?_, ?_, ?_, ?_, ?_⟩
  · rw [hlength]
    exact hk
  · rw [hlength, hcalls, List.range_eq_range']
  · intro i hi
    have hik : i < k := (hcall (i + 1)).mp hi
    refine ⟨hbefore i hik, ?_⟩
    rcases eventsFrom_between (self.delays.take k) 0 i (by rw [htaken]; exact hik) with
      ⟨d, pre, post, hd, heq⟩
    rw [List.getElem?_take_of_lt hik] at hd
    rw [Nat.zero_add] at heq
    exact ⟨d, pre, post, hd, htrace.trans heq⟩
  · intro i hi hretried hlt
    refine (hcall (i + 1)).mpr (Nat.succ_le_of_lt (lt_of_le_of_ne ((hcall i).mp hi) ?_))
    rintro rfl
    exact hlast hlt hretried
  · rw [hlength, htrace, sleeps_eventsFrom]
    rfl
  · rw [htrace, getLast?_eventsFrom]
    exact ⟨_, rfl⟩
  · intro a
    rw [hresult, self.wayOut_ok_iff f clock]
    constructor
    · intro ha
      refine ⟨k, (hcall k).mpr (le_refl k), ha, fun j hj b hb => ?_⟩
      rcases hbefore j hj with ⟨e, he, _⟩
      rw [hb] at he
      exact nomatch he
    · rintro ⟨i, hi, ha, _⟩
      rcases hearlier i ((hcall i).mp hi) with heq | ⟨e, he, _⟩
      · rw [← heq, ha]
      · rw [ha] at he
        exact nomatch he
  · intro i e hi he hpasses
    rw [hresult]
    rcases hearlier i ((hcall i).mp hi) with heq | ⟨e', he', hchecked, _⟩
    · rw [← heq]
      exact self.wayOut_passes f clock i e he hpasses
    · rw [he] at he'
      rw [← Except.error.inj he', hpasses.1] at hchecked
      exact nomatch hchecked
  · intro e he
    rw [hresult] at he
    rcases self.wayOut_error f clock k e he with ⟨hout, hpasses⟩ | hmessage
    · exact Or.inl ⟨k, (hcall k).mpr (le_refl k), hout, hpasses⟩
    · exact Or.inr hmessage

end Law

section Decorate

variable {ε : Type}

/-- `backoff_with_jitter`. What the generator draws may be anything below the
    bound of the draw. -/
def backoffWithJitter (random : Nat → Nat) (delay attempts cap : Nat) : List NNRat :=
  (List.range attempts).map (fun i => (random i % min cap (delay * 2 ^ i) : Nat))

/-- A decorated function that does something: the attempts do what they do one
    after the other. -/
def decorate (self : Retry χ) (f : Wrapped χ α) (clock : Nat → Int) (body : Nat → List ε) :
    Effect ε χ α :=
  ⟨(calls (self.fRetry f clock).trace).flatMap body, (self.fRetry f clock).result⟩

/-- The decorated function comes to a value: some attempt has it, and each
    before is to be repeated. -/
def Succeeds (self : Retry χ) (f : Wrapped χ α) (clock : Nat → Int) : Prop :=
  ∃ k < self.delays.length, (∃ a, f.outcome k = .ok a) ∧ ∀ j < k, self.Retried f clock j

/-- The attempts that are made, with what comes of the last. -/
theorem decorate_spec (body : Nat → List ε) (hdelays : self.delays ≠ []) :
    ∃ k < self.delays.length,
      (self.decorate f clock body).trace = (List.range (k + 1)).flatMap body
      ∧ (self.decorate f clock body).result = self.wayOut f clock k
      ∧ ∀ j < k, self.Retried f clock j := by
  rcases self.fRetry_spec f clock hdelays with ⟨k, hk, htrace, hresult, hbefore, _⟩
  refine ⟨k, hk, ?_, hresult, hbefore⟩
  have htaken : (self.delays.take k).length = k := by
    rw [List.length_take]
    omega
  rw [decorate, htrace, calls_eventsFrom, htaken, List.range_eq_range']

/-- It returns when the function succeeds, and only then. -/
theorem decorate_returns_iff (body : Nat → List ε) (hdelays : self.delays ≠ []) :
    (∃ a, (self.decorate f clock body).result = .ok a) ↔ self.Succeeds f clock := by
  rcases self.fRetry_spec f clock hdelays with ⟨k, hk, _, hresult, hbefore, hlast⟩
  have hresult' : (self.decorate f clock body).result = self.wayOut f clock k := hresult
  rw [hresult']
  constructor
  · rintro ⟨a, ha⟩
    exact ⟨k, hk, ⟨a, (self.wayOut_ok_iff f clock k a).mp ha⟩, hbefore⟩
  · rintro ⟨i, hi, ⟨a, ha⟩, hretried⟩
    have hnot : ∀ j, f.outcome j = .ok a → ¬ self.Retried f clock j := by
      rintro j hj ⟨e, he, _⟩
      rw [hj] at he
      cases he
    -- neither attempt lies before the other
    have hik : i = k := by
      rcases Nat.lt_trichotomy i k with hlt | heq | hgt
      · exact absurd (hbefore i hlt) (hnot i ha)
      · exact heq
      · exact absurd (hretried k hgt) (hlast (by omega))
    exact ⟨a, (self.wayOut_ok_iff f clock k a).mpr (hik ▸ ha)⟩

/-- A function that returns at once is called once. -/
theorem fRetry_returned (a : α) (hdelays : self.delays ≠ []) (ha : f.outcome 0 = .ok a) :
    self.fRetry f clock = ⟨[.call 0], .ok a⟩ := by
  rcases self.fRetry_spec f clock hdelays with ⟨k, _, htrace, hresult, hbefore, _⟩
  have hk : k = 0 := by
    rcases Nat.eq_zero_or_pos k with hzero | hpos
    · exact hzero
    · rcases hbefore 0 hpos with ⟨e, he, _⟩
      rw [ha] at he
      cases he
  rw [hk, List.take_zero, eventsFrom] at htrace
  rw [hk, (self.wayOut_ok_iff f clock 0 a).mpr ha] at hresult
  rcases hcall : self.fRetry f clock with ⟨t, r⟩
  rw [hcall] at htrace hresult
  rw [show t = [.call 0] from htrace, show r = .ok a from hresult]

end Decorate

section Examples

/-- The exceptions of a remote command. -/
inductive RemoteExn where
  | sshClient
  | sigTerm
  | keyboardInterrupt
  | node (message : String)
deriving DecidableEq

/-- A node runs a command with two delays. -/
def nodeRun : Retry RemoteExn where
  exceptionsToCheck := fun e => e == .sshClient
  sigTerm := fun e => e == .sigTerm
  isException := fun e => e != .keyboardInterrupt
  exceptionToRaise := .node
  stopIteration := .node "generator raised StopIteration"
  maxDelay := 600
  delays := [10, 20]

def command (outcome : Nat → Except RemoteExn Nat) : Wrapped RemoteExn Nat :=
  ⟨"run", "('uptime',)", outcome, fun _ => "", fun _ => ""⟩

/-- A command that is lost once. -/
def lostOnce : Wrapped RemoteExn Nat :=
  command (fun i => if i = 0 then .error .sshClient else .ok 0)

/-- It is run again after the first delay. -/
theorem lostOnce_law : (nodeRun.fRetry lostOnce (fun _ => 0)).trace = [.call 0, .sleep 10, .call 1]
    ∧ nodeRun.Law lostOnce (fun _ => 0) nodeRun.Passes (nodeRun.fRetry lostOnce (fun _ => 0)) :=
  ⟨rfl, nodeRun.retry_law lostOnce (fun _ => 0) (List.cons_ne_nil _ _)⟩

/-- An interrupt from the keyboard goes through as well. -/
theorem interrupt_passes : ¬ ∀ (self : Retry RemoteExn) (f : Wrapped RemoteExn Nat)
    (clock : Nat → Int), self.delays ≠ [] →
    self.Law f clock self.SigTermPasses (self.fRetry f clock) := by
  intro h
  have hlaw := h nodeRun (command (fun _ => .error .keyboardInterrupt)) (fun _ => 0)
    (List.cons_ne_nil _ _)
  rcases hlaw.raised .keyboardInterrupt rfl with ⟨i, _, _, _, hsigTerm⟩ | ⟨message, hmessage⟩
  · exact nomatch hsigTerm
  · exact nomatch hmessage

end Examples

end Retry

end Xbench
