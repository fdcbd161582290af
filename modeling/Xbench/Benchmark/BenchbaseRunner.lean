import Mathlib.Data.Int.Log
import Mathlib.Data.Rat.Floor
import Xbench.Lib.Regex
import Xbench.Lib.Tables

/-!
# The Verdict on a Benchbase Run

After every point of a run, which is a number of terminals in a repeat, two
checks look at the files of all drivers. One adds up the histograms and
compares the percentage of errors with a threshold; the other looks through
what the drivers printed for an exception of Java. A point that fails a check
stops the run, which ends with an exception of its own when everything is
saved.

The percentage is a quotient, and nothing asks whether its denominator is
zero. The second check returns the same whether it has found something or not.
`runPoints_cons` and `judge_eq` say what a point comes to, and
`benchbase_judged_iff` when that is what it should be.

The percentage is computed with floating-point numbers; `toDouble` rounds to
53 binary digits and leaves the limits of the exponent out.

## Main definitions

* `toDouble`: The nearest floating-point number.
* `Histogram`: The counts of a driver.
* `BenchPoint`: What the drivers leave of a point.
* `errorRatio`: The percentage that is compared.
* `checkErrors`: `check_errors`.
* `checkStdoutErrors`: `check_stdout_errors`.
* `judge`: The verdict on a point.
* `runPoints`: A run.
* `Failed`: A point that should fail.
* `Judged`: A run does with a point what it should.

## Theorems

* `javaError_iff`: The lines the pattern finds.
* `checkStdoutErrors_eq`: What the second check returns.
* `judge_eq`: The verdict.
* `runPoints_cons`: What a run makes of a verdict.
* `benchbase_judged_iff`: When the verdict is right.
-/

namespace Xbench

namespace Benchbase

open Regex

/-- The nearest number of 53 binary digits, a half going to the even one. -/
def toDouble (x : Rat) : Rat :=
  if x = 0 then 0
  else
    let unit : Rat := 2 ^ (Int.log 2 |x| - 52)
    roundHalfEven (x / unit) * unit

/-- The counts of a driver's `histogram.json`. -/
structure Histogram where
  aborted : Nat
  unexpected : Nat
  completed : Nat
deriving DecidableEq

/-- What the drivers leave of a point: their histograms, and what they print. -/
structure BenchPoint where
  histograms : List Histogram
  stdouts : List String
deriving DecidableEq

inductive BenchbaseExn where
  | benchmark (message : String)
  | zeroDivision
deriving DecidableEq

/-- The counts of all drivers. -/
def total (histograms : List Histogram) : Histogram where
  aborted := (histograms.map Histogram.aborted).sum
  unexpected := (histograms.map Histogram.unexpected).sum
  completed := (histograms.map Histogram.completed).sum

/-- `(float(aborted_errors + unexpected_errors) / completed) * 100`. -/
def errorRatio (counts : Histogram) : Rat :=
  let errors := toDouble ((counts.aborted + counts.unexpected : Nat) : Rat)
  toDouble (toDouble (errors / toDouble (counts.completed : Rat)) * 100)

/-- `check_errors`. -/
def checkErrors (histograms : List Histogram) (errorThreshold : Rat) :
    Except BenchbaseExn Bool :=
  let counts := total histograms
  if counts.completed = 0 then .error .zeroDivision
  else .ok (decide (errorThreshold < errorRatio counts))

/-- `.+Exception`. -/
def javaError : Regex :=
  .seq (.plus (fun c => c != '\n')) (.lit "Exception".toList)

/-- The lines of a file that is read as text. -/
def textLines (text : String) : List (List Char) :=
  Text.lineList (universalNewlines text.toList)

/-- Looking through one file: what is returned, if anything. -/
def checkStdoutFile : List (List Char) → Option Bool
  | [] => none
  | line :: lines =>
      if (javaError.search line).isSome then some false else checkStdoutFile lines

/-- `check_stdout_errors`. -/
def checkStdoutErrors (stdouts : List String) : Bool :=
  (stdouts.findSome? (fun stdout => checkStdoutFile (textLines stdout))).getD false

/-- The verdict on a point. -/
def judge (errorThreshold : Rat) (point : BenchPoint) : Except BenchbaseExn Unit := do
  let errors ← checkErrors point.histograms errorThreshold
  if errors || checkStdoutErrors point.stdouts then .error (.benchmark "") else .ok ()

/-- A run over the points of all repeats. What stops it is raised under a text
    of its own when it is a verdict, after everything is saved. -/
def runPoints (errorThreshold : Rat) (points : List BenchPoint) : Except BenchbaseExn Unit :=
  match forM points (judge errorThreshold) with
  | .ok _ => .ok ()
  | .error (.benchmark _) => .error (.benchmark "Benchmark has errors")
  | .error e => .error e

/-- A line in which `Exception` occurs after at least one character. -/
def Mentions (line : List Char) : Prop :=
  ∃ pre c post, c ≠ '\n' ∧ line = pre ++ c :: ("Exception".toList ++ post)

/-- Some driver prints such a line. -/
def PrintsException (point : BenchPoint) : Prop :=
  ∃ stdout ∈ point.stdouts, ∃ line ∈ textLines stdout, Mentions line

/-- There are more errors than the threshold allows. -/
def TooManyErrors (errorThreshold : Rat) (point : BenchPoint) : Prop :=
  let counts := total point.histograms
  errorThreshold * counts.completed < 100 * (counts.aborted + counts.unexpected)

/-- A point that should fail. -/
def Failed (errorThreshold : Rat) (point : BenchPoint) : Prop :=
  TooManyErrors errorThreshold point ∨ PrintsException point

/-- A run that comes to a point fails there, with the benchmark's exception,
    when the point should fail, and goes on otherwise. -/
def Judged (errorThreshold : Rat) (point : BenchPoint) : Prop :=
  ∀ before after, (∀ p ∈ before, judge errorThreshold p = .ok ()) →
    (Failed errorThreshold point →
      runPoints errorThreshold (before ++ point :: after)
        = .error (.benchmark "Benchmark has errors"))
    ∧ (¬ Failed errorThreshold point →
      runPoints errorThreshold (before ++ point :: after) = runPoints errorThreshold after)

section Verdict

/-- The pattern finds the lines with an exception in them. -/
theorem javaError_iff (line : List Char) : (javaError.search line).isSome ↔ Mentions line := by
  rw [search_isSome_iff]
  constructor
  · rintro ⟨pre, post, rfl, hne⟩
    rcases List.exists_mem_of_ne_nil _ hne with ⟨m, hm⟩
    rcases List.mem_flatMap.mp hm with ⟨run, hrun, hm⟩
    rcases List.mem_map.mp hm with ⟨word, hword, -⟩
    rcases (mem_runs_iff _ _ run).mp hrun with ⟨-, hrunNe, hall, hpost⟩
    rcases (mem_lit_iff run.rest _ word).mp hword with ⟨-, -, hrest⟩
    -- The character before is the last one of the repetition.
    have hlast := List.dropLast_append_getLast hrunNe
    refine ⟨pre ++ run.text.dropLast, run.text.getLast hrunNe, word.rest, ?_, ?_⟩
    · simpa using hall _ (List.getLast_mem hrunNe)
    · rw [← hpost, hrest, List.append_assoc]
      conv_lhs => rw [← hlast]
      rw [List.append_assoc, List.singleton_append]
  · rintro ⟨pre, c, post, hc, rfl⟩
    refine ⟨pre, c :: ("Exception".toList ++ post), rfl, ?_⟩
    have hrun : (⟨[c], [], "Exception".toList ++ post⟩ : Reading)
        ∈ readings (.plus (fun c => c != '\n')) (c :: ("Exception".toList ++ post)) :=
      (mem_runs_iff _ _ _).mpr ⟨rfl, List.cons_ne_nil c [], by simpa using hc, rfl⟩
    have hword : (⟨"Exception".toList, [], post⟩ : Reading)
        ∈ readings (.lit "Exception".toList) ("Exception".toList ++ post) :=
      (mem_lit_iff _ _ _).mpr ⟨rfl, rfl, rfl⟩
    exact List.ne_nil_of_mem (List.mem_flatMap.mpr ⟨_, hrun, List.mem_map.mpr ⟨_, hword, rfl⟩⟩)

/-- A file is left at its first line with an exception. -/
theorem checkStdoutFile_isSome_iff (lines : List (List Char)) :
    (checkStdoutFile lines).isSome ↔ ∃ line ∈ lines, Mentions line := by
  induction lines with
  | nil => simp [checkStdoutFile]
  | cons line lines ih =>
      rw [checkStdoutFile, List.exists_mem_cons_iff]
      by_cases h : (javaError.search line).isSome
      · rw [if_pos h]
        exact ⟨fun _ => Or.inl ((javaError_iff line).mp h), fun _ => rfl⟩
      · rw [if_neg h, ih]
        have hno : ¬ Mentions line := mt (javaError_iff line).mpr h
        exact ⟨Or.inr, fun hor => hor.resolve_left hno⟩

/-- But what is returned there is what is returned at the end. -/
theorem checkStdoutFile_returns (lines : List (List Char)) (b : Bool)
    (h : checkStdoutFile lines = some b) : b = false := by
  induction lines with
  | nil => cases h
  | cons line lines ih =>
      rw [checkStdoutFile] at h
      by_cases hline : (javaError.search line).isSome
      · rw [if_pos hline] at h
        exact (Option.some.inj h).symm
      · rw [if_neg hline] at h
        exact ih h

/-- What the second check returns. -/
theorem checkStdoutErrors_eq (stdouts : List String) : checkStdoutErrors stdouts = false := by
  rw [checkStdoutErrors]
  cases h : stdouts.findSome? (fun stdout => checkStdoutFile (textLines stdout)) with
  | none => rfl
  | some b =>
      rcases List.exists_of_findSome?_eq_some h with ⟨stdout, _, hb⟩
      exact checkStdoutFile_returns _ b hb

variable (errorThreshold : Rat) (point : BenchPoint)

/-- The verdict, by the counts alone. -/
theorem judge_eq :
    judge errorThreshold point
      = if (total point.histograms).completed = 0 then .error .zeroDivision
        else if errorThreshold < errorRatio (total point.histograms) then .error (.benchmark "")
        else .ok () := by
  rw [judge, checkErrors, checkStdoutErrors_eq]
  by_cases hzero : (total point.histograms).completed = 0
  · rw [if_pos hzero, if_pos hzero]
    rfl
  · rw [if_neg hzero, if_neg hzero]
    by_cases hratio : errorThreshold < errorRatio (total point.histograms)
    · rw [if_pos hratio, decide_eq_true hratio]
      rfl
    · rw [if_neg hratio, decide_eq_false hratio]
      rfl

/-- What a run makes of a verdict. -/
theorem runPoints_cons (before after : List BenchPoint)
    (hbefore : ∀ p ∈ before, judge errorThreshold p = .ok ()) :
    runPoints errorThreshold (before ++ point :: after)
      = match judge errorThreshold point with
        | .ok _ => runPoints errorThreshold after
        | .error (.benchmark _) => .error (.benchmark "Benchmark has errors")
        | .error e => .error e := by
  induction before with
  | nil =>
      rw [List.nil_append, runPoints, List.forM_cons]
      cases judge errorThreshold point with
      | ok _ => rfl
      | error e =>
          cases e with
          | benchmark message => rfl
          | zeroDivision => rfl
  | cons p before ih =>
      have hp := hbefore p List.mem_cons_self
      have hrest := ih (fun q hq => hbefore q (List.mem_cons_of_mem p hq))
      rw [← hrest, List.cons_append, runPoints, List.forM_cons, hp]
      rfl

end Verdict

end Benchbase

open Benchbase

/-- A run does with a point what it should exactly when something was
    completed and either an exception is printed and the computed percentage
    exceeds the threshold, or none is and the computed percentage is on the
    same side as the exact one. -/
theorem benchbase_judged_iff (errorThreshold : Rat) (point : BenchPoint) :
    Judged errorThreshold point ↔
      (total point.histograms).completed ≠ 0
      ∧ (PrintsException point → errorThreshold < errorRatio (total point.histograms))
      ∧ (¬ PrintsException point → (errorThreshold < errorRatio (total point.histograms)
        ↔ TooManyErrors errorThreshold point)) := by
  have hverdict := judge_eq errorThreshold point
  constructor
  · intro h
    rcases h [] [] (fun p hp => absurd hp List.not_mem_nil) with ⟨hfailed, hpassed⟩
    rw [runPoints_cons errorThreshold point [] [] (fun p hp => absurd hp List.not_mem_nil)]
      at hfailed hpassed
    rw [hverdict] at hfailed hpassed
    have hpositive : (total point.histograms).completed ≠ 0 := by
      intro hzero
      rw [if_pos hzero] at hfailed hpassed
      by_cases hf : Failed errorThreshold point
      · cases hfailed hf
      · cases hpassed hf
    rw [if_neg hpositive] at hfailed hpassed
    by_cases hratio : errorThreshold < errorRatio (total point.histograms)
    · -- The point is stopped, so it should be.
      rw [if_pos hratio] at hpassed
      have hf : Failed errorThreshold point := by
        by_contra hf
        cases hpassed hf
      exact ⟨hpositive, fun _ => hratio,
        fun hno => ⟨fun _ => hf.resolve_right hno, fun _ => hratio⟩⟩
    · -- It is not, so it should not be.
      rw [if_neg hratio] at hfailed
      have hf : ¬ Failed errorThreshold point := by
        intro hf
        cases hfailed hf
      exact ⟨hpositive, fun hprints => absurd (Or.inr hprints) hf,
        fun _ => ⟨fun hr => absurd hr hratio, fun hmany => absurd (Or.inl hmany) hf⟩⟩
  · rintro ⟨hpositive, hprints, hsilent⟩ before after hbefore
    rw [runPoints_cons errorThreshold point before after hbefore, hverdict, if_neg hpositive]
    have hside : errorThreshold < errorRatio (total point.histograms)
        ↔ Failed errorThreshold point := by
      by_cases hp : PrintsException point
      · exact ⟨fun _ => Or.inr hp, fun _ => hprints hp⟩
      · rw [hsilent hp]
        exact ⟨Or.inl, fun hf => hf.resolve_right hp⟩
    constructor
    · intro hf
      rw [if_pos (hside.mpr hf)]
    · intro hf
      rw [if_neg (mt hside.mp hf)]

/-- The percentage is rounded: seven errors in a hundred are more than seven. -/
example : (7 : Rat) < errorRatio ⟨3, 4, 100⟩ := by decide +kernel

namespace Benchbase

/-- One driver without errors that prints an exception. -/
def javaFails : BenchPoint where
  histograms := [⟨0, 0, 100⟩]
  stdouts := ["Starting\njava.lang.NullPointerException: null\n"]

end Benchbase

/-- A point at which a driver prints an exception is passed over. -/
theorem exception_passes : ¬ Judged 2 javaFails := by
  intro h
  have hprints : PrintsException javaFails := by
    refine ⟨_, List.mem_cons_self, "java.lang.NullPointerException: null\n".toList, by decide, ?_⟩
    exact ⟨"java.lang.NullPointe".toList, 'r', ": null\n".toList, by decide, by decide⟩
  have hpassed : judge 2 javaFails = .ok () := by
    rw [judge_eq]
    decide +kernel
  have hfailed := (h [] [] (fun p hp => absurd hp List.not_mem_nil)).1 (Or.inr hprints)
  rw [runPoints_cons 2 javaFails [] [] (fun p hp => absurd hp List.not_mem_nil), hpassed] at hfailed
  cases hfailed

end Xbench
