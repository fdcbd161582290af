import Xbench.Benchmark.SysbenchOutput
import Xbench.Lib.Effect
import Xbench.Lib.Tables

/-!
# Measuring with Sysbench

A repeat goes through the requested thread counts. A count is divided among
the drivers, a remainder being dropped, and every driver runs its part and
prints a report. At the end of the repeat the reports are put into one table,
grouped by the number of threads they print, and each group makes a row: sums
and maxima over the group, and for a label the number of threads times the
number of drivers.

The table does not know which count a report belongs to. `sysbench_rows_iff` says what
that costs: the rows are those of the requested counts exactly when no two
counts have the same part for a driver, and nothing is lost by showing two
digits.

A call of `run_thread` that fails is repeated, and what counts is the last
one; so it has one outcome here.

## Main definitions

* `Drivers`: What the drivers print.
* `runThread`: `run_thread`.
* `runPoints`: The loop over the requested counts.
* `saveOneRepeat`: `save_print_one_repeat`.
* `oneRepeat`: One repeat of `run`.
* `Point`: A requested count with the results of its drivers.
* `Point.measured`: What was measured there.
* `OneRowEach`: A repeat gives one row for each count.

## Theorems

* `oneRepeat_eq`: What a repeat comes to.
* `rows_perm`: The rows when the parts are different.
* `sysbench_rows_iff`: When a repeat gives one row for each count.
-/

namespace Xbench

namespace Sysbench

/-- What may stop a run. -/
inductive RunnerExn where
  | output (e : SysbenchExn)
  | node (message : String)
deriving DecidableEq

/-- What the drivers print, one output each, in a repeat, at one of its points,
    with a number of threads. -/
abbrev Drivers := Nat → Nat → Nat → Except RunnerExn (List String)

/-- `run_thread`. -/
def runThread (drivers : Drivers) (r i t : Nat) : Except RunnerExn (List SysbenchResult) := do
  let outputs ← drivers r i t
  outputs.mapM (fun output => (parseOutput output).mapError .output)

/-- The loop over the requested counts, from the point of the given number. -/
def runPoints (drivers : Drivers) (numDrivers r : Nat) :
    Nat → List Nat → List SysbenchResult → Except RunnerExn (List SysbenchResult)
  | _, [], thisRepeatResults => .ok thisRepeatResults
  | i, t :: threads, thisRepeatResults => do
      let perDriver := t / numDrivers
      let threadResults ← runThread drivers r i perDriver
      runPoints drivers numDrivers r (i + 1) threads (thisRepeatResults ++ threadResults)

/-- A row of the result file. A latency per transaction needs transactions. -/
structure SysbenchRow where
  concurrency : Int
  throughput : Rat
  avgLatency : Option Rat
  stddev : Rat
  p95Latency : Rat
  errors : Rat
  repeatRun : Nat
deriving DecidableEq

/-- `RESULT_PRECISION`. -/
def resultPrecision : Nat := 2

/-- A group as a row. -/
def rowOf (repeatRun numDrivers : Nat) (concurrency : Rat) (group : List SysbenchResult) :
    SysbenchRow :=
  let transactions := (group.map SysbenchResult.transactions).sum
  let totalResponseTime := (group.map SysbenchResult.totalResponseTime).sum
  { concurrency := numDrivers * truncate concurrency
    throughput := roundTo resultPrecision (group.map SysbenchResult.tps).sum
    avgLatency := if transactions = 0 then none
      else some (roundTo resultPrecision (totalResponseTime / transactions))
    stddev := roundTo resultPrecision (maximum (group.map SysbenchResult.stddev))
    p95Latency := roundTo resultPrecision (maximum (group.map SysbenchResult.p95Latency))
    errors := roundTo resultPrecision (group.map SysbenchResult.errors).sum
    repeatRun }

/-- `save_print_one_repeat`. -/
def saveOneRepeat (repeatRun numDrivers : Nat) (results : List SysbenchResult) :
    List SysbenchRow :=
  (groupby SysbenchResult.thds results).map (fun g => rowOf repeatRun numDrivers g.1 g.2)

/-- One repeat of `run`. -/
def oneRepeat (drivers : Drivers) (numDrivers r : Nat) (threads : List Nat) :
    Except RunnerExn (List SysbenchRow) := do
  let thisRepeatResults ← runPoints drivers numDrivers r 0 threads []
  pure (saveOneRepeat r numDrivers thisRepeatResults)

/-- A requested count and the results of its drivers, who print the number of
    threads they were started with. -/
structure Point (numDrivers : Nat) where
  requested : Nat
  enough : numDrivers ≤ requested
  results : List SysbenchResult
  each : results.length = numDrivers
  printed : ∀ x ∈ results, x.thds = ((requested / numDrivers : Nat) : Rat)

/-- What is looked at in a row. -/
structure Measured where
  concurrency : Int
  throughput : Rat
  stddev : Rat
  p95Latency : Rat
  errors : Rat
deriving DecidableEq

def SysbenchRow.measured (row : SysbenchRow) : Measured :=
  ⟨row.concurrency, row.throughput, row.stddev, row.p95Latency, row.errors⟩

namespace Point

variable {numDrivers : Nat} (a : Point numDrivers)

/-- The part of a driver. -/
def perDriver : Nat :=
  a.requested / numDrivers

/-- What was measured at a point: the threads that were started, and the sums
    and maxima over its own drivers. -/
def measured : Measured where
  concurrency := numDrivers * a.perDriver
  throughput := (a.results.map SysbenchResult.tps).sum
  stddev := maximum (a.results.map SysbenchResult.stddev)
  p95Latency := maximum (a.results.map SysbenchResult.p95Latency)
  errors := (a.results.map SysbenchResult.errors).sum

/-- Two digits are enough for what was measured. -/
structure Shown : Prop where
  throughput : roundTo resultPrecision a.measured.throughput = a.measured.throughput
  stddev : roundTo resultPrecision a.measured.stddev = a.measured.stddev
  p95Latency : roundTo resultPrecision a.measured.p95Latency = a.measured.p95Latency
  errors : roundTo resultPrecision a.measured.errors = a.measured.errors

/-- What was measured, to two digits. -/
def rounded : Measured where
  concurrency := a.measured.concurrency
  throughput := roundTo resultPrecision a.measured.throughput
  stddev := roundTo resultPrecision a.measured.stddev
  p95Latency := roundTo resultPrecision a.measured.p95Latency
  errors := roundTo resultPrecision a.measured.errors

theorem rounded_eq_iff : a.rounded = a.measured ↔ a.Shown := by
  constructor
  · intro h
    exact ⟨congrArg Measured.throughput h, congrArg Measured.stddev h,
      congrArg Measured.p95Latency h, congrArg Measured.errors h⟩
  · intro h
    rw [rounded, h.throughput, h.stddev, h.p95Latency, h.errors]

end Point

/-- No two points have the same part for a driver. -/
def PartsApart {numDrivers : Nat} (points : List (Point numDrivers)) : Prop :=
  ∀ a ∈ points, ∀ b ∈ points, a.perDriver = b.perDriver → a.requested = b.requested

section Repeat

variable {numDrivers : Nat} (drivers : Drivers) (r : Nat) (points : List (Point numDrivers))

/-- The drivers give the results of the points, in turn. -/
def Gives : Prop :=
  ∀ i a, points[i]? = some a → runThread drivers r i a.perDriver = .ok a.results

/-- A repeat gives one row for each requested count, with what was measured
    there. -/
def OneRowEach : Prop :=
  ∃ rows, oneRepeat drivers numDrivers r (points.map Point.requested) = .ok rows
    ∧ (rows.map SysbenchRow.measured).Perm (points.map Point.measured)

theorem runPoints_eq (rest : List (Point numDrivers)) (i : Nat) (acc : List SysbenchResult)
    (h : ∀ j a, rest[j]? = some a → runThread drivers r (i + j) a.perDriver = .ok a.results) :
    runPoints drivers numDrivers r i (rest.map Point.requested) acc
      = .ok (acc ++ rest.flatMap Point.results) := by
  induction rest generalizing i acc with
  | nil => rw [List.flatMap_nil, List.append_nil]; rfl
  | cons a rest ih =>
      have hfirst : runThread drivers r i (a.requested / numDrivers) = .ok a.results := h 0 a rfl
      have hrest := ih (i + 1) (acc ++ a.results) (fun j b hb => by
        have hj := h (j + 1) b hb
        rw [show i + (j + 1) = i + 1 + j by omega] at hj
        exact hj)
      rw [List.map_cons, runPoints, hfirst, List.flatMap_cons, ← List.append_assoc]
      exact hrest

/-- What a repeat comes to. -/
theorem oneRepeat_eq (h : Gives drivers r points) :
    oneRepeat drivers numDrivers r (points.map Point.requested)
      = .ok (saveOneRepeat r numDrivers (points.flatMap Point.results)) := by
  have hpoints := runPoints_eq drivers r points 0 [] (fun j a ha => by
    rw [Nat.zero_add]
    exact h j a ha)
  rw [oneRepeat, hpoints, List.nil_append]
  rfl

theorem results_ne_nil (hd : 0 < numDrivers) (a : Point numDrivers) : a.results ≠ [] := by
  intro hnil
  have hlen := a.each
  rw [hnil, List.length_nil] at hlen
  omega

/-- There is a row for each part. -/
theorem rows_length (hd : 0 < numDrivers) :
    (saveOneRepeat r numDrivers (points.flatMap Point.results)).length
      = (points.map (fun a => (a.perDriver : Rat))).eraseDups.length := by
  rw [saveOneRepeat, List.length_map, groupby_length]
  exact (eraseDups_blocks SysbenchResult.thds points Point.results (fun a => (a.perDriver : Rat))
    (fun a _ => results_ne_nil hd a) (fun a _ => a.printed)).length_eq

/-- The rows when the parts are different. -/
theorem rows_perm (hd : 0 < numDrivers)
    (hparts : (points.map (fun a => (a.perDriver : Rat))).Nodup) :
    ((saveOneRepeat r numDrivers (points.flatMap Point.results)).map SysbenchRow.measured).Perm
      (points.map Point.rounded) := by
  have hgroups := groupby_blocks SysbenchResult.thds points Point.results
    (fun a => (a.perDriver : Rat)) (fun a _ => results_ne_nil hd a) (fun a _ => a.printed) hparts
  have hrows := hgroups.map (fun g => (rowOf r numDrivers g.1 g.2).measured)
  rw [List.map_map] at hrows
  rw [saveOneRepeat, List.map_map]
  refine hrows.trans (List.Perm.of_eq (List.map_congr_left (fun a _ => ?_)))
  rw [Function.comp_apply, rowOf, SysbenchRow.measured, truncate_natCast]
  rfl

/-- Drivers that print reports with positive rates give what the reports print. -/
theorem runThread_reports (i t : Nat) (outputs : List String) (vs : List Printed)
    (hprint : drivers r i t = .ok outputs)
    (h : List.Forall₂ (fun output v => ∃ lay lines, IsReport v lay lines
      ∧ output = textOf lines ∧ 0 < v.tps.value) outputs vs) :
    runThread drivers r i t = .ok (vs.map Printed.result) := by
  rw [runThread, hprint]
  refine (except_mapM_ok_iff _ outputs _).mpr ?_
  rw [List.forall₂_map_right_iff]
  refine h.imp (fun output v hv => ?_)
  rcases hv with ⟨lay, lines, hreport, rfl, hrate⟩
  rw [parse_whole v lay lines hreport hrate]
  rfl

end Repeat

end Sysbench

open Sysbench

/-- A repeat gives one row for each requested count, with what was measured
    there, exactly when no two counts have the same part for a driver and two
    digits are enough. -/
theorem sysbench_rows_iff (numDrivers : Nat) (hd : 0 < numDrivers) (drivers : Drivers) (r : Nat)
    (points : List (Point numDrivers)) (hdistinct : (points.map Point.requested).Nodup)
    (h : Gives drivers r points) :
    OneRowEach drivers r points ↔ PartsApart points ∧ ∀ a ∈ points, a.Shown := by
  rw [OneRowEach, oneRepeat_eq drivers r points h]
  have hinj : ∀ a ∈ points, ∀ b ∈ points, a.requested = b.requested → a = b :=
    fun a ha b hb => List.inj_on_of_nodup_map hdistinct ha hb
  constructor
  · rintro ⟨rows, hrows, hperm⟩
    rw [← Except.ok.inj hrows] at hperm
    -- There are as many rows as counts, so no two counts share a part.
    have hparts : (points.map (fun a => (a.perDriver : Rat))).Nodup := by
      refine nodup_of_length_eraseDups _ ?_
      have hlen := hperm.length_eq
      rw [List.length_map, List.length_map, rows_length r points hd] at hlen
      rw [hlen, List.length_map]
    have hpart : ∀ a ∈ points, ∀ b ∈ points, a.perDriver = b.perDriver → a = b := by
      intro a ha b hb hab
      exact List.inj_on_of_nodup_map hparts ha hb (by rw [hab])
    refine ⟨fun a ha b hb hab => by rw [hpart a ha b hb hab], fun a ha => ?_⟩
    -- The row of a count is found by its label.
    have hboth := (rows_perm r points hd hparts).symm.trans hperm
    have hmem := hboth.subset (List.mem_map_of_mem (f := Point.rounded) ha)
    rcases List.mem_map.mp hmem with ⟨b, hb, hba⟩
    have hlabel : numDrivers * b.perDriver = numDrivers * a.perDriver := by
      have hlabels : (numDrivers * b.perDriver : Int) = numDrivers * a.perDriver :=
        congrArg Measured.concurrency hba
      exact_mod_cast hlabels
    have hsame := hpart b hb a ha (Nat.eq_of_mul_eq_mul_left hd hlabel)
    rw [hsame] at hba
    exact a.rounded_eq_iff.mp hba.symm
  · rintro ⟨hapart, hshown⟩
    have hparts : (points.map (fun a => (a.perDriver : Rat))).Nodup := by
      refine List.Nodup.map_on (fun a ha b hb hab => ?_) (List.Nodup.of_map _ hdistinct)
      exact hinj a ha b hb (hapart a ha b hb (by exact_mod_cast hab))
    refine ⟨_, rfl, ?_⟩
    have hrounded : points.map Point.rounded = points.map Point.measured :=
      List.map_congr_left (fun a ha => a.rounded_eq_iff.mpr (hshown a ha))
    rw [← hrounded]
    exact rows_perm r points hd hparts

namespace Sysbench

/-- The digits of a number. -/
def numeralDigits (n : Nat) : List (Fin 10) :=
  if n < 10 then [Fin.ofNat 10 n] else numeralDigits (n / 10) ++ [Fin.ofNat 10 n]

theorem numeralDigits_ne (n : Nat) : numeralDigits n ≠ [] := by
  rw [numeralDigits]
  split_ifs <;> simp

def numeral (n : Nat) : Digits :=
  ⟨numeralDigits n, numeralDigits_ne n⟩

theorem numeral_value (n : Nat) : (numeral n).value = n := by
  change (numeralDigits n).foldl (fun m (d : Fin 10) => 10 * m + d.val) 0 = n
  induction n using Nat.strongRecOn with
  | ind n ih =>
      rw [numeralDigits]
      by_cases hn : n < 10
      · rw [if_pos hn]
        change 10 * 0 + n % 10 = n
        omega
      · rw [if_neg hn, List.foldl_append, ih (n / 10) (by omega)]
        change 10 * (n / 10) + n % 10 = n
        omega

/-- What a driver prints for a number of threads. -/
def driverReport (threads : Nat) : Printed :=
  { eightThreads ⟨digit 3, digit 7⟩ with threads := numeral threads }

theorem driverReport_printed (numDrivers threads : Nat) :
    ∀ x ∈ List.replicate numDrivers (driverReport threads).result, x.thds = (threads : Rat) := by
  intro x hx
  rw [List.eq_of_mem_replicate hx]
  exact congrArg Nat.cast (numeral_value threads)

/-- Drivers that all print the same. -/
def alikeDrivers (numDrivers : Nat) : Drivers := fun _ _ t =>
  .ok (List.replicate numDrivers (textOf (fieldLines (driverReport t) plainLayout)))

/-- A count that is measured by them. -/
def alikePoint (numDrivers more : Nat) : Point numDrivers where
  requested := numDrivers + more
  enough := Nat.le_add_right numDrivers more
  results := List.replicate numDrivers (driverReport ((numDrivers + more) / numDrivers)).result
  each := List.length_replicate
  printed := driverReport_printed numDrivers ((numDrivers + more) / numDrivers)

theorem alike_gives (numDrivers more i : Nat) :
    runThread (alikeDrivers numDrivers) 1 i (alikePoint numDrivers more).perDriver
      = .ok (alikePoint numDrivers more).results := by
  let v := driverReport ((numDrivers + more) / numDrivers)
  have hall : ∀ n, List.Forall₂ (fun output v => ∃ lay lines, IsReport v lay lines
      ∧ output = textOf lines ∧ 0 < v.tps.value)
      (List.replicate n (textOf (fieldLines v plainLayout))) (List.replicate n v) := by
    intro n
    induction n with
    | zero => exact List.Forall₂.nil
    | succ n ih =>
        have hrate : 0 < v.tps.value := by
          change (0 : Rat) < (⟨digit 3, digit 7⟩ : Decimal).value
          decide +kernel
        exact List.Forall₂.cons ⟨_, _, isReport_fieldLines _ _, rfl, hrate⟩ ih
  have hthread := runThread_reports (alikeDrivers numDrivers) 1 i
    ((numDrivers + more) / numDrivers) _ _ rfl (hall numDrivers)
  rw [List.map_replicate] at hthread
  exact hthread

/-- Seven and eight threads for three drivers. -/
def sevenAndEight : List (Point 3) :=
  [alikePoint 3 4, alikePoint 3 5]

/-- Four and sixteen threads for two drivers. -/
def fourAndSixteen : List (Point 2) :=
  [alikePoint 2 2, alikePoint 2 14]

end Sysbench

/-- Seven and eight threads are two for each of three drivers either way, so
    there is one row for both. -/
theorem seven_and_eight_meet :
    Gives (alikeDrivers 3) 1 sevenAndEight ∧ ¬ OneRowEach (alikeDrivers 3) 1 sevenAndEight := by
  have hgives : Gives (alikeDrivers 3) 1 sevenAndEight := by
    intro i a ha
    match i, ha with
    | 0, ha =>
        rw [← Option.some.inj ha]
        exact alike_gives 3 4 0
    | 1, ha =>
        rw [← Option.some.inj ha]
        exact alike_gives 3 5 1
  refine ⟨hgives, ?_⟩
  rintro ⟨rows, hrows, hperm⟩
  rw [oneRepeat_eq _ _ _ hgives] at hrows
  have hlen := hperm.length_eq
  rw [← Except.ok.inj hrows, List.length_map, rows_length 1 sevenAndEight (by decide),
    List.length_map] at hlen
  revert hlen
  decide +kernel

theorem four_and_sixteen_rows : OneRowEach (alikeDrivers 2) 1 fourAndSixteen := by
  refine (sysbench_rows_iff 2 (by decide) (alikeDrivers 2) 1 fourAndSixteen (by decide) ?_).mpr
    ⟨?_, ?_⟩
  · intro i a ha
    match i, ha with
    | 0, ha =>
        rw [← Option.some.inj ha]
        exact alike_gives 2 2 0
    | 1, ha =>
        rw [← Option.some.inj ha]
        exact alike_gives 2 14 1
  · intro a ha b hb
    simp only [fourAndSixteen, List.mem_cons, List.not_mem_nil, or_false] at ha hb
    rcases ha with rfl | rfl <;> rcases hb with rfl | rfl <;> decide
  · intro a ha
    simp only [fourAndSixteen, List.mem_cons, List.not_mem_nil, or_false] at ha
    rcases ha with rfl | rfl
    · exact ⟨by decide +kernel, by decide +kernel, by decide +kernel, by decide +kernel⟩
    · exact ⟨by decide +kernel, by decide +kernel, by decide +kernel, by decide +kernel⟩

end Xbench
