import Xbench.Lib.Effect
import Xbench.Lib.Tables

/-!
# Measuring with HammerDB

A run has repeats, a repeat has the requested numbers of virtual users, and
each of them is measured by all drivers. What the drivers of one number
measure is put together under that number, the numbers of a repeat under the
repeat, and two kinds of files are written from it: one for each repeat, at
its end, and a summary.

Variables of a loop outlive it. The loop that writes the file of a repeat goes
through the numbers under a name of its own and writes the name of the loop
before it, so every row has the number that was measured last.
`oneRepeat_rows` is that, and `hammerdb_files_iff` says that the files agree
exactly when there is no second number.

What a driver measures is a parameter. There is at least one driver, because
building the runner looks at the first.

## Main definitions

* `Measurement`: What is measured.
* `Drivers`: What the drivers measure.
* `countLoop`: The loop over the numbers of users.
* `csvRows`: The rows of a repeat's file.
* `repeatLoop`: The loop over the repeats.
* `run`: `HammerdbRunner.run`.
* `together`: What the drivers of one number measured.
* `FilesAgree`: The files have the rows they should have.

## Theorems

* `countLoop_ok`: What the loop over the numbers leaves.
* `csvRows_ok`: What is written at its end.
* `repeatLoop_ok`: What the loop over the repeats leaves.
* `run_eq`: The files of a run.
* `hammerdb_files_iff`: When the files agree.
-/

namespace Xbench

namespace Hammerdb

/-- What is measured, by a driver or by all of them. -/
structure Measurement where
  throughput : Rat
  avgLatency : Rat
  p95Latency : Rat
deriving DecidableEq

/-- The drivers, and what they measure in a repeat with a number of users. -/
structure Drivers where
  num : Nat
  pos : 0 < num
  log : Nat → Nat → List Measurement
  each : ∀ r v, (log r v).length = num

inductive HammerdbExn where
  | name (text : String)
  | key (count : Nat)
  | zeroDivision
deriving DecidableEq

/-- The measurements of one number together. -/
def together (vuData : List Measurement) : Measurement where
  throughput := (vuData.map Measurement.throughput).sum
  avgLatency := (vuData.map Measurement.avgLatency).sum / vuData.length
  p95Latency := maximum (vuData.map Measurement.p95Latency)

/-- The variables that the loop over the numbers writes. -/
structure LoopState where
  v : Option Nat
  repeatData : Dict Nat Measurement

/-- The loop over the numbers of users, in a repeat. -/
def countLoop (drivers : Drivers) (r : Nat) : List Nat → LoopState → LoopState
  | [], s => s
  | v :: numVu, s =>
      countLoop drivers r numVu ⟨some v, s.repeatData.set v (together (drivers.log r v))⟩

structure CsvRow where
  concurrency : Nat
  throughput : Rat
  avgLatency : Rat
  p95Latency : Rat
deriving DecidableEq

/-- The rows of a repeat's file. The loop goes over the data and writes the
    variable of the loop before it. -/
def csvRows (s : LoopState) : Except HammerdbExn (List CsvRow) :=
  s.repeatData.entries.mapM (fun (_, data) =>
    match s.v with
    | some v => .ok ⟨v, data.throughput, data.avgLatency, data.p95Latency⟩
    | none => .error (.name "v"))

/-- What the loop over the repeats has gathered. -/
structure RunState where
  v : Option Nat
  summaryData : Dict Nat (Dict Nat Measurement)
  files : Dict Nat (List CsvRow)

/-- The loop over the repeats. -/
def repeatLoop (drivers : Drivers) (numVu : List Nat) :
    List Nat → RunState → Except HammerdbExn RunState
  | [], s => .ok s
  | r :: rs, s => do
      let loop := countLoop drivers r numVu ⟨s.v, Dict.empty⟩
      let rows ← csvRows loop
      repeatLoop drivers numVu rs
        ⟨loop.v, s.summaryData.set r loop.repeatData, s.files.set r rows⟩

/-- `summary_data[r][v]`. -/
def summaryAt (summaryData : Dict Nat (Dict Nat Measurement)) (v r : Nat) :
    Except HammerdbExn Measurement :=
  match summaryData.get? r with
  | none => .error (.key r)
  | some repeatData => match repeatData.get? v with
    | none => .error (.key v)
    | some data => .ok data

/-- `range(1, repeats + 1)`. -/
def repeatRange (repeats : Nat) : List Nat :=
  List.range' 1 repeats

/-- A row of the summary. -/
def summaryRow (summaryData : Dict Nat (Dict Nat Measurement)) (repeats v : Nat) :
    Except HammerdbExn CsvRow := do
  let data ← (repeatRange repeats).mapM (summaryAt summaryData v)
  if repeats = 0 then .error .zeroDivision
  else .ok {
    concurrency := v
    throughput := (data.map Measurement.throughput).sum / repeats
    avgLatency := (data.map Measurement.avgLatency).sum / repeats
    p95Latency := maximum (data.map Measurement.p95Latency) }

/-- The files of a run: one for each repeat, and the summary. -/
structure ResultFiles where
  perRepeat : Dict Nat (List CsvRow)
  summary : List CsvRow

/-- `HammerdbRunner.run`. -/
def run (drivers : Drivers) (numVu : List Nat) (repeats : Nat) :
    Except HammerdbExn ResultFiles := do
  let s ← repeatLoop drivers numVu (repeatRange repeats) ⟨none, Dict.empty, Dict.empty⟩
  let summary ← numVu.mapM (summaryRow s.summaryData repeats)
  pure ⟨s.files, summary⟩

/-- The rows with a number, in the files of all repeats. -/
def rowsLabelled (files : ResultFiles) (repeats v : Nat) : List CsvRow :=
  (repeatRange repeats).flatMap
    (fun r => ((files.perRepeat.get? r).getD []).filter (fun row => decide (row.concurrency = v)))

/-- The files have the rows they should have. -/
structure FilesAgree (drivers : Drivers) (numVu : List Nat) (repeats : Nat)
    (files : ResultFiles) : Prop where
  perRepeat : ∀ r ∈ repeatRange repeats, ∃ rows, files.perRepeat.get? r = some rows
    ∧ (rows.map (fun row => (row.concurrency, row.throughput))).Perm
      (numVu.map (fun v => (v, ((drivers.log r v).map Measurement.throughput).sum)))
  summary : ∀ v ∈ numVu, ∃ row,
    files.summary.filter (fun row => decide (row.concurrency = v)) = [row]
      ∧ row.throughput = ((rowsLabelled files repeats v).map CsvRow.throughput).sum / repeats
      ∧ row.avgLatency = ((rowsLabelled files repeats v).map CsvRow.avgLatency).sum / repeats
      ∧ row.p95Latency = maximum ((rowsLabelled files repeats v).map CsvRow.p95Latency)

section Run

variable (drivers : Drivers) (numVu : List Nat)

/-- What a repeat measures with a number of users. -/
def measured (r v : Nat) : Measurement :=
  together (drivers.log r v)

/-- What a repeat measures. -/
def repeatEntries (r : Nat) : List (Nat × Measurement) :=
  numVu.map (fun v => (v, measured drivers r v))

/-- What the loop over the numbers leaves. -/
theorem countLoop_ok (r : Nat) (s : LoopState) :
    countLoop drivers r numVu s
      = ⟨numVu.getLast?.or s.v, s.repeatData.setAll (repeatEntries drivers numVu r)⟩ := by
  induction numVu generalizing s with
  | nil => rfl
  | cons v numVu ih =>
      rw [countLoop, ih, List.getLast?_cons]
      cases numVu.getLast? with
      | none => rfl
      | some w => rfl

/-- The rows of a repeat's file: what was measured, under the last number. -/
def repeatRows (r : Nat) : List CsvRow :=
  numVu.map (fun v => ⟨numVu.getLast?.getD 0, (measured drivers r v).throughput,
    (measured drivers r v).avgLatency, (measured drivers r v).p95Latency⟩)

theorem entries_repeat (hdistinct : numVu.Nodup) (r : Nat) :
    (Dict.empty.setAll (repeatEntries drivers numVu r)).entries
      = repeatEntries drivers numVu r := by
  refine Dict.entries_setAll Dict.empty _ ?_
  have hkeys : (repeatEntries drivers numVu r).map Prod.fst = numVu := by
    rw [repeatEntries, List.map_map]
    exact List.map_id _
  change ((repeatEntries drivers numVu r).map Prod.fst).Nodup
  rw [hkeys]
  exact hdistinct

/-- What is written at the end of a repeat. -/
theorem csvRows_ok (hdistinct : numVu.Nodup) (r : Nat) (v : Option Nat) :
    csvRows (countLoop drivers r numVu ⟨v, Dict.empty⟩) = .ok (repeatRows drivers numVu r) := by
  rw [countLoop_ok, csvRows, entries_repeat drivers numVu hdistinct r]
  cases hlast : numVu.getLast? with
  | none =>
      rw [List.getLast?_eq_none_iff.mp hlast]
      rfl
  | some w =>
      refine (except_mapM_ok_iff _ _ _).mpr ?_
      rw [repeatRows, repeatEntries, List.forall₂_map_left_iff, List.forall₂_map_right_iff, hlast]
      exact List.forall₂_same.mpr (fun x _ => rfl)

/-- What the loop over the repeats leaves. -/
theorem repeatLoop_ok (hdistinct : numVu.Nodup) (rs : List Nat) (s : RunState) :
    ∃ v, repeatLoop drivers numVu rs s = .ok ⟨v,
      s.summaryData.setAll (rs.map (fun r =>
        (r, Dict.empty.setAll (repeatEntries drivers numVu r)))),
      s.files.setAll (rs.map (fun r => (r, repeatRows drivers numVu r)))⟩ := by
  induction rs generalizing s with
  | nil => exact ⟨s.v, rfl⟩
  | cons r rs ih =>
      rcases ih ⟨numVu.getLast?.or s.v,
        s.summaryData.set r (Dict.empty.setAll (repeatEntries drivers numVu r)),
        s.files.set r (repeatRows drivers numVu r)⟩ with ⟨v, hv⟩
      refine ⟨v, ?_⟩
      rw [repeatLoop, csvRows_ok drivers numVu hdistinct r s.v, countLoop_ok]
      exact hv

/-- The mean of what the repeats measured, with the largest latency. -/
def summaryOf (repeats v : Nat) : CsvRow :=
  let data := (repeatRange repeats).map (fun r => measured drivers r v)
  { concurrency := v
    throughput := (data.map Measurement.throughput).sum / repeats
    avgLatency := (data.map Measurement.avgLatency).sum / repeats
    p95Latency := maximum (data.map Measurement.p95Latency) }

theorem summaryAt_ok (hdistinct : numVu.Nodup) (repeats v r : Nat) (hv : v ∈ numVu)
    (hr : r ∈ repeatRange repeats) :
    summaryAt (Dict.empty.setAll ((repeatRange repeats).map (fun r =>
      (r, Dict.empty.setAll (repeatEntries drivers numVu r))))) v r
      = .ok (measured drivers r v) := by
  have hkeys : (((repeatRange repeats).map (fun r =>
      (r, (Dict.empty : Dict Nat Measurement).setAll (repeatEntries drivers numVu r)))).map
        Prod.fst).Nodup := by
    rw [List.map_map]
    exact List.Nodup.map (fun _ _ h => h) (List.nodup_range')
  have hcounts : ((repeatEntries drivers numVu r).map Prod.fst).Nodup := by
    rw [repeatEntries, List.map_map]
    exact List.Nodup.map (fun _ _ h => h) hdistinct
  have houter := Dict.get?_setAll_of_nodup Dict.empty _ hkeys r _
    (List.mem_map.mpr ⟨r, hr, rfl⟩)
  have hinner := Dict.get?_setAll_of_nodup Dict.empty _ hcounts v _
    (List.mem_map.mpr ⟨v, hv, rfl⟩)
  rw [summaryAt, houter]
  simp only [hinner]

/-- The files of a run. -/
theorem run_eq (repeats : Nat) (hrepeats : 1 ≤ repeats) (hdistinct : numVu.Nodup) :
    ∃ files, run drivers numVu repeats = .ok files
      ∧ (∀ r ∈ repeatRange repeats, files.perRepeat.get? r = some (repeatRows drivers numVu r))
      ∧ files.summary = numVu.map (summaryOf drivers repeats) := by
  rcases repeatLoop_ok drivers numVu hdistinct (repeatRange repeats)
    ⟨none, Dict.empty, Dict.empty⟩ with ⟨v, hloop⟩
  -- a row of the summary finds every repeat in the table
  have hsummary : numVu.mapM (summaryRow (Dict.empty.setAll ((repeatRange repeats).map (fun r =>
      (r, Dict.empty.setAll (repeatEntries drivers numVu r))))) repeats)
      = .ok (numVu.map (summaryOf drivers repeats)) := by
    refine (except_mapM_ok_iff _ _ _).mpr ?_
    rw [List.forall₂_map_right_iff]
    refine List.forall₂_same.mpr (fun w hw => ?_)
    have hdata : (repeatRange repeats).mapM (summaryAt (Dict.empty.setAll
        ((repeatRange repeats).map (fun r =>
          (r, Dict.empty.setAll (repeatEntries drivers numVu r))))) w)
        = .ok ((repeatRange repeats).map (fun r => measured drivers r w)) := by
      refine (except_mapM_ok_iff _ _ _).mpr ?_
      rw [List.forall₂_map_right_iff]
      exact List.forall₂_same.mpr
        (fun r hr => summaryAt_ok drivers numVu hdistinct repeats w r hw hr)
    have hsome : ¬ repeats = 0 := by omega
    rw [summaryRow, hdata]
    exact if_neg hsome
  refine ⟨⟨Dict.empty.setAll ((repeatRange repeats).map (fun r =>
    (r, repeatRows drivers numVu r))), numVu.map (summaryOf drivers repeats)⟩, ?_, ?_, rfl⟩
  · rw [run, hloop]
    change (do
      let summary ← numVu.mapM (summaryRow _ repeats)
      pure (⟨_, summary⟩ : ResultFiles)) = _
    rw [hsummary]
    rfl
  · intro r hr
    refine Dict.get?_setAll_of_nodup Dict.empty _ ?_ r _ (List.mem_map.mpr ⟨r, hr, rfl⟩)
    rw [List.map_map]
    exact List.Nodup.map (fun _ _ h => h) (List.nodup_range')

/-- Every row of a repeat has the last number. -/
theorem repeatRows_label (r : Nat) (row : CsvRow) (h : row ∈ repeatRows drivers numVu r) :
    row.concurrency = numVu.getLast?.getD 0 := by
  rcases List.mem_map.mp h with ⟨v, _, rfl⟩
  rfl

end Run

end Hammerdb

open Hammerdb

/-- The files of a run agree exactly when at most one number of users is
    requested. -/
theorem hammerdb_files_iff (drivers : Drivers) (numVu : List Nat) (repeats : Nat)
    (hrepeats : 1 ≤ repeats) (hdistinct : numVu.Nodup) :
    (∃ files, run drivers numVu repeats = .ok files ∧ FilesAgree drivers numVu repeats files)
      ↔ numVu.length ≤ 1 := by
  rcases run_eq drivers numVu repeats hrepeats hdistinct with ⟨files, hrun, hfiles, hsummary⟩
  constructor
  · rintro ⟨files', hrun', hagree⟩
    rw [hrun] at hrun'
    rw [← Except.ok.inj hrun'] at hagree
    have hone : 1 ∈ repeatRange repeats := List.mem_range'_1.mpr ⟨le_rfl, by omega⟩
    rcases hagree.perRepeat 1 hone with ⟨rows, hrows, hperm⟩
    rw [hfiles 1 hone] at hrows
    rw [← Option.some.inj hrows] at hperm
    -- Every requested number is the label of a row, so it is the last one.
    have hall : ∀ v ∈ numVu, v = numVu.getLast?.getD 0 := by
      intro v hv
      have hmem := hperm.symm.subset (List.mem_map_of_mem hv)
      rcases List.mem_map.mp hmem with ⟨row, hrow, heq⟩
      rw [← repeatRows_label drivers numVu 1 row hrow]
      exact (congrArg Prod.fst heq).symm
    match numVu, hdistinct, hall with
    | [], _, _ => exact Nat.zero_le 1
    | [v], _, _ => exact le_rfl
    | v :: w :: rest, hdistinct, hall =>
        have hvw : v = w := (hall v (by simp)).trans (hall w (by simp)).symm
        rw [hvw] at hdistinct
        simp at hdistinct
  · intro hlength
    refine ⟨files, hrun, ?_, ?_⟩
    · intro r hr
      refine ⟨_, hfiles r hr, ?_⟩
      match numVu, hlength with
      | [], _ => exact List.Perm.nil
      | [v], _ => exact List.Perm.refl _
    · intro v hv
      have hsingle : numVu = [v] := by
        match numVu, hlength, hv with
        | [w], _, hv => rw [List.mem_singleton.mp hv]
      subst hsingle
      refine ⟨summaryOf drivers repeats v, ?_, ?_⟩
      · rw [hsummary]
        simp [summaryOf]
      · have hrows : rowsLabelled files repeats v = (repeatRange repeats).map (fun r =>
            ⟨v, (measured drivers r v).throughput, (measured drivers r v).avgLatency,
              (measured drivers r v).p95Latency⟩) := by
          rw [rowsLabelled, List.map_eq_flatMap]
          refine List.flatMap_congr (fun r hr => ?_)
          rw [hfiles r hr]
          simp [repeatRows]
        rw [hrows]
        simp only [summaryOf, List.map_map]
        exact ⟨rfl, rfl, rfl⟩

namespace Hammerdb

/-- One driver that measures as much as it has users. -/
def oneDriver : Drivers where
  num := 1
  pos := Nat.zero_lt_one
  log := fun _ v => [⟨v, 1, 2⟩]
  each := fun _ _ => rfl

end Hammerdb

/-- With eight and sixteen users both rows of a repeat are labelled sixteen. -/
theorem second_count_labels_both :
    ¬ ∃ files, run oneDriver [8, 16] 1 = .ok files ∧ FilesAgree oneDriver [8, 16] 1 files := by
  rintro ⟨files, hrun, hagree⟩
  rcases run_eq oneDriver [8, 16] 1 le_rfl (by decide) with ⟨files', hrun', hfiles, -⟩
  rw [hrun] at hrun'
  rw [Except.ok.inj hrun'] at hagree
  rcases hagree.perRepeat 1 (by decide) with ⟨rows, hrows, hperm⟩
  rw [hfiles 1 (by decide)] at hrows
  rw [← Option.some.inj hrows] at hperm
  have height := (hperm.map Prod.fst).symm.subset (List.mem_cons_self (a := 8) (l := [16]))
  revert height
  decide

theorem single_count_agrees :
    ∃ files, run oneDriver [8] 3 = .ok files ∧ FilesAgree oneDriver [8] 3 files :=
  (hammerdb_files_iff oneDriver [8] 3 (by decide) (by decide)).mpr (by decide)

end Xbench
