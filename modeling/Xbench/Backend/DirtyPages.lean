import Mathlib.Algebra.Order.Ring.Rat
import Xbench.Backend.Checkpoint

/-!
# Forcing a Checkpoint

The settings of a server around a forced checkpoint. The backend remembers the
two settings for dirty pages, lowers the first, waits, and sets both again.
Nothing holds the steps together: an exception on the way leaves what is set.

The settings are the server's, of which its manual says this much: the second is
never above the first, lowering the first takes the second along, and a value
that is in its range is set as it is.

## Main definitions

* `DirtyPagesServer`: A server with the two settings.
* `Statement`: The statements and the calls around them.
* `CheckpointRun`: What came of them, and the readings.
* `forceInnodbCheckpoint`: Forcing a checkpoint, on fuel.
* `Restores`: The settings are what they were.
* `Uninterrupted`: Nothing fails while the setting is lowered.
* `globalsServer`: A server as the manual has it.

## Theorems

* `force_unreached`: Nothing changes before the setting is lowered.
* `restored`: The statements at the end set what was remembered.
* `restores_iff`: When the settings are what they were.
-/

namespace Xbench

open Session

/-- A server with `innodb_max_dirty_pages_pct` and
    `innodb_max_dirty_pages_pct_lwm`. -/
structure DirtyPagesServer (σ : Type) where
  pct : σ → ℚ
  lwm : σ → ℚ
  setPct : ℚ → σ → σ
  setLwm : ℚ → σ → σ
  lwm_nonneg : ∀ s, 0 ≤ lwm s
  lwm_le_pct : ∀ s, lwm s ≤ pct s
  pct_setPct : ∀ v s, 0 ≤ v → pct (setPct v s) = v
  lwm_setPct : ∀ v s, 0 ≤ v → lwm (setPct v s) = min (lwm s) v
  pct_setLwm : ∀ v s, pct (setLwm v s) = pct s
  lwm_setLwm : ∀ v s, 0 ≤ v → v ≤ pct s → lwm (setLwm v s) = v

/-- The statements and the calls around them. -/
inductive Statement where
  | connect
  | selectPct
  | selectLwm
  | lowerPct
  | showStatus
  | restorePct
  | restoreLwm
  | flushHosts
deriving DecidableEq

/-- What came of a statement, over all its attempts: has the server run it, and
    what the client says. -/
structure StatementRun where
  ran : Bool
  outcome : Except Exn Unit
  returned : outcome = .ok () → ran = true

/-- What came of the statements, and the readings of the wait. -/
structure CheckpointRun where
  runs : Statement → StatementRun
  readings : Nat → Except Exn Int

/-- Why a run is over: an exception, with the statement it came from, or no more
    fuel. -/
inductive Halt where
  | raised (statement : Statement) (e : Exn)
  | unfinished

section Checkpoint

variable {σ : Type} (server : DirtyPagesServer σ) (a : CheckpointRun)

/-- `execute`, with what the statement does. -/
def CheckpointRun.execute (st : Statement) (change : σ → σ) : Session σ Halt Unit :=
  fun s => ((a.runs st).outcome.mapError (.raised st), if (a.runs st).ran then change s else s)

/-- `select_one_row` of a setting. -/
def CheckpointRun.select (st : Statement) (setting : σ → ℚ) : Session σ Halt ℚ :=
  fun s => (((a.runs st).outcome.mapError (.raised st)).map (fun _ => setting s), s)

/-- The readings, up to the end of the loop. -/
def CheckpointRun.wait (fuel : Nat) : Except Halt Unit :=
  match waitForPages a.readings fuel with
  | none => .error .unfinished
  | some (.error e) => .error (.raised .showStatus e)
  | some (.ok _) => .ok ()

/-- What follows once the settings are remembered. -/
def lowerAndRestore (maxDirtyPages maxDirtyPagesLwm : ℚ) (fuel : Nat) : Session σ Halt Unit := do
  a.execute .lowerPct (server.setPct 0)
  Session.ofExcept (a.wait fuel)
  a.execute .restorePct (server.setPct maxDirtyPages)
  a.execute .restoreLwm (server.setLwm maxDirtyPagesLwm)
  a.execute .flushHosts id

/-- `force_innodb_checkpoint`. -/
def forceInnodbCheckpoint (fuel : Nat) : Session σ Halt Unit := do
  a.execute .connect id
  let maxDirtyPages ← a.select .selectPct server.pct
  let maxDirtyPagesLwm ← a.select .selectLwm server.lwm
  lowerAndRestore server a maxDirtyPages maxDirtyPagesLwm fuel

/-- The two settings are those of another state. -/
def DirtyPagesServer.Same (s' s : σ) : Prop :=
  server.pct s' = server.pct s ∧ server.lwm s' = server.lwm s

/-- A run that ends leaves the settings as they were, an exception of the
    statements that set them again excepted. -/
def Restores (s : σ) : Prop :=
  ∀ fuel r s', forceInnodbCheckpoint server a fuel s = (r, s') → r ≠ .error .unfinished →
    (∀ st e, r = .error (.raised st e) → st ≠ .restorePct ∧ st ≠ .restoreLwm) →
      server.Same s' s

/-- The first setting is lowered: nothing before it fails. -/
def CheckpointRun.Lowers : Prop :=
  (a.runs .connect).outcome = .ok () ∧ (a.runs .selectPct).outcome = .ok ()
    ∧ (a.runs .selectLwm).outcome = .ok () ∧ (a.runs .lowerPct).ran = true

/-- Once a setting that is not zero is lowered, nothing fails before the wait is
    over. -/
def Uninterrupted (s : σ) : Prop :=
  a.Lowers → server.pct s ≠ 0 →
    (a.runs .lowerPct).outcome = .ok () ∧
      ∀ k e, a.readings k = .error e → ∃ j, j < k ∧ Over a.readings j

section Steps

theorem execute_ok (st : Statement) (change : σ → σ) (s : σ)
    (h : (a.runs st).outcome = .ok ()) : a.execute st change s = (.ok (), change s) := by
  rw [CheckpointRun.execute, h, if_pos ((a.runs st).returned h)]
  rfl

theorem execute_error (st : Statement) (change : σ → σ) (s : σ) (e : Exn)
    (h : (a.runs st).outcome = .error e) :
    a.execute st change s
      = (.error (.raised st e), if (a.runs st).ran then change s else s) := by
  rw [CheckpointRun.execute, h]
  rfl

theorem select_ok (st : Statement) (setting : σ → ℚ) (s : σ)
    (h : (a.runs st).outcome = .ok ()) : a.select st setting s = (.ok (setting s), s) := by
  rw [CheckpointRun.select, h]
  rfl

theorem select_error (st : Statement) (setting : σ → ℚ) (s : σ) (e : Exn)
    (h : (a.runs st).outcome = .error e) :
    a.select st setting s = (.error (.raised st e), s) := by
  rw [CheckpointRun.select, h]
  rfl

/-- A statement that changes nothing. -/
theorem execute_id (st : Statement) (s : σ) : (a.execute st id s).2 = s := by
  simp only [CheckpointRun.execute, id, ite_self]

/-- Nothing changes before the setting is lowered. -/
theorem force_unreached (fuel : Nat) (s : σ)
    (h : ¬ ((a.runs .connect).outcome = .ok () ∧ (a.runs .selectPct).outcome = .ok ()
      ∧ (a.runs .selectLwm).outcome = .ok ())) :
    (forceInnodbCheckpoint server a fuel s).2 = s := by
  unfold forceInnodbCheckpoint
  cases hconnect : (a.runs .connect).outcome with
  | error e =>
      rw [bind_apply, execute_error a .connect id s e hconnect]
      exact ite_self s
  | ok u =>
      rw [bind_of_ok _ s s _ () (execute_ok a .connect id s hconnect)]
      cases hpct : (a.runs .selectPct).outcome with
      | error e => rw [bind_of_error _ s s _ _ (select_error a .selectPct server.pct s e hpct)]
      | ok u =>
          rw [bind_of_ok _ s s _ _ (select_ok a .selectPct server.pct s hpct)]
          cases hlwm : (a.runs .selectLwm).outcome with
          | error e => rw [bind_of_error _ s s _ _ (select_error a .selectLwm server.lwm s e hlwm)]
          | ok u => exact absurd ⟨hconnect, hpct, hlwm⟩ h

/-- Where nothing fails before, the settings are remembered as they are. -/
theorem force_reached (fuel : Nat) (s : σ) (hconnect : (a.runs .connect).outcome = .ok ())
    (hpct : (a.runs .selectPct).outcome = .ok ()) (hlwm : (a.runs .selectLwm).outcome = .ok ()) :
    forceInnodbCheckpoint server a fuel s
      = lowerAndRestore server a (server.pct s) (server.lwm s) fuel s := by
  unfold forceInnodbCheckpoint
  rw [bind_of_ok _ s s _ () (execute_ok a .connect id s hconnect),
    bind_of_ok _ s s _ _ (select_ok a .selectPct server.pct s hpct),
    bind_of_ok _ s s _ _ (select_ok a .selectLwm server.lwm s hlwm)]

/-- A setting that is zero is not changed by lowering it. -/
theorem same_of_zero (s : σ) (h : server.pct s = 0) : server.Same (server.setPct 0 s) s := by
  have hlwm : server.lwm s = 0 :=
    le_antisymm (h ▸ server.lwm_le_pct s) (server.lwm_nonneg s)
  refine ⟨?_, ?_⟩
  · rw [server.pct_setPct 0 s (le_refl 0), h]
  · rw [server.lwm_setPct 0 s (le_refl 0), hlwm, min_self]

/-- The statements at the end set what was remembered. -/
theorem restored (s s' : σ) :
    server.Same (server.setLwm (server.lwm s) (server.setPct (server.pct s) s')) s := by
  have hpct : 0 ≤ server.pct s := (server.lwm_nonneg s).trans (server.lwm_le_pct s)
  have hset : server.pct (server.setPct (server.pct s) s') = server.pct s :=
    server.pct_setPct _ s' hpct
  refine ⟨?_, ?_⟩
  · rw [server.pct_setLwm, hset]
  · exact server.lwm_setLwm _ _ (server.lwm_nonneg s) (hset.symm ▸ server.lwm_le_pct s)

end Steps

section Runs

/-- A run whose lowering fails. -/
theorem lowering_fails (p l : ℚ) (fuel : Nat) (s : σ) (e : Exn)
    (h : (a.runs .lowerPct).outcome = .error e) :
    lowerAndRestore server a p l fuel s
      = (.error (.raised .lowerPct e),
          if (a.runs .lowerPct).ran then server.setPct 0 s else s) := by
  unfold lowerAndRestore
  rw [bind_of_error _ s _ _ _ (execute_error a .lowerPct (server.setPct 0) s e h)]

/-- A run whose wait does not come to an end. -/
theorem waiting_fails (p l : ℚ) (fuel : Nat) (s : σ) (x : Halt)
    (h : (a.runs .lowerPct).outcome = .ok ()) (hwait : a.wait fuel = .error x) :
    lowerAndRestore server a p l fuel s = (.error x, server.setPct 0 s) := by
  unfold lowerAndRestore
  rw [bind_of_ok _ s _ _ _ (execute_ok a .lowerPct (server.setPct 0) s h), hwait,
    bind_of_error _ _ _ _ _ (ofExcept_apply _ _)]

/-- A run that sets the settings again leaves them as they were, or it raises there. -/
theorem restoring (fuel : Nat) (s : σ) (h : (a.runs .lowerPct).outcome = .ok ())
    (hwait : a.wait fuel = .ok ()) :
    (∃ st e, (lowerAndRestore server a (server.pct s) (server.lwm s) fuel s).1
        = .error (.raised st e) ∧ (st = .restorePct ∨ st = .restoreLwm))
      ∨ server.Same (lowerAndRestore server a (server.pct s) (server.lwm s) fuel s).2 s := by
  unfold lowerAndRestore
  rw [bind_of_ok _ s _ _ _ (execute_ok a .lowerPct (server.setPct 0) s h), hwait,
    bind_of_ok _ _ _ _ _ (ofExcept_apply _ _)]
  cases hpct : (a.runs .restorePct).outcome with
  | error e =>
      rw [bind_of_error _ _ _ _ _ (execute_error a .restorePct _ _ e hpct)]
      exact Or.inl ⟨.restorePct, e, rfl, Or.inl rfl⟩
  | ok u =>
      rw [bind_of_ok _ _ _ _ _ (execute_ok a .restorePct _ _ hpct)]
      cases hlwm : (a.runs .restoreLwm).outcome with
      | error e =>
          rw [bind_of_error _ _ _ _ _ (execute_error a .restoreLwm _ _ e hlwm)]
          exact Or.inl ⟨.restoreLwm, e, rfl, Or.inr rfl⟩
      | ok u =>
          rw [bind_of_ok _ _ _ _ _ (execute_ok a .restoreLwm _ _ hlwm), execute_id]
          exact Or.inr (restored server s _)

/-- When the wait raises. -/
theorem wait_raised_iff (fuel : Nat) (st : Statement) (e : Exn) :
    a.wait fuel = .error (.raised st e) ↔
      st = .showStatus ∧ waitForPages a.readings fuel = some (.error e) := by
  unfold CheckpointRun.wait
  rcases waitForPages a.readings fuel with _ | e' | n
  · simp
  · simp [eq_comm]
  · simp

/-- When the settings are what they were: nothing fails while they are lowered. -/
theorem restores_iff (s : σ) : Restores server a s ↔ Uninterrupted server a s := by
  constructor
  · rintro h ⟨hconnect, hpct, hlwm, hran⟩ hzero
    have hforce := fun fuel => force_reached server a fuel s hconnect hpct hlwm
    -- a run that stops with the setting lowered is not one that restores it
    have hstops : ∀ fuel st e, lowerAndRestore server a (server.pct s) (server.lwm s) fuel s
        = (.error (.raised st e), server.setPct 0 s) → st ≠ .restorePct → st ≠ .restoreLwm →
          False := by
      intro fuel st e hrun hne hne'
      have hsame := h fuel _ _ ((hforce fuel).trans hrun) (fun hun => by cases hun)
        (fun st' e' heq => by cases heq; exact ⟨hne, hne'⟩)
      rw [DirtyPagesServer.Same, server.pct_setPct 0 s (le_refl 0)] at hsame
      exact hzero hsame.1.symm
    cases hlower : (a.runs .lowerPct).outcome with
    | error e =>
        have hrun := lowering_fails server a (server.pct s) (server.lwm s) 0 s e hlower
        rw [if_pos hran] at hrun
        exact (hstops 0 .lowerPct e hrun (by decide) (by decide)).elim
    | ok u =>
        refine ⟨rfl, (never_raises_iff a.readings).mp (fun fuel e hraise => ?_)⟩
        have hwait := (wait_raised_iff a fuel .showStatus e).mpr ⟨rfl, hraise⟩
        exact hstops fuel .showStatus e
          (waiting_fails server a _ _ fuel s _ hlower hwait) (by decide) (by decide)
  · intro h fuel r s' hrun hend hexcept
    by_cases hreach : (a.runs .connect).outcome = .ok () ∧ (a.runs .selectPct).outcome = .ok ()
      ∧ (a.runs .selectLwm).outcome = .ok ()
    · rw [force_reached server a fuel s hreach.1 hreach.2.1 hreach.2.2] at hrun
      have hok : (a.runs .lowerPct).ran = true → server.pct s ≠ 0 →
          (a.runs .lowerPct).outcome = .ok ()
            ∧ ∀ fuel e, waitForPages a.readings fuel ≠ some (.error e) := by
        intro hran hzero
        have hclear := h ⟨hreach.1, hreach.2.1, hreach.2.2, hran⟩ hzero
        exact ⟨hclear.1, (never_raises_iff a.readings).mpr hclear.2⟩
      cases hlower : (a.runs .lowerPct).outcome with
      | error e =>
          rw [lowering_fails server a _ _ fuel s e hlower] at hrun
          cases hrun
          by_cases hran : (a.runs .lowerPct).ran = true
          · rw [if_pos hran]
            by_cases hzero : server.pct s = 0
            · exact same_of_zero server s hzero
            · rw [hlower] at hok
              cases (hok hran hzero).1
          · rw [if_neg hran]
            exact ⟨rfl, rfl⟩
      | ok u =>
          cases hwait : a.wait fuel with
          | error x =>
              rw [waiting_fails server a _ _ fuel s x hlower hwait] at hrun
              cases hrun
              by_cases hzero : server.pct s = 0
              · exact same_of_zero server s hzero
              · cases x with
                | unfinished => exact absurd rfl hend
                | raised st e =>
                    have hraise := ((wait_raised_iff a fuel st e).mp hwait).2
                    exact absurd hraise ((hok ((a.runs .lowerPct).returned hlower) hzero).2 fuel e)
          | ok u =>
              rcases restoring server a fuel s hlower hwait with ⟨st, e, hraise, hst⟩ | hsame
              · rw [hrun] at hraise
                rcases hexcept st e hraise with ⟨hne, hne'⟩
                exact (hst.elim hne hne').elim
              · rw [hrun] at hsame
                exact hsame
    · have hstate : s' = s := by
        rw [← force_unreached server a fuel s hreach, hrun]
      rw [hstate]
      exact ⟨rfl, rfl⟩

end Runs

end Checkpoint

/-- The two settings, in their ranges. -/
structure Globals where
  pct : ℚ
  lwm : ℚ
  nonneg : 0 ≤ lwm
  ordered : lwm ≤ pct

namespace Globals

theorem lowered_ordered (g : Globals) (v : ℚ) :
    0 ≤ min g.lwm (max v 0) ∧ min g.lwm (max v 0) ≤ max v 0 :=
  ⟨le_min g.nonneg (le_max_right v 0), min_le_right _ _⟩

theorem limited_ordered (g : Globals) (v : ℚ) :
    0 ≤ min (max v 0) g.pct ∧ min (max v 0) g.pct ≤ g.pct :=
  ⟨le_min (le_max_right v 0) (g.nonneg.trans g.ordered), min_le_right _ _⟩

def setPct (v : ℚ) (g : Globals) : Globals :=
  ⟨max v 0, min g.lwm (max v 0), (g.lowered_ordered v).1, (g.lowered_ordered v).2⟩

def setLwm (v : ℚ) (g : Globals) : Globals :=
  ⟨g.pct, min (max v 0) g.pct, (g.limited_ordered v).1, (g.limited_ordered v).2⟩

theorem pct_setPct (v : ℚ) (g : Globals) (h : 0 ≤ v) : (g.setPct v).pct = v :=
  max_eq_left h

theorem lwm_setPct (v : ℚ) (g : Globals) (h : 0 ≤ v) : (g.setPct v).lwm = min g.lwm v :=
  congrArg (min g.lwm) (max_eq_left h)

theorem lwm_setLwm (v : ℚ) (g : Globals) (h : 0 ≤ v) (hv : v ≤ g.pct) : (g.setLwm v).lwm = v :=
  (congrArg (fun x => min x g.pct) (max_eq_left h)).trans (min_eq_left hv)

end Globals

/-- A server with values out of range cut off. -/
def globalsServer : DirtyPagesServer Globals where
  pct := Globals.pct
  lwm := Globals.lwm
  setPct := Globals.setPct
  setLwm := Globals.setLwm
  lwm_nonneg := Globals.nonneg
  lwm_le_pct := Globals.ordered
  pct_setPct := Globals.pct_setPct
  lwm_setPct := Globals.lwm_setPct
  pct_setLwm _ _ := rfl
  lwm_setLwm := Globals.lwm_setLwm

theorem performance_ordered : (0 : ℚ) ≤ 10 ∧ (10 : ℚ) ≤ 80 := by
  decide +kernel

/-- The settings of a benchmark. -/
def performance : Globals :=
  ⟨80, 10, performance_ordered.1, performance_ordered.2⟩

/-- A server that is gone once the setting is lowered. -/
def goneAway : CheckpointRun where
  runs _ := ⟨true, .ok (), fun _ => rfl⟩
  readings _ := .error ⟨.other, "MySQL server has gone away"⟩

/-- The setting stays at zero when the number of pages cannot be read. -/
theorem left_lowered : ¬ Restores globalsServer goneAway performance := by
  intro h
  have hrun : forceInnodbCheckpoint globalsServer goneAway 0 performance
      = (.error (.raised .showStatus ⟨.other, "MySQL server has gone away"⟩),
          globalsServer.setPct 0 performance) := by
    rw [force_reached globalsServer goneAway 0 performance rfl rfl rfl]
    exact waiting_fails globalsServer goneAway _ _ 0 performance _ rfl rfl
  have hsame := h 0 _ _ hrun (fun hun => by cases hun) (fun st e heq => by cases heq; decide)
  have hzero : globalsServer.pct (globalsServer.setPct 0 performance) = 0 :=
    globalsServer.pct_setPct 0 performance (le_refl 0)
  rw [DirtyPagesServer.Same, hzero] at hsame
  exact absurd hsame.1 (by decide +kernel)

end Xbench
