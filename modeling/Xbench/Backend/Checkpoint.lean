import Mathlib.Data.Nat.Find
import Xbench.Config.Value
import Xbench.Lib.Polling
import Xbench.Lib.Session

/-!
# Waiting for a Checkpoint

Before a run, a backend has the server write out its dirty pages: it lowers the
setting for how many of them there may be, waits until few are left, and puts
the setting back.

The wait reads the number of dirty pages again and again. It counts down
whenever a reading is the one before it, and starts counting again when it is
not, so that it is over at a reading below a thousand or at the sixth in a row
that is no change. The first reading is compared with nothing.

## Main definitions

* `Wait`: What the wait remembers.
* `waitForPages`: The wait, on fuel.
* `streak`: How many readings in a row are no change.
* `Over`: The wait is over at a reading.
* `Pending`: The wait gets to a reading.
* `WaitEnds`: The wait is over for readings that do not fail.

## Theorems

* `pages_step`: What the wait remembers, reading after reading.
* `wait_ok_iff`: When the wait is over.
* `wait_error_iff`: When the wait raises.
* `never_raises_iff`: When the wait raises nothing.
* `wait_ends_iff`: When readings that do not fail end the wait.
-/

namespace Xbench

open Polling

/-- What the wait remembers: `buffer_pool_pages_dirty`, `pages_dirty_old` and
    `repeat`. -/
structure Wait where
  dirty : Int
  old : Int
  countdown : Int

namespace Wait

/-- `while buffer_pool_pages_dirty >= 1000 and repeat >= 0`. -/
def goesOn (w : Wait) : Bool :=
  decide (1000 ≤ w.dirty) && decide (0 ≤ w.countdown)

/-- A turn of the loop, with its reading. -/
def next (w : Wait) (reading : Int) : Wait :=
  ⟨reading, reading, if reading = w.old then w.countdown - 1 else 5⟩

end Wait

/-- The first reading and the loop: the number of readings, or the exception of
    one; nothing when the fuel is out. -/
def waitForPages (readings : Nat → Except Exn Int) (fuel : Nat) : Option (Except Exn Nat) :=
  match readings 0 with
  | .error e => some (.error e)
  | .ok dirty =>
      (poll Wait.goesOn Wait.next readings fuel 1 ⟨dirty, 0, 5⟩).map (fun r => r.map Prod.fst)

/-- How many readings in a row are no change; the first is compared with nothing. -/
def streak (readings : Nat → Except Exn Int) : Nat → Nat
  | 0 => 0
  | 1 => 0
  | k + 2 =>
      if (readings (k + 2)).toOption = (readings (k + 1)).toOption then streak readings (k + 1) + 1
      else 0

/-- The wait is over at a reading: few pages are left, or there was no change six
    times. -/
def Over (readings : Nat → Except Exn Int) (k : Nat) : Prop :=
  ∃ dirty, readings k = .ok dirty ∧ (dirty < 1000 ∨ 6 ≤ streak readings k)

/-- The wait gets to a reading: those before it came and did not end it. -/
def Pending (readings : Nat → Except Exn Int) (k : Nat) : Prop :=
  ∀ j, j < k → (∃ dirty, readings j = .ok dirty) ∧ ¬ Over readings j

section Waiting

variable (readings : Nat → Except Exn Int)

/-- What is known before a reading: it is reached if the last one does not end
    the wait, which has remembered the last one and how often it came. -/
structure Wait.Knows (k : Nat) (w : Wait) : Prop where
  pos : 0 < k
  pending : Pending readings (k - 1)
  last : readings (k - 1) = .ok w.dirty
  old : k = 1 ∧ w.old = 0 ∨ 1 < k ∧ w.old = w.dirty
  countdown : w.dirty < 1000 ∨ w.countdown = 5 - (streak readings (k - 1) : Int)

/-- The test of the loop is whether the last reading ends the wait. -/
theorem goesOn_iff (k : Nat) (w : Wait) (h : Wait.Knows readings k w) :
    w.goesOn = true ↔ ¬ Over readings (k - 1) := by
  have hover : Over readings (k - 1) ↔ w.dirty < 1000 ∨ 6 ≤ streak readings (k - 1) := by
    refine ⟨fun ⟨dirty, hd, hor⟩ => ?_, fun hor => ⟨w.dirty, h.last, hor⟩⟩
    rw [h.last] at hd
    cases hd
    exact hor
  rw [Wait.goesOn, Bool.and_eq_true, decide_eq_true_iff, decide_eq_true_iff, hover]
  rcases h.countdown with hfew | hcount
  · omega
  · omega

/-- A reached reading extends what is known by itself. -/
theorem pending_succ (k : Nat) (hk : 0 < k) (h : Pending readings (k - 1)) (dirty : Int)
    (hlast : readings (k - 1) = .ok dirty) (hover : ¬ Over readings (k - 1)) :
    Pending readings k := by
  intro j hj
  by_cases hjk : j < k - 1
  · exact h j hjk
  · have heq : j = k - 1 := by omega
    rw [heq]
    exact ⟨⟨dirty, hlast⟩, hover⟩

/-- What the wait remembers, reading after reading. -/
theorem pages_step (k : Nat) (w : Wait) (dirty : Int) (h : Wait.Knows readings k w)
    (hgo : w.goesOn = true) (hread : readings k = .ok dirty) :
    Wait.Knows readings (k + 1) (w.next dirty) := by
  have hover := (goesOn_iff readings k w h).mp hgo
  have hbig : 1000 ≤ w.dirty := by
    rw [Wait.goesOn, Bool.and_eq_true, decide_eq_true_iff] at hgo
    exact hgo.1
  have hcount : w.countdown = 5 - (streak readings (k - 1) : Int) := by
    rcases h.countdown with hfew | hcount
    · omega
    · exact hcount
  have hpos := h.pos
  refine ⟨Nat.succ_pos k, pending_succ readings k hpos h.pending w.dirty h.last hover, hread,
    Or.inr ⟨by omega, rfl⟩, ?_⟩
  simp only [Wait.next, Nat.add_sub_cancel]
  rcases h.old with ⟨hone, hold⟩ | ⟨hmore, hold⟩
  · -- only zero, which ends the wait, is what the second reading is compared with
    by_cases hzero : dirty = 0
    · exact Or.inl (by omega)
    · right
      rw [if_neg (by omega), hone]
      rfl
  · right
    rcases Nat.exists_eq_add_of_lt hmore with ⟨m, hm⟩
    have hk : k = m + 2 := by omega
    have hlast := h.last
    rw [hk] at hread hlast hcount ⊢
    rw [streak, hread, show m + 1 = m + 2 - 1 by omega, hlast, hold, hcount]
    by_cases hsame : dirty = w.dirty
    · rw [if_pos hsame, if_pos (by rw [hsame])]
      omega
    · rw [if_neg hsame, if_neg (by simpa [Except.toOption] using hsame)]
      rfl

/-- What is known after the first reading. -/
theorem knows_first (dirty : Int) (h : readings 0 = .ok dirty) :
    Wait.Knows readings 1 ⟨dirty, 0, 5⟩ :=
  ⟨Nat.one_pos, fun j hj => absurd hj (Nat.not_lt_zero j), h, Or.inl ⟨rfl, rfl⟩, Or.inr rfl⟩

/-- A wait that is over has come to a reading that ends it. -/
theorem over_of_ok (fuel n : Nat) (h : waitForPages readings fuel = some (.ok n)) :
    0 < n ∧ Pending readings (n - 1) ∧ Over readings (n - 1) := by
  unfold waitForPages at h
  cases hread : readings 0 with
  | error e =>
      rw [hread] at h
      cases h
  | ok dirty =>
      rw [hread, Option.map_eq_some_iff] at h
      rcases h with ⟨r, hpoll, hr⟩
      cases r with
      | error e => cases hr
      | ok kt =>
          cases hr
          have hend := poll_ok Wait.goesOn Wait.next readings (Wait.Knows readings)
            (pages_step readings) fuel 1 ⟨dirty, 0, 5⟩ (knows_first readings dirty hread)
            kt.1 kt.2 hpoll
          refine ⟨hend.1.pos, hend.1.pending, ?_⟩
          by_contra hover
          rw [(goesOn_iff readings kt.1 kt.2 hend.1).mpr hover] at hend
          exact Bool.noConfusion hend.2

/-- A wait that raises has come to a reading that failed. -/
theorem failed_of_error (fuel : Nat) (e : Exn)
    (h : waitForPages readings fuel = some (.error e)) :
    ∃ k, Pending readings k ∧ readings k = .error e := by
  unfold waitForPages at h
  cases hread : readings 0 with
  | error e' =>
      rw [hread] at h
      cases h
      exact ⟨0, fun j hj => absurd hj (Nat.not_lt_zero j), hread⟩
  | ok dirty =>
      rw [hread, Option.map_eq_some_iff] at h
      rcases h with ⟨r, hpoll, hr⟩
      cases r with
      | ok kt => cases hr
      | error e' =>
          cases hr
          rcases poll_error Wait.goesOn Wait.next readings (Wait.Knows readings)
            (pages_step readings) fuel 1 ⟨dirty, 0, 5⟩ (knows_first readings dirty hread) e hpoll
            with ⟨k, t, hk, hgo, hfail⟩
          have hover := (goesOn_iff readings k t hk).mp hgo
          exact ⟨k, pending_succ readings k hk.pos hk.pending t.dirty hk.last hover, hfail⟩

/-- The wait gets to a pending reading that does not fail. -/
theorem wait_of_pending (n : Nat) (h : Pending readings n) (hn : ∃ d, readings n = .ok d) :
    ∃ t, Wait.Knows readings (n + 1) t ∧ ∀ fuel,
      waitForPages readings (fuel + n)
        = (poll Wait.goesOn Wait.next readings fuel (n + 1) t).map (fun r => r.map Prod.fst) := by
  have hok : ∀ j, j ≤ n → ∃ d, readings j = .ok d := by
    intro j hj
    by_cases hjn : j = n
    · rw [hjn]
      exact hn
    · exact (h j (by omega)).1
  rcases hok 0 (Nat.zero_le n) with ⟨dirty, hread⟩
  rcases poll_reaches Wait.goesOn Wait.next readings (Wait.Knows readings) (pages_step readings)
    1 ⟨dirty, 0, 5⟩ (knows_first readings dirty hread) n
    (fun j t hj hjn ht =>
      ⟨(goesOn_iff readings j t ht).mpr (h (j - 1) (by omega)).2, hok j (by omega)⟩)
    with ⟨t, ht, hfuel⟩
  rw [Nat.add_comm 1 n] at ht
  refine ⟨t, ht, fun fuel => ?_⟩
  rw [waitForPages, hread, Nat.add_comm n 1, ← hfuel fuel]

/-- When the wait is over, and after how many readings. -/
theorem wait_ok_iff (n : Nat) :
    (∃ fuel, waitForPages readings fuel = some (.ok n)) ↔
      0 < n ∧ Pending readings (n - 1) ∧ Over readings (n - 1) := by
  constructor
  · rintro ⟨fuel, h⟩
    exact over_of_ok readings fuel n h
  · rintro ⟨hpos, hpending, hover⟩
    have hread : ∃ d, readings (n - 1) = .ok d := hover.imp (fun d hd => hd.1)
    rcases wait_of_pending readings (n - 1) hpending hread with ⟨t, ht, hfuel⟩
    refine ⟨1 + (n - 1), ?_⟩
    have hstop : ¬ t.goesOn = true := fun hgo => (goesOn_iff readings _ t ht).mp hgo hover
    rw [hfuel 1, poll, if_neg hstop, Nat.sub_add_cancel hpos]
    rfl

/-- When the wait raises. -/
theorem wait_error_iff (e : Exn) :
    (∃ fuel, waitForPages readings fuel = some (.error e)) ↔
      ∃ k, Pending readings k ∧ readings k = .error e := by
  constructor
  · rintro ⟨fuel, h⟩
    exact failed_of_error readings fuel e h
  · rintro ⟨k, hpending, hfail⟩
    cases k with
    | zero => exact ⟨0, by rw [waitForPages, hfail]⟩
    | succ k =>
        have hbefore : Pending readings k := fun j hj => hpending j (by omega)
        rcases hpending k (Nat.lt_succ_self k) with ⟨hread, hover⟩
        rcases wait_of_pending readings k hbefore hread with ⟨t, ht, hfuel⟩
        refine ⟨1 + k, ?_⟩
        rw [hfuel 1, poll, if_pos ((goesOn_iff readings _ t ht).mpr hover), hfail]
        rfl

/-- No reading fails the wait when each that fails comes after one that ends it. -/
theorem never_raises_iff :
    (∀ fuel e, waitForPages readings fuel ≠ some (.error e)) ↔
      ∀ k e, readings k = .error e → ∃ j, j < k ∧ Over readings j := by
  constructor
  · intro h k
    -- the first reading that fails is reached unless the wait is over before
    induction k using Nat.strongRecOn with
    | ind k ih =>
        intro e hfail
        by_contra hnone
        have hpending : Pending readings k := by
          intro j hj
          refine ⟨?_, fun hover => hnone ⟨j, hj, hover⟩⟩
          cases hread : readings j with
          | ok d => exact ⟨d, rfl⟩
          | error e' =>
              rcases ih j hj e' hread with ⟨i, hi, hover⟩
              exact absurd ⟨i, by omega, hover⟩ hnone
        rcases (wait_error_iff readings e).mpr ⟨k, hpending, hfail⟩ with ⟨fuel, hraise⟩
        exact h fuel e hraise
  · intro h fuel e hraise
    rcases (wait_error_iff readings e).mp ⟨fuel, hraise⟩ with ⟨k, hpending, hfail⟩
    rcases h k e hfail with ⟨j, hj, hover⟩
    exact (hpending j hj).2 hover

end Waiting

/-- Readings that come every time. -/
def steady (d : Nat → Int) : Nat → Except Exn Int :=
  fun k => .ok (d k)

/-- The wait is over, at the first reading below a thousand or after six polls
    without a change. -/
def WaitEnds (d : Nat → Int) : Prop :=
  ∃ fuel n, waitForPages (steady d) fuel = some (.ok (n + 1)) ∧
    ((d n < 1000 ∧ ∀ j, j < n → 1000 ≤ d j) ∨ (6 ≤ n ∧ ∀ i, i ≤ 6 → d (n - i) = d n))

section Ending

variable (d : Nat → Int)

theorem streak_succ (k : Nat) :
    streak (steady d) (k + 2)
      = if d (k + 2) = d (k + 1) then streak (steady d) (k + 1) + 1 else 0 := by
  have hsome : ∀ j, (steady d j).toOption = some (d j) := fun _ => rfl
  simp only [streak, hsome, Option.some.injEq]

/-- The readings of a streak are one; it does not reach back to the first. -/
theorem streak_spec (k : Nat) :
    streak (steady d) k ≤ k - 1 ∧ ∀ i, i ≤ streak (steady d) k → d (k - i) = d k := by
  have hzero : ∀ k i, i ≤ 0 → d (k - i) = d k := by
    intro k i hi
    rw [Nat.le_zero.mp hi, Nat.sub_zero]
  induction k with
  | zero => exact ⟨Nat.le_refl 0, fun i hi => hzero 0 i hi⟩
  | succ k ih =>
      cases k with
      | zero => exact ⟨Nat.le_refl 0, fun i hi => hzero 1 i hi⟩
      | succ k =>
          rw [streak_succ]
          by_cases h : d (k + 2) = d (k + 1)
          · rw [if_pos h]
            refine ⟨by omega, fun i hi => ?_⟩
            cases i with
            | zero => rfl
            | succ i =>
                rw [h, show k + 1 + 1 - (i + 1) = k + 1 - i by omega]
                exact ih.2 i (by omega)
          · rw [if_neg h]
            exact ⟨Nat.zero_le _, fun i hi => hzero _ i hi⟩

/-- Equal readings make a streak, from the second on. -/
theorem le_streak (k n : Nat) (h : ∀ i, i ≤ n → d (k + 1 + i) = d (k + 1)) :
    n ≤ streak (steady d) (k + 1 + n) := by
  induction n with
  | zero => exact Nat.zero_le _
  | succ n ih =>
      have hsame : d (k + n + 2) = d (k + n + 1) := by
        rw [show k + n + 2 = k + 1 + (n + 1) by omega, show k + n + 1 = k + 1 + n by omega,
          h (n + 1) (Nat.le_refl _), h n (by omega)]
      have hn := ih (fun i hi => h i (by omega))
      rw [show k + 1 + (n + 1) = k + n + 2 by omega, streak_succ, if_pos hsame,
        show k + n + 1 = k + 1 + n by omega]
      omega

theorem over_iff (k : Nat) : Over (steady d) k ↔ d k < 1000 ∨ 6 ≤ streak (steady d) k := by
  refine ⟨fun ⟨dirty, hd, hor⟩ => ?_, fun hor => ⟨d k, rfl, hor⟩⟩
  cases hd
  exact hor

/-- The wait is over once a reading ends it, and the first one does. -/
theorem exists_pending (k : Nat) (h : Over (steady d) k) :
    ∃ n, Pending (steady d) n ∧ Over (steady d) n := by
  classical
  have hex : ∃ k, Over (steady d) k := ⟨k, h⟩
  exact ⟨Nat.find hex, fun j hj => ⟨⟨d j, rfl⟩, Nat.find_min hex hj⟩, Nat.find_spec hex⟩

/-- When the wait ends: some reading is below a thousand, or seven in a row, not
    counting the first, are one number. -/
theorem wait_ends_iff :
    WaitEnds d ↔ (∃ k, d k < 1000) ∨ ∃ k, ∀ i, i ≤ 6 → d (k + 1 + i) = d (k + 1) := by
  constructor
  · rintro ⟨fuel, n, hwait, _⟩
    have hover := (over_of_ok (steady d) fuel (n + 1) hwait).2.2
    rw [Nat.add_sub_cancel, over_iff] at hover
    rcases hover with hfew | hstill
    · exact Or.inl ⟨n, hfew⟩
    · right
      -- seven readings in a row are the same, and begin six before the last
      have hspec := streak_spec d n
      refine ⟨n - 7, fun i hi => ?_⟩
      have hfirst := hspec.2 6 hstill
      have hthis := hspec.2 (6 - i) (by omega)
      rw [show n - 7 + 1 + i = n - (6 - i) by omega, show n - 7 + 1 = n - 6 by omega, hthis,
        hfirst]
  · intro h
    -- there is a reading at which the loop is over, and it stops at the first such
    have hover : ∃ k, Over (steady d) k := by
      rcases h with ⟨k, hfew⟩ | ⟨k, hsame⟩
      · exact ⟨k, (over_iff d k).mpr (Or.inl hfew)⟩
      · exact ⟨k + 1 + 6, (over_iff d _).mpr (Or.inr (le_streak d k 6 hsame))⟩
    rcases hover with ⟨k, hover⟩
    rcases exists_pending d k hover with ⟨n, hpending, hend⟩
    rcases (wait_ok_iff (steady d) (n + 1)).mpr ⟨Nat.succ_pos n, hpending, hend⟩ with ⟨fuel, hwait⟩
    refine ⟨fuel, n, hwait, ?_⟩
    rcases (over_iff d n).mp hend with hfew | hstill
    · left
      refine ⟨hfew, fun j hj => ?_⟩
      by_contra hless
      exact (hpending j hj).2 ((over_iff d j).mpr (Or.inl (by omega)))
    · right
      have hspec := streak_spec d n
      exact ⟨by omega, fun i hi => hspec.2 i (by omega)⟩

/-- A server that dirties a page between two polls is waited for without end. -/
theorem busy_never_ends : ¬ WaitEnds (fun k => 1000 + (k : Int)) := by
  rintro ⟨fuel, n, -, ⟨hfew, -⟩ | ⟨hlong, hsame⟩⟩
  · simp only at hfew
    omega
  · have h := hsame 1 (by omega)
    simp only at h
    omega

end Ending

end Xbench
