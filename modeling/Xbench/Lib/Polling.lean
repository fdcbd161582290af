/-!
# Polling

A loop that takes one reading after another and goes on as long as its state
tells it to. A reading can fail, which ends the loop. Nothing else bounds it, so
it is run on fuel.

Everything is said through an invariant of the state before each reading: where
a loop ends the invariant holds, and a loop gets to a reading when the invariant
keeps it going up to there.

## Main definitions

* `poll`: The loop, on fuel.

## Theorems

* `poll_ok`: A loop that is over has ended in a state that says so.
* `poll_error`: A loop that raises has come to a reading that failed.
* `poll_reaches`: A loop that is kept going gets to a reading.
-/

namespace Xbench

namespace Polling

variable {σ α χ : Type} (go : σ → Bool) (next : σ → α → σ) (readings : Nat → Except χ α)

/-- The loop from the `i`-th reading on: how many there were and the state in
    the end, or the exception of a reading; nothing when the fuel is out. -/
def poll : Nat → Nat → σ → Option (Except χ (Nat × σ))
  | 0, _, _ => none
  | fuel + 1, i, s =>
      if go s then
        match readings i with
        | .error e => some (.error e)
        | .ok a => poll fuel (i + 1) (next s a)
      else some (.ok (i, s))

section Invariant

variable (Inv : Nat → σ → Prop)
  (hstep : ∀ i s a, Inv i s → go s = true → readings i = .ok a → Inv (i + 1) (next s a))
include hstep

/-- A loop that is over has ended in a state that says so. -/
theorem poll_ok (fuel i : Nat) (s : σ) (h : Inv i s) (k : Nat) (t : σ)
    (hr : poll go next readings fuel i s = some (.ok (k, t))) : Inv k t ∧ go t = false := by
  induction fuel generalizing i s with
  | zero => cases hr
  | succ fuel ih =>
      rw [poll] at hr
      by_cases hgo : go s = true
      · rw [if_pos hgo] at hr
        cases hread : readings i with
        | error e =>
            rw [hread] at hr
            cases hr
        | ok a =>
            rw [hread] at hr
            exact ih (i + 1) (next s a) (hstep i s a h hgo hread) hr
      · rw [if_neg hgo] at hr
        cases hr
        exact ⟨h, Bool.eq_false_iff.mpr hgo⟩

/-- A loop that raises has come to a reading that failed. -/
theorem poll_error (fuel i : Nat) (s : σ) (h : Inv i s) (e : χ)
    (hr : poll go next readings fuel i s = some (.error e)) :
    ∃ k t, Inv k t ∧ go t = true ∧ readings k = .error e := by
  induction fuel generalizing i s with
  | zero => cases hr
  | succ fuel ih =>
      rw [poll] at hr
      by_cases hgo : go s = true
      · rw [if_pos hgo] at hr
        cases hread : readings i with
        | error e' =>
            rw [hread] at hr
            cases hr
            exact ⟨i, s, h, hgo, hread⟩
        | ok a =>
            rw [hread] at hr
            exact ih (i + 1) (next s a) (hstep i s a h hgo hread) hr
      · rw [if_neg hgo] at hr
        cases hr

/-- A loop that is kept going gets to a reading. -/
theorem poll_reaches (i : Nat) (s : σ) (h : Inv i s) (n : Nat)
    (hgo : ∀ j t, i ≤ j → j < i + n → Inv j t → go t = true ∧ ∃ a, readings j = .ok a) :
    ∃ t, Inv (i + n) t ∧
      ∀ fuel, poll go next readings (fuel + n) i s = poll go next readings fuel (i + n) t := by
  induction n generalizing i s with
  | zero => exact ⟨s, h, fun fuel => rfl⟩
  | succ n ih =>
      rcases hgo i s (Nat.le_refl i) (by omega) h with ⟨hs, a, hread⟩
      rcases ih (i + 1) (next s a) (hstep i s a h hs hread)
        (fun j t hij hjn => hgo j t (by omega) (by omega)) with ⟨t, ht, hfuel⟩
      refine ⟨t, ?_, fun fuel => ?_⟩
      · rw [show i + (n + 1) = i + 1 + n by omega]
        exact ht
      · rw [← Nat.add_assoc, poll, if_pos hs, hread, show i + (n + 1) = i + 1 + n by omega]
        exact hfuel fuel

end Invariant

end Polling

end Xbench
