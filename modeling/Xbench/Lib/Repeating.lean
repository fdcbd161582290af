import Mathlib.Data.List.Count
import Mathlib.Logic.Function.Iterate
import Mathlib.Data.List.Nodup
import Mathlib.Data.List.Perm.Basic

/-!
# Doing the Same Again

A system has parts, and an event changes the part it is for. What a part is
after a run depends on the events for it alone (`after_filter`), so it does not
matter how events for different parts are merged.

A part for which only one thing is done, however often, is the iterate of that
(`after_same`). If doing it twice is doing it once, then how often it was done
cannot be told, as long as it was done at all (`iterate_settled`).

## Main definitions

* `apply`: What an event does.
* `after`: The parts after a run.
* `times`: How many events are for a part.

## Theorems

* `after_filter`: A part is changed by its events alone.
* `after_same`: A part for which one thing is done.
* `iterate_settled`: Doing again what changes nothing.
* `times_flatMap`, `times_flatMap_key`, `length_flatMap_le`: The events of several runs.
-/

namespace Xbench

namespace Repeating

variable {ε ι W : Type} [DecidableEq ι] (part : ε → ι) (meaning : ε → W → W)

def apply (s : ι → W) (e : ε) : ι → W :=
  Function.update s (part e) (meaning e (s (part e)))

def after (s : ι → W) (trace : List ε) : ι → W :=
  trace.foldl (apply part meaning) s

/-- The events that are for a part. -/
def eventsFor (i : ι) (trace : List ε) : List ε :=
  trace.filter (fun e => part e = i)

def times (i : ι) (trace : List ε) : Nat :=
  trace.countP (fun e => part e = i)

theorem after_cons (s : ι → W) (e : ε) (trace : List ε) :
    after part meaning s (e :: trace) = after part meaning (apply part meaning s e) trace := rfl

theorem after_append (s : ι → W) (trace trace' : List ε) :
    after part meaning s (trace ++ trace')
      = after part meaning (after part meaning s trace) trace' :=
  List.foldl_append

/-- A part is changed by its events alone, in their order. -/
theorem after_filter (s : ι → W) (i : ι) (trace : List ε) :
    after part meaning s trace i
      = (eventsFor part i trace).foldl (fun w e => meaning e w) (s i) := by
  induction trace generalizing s with
  | nil => rfl
  | cons e trace ih =>
      rw [after_cons, ih, apply, eventsFor, eventsFor, List.filter_cons]
      by_cases he : part e = i
      · rw [if_pos (decide_eq_true he), List.foldl_cons, ← he, Function.update_self]
      · rw [if_neg (by rw [decide_eq_false he]; exact Bool.false_ne_true),
          Function.update_of_ne (Ne.symm he)]

theorem foldl_same (m : W → W) (w : W) (trace : List ε) (h : ∀ e ∈ trace, meaning e = m) :
    trace.foldl (fun w e => meaning e w) w = m^[trace.length] w := by
  induction trace generalizing w with
  | nil => rfl
  | cons e trace ih =>
      rw [List.foldl_cons, ih _ (fun e' he' => h e' (List.mem_cons_of_mem e he')),
        h e List.mem_cons_self, List.length_cons, Function.iterate_succ_apply]

/-- A part for which one thing is done, however often. -/
theorem after_same (s : ι → W) (i : ι) (m : W → W) (trace : List ε)
    (h : ∀ e ∈ trace, part e = i → meaning e = m) :
    after part meaning s trace i = m^[times part i trace] (s i) := by
  have hmine : ∀ e ∈ eventsFor part i trace, meaning e = m := by
    intro e he
    rcases List.mem_filter.mp he with ⟨hmem, hpart⟩
    exact h e hmem (of_decide_eq_true hpart)
  rw [after_filter, foldl_same meaning m _ _ hmine, times, List.countP_eq_length_filter, eventsFor]

/-- What changes nothing when it is done again changes nothing later. -/
theorem iterate_settled (m : W → W) (w : W) (n : Nat) (hm : m (m w) = m w) (hn : 0 < n) :
    m^[n] w = m w := by
  rcases Nat.exists_eq_succ_of_ne_zero (Nat.pos_iff_ne_zero.mp hn) with ⟨k, rfl⟩
  rw [Function.iterate_succ_apply, Function.iterate_fixed hm]

theorem times_append (i : ι) (trace trace' : List ε) :
    times part i (trace ++ trace') = times part i trace + times part i trace' :=
  List.countP_append

theorem times_perm (i : ι) (trace trace' : List ε) (h : trace.Perm trace') :
    times part i trace = times part i trace' :=
  h.countP_eq _

theorem times_pos (i : ι) (trace : List ε) (e : ε) (he : e ∈ trace) (hpart : part e = i) :
    0 < times part i trace :=
  List.countP_pos_iff.mpr ⟨e, he, decide_eq_true hpart⟩

/-- The events of several runs, of which each has one event for the part or
    none. -/
theorem times_flatMap {α : Type} (i : ι) (runs : List α) (trace : α → List ε) (p : α → Bool)
    (h : ∀ a ∈ runs, times part i (trace a) = if p a then 1 else 0) :
    times part i (runs.flatMap trace) = runs.countP p := by
  induction runs with
  | nil => rfl
  | cons a runs ih =>
      rw [List.flatMap_cons, times_append, h a List.mem_cons_self,
        ih (fun b hb => h b (List.mem_cons_of_mem a hb)), List.countP_cons, Nat.add_comm]

/-- Runs for a part each. -/
theorem times_flatMap_key {α : Type} (runs : List α) (key : α → ι) (trace : α → List ε)
    (hkeys : (runs.map key).Nodup) (hpart : ∀ a ∈ runs, ∀ e ∈ trace a, part e = key a) (a : α)
    (ha : a ∈ runs) : times part (key a) (runs.flatMap trace) = (trace a).length := by
  induction runs with
  | nil => exact absurd ha List.not_mem_nil
  | cons b runs ih =>
      rw [List.map_cons, List.nodup_cons] at hkeys
      rw [List.forall_mem_cons] at hpart
      have hown : ∀ c, (∀ e ∈ trace c, part e = key c) → times part (key c) (trace c)
          = (trace c).length :=
        fun c hc => List.countP_eq_length.mpr (fun e he => decide_eq_true (hc e he))
      rw [List.flatMap_cons, times_append]
      rcases List.mem_cons.mp ha with rfl | ha
      · -- the other runs are for other parts
        have hnone : times part (key a) (runs.flatMap trace) = 0 := by
          refine List.countP_eq_zero.mpr (fun e he hdecide => ?_)
          rcases List.mem_flatMap.mp he with ⟨c, hc, hec⟩
          exact hkeys.1 (List.mem_map.mpr
            ⟨c, hc, (hpart.2 c hc e hec).symm.trans (of_decide_eq_true hdecide)⟩)
        rw [hnone, hown a hpart.1, Nat.add_zero]
      · have hnone : times part (key a) (trace b) = 0 := by
          refine List.countP_eq_zero.mpr (fun e he hdecide => ?_)
          exact hkeys.1 (List.mem_map.mpr
            ⟨a, ha, (of_decide_eq_true hdecide).symm.trans (hpart.1 e he)⟩)
        rw [hnone, ih hkeys.2 hpart.2 ha, Nat.zero_add]

/-- Runs of at most so many events each. -/
theorem length_flatMap_le {α : Type} (runs : List α) (trace : α → List ε) (n : Nat)
    (h : ∀ a ∈ runs, (trace a).length ≤ n) : (runs.flatMap trace).length ≤ runs.length * n := by
  induction runs with
  | nil => exact Nat.zero_le _
  | cons a runs ih =>
      have hrest := ih (fun b hb => h b (List.mem_cons_of_mem a hb))
      have hfirst := h a List.mem_cons_self
      rw [List.flatMap_cons, List.length_append, List.length_cons, Nat.succ_mul]
      omega

end Repeating

end Xbench
