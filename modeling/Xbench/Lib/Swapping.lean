import Mathlib.Data.List.Perm.Basic

/-!
# Swapping in Place

A list in which positions are swapped, one pair after the other.

A swap is a permutation whichever positions are swapped, also if they are the
same, so a loop that swaps each position in turn with some other is one. And
every permutation comes of such a loop: each position is swapped with where the
item stands that is to be there.

## Main definitions

* `swapped`: A list with two positions swapped.
* `swapEach`: Swapping each position in turn, from one on.

## Theorems

* `swapped_of_lt`: A swap of two positions of the list.
* `swapped_perm`: A swap is a permutation.
* `swapEach_perm`: So is a loop of swaps.
* `exists_swapEach`: Every permutation comes of such a loop.
-/

namespace Xbench

variable {α : Type}

/-- A list with two positions swapped. -/
def swapped (l : List α) (i j : Nat) : Option (List α) :=
  match l[i]?, l[j]? with
  | some a, some b => some ((l.set i b).set j a)
  | _, _ => none

/-- Swapping each position in turn, from one on, with the given ones. -/
def swapEach : Nat → List Nat → List α → Option (List α)
  | _, [], l => some l
  | i, j :: js, l => (swapped l i j).bind (swapEach (i + 1) js)

section Swap

variable (l : List α) (i j : Nat)

theorem swapped_of_lt (hi : i < l.length) (hj : j < l.length) :
    swapped l i j = some ((l.set i l[j]).set j l[i]) := by
  rw [swapped, List.getElem?_eq_getElem hi, List.getElem?_eq_getElem hj]

/-- A swap is a permutation. -/
theorem swapped_perm (hi : i < l.length) (hj : j < l.length) :
    ∃ l', swapped l i j = some l' ∧ l'.Perm l :=
  ⟨_, swapped_of_lt l i j hi hj, List.set_set_perm hi hj⟩

/-- What is in front of both positions stays. -/
theorem take_swapped (hi : i < l.length) (hj : j < l.length) (hij : i ≤ j) :
    ((l.set i l[j]).set j l[i]).take (i + 1) = l.take i ++ [l[j]] := by
  by_cases heq : i = j
  · subst heq
    rw [List.set_set, List.take_succ_eq_append_getElem (by rw [List.length_set]; exact hi),
      List.take_set_of_le (Nat.le_refl i), List.getElem_set_self]
  · have hlt : i + 1 ≤ j := Nat.lt_of_le_of_ne hij heq
    rw [List.take_set_of_le hlt,
      List.take_succ_eq_append_getElem (by rw [List.length_set]; exact hi),
      List.take_set_of_le (Nat.le_refl i), List.getElem_set_self]

end Swap

/-- A loop of swaps is a permutation. -/
theorem swapEach_perm (l : List α) (i : Nat) (js : List Nat) (hi : i + js.length ≤ l.length)
    (hjs : ∀ j ∈ js, j < l.length) : ∃ l', swapEach i js l = some l' ∧ l'.Perm l := by
  induction js generalizing i l with
  | nil => exact ⟨l, rfl, List.Perm.refl l⟩
  | cons j js ih =>
      rw [List.length_cons] at hi
      rw [List.forall_mem_cons] at hjs
      rcases swapped_perm l i j (by omega) hjs.1 with ⟨l₁, hswap, hperm⟩
      have hlength := hperm.length_eq
      rcases ih l₁ (i + 1) (by omega) (fun j' hj' => hlength ▸ hjs.2 j' hj') with
        ⟨l', hrest, hperm'⟩
      refine ⟨l', ?_, hperm'.trans hperm⟩
      rw [swapEach, hswap, Option.bind_some, hrest]

/-- Every permutation comes of a loop of swaps, from where the lists differ on. -/
theorem exists_swapEach (l l' : List α) (i : Nat) (h : l'.Perm l) (hi : i ≤ l.length)
    (hfront : l.take i = l'.take i) :
    ∃ js, i + js.length = l.length ∧ (∀ j ∈ js, j < l.length) ∧ swapEach i js l = some l' := by
  -- the induction is on how much is left of the list
  induction hleft : l.length - i generalizing l i with
  | zero =>
      have hall : i = l.length := by omega
      rw [hall, List.take_length, ← h.length_eq, List.take_length] at hfront
      exact ⟨[], hall, fun j hj => absurd hj List.not_mem_nil, by rw [swapEach, hfront]⟩
  | succ n ih =>
      have hlt : i < l.length := by omega
      have hlt' : i < l'.length := by rw [h.length_eq]; exact hlt
      -- the item that is to be here is behind
      have hback : (l'.drop i).Perm (l.drop i) := by
        refine (List.perm_append_left_iff (l.take i)).mp ?_
        rw [List.take_append_drop, hfront, List.take_append_drop]
        exact h
      have hmem : l'[i] ∈ l.drop i := by
        rw [← hback.mem_iff, List.drop_eq_getElem_cons hlt']
        exact List.mem_cons_self
      rcases List.getElem_of_mem hmem with ⟨k, hk, hget⟩
      rw [List.length_drop] at hk
      rw [List.getElem_drop] at hget
      have hj : i + k < l.length := by omega
      have hperm := List.set_set_perm hlt hj
      have hstep : ((l.set i l[i + k]).set (i + k) l[i]).take (i + 1) = l'.take (i + 1) := by
        rw [take_swapped l i (i + k) hlt hj (Nat.le_add_right i k),
          List.take_succ_eq_append_getElem hlt', hfront, hget]
      have hlength := hperm.length_eq
      rcases ih _ (i + 1) (h.trans hperm.symm) (by omega) hstep (by omega) with
        ⟨js, hjs, hrange, hrun⟩
      rw [hlength] at hjs hrange
      refine ⟨(i + k) :: js, ?_, List.forall_mem_cons.mpr ⟨hj, hrange⟩, ?_⟩
      · rw [List.length_cons]
        omega
      · rw [swapEach, swapped_of_lt l i (i + k) hlt hj, Option.bind_some, hrun]

end Xbench
