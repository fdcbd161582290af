import Xbench.Config.Value
import Xbench.Lib.Swapping

/-!
# Shuffling in Place

`shuffle_list_inplace` goes over the positions of a list and swaps each with a
random one, which may be the same and may be one that was there before. The
random numbers are a parameter. Whatever they are the list is a permutation of
what it was, and every permutation can come out.

## Main definitions

* `Randint`: What `randint` gives, call after call.
* `swapItems`: `l[i], l[j] = l[j], l[i]`.
* `shuffleListInplace`: Shuffling a list.

## Theorems

* `shuffleListInplace_eq`: The loop is one of swaps.
* `shuffleListInplace_perm`: A shuffled list is a permutation.
* `shuffleListInplace_iff`: The lists that can come out are the permutations.
-/

namespace Xbench

/-- `randint(0, b)`: what the calls give, one after the other. -/
structure Randint where
  call : Nat → Nat → Nat
  le : ∀ i b, call i b ≤ b

/-- Any numbers, as far as they are in range. -/
def Randint.ofIndices (js : List Nat) : Randint :=
  ⟨fun i b => min (js.getD i 0) b, fun _ b => Nat.min_le_right _ b⟩

variable {α : Type}

/-- `l[i], l[j] = l[j], l[i]`. -/
def swapItems (l : List α) (i j : Nat) : Except Exn (List α) :=
  match swapped l i j with
  | some l' => .ok l'
  | none => .error ⟨.indexError, "list index out of range"⟩

/-- `shuffle_list_inplace`. The bound of the random numbers is taken from the
    list before it is changed. -/
def shuffleListInplace (randint : Randint) (l : List α) : Except Exn (List α) :=
  if l.length > 0 then
    (List.range l.length).foldlM (fun l' i => swapItems l' i (randint.call i (l.length - 1))) l
  else .ok l

/-- The positions that a list of some length is swapped with. -/
def Randint.indices (randint : Randint) (n : Nat) : List Nat :=
  (List.range n).map (fun i => randint.call i (n - 1))

section Loop

/-- The loop is one of swaps, from a position on. -/
theorem foldlM_swapItems (draw : Nat → Nat) (i n : Nat) (l l' : List α)
    (h : swapEach i ((List.range' i n).map draw) l = some l') :
    (List.range' i n).foldlM (fun l i => swapItems l i (draw i)) l = .ok l' := by
  induction n generalizing i l with
  | zero => exact congrArg Except.ok (Option.some.inj h)
  | succ n ih =>
      rw [List.range'_succ, List.map_cons, swapEach] at h
      rw [List.range'_succ, List.foldlM_cons, swapItems]
      cases hswap : swapped l i (draw i) with
      | none =>
          rw [hswap] at h
          cases h
      | some l₁ =>
          rw [hswap, Option.bind_some] at h
          exact ih (i + 1) l₁ h

variable (randint : Randint) (l : List α)

theorem mem_indices (n : Nat) (hn : 0 < n) : ∀ j ∈ randint.indices n, j < n := by
  intro j hj
  rcases List.mem_map.mp hj with ⟨i, _, rfl⟩
  have hle := randint.le i (n - 1)
  omega

/-- A shuffle swaps each position in turn. -/
theorem shuffleListInplace_eq (l' : List α)
    (h : swapEach 0 (randint.indices l.length) l = some l') :
    shuffleListInplace randint l = .ok l' := by
  unfold shuffleListInplace
  by_cases hpos : l.length > 0
  · rw [if_pos hpos, List.range_eq_range']
    rw [Randint.indices, List.range_eq_range'] at h
    exact foldlM_swapItems _ 0 l.length l l' h
  · rw [if_neg hpos]
    have hnil := List.length_eq_zero_iff.mp (Nat.eq_zero_of_not_pos hpos)
    rw [hnil] at h ⊢
    exact congrArg Except.ok (Option.some.inj h)

/-- A shuffled list is a permutation of what it was. -/
theorem shuffleListInplace_perm :
    ∃ l', shuffleListInplace randint l = .ok l' ∧ l'.Perm l := by
  have hlength : (randint.indices l.length).length = l.length := by
    rw [Randint.indices, List.length_map, List.length_range]
  have hrange : ∀ j ∈ randint.indices l.length, j < l.length := by
    intro j hj
    have hpos : 0 < l.length := hlength ▸ List.length_pos_of_mem hj
    exact mem_indices randint l.length hpos j hj
  rcases swapEach_perm l 0 (randint.indices l.length) (by omega) hrange with ⟨l', hrun, hperm⟩
  exact ⟨l', shuffleListInplace_eq randint l l' hrun, hperm⟩

theorem indices_ofIndices (js : List Nat) (hjs : ∀ j ∈ js, j < js.length) :
    (Randint.ofIndices js).indices js.length = js := by
  refine List.ext_getElem ?_ (fun i hi hi' => ?_)
  · rw [Randint.indices, List.length_map, List.length_range]
  · have hlt := hjs js[i] (List.getElem_mem hi')
    have hget : js.getD i 0 = js[i] := by
      rw [List.getD_eq_getElem?_getD, List.getElem?_eq_getElem hi', Option.getD_some]
    simp only [Randint.indices, List.getElem_map, List.getElem_range]
    rw [Randint.ofIndices]
    simp only [hget]
    omega

/-- What can come out of a shuffle are the permutations. -/
theorem shuffleListInplace_iff (l' : List α) :
    (∃ randint, shuffleListInplace randint l = .ok l') ↔ l'.Perm l := by
  constructor
  · rintro ⟨randint, h⟩
    rcases shuffleListInplace_perm randint l with ⟨l₁, hrun, hperm⟩
    rw [h] at hrun
    rw [Except.ok.inj hrun]
    exact hperm
  · intro h
    rcases exists_swapEach l l' 0 h (Nat.zero_le _) (by rw [List.take_zero, List.take_zero]) with
      ⟨js, hlength, hrange, hrun⟩
    rw [Nat.zero_add] at hlength
    refine ⟨Randint.ofIndices js, shuffleListInplace_eq _ l l' ?_⟩
    rw [← hlength] at hrange ⊢
    rw [indices_ofIndices js hrange]
    exact hrun

end Loop

end Xbench
