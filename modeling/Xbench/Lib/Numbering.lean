import Mathlib.Data.List.Basic
import Mathlib.Data.List.Induction
import Mathlib.Data.List.Nodup
import Xbench.Lib.Dict

/-!
# Numbering by First Occurrence

A loop goes through a list and gives every value it has not met the next
number. It keeps a table of the numbers it has given and the next one to give.

What it gives is a matter of the list alone: the distinct values in the order
of their first occurrence, each with its place, counted from one.
`numbers_step` is the loop's body and `numbers_run` the loop.

A list can be numbered by something that stands for its values. As long as
different values are stood for by different things, nothing changes: the
distinct values are stood for by the distinct things, in the same order.

## Main definitions

* `number`: Giving a value a number, unless it has one.
* `numberAll`: The loop.
* `Numbers`: A table and a next number are those of a list.

## Theorems

* `eraseDups_concat`: One more value at the end.
* `eraseDups_map_of_injOn`: Distinct values under an injective map.
* `nodup_of_length_eraseDups`: A list with as many distinct values as values.
* `eraseDups_of_nodup`: A list of distinct values is its own distinct values.
* `numbers_run`: What the loop gives.
* `numbers_get?`: The number of a value.
* `eraseDups_places`: The places of the distinct values are the first numbers.
-/

namespace Xbench

section Distinct

variable {α β : Type} [BEq α] [LawfulBEq α] [BEq β] [LawfulBEq β]

/-- One more value at the end is new, or it is not. -/
theorem eraseDups_concat (l : List α) (a : α) :
    (l ++ [a]).eraseDups = if a ∈ l then l.eraseDups else l.eraseDups ++ [a] := by
  rw [List.eraseDups_append]
  by_cases ha : a ∈ l
  · have hrest : [a].removeAll l = [] := by simp [List.removeAll, ha]
    rw [if_pos ha, hrest, List.eraseDups_nil, List.append_nil]
  · have hrest : [a].removeAll l = [a] := by simp [List.removeAll, ha]
    rw [if_neg ha, hrest]
    rfl

theorem nodup_eraseDups (l : List α) : l.eraseDups.Nodup := by
  induction l using List.reverseRecOn with
  | nil => exact List.nodup_nil
  | append_singleton l a ih =>
      rw [eraseDups_concat]
      by_cases ha : a ∈ l
      · rw [if_pos ha]
        exact ih
      · rw [if_neg ha]
        refine List.nodup_append.mpr ⟨ih, List.nodup_singleton a, ?_⟩
        intro b hb c hc hbc
        rw [List.mem_singleton.mp hc] at hbc
        exact ha (hbc ▸ List.mem_eraseDups.mp hb)

/-- Distinct values under a map that keeps them apart. -/
theorem eraseDups_map_of_injOn (f : α → β) (l : List α)
    (h : ∀ a ∈ l, ∀ b ∈ l, f a = f b → a = b) :
    (l.map f).eraseDups = l.eraseDups.map f := by
  induction l using List.reverseRecOn with
  | nil => rfl
  | append_singleton l a ih =>
      have hl : (l.map f).eraseDups = l.eraseDups.map f :=
        ih (fun b hb c hc => h b (List.mem_append_left _ hb) c (List.mem_append_left _ hc))
      have hmem : f a ∈ l.map f ↔ a ∈ l := by
        constructor
        · intro hfa
          rcases List.mem_map.mp hfa with ⟨b, hb, hba⟩
          have hab := h b (List.mem_append_left _ hb) a (List.mem_append_right _ (by simp)) hba
          exact hab ▸ hb
        · exact List.mem_map_of_mem
      rw [List.map_append, List.map_singleton, eraseDups_concat, eraseDups_concat, hl]
      by_cases ha : a ∈ l
      · rw [if_pos ha, if_pos (hmem.mpr ha)]
      · rw [if_neg ha, if_neg (mt hmem.mp ha), List.map_append, List.map_singleton]

theorem length_eraseDups_le (l : List α) : l.eraseDups.length ≤ l.length := by
  induction l using List.reverseRecOn with
  | nil => exact Nat.le_refl _
  | append_singleton l a ih =>
      rw [eraseDups_concat, List.length_append, List.length_singleton]
      by_cases ha : a ∈ l
      · rw [if_pos ha]
        omega
      · rw [if_neg ha, List.length_append, List.length_singleton]
        omega

/-- A list with as many distinct values as values repeats none. -/
theorem nodup_of_length_eraseDups (l : List α) (h : l.eraseDups.length = l.length) :
    l.Nodup := by
  induction l using List.reverseRecOn with
  | nil => exact List.nodup_nil
  | append_singleton l a ih =>
      rw [eraseDups_concat, List.length_append, List.length_singleton] at h
      have hle := length_eraseDups_le l
      by_cases ha : a ∈ l
      · rw [if_pos ha] at h
        omega
      · rw [if_neg ha, List.length_append, List.length_singleton] at h
        refine List.nodup_append.mpr ⟨ih (by omega), List.nodup_singleton a, ?_⟩
        intro b hb c hc hbc
        rw [List.mem_singleton.mp hc] at hbc
        exact ha (hbc ▸ hb)

/-- Nothing is repeated, so nothing goes. -/
theorem eraseDups_of_nodup (l : List α) (h : l.Nodup) : l.eraseDups = l := by
  induction l using List.reverseRecOn with
  | nil => rfl
  | append_singleton l a ih =>
      have hl : l.Nodup := (List.nodup_append.mp h).1
      have ha : a ∉ l := by
        intro ha
        exact (List.nodup_append.mp h).2.2 a ha a (List.mem_singleton.mpr rfl) rfl
      rw [eraseDups_concat, if_neg ha, ih hl]

/-- The places of the values of a list without repetitions. -/
theorem map_idxOf (l : List α) (h : l.Nodup) (start : Nat) :
    l.map (fun a => l.idxOf a + start) = List.range' start l.length := by
  refine List.ext_getElem (by rw [List.length_map, List.length_range']) ?_
  intro i hi _
  rw [List.length_map] at hi
  rw [List.getElem_map, List.getElem_range', h.idxOf_getElem i hi]
  omega

/-- The places of the distinct values are the first numbers, in order. -/
theorem eraseDups_places (l : List α) :
    (l.map (fun a => l.eraseDups.idxOf a + 1)).eraseDups
      = List.range' 1 l.eraseDups.length := by
  rw [eraseDups_map_of_injOn (fun a => l.eraseDups.idxOf a + 1)]
  · exact map_idxOf l.eraseDups (nodup_eraseDups l) 1
  · intro a ha b _ hab
    exact (List.idxOf_inj (List.mem_eraseDups.mpr ha)).mp (Nat.add_right_cancel hab)

end Distinct

section Loop

variable {κ : Type} [DecidableEq κ]

/-- Give a value the next number, unless it has one. -/
def number (t : Dict κ Nat × Nat) (k : κ) : Dict κ Nat × Nat :=
  match t.1.get? k with
  | none => (t.1.set k t.2, t.2 + 1)
  | some _ => t

/-- The loop. -/
def numberAll (ks : List κ) : Dict κ Nat × Nat :=
  ks.foldl number (Dict.empty, 1)

/-- The table and the next number after the values of a list. -/
structure Numbers (t : Dict κ Nat × Nat) (ks : List κ) : Prop where
  keys : t.1.keys = ks.eraseDups
  next : t.2 = ks.eraseDups.length + 1
  get? : ∀ k ∈ ks, t.1.get? k = some (ks.eraseDups.idxOf k + 1)

/-- One more value. -/
theorem numbers_step (t : Dict κ Nat × Nat) (ks : List κ) (k : κ) (h : Numbers t ks) :
    Numbers (number t k) (ks ++ [k]) := by
  by_cases hk : k ∈ ks
  · -- The value has its number: nothing happens.
    have hsame : number t k = t := by rw [number, h.get? k hk]
    have hdups : (ks ++ [k]).eraseDups = ks.eraseDups := by rw [eraseDups_concat, if_pos hk]
    refine ⟨?_, ?_, ?_⟩
    · rw [hsame, hdups, h.keys]
    · rw [hsame, hdups, h.next]
    · intro j hj
      rw [hsame, hdups]
      rcases List.mem_append.mp hj with hj | hj
      · exact h.get? j hj
      · rw [List.mem_singleton.mp hj]
        exact h.get? k hk
  · -- It is new, and its place is the end.
    have hnew : k ∉ ks.eraseDups := mt List.mem_eraseDups.mp hk
    have hnone : t.1.get? k = none := by
      have := (t.1.mem_keys_iff k).not.mp (by rw [h.keys]; exact hnew)
      simpa using this
    have hset : number t k = (t.1.set k t.2, t.2 + 1) := by rw [number, hnone]
    have hdups : (ks ++ [k]).eraseDups = ks.eraseDups ++ [k] := by
      rw [eraseDups_concat, if_neg hk]
    refine ⟨?_, ?_, ?_⟩
    · rw [hset, hdups, Dict.keys_set, if_neg (by rw [h.keys]; exact hnew), h.keys]
    · rw [hset, hdups, List.length_append, List.length_singleton, h.next]
    · intro j hj
      rw [hset, hdups]
      by_cases hjk : j = k
      · rw [hjk, Dict.get?_set_self, h.next, List.idxOf_append_of_notMem hnew,
          List.idxOf_cons_self, Nat.add_zero]
      · have hold : j ∈ ks := by
          rcases List.mem_append.mp hj with hj | hj
          · exact hj
          · exact absurd (List.mem_singleton.mp hj) hjk
        rw [Dict.get?_set_other _ _ _ _ hjk, h.get? j hold,
          List.idxOf_append_of_mem (List.mem_eraseDups.mpr hold)]

/-- What the loop gives, by induction on what it has gone through. -/
theorem numbers_run (ks : List κ) : Numbers (numberAll ks) ks := by
  induction ks using List.reverseRecOn with
  | nil => exact ⟨rfl, rfl, fun k hk => absurd hk List.not_mem_nil⟩
  | append_singleton ks k ih =>
      have hcons : numberAll (ks ++ [k]) = number (numberAll ks) k := by
        rw [numberAll, List.foldl_append]
        rfl
      rw [hcons]
      exact numbers_step (numberAll ks) ks k ih

theorem numbers_length (ks : List κ) :
    (numberAll ks).1.entries.length = ks.eraseDups.length := by
  rw [← (numbers_run ks).keys, Dict.keys, List.length_map]

/-- The number of a value. -/
theorem numbers_get? (ks : List κ) (k : κ) (hk : k ∈ ks) :
    (numberAll ks).1.get? k = some (ks.eraseDups.idxOf k + 1) :=
  (numbers_run ks).get? k hk

end Loop

end Xbench
