import Mathlib.Algebra.BigOperators.Group.List.Basic
import Mathlib.Algebra.Order.Ring.Rat
import Mathlib.Data.List.Sort
import Xbench.Lib.Numbering

/-!
# Grouped Tables

The rows of a table with the same key are put into one group, and the groups
are listed in the order of their keys. A sum or a maximum over a group is a
number of its own, and what is shown of a number is rounded, a half going to
the even neighbour.

Rows often come in blocks, one for each thing that was measured, and every row
of a block has the block's name for its key. The groups are then the blocks as
long as no two blocks have one name, which is `groupby_blocks`; there are as
many groups as there are different names in any case.

## Main definitions

* `groupby`: The groups of a table, by their keys.
* `maximum`: The largest of some numbers.
* `roundTo`: A number to some digits.
* `truncate`: A number without what is behind its point.

## Theorems

* `groupby_length`: There is a group for each key.
* `groupby_keys_perm`: The keys of the groups.
* `groupby_blocks`: Blocks with names of their own are the groups.
* `groupby_of_key`: The group of a key.
-/

namespace Xbench

section Groups

variable {α β κ : Type} [LinearOrder κ]

/-- The rows with the same key, for every key in order. -/
def groupby (key : α → κ) (rows : List α) : List (κ × List α) :=
  ((rows.map key).eraseDups.mergeSort (fun a b => decide (a ≤ b))).map
    (fun k => (k, rows.filter (fun a => decide (key a = k))))

variable (key : α → κ) (rows : List α)

theorem groupby_length : (groupby key rows).length = (rows.map key).eraseDups.length := by
  rw [groupby, List.length_map, List.length_mergeSort]

/-- The keys of the groups. -/
theorem groupby_keys_perm :
    (groupby key rows).map Prod.fst |>.Perm (rows.map key).eraseDups := by
  have hfst : (groupby key rows).map Prod.fst
      = (rows.map key).eraseDups.mergeSort (fun a b => decide (a ≤ b)) := by
    rw [groupby, List.map_map]
    exact List.map_id _
  rw [hfst]
  exact List.mergeSort_perm _ _

/-- The group of a key. -/
theorem groupby_of_key (k : κ) (h : k ∈ rows.map key) :
    (k, rows.filter (fun a => decide (key a = k))) ∈ groupby key rows := by
  refine List.mem_map.mpr ⟨k, ?_, rfl⟩
  rw [List.mem_mergeSort, List.mem_eraseDups]
  exact h

section Blocks

variable (blocks : List β) (items : β → List α) (name : β → κ)

/-- The keys of rows that come in blocks are the names. -/
theorem eraseDups_blocks (hne : ∀ b ∈ blocks, items b ≠ [])
    (hkey : ∀ b ∈ blocks, ∀ a ∈ items b, key a = name b) :
    ((blocks.flatMap items).map key).eraseDups.Perm (blocks.map name).eraseDups := by
  refine (List.perm_ext_iff_of_nodup (nodup_eraseDups _) (nodup_eraseDups _)).mpr (fun k => ?_)
  rw [List.mem_eraseDups, List.mem_eraseDups]
  constructor
  · intro hk
    rcases List.mem_map.mp hk with ⟨a, ha, rfl⟩
    rcases List.mem_flatMap.mp ha with ⟨b, hb, hab⟩
    exact List.mem_map.mpr ⟨b, hb, (hkey b hb a hab).symm⟩
  · intro hk
    rcases List.mem_map.mp hk with ⟨b, hb, rfl⟩
    rcases List.exists_mem_of_ne_nil (items b) (hne b hb) with ⟨a, ha⟩
    exact List.mem_map.mpr ⟨a, List.mem_flatMap.mpr ⟨b, hb, ha⟩, hkey b hb a ha⟩

/-- With names of their own, the rows with a block's name are the block's. -/
theorem filter_blocks (hkey : ∀ b ∈ blocks, ∀ a ∈ items b, key a = name b)
    (hname : (blocks.map name).Nodup) (b : β) (hb : b ∈ blocks) :
    (blocks.flatMap items).filter (fun a => decide (key a = name b)) = items b := by
  induction blocks with
  | nil => exact absurd hb List.not_mem_nil
  | cons c blocks ih =>
      rw [List.map_cons, List.nodup_cons] at hname
      rw [List.flatMap_cons, List.filter_append]
      have hrest : ∀ d ∈ blocks, ∀ a ∈ items d, key a = name d :=
        fun d hd => hkey d (List.mem_cons_of_mem c hd)
      -- the block is the first, and no other has its name, or it is a later one
      rcases List.mem_cons.mp hb with rfl | hb
      · have hown : (items b).filter (fun a => decide (key a = name b)) = items b :=
          List.filter_eq_self.mpr
            (fun a ha => decide_eq_true (hkey b List.mem_cons_self a ha))
        have hothers : (blocks.flatMap items).filter (fun a => decide (key a = name b)) = [] := by
          refine List.filter_eq_nil_iff.mpr (fun a ha hka => ?_)
          rcases List.mem_flatMap.mp ha with ⟨d, hd, had⟩
          have hsame : name d = name b := by
            rw [← hrest d hd a had]
            exact of_decide_eq_true hka
          exact hname.1 (List.mem_map.mpr ⟨d, hd, hsame⟩)
        rw [hown, hothers, List.append_nil]
      · have hfirst : (items c).filter (fun a => decide (key a = name b)) = [] := by
          refine List.filter_eq_nil_iff.mpr (fun a ha hka => ?_)
          have hsame : name b = name c := by
            rw [← hkey c List.mem_cons_self a ha]
            exact (of_decide_eq_true hka).symm
          exact hname.1 (List.mem_map.mpr ⟨b, hb, hsame⟩)
        rw [hfirst, List.nil_append]
        exact ih hrest hname.2 hb

/-- Blocks with names of their own are the groups. -/
theorem groupby_blocks (hne : ∀ b ∈ blocks, items b ≠ [])
    (hkey : ∀ b ∈ blocks, ∀ a ∈ items b, key a = name b) (hname : (blocks.map name).Nodup) :
    (groupby key (blocks.flatMap items)).Perm (blocks.map (fun b => (name b, items b))) := by
  have hdups := eraseDups_of_nodup (blocks.map name) hname
  have hperm := (List.mergeSort_perm ((blocks.flatMap items).map key).eraseDups
    (fun a b => decide (a ≤ b))).trans (eraseDups_blocks key blocks items name hne hkey)
  rw [hdups] at hperm
  have hmap := hperm.map (fun k => (k, (blocks.flatMap items).filter
    (fun a => decide (key a = k))))
  rw [List.map_map] at hmap
  refine hmap.trans (List.Perm.of_eq (List.map_congr_left (fun b hb => ?_)))
  rw [Function.comp_apply, filter_blocks key blocks items name hkey hname b hb]

end Blocks

end Groups

/-- The largest of some numbers. -/
def maximum (xs : List Rat) : Rat :=
  xs.max?.getD 0

/-- A number without what is behind its point. -/
def truncate (x : Rat) : Int :=
  x.num.tdiv x.den

/-- The nearest whole number, a half going to the even one. -/
def roundHalfEven (x : Rat) : Int :=
  let n := x.floor
  if x - n < 1 / 2 then n
  else if 1 / 2 < x - n then n + 1
  else if n % 2 = 0 then n else n + 1

/-- A number to some digits behind its point. -/
def roundTo (digits : Nat) (x : Rat) : Rat :=
  (roundHalfEven (x * 10 ^ digits) : Rat) / 10 ^ digits

theorem truncate_natCast (n : Nat) : truncate n = n := by
  simp [truncate]

end Xbench
