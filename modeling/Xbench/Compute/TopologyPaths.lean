import Xbench.Compute.Cluster

/-!
# Paths of a Topology

What a topology file says, and what of it the tree keeps. A topology is a
matter of paths: the keys of its mappings and the elements of its lists, from
the outside in. A tree has paths as well, from the root to the leaves, and
building the tree should keep them.

`_add_children` tells a mapping and a list apart and has no case for anything
else. A string as the value of a key is dropped, so the component is missing
from the cluster and nothing says so. A list is taken for the last level: its
elements become leaves whatever they are, and a mapping among them becomes a
node that is called by the mapping.

`leveled` is the shape that avoids both. It is exactly what is needed
(`buildTree_faithful_iff`): where the names are strings, the tree has as many
paths as the topology, so that paths can be compared one by one, and a dropped
string leaves a path that is too short.

## Main definitions

* `orEnd`: Where no path goes on, one ends.
* `Tree.paths`: The names from the root to the leaves.
* `pathsBelow`: The paths of a topology.
* `FaithfulTree`: The tree has the paths of the topology, and names.
* `leveled`: The shape of a topology the tree is faithful to.

## Theorems

* `length_pathsOf`: With strings for names, no path is lost.
* `paths_of_leveled`: The paths of such a topology are kept.
* `leveled_of_paths`: Paths are kept of such a topology only.
* `buildTree_faithful_iff`: When the tree is faithful.
-/

namespace Xbench

section Paths

variable {α : Type}

/-- Where no path goes on, one ends. -/
def orEnd : List (List α) → List (List α)
  | [] => [[]]
  | ps => ps

mutual

/-- The names from the root to the leaves. -/
def Tree.paths : Tree α → List (List α)
  | .node name children => (orEnd (pathsOf children)).map (name :: ·)

def pathsOf : List (Tree α) → List (List α)
  | [] => []
  | t :: ts => t.paths ++ pathsOf ts

end

theorem length_orEnd (ps ps' : List (List α)) (h : ps.length = ps'.length) :
    (orEnd ps).length = (orEnd ps').length := by
  cases ps with
  | nil =>
      rw [List.length_nil, eq_comm, List.length_eq_zero_iff] at h
      rw [h]
  | cons p ps =>
      cases ps' with
      | nil => exact nomatch h
      | cons p' ps' => exact h

/-- Where as many paths go on, ending those that do not tells nothing new. -/
theorem orEnd_inj (ps ps' : List (List α)) (hlength : ps.length = ps'.length)
    (h : orEnd ps = orEnd ps') : ps = ps' := by
  cases ps with
  | nil =>
      rw [List.length_nil, eq_comm, List.length_eq_zero_iff] at hlength
      exact hlength.symm
  | cons p ps =>
      cases ps' with
      | nil => exact nomatch hlength
      | cons p' ps' => exact h

theorem map_cons_inj (a : α) (ps ps' : List (List α))
    (h : ps.map (a :: ·) = ps'.map (a :: ·)) : ps = ps' :=
  List.map_injective_iff.mpr (fun _ _ hp => (List.cons.inj hp).2) h

/-- The leaves of a list. -/
theorem pathsOf_leaves (l : List α) :
    pathsOf (l.map (fun a => Tree.node a [])) = l.map (fun a => [a]) := by
  induction l with
  | nil => rfl
  | cons a l ih =>
      rw [List.map_cons, pathsOf, ih, List.map_cons]
      rfl

theorem levelsOf_leaves (l : List α) (a : α) :
    a ∈ (levelsOf (l.map (fun a => Tree.node a []))).flatten ↔ a ∈ l := by
  induction l with
  | nil => exact Iff.rfl
  | cons b l ih =>
      rw [List.map_cons, levelsOf, mem_beside, ih, List.mem_cons]
      simp only [Tree.levels, levelsOf, List.flatten_cons, List.flatten_nil, List.append_nil,
        List.mem_singleton]

end Paths

mutual

/-- The key and element paths of a topology. Nothing stands below null. -/
def pathsBelow : Value → List (List Value)
  | .none => []
  | .dict entries => entryPaths entries
  | .list items => itemPaths items
  | v => [[v]]

def entryPaths : List (String × Value) → List (List Value)
  | [] => []
  | (key, v) :: rest => (orEnd (pathsBelow v)).map (Value.str key :: ·) ++ entryPaths rest

def itemPaths : List Value → List (List Value)
  | [] => []
  | item :: rest => pathsBelow item ++ itemPaths rest

end

/-- A name that is one string. -/
def isString : Value → Bool
  | .str _ => true
  | _ => false

/-- The tree of a topology has its paths, in the same order, and every node is
    called by one string. -/
structure FaithfulTree (topo : Value) : Prop where
  paths : (buildTreeFromDict topo).paths = (orEnd (pathsBelow topo)).map (.str "cluster" :: ·)
  named : ∀ name ∈ (buildTreeFromDict topo).names, isString name = true

mutual

/-- Mappings down to lists of strings: no mapping has a string or a number for
    a value, and a list has nothing but strings. -/
def leveled : Value → Bool
  | .none => true
  | .dict entries => leveledEntries entries
  | .list items => items.all isString
  | _ => false

def leveledEntries : List (String × Value) → Bool
  | [] => true
  | (_, v) :: rest => leveled v && leveledEntries rest

end

section Names

/-- The nodes below a topology value are called by strings. -/
def StringsBelow (children : List (Tree Value)) : Prop :=
  ∀ name ∈ (levelsOf children).flatten, isString name = true

theorem stringsBelow_entries (key : String) (v : Value) (rest : List (String × Value)) :
    StringsBelow (addEntries ((key, v) :: rest))
      ↔ StringsBelow (addChildren v) ∧ StringsBelow (addEntries rest) := by
  unfold StringsBelow
  rw [addEntries, levelsOf]
  constructor
  · intro h
    refine ⟨fun name hname => h name ?_, fun name hname => h name ?_⟩
    · rw [mem_beside, Tree.levels, List.flatten_cons]
      exact Or.inl (List.mem_append_right _ hname)
    · rw [mem_beside]
      exact Or.inr hname
  · rintro ⟨hv, hrest⟩ name hname
    rw [mem_beside, Tree.levels, List.flatten_cons, List.mem_append, List.mem_singleton] at hname
    rcases hname with (rfl | hname) | hname
    · rfl
    · exact hv name hname
    · exact hrest name hname

theorem stringsBelow_list (items : List Value) :
    StringsBelow (addChildren (.list items)) ↔ items.all isString = true := by
  rw [List.all_eq_true, addChildren]
  unfold StringsBelow
  simp only [levelsOf_leaves]

theorem itemPaths_strings (items : List Value) (h : items.all isString = true) :
    itemPaths items = items.map (fun item => [item]) := by
  induction items with
  | nil => rfl
  | cons item items ih =>
      rw [List.all_cons, Bool.and_eq_true] at h
      rw [itemPaths, ih h.2, List.map_cons]
      cases item with
      | str s => rfl
      | _ => exact nomatch h.1

end Names

section Counting

mutual

/-- With strings for names, no path is lost: a dropped string still ends the
    path it would have gone on. -/
theorem length_pathsOf (v : Value) (h : StringsBelow (addChildren v)) :
    (orEnd (pathsOf (addChildren v))).length = (orEnd (pathsBelow v)).length := by
  cases v with
  | none => rfl
  | dict entries =>
      rw [addChildren] at h
      rw [addChildren, pathsBelow]
      exact length_orEnd _ _ (length_pathsOf_entries entries h)
  | list items =>
      have hstrings := (stringsBelow_list items).mp h
      rw [addChildren, pathsBelow, pathsOf_leaves, itemPaths_strings items hstrings]
  | _ => rfl

theorem length_pathsOf_entries (entries : List (String × Value))
    (h : StringsBelow (addEntries entries)) :
    (pathsOf (addEntries entries)).length = (entryPaths entries).length := by
  cases entries with
  | nil => rfl
  | cons e rest =>
      rcases e with ⟨key, v⟩
      rcases (stringsBelow_entries key v rest).mp h with ⟨hv, hrest⟩
      rw [addEntries, pathsOf, entryPaths, List.length_append, List.length_append, Tree.paths,
        List.length_map, List.length_map, length_pathsOf v hv,
        length_pathsOf_entries rest hrest]

end

end Counting

section Kept

mutual

/-- The paths of a leveled topology are kept. -/
theorem paths_of_leveled (v : Value) (h : leveled v = true) :
    StringsBelow (addChildren v) ∧ pathsOf (addChildren v) = pathsBelow v := by
  cases v with
  | none => exact ⟨fun name hname => absurd hname List.not_mem_nil, rfl⟩
  | dict entries =>
      rw [leveled] at h
      rw [addChildren, pathsBelow]
      exact paths_of_leveledEntries entries h
  | list items =>
      rw [leveled] at h
      refine ⟨(stringsBelow_list items).mpr h, ?_⟩
      rw [addChildren, pathsBelow, pathsOf_leaves, itemPaths_strings items h]
  | _ => exact nomatch h

theorem paths_of_leveledEntries (entries : List (String × Value))
    (h : leveledEntries entries = true) :
    StringsBelow (addEntries entries) ∧ pathsOf (addEntries entries) = entryPaths entries := by
  cases entries with
  | nil => exact ⟨fun name hname => absurd hname List.not_mem_nil, rfl⟩
  | cons e rest =>
      rcases e with ⟨key, v⟩
      rw [leveledEntries, Bool.and_eq_true] at h
      have hv := paths_of_leveled v h.1
      have hrest := paths_of_leveledEntries rest h.2
      refine ⟨(stringsBelow_entries key v rest).mpr ⟨hv.1, hrest.1⟩, ?_⟩
      rw [addEntries, pathsOf, entryPaths, Tree.paths, hv.2, hrest.2]

end

mutual

/-- Paths are kept of a leveled topology only. -/
theorem leveled_of_paths (v : Value) (hstrings : StringsBelow (addChildren v))
    (h : orEnd (pathsOf (addChildren v)) = orEnd (pathsBelow v)) : leveled v = true := by
  cases v with
  | none => rfl
  | dict entries =>
      rw [addChildren] at hstrings
      rw [addChildren, pathsBelow] at h
      have hlength := length_pathsOf_entries entries hstrings
      rw [leveled]
      exact leveledEntries_of_paths entries hstrings (orEnd_inj _ _ hlength h)
  | list items =>
      rw [leveled]
      exact (stringsBelow_list items).mp hstrings
  | _ =>
      -- the path of the topology has one more name
      have hlengths := congrArg (List.map List.length) h
      exact absurd hlengths (by simp [pathsOf, addChildren, pathsBelow, orEnd])

theorem leveledEntries_of_paths (entries : List (String × Value))
    (hstrings : StringsBelow (addEntries entries))
    (h : pathsOf (addEntries entries) = entryPaths entries) : leveledEntries entries = true := by
  cases entries with
  | nil => rfl
  | cons e rest =>
      rcases e with ⟨key, v⟩
      rcases (stringsBelow_entries key v rest).mp hstrings with ⟨hv, hrest⟩
      -- the paths of the first key are as many on both sides
      have hfront : ((orEnd (pathsOf (addChildren v))).map (Value.str key :: ·)).length
          = ((orEnd (pathsBelow v)).map (Value.str key :: ·)).length := by
        rw [List.length_map, List.length_map, length_pathsOf v hv]
      rw [addEntries, pathsOf, entryPaths, Tree.paths] at h
      rcases List.append_inj h hfront with ⟨hfirst, hlater⟩
      have hbelow := map_cons_inj (Value.str key) _ _ hfirst
      rw [leveledEntries, leveled_of_paths v hv hbelow, leveledEntries_of_paths rest hrest hlater]
      rfl

end

/-- The tree is faithful exactly to a leveled topology. -/
theorem buildTree_faithful_iff (topo : Value) : FaithfulTree topo ↔ leveled topo = true := by
  have hnames : (buildTreeFromDict topo).names
      = .str "cluster" :: (levelsOf (addChildren topo)).flatten := by
    rw [buildTreeFromDict, Tree.names, Tree.levels, List.flatten_cons, List.singleton_append]
  have hpaths : (buildTreeFromDict topo).paths
      = (orEnd (pathsOf (addChildren topo))).map (.str "cluster" :: ·) := by
    rw [buildTreeFromDict, Tree.paths]
  constructor
  · intro h
    have hbelow := map_cons_inj (Value.str "cluster") _ _ (hpaths.symm.trans h.paths)
    refine leveled_of_paths topo (fun name hname => h.named name ?_) hbelow
    rw [hnames]
    exact List.mem_cons_of_mem _ hname
  · intro h
    rcases paths_of_leveled topo h with ⟨hstrings, hbelow⟩
    refine ⟨by rw [hpaths, hbelow], fun name hname => ?_⟩
    rw [hnames, List.mem_cons] at hname
    rcases hname with rfl | hname
    · rfl
    · exact hstrings name hname

end Kept

/-- `driver: backend` has no backend. -/
theorem scalar_dropped : ¬ FaithfulTree (.dict [("driver", .str "backend")]) := by
  intro h
  exact absurd (congrArg (List.map List.length) h.paths) (by decide)

-- a mapping under a dash names a node
example : (buildTreeFromDict (.list [.dict [("proxy", .list [.str "backend"])]])).paths
    = [[.str "cluster", .dict [("proxy", .list [.str "backend"])]]] := rfl

end Xbench
