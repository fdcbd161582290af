import Xbench.Commands.ParseUnknown
import Xbench.Lib.Merging

/-!
# Overrides One by One

The arguments of the command line are merged into one mapping as they are
parsed, and a component is extended by that mapping later. It should be the same
to extend it by one argument after the other.

It is, when no argument sets a leaf where another has a mapping. And what no
argument touches is as it was.

## Main definitions

* `Parameters`: A dictionary of Python.
* `extender`: Extending a dictionary.
* `Apart`: No leaf of the first is on the way to a mapping of the second.
* `Separate`: Overrides of which each two are apart.
* `Touches`: An override has a say in what is under a path.
* `Given`: The names and the value of an argument.
* `Beside`: No name of the second goes on from the value of the first.

## Theorems

* `foldl_extender`: Extending one by one, when a leaf is apart from what comes later.
* `foldl_extender_untouched`: What is not touched.
* `extenders_merge`: Extending one by one is extending by the merge.
* `parseUnknown_given`: What was parsed is what was given, one by one.
* `given_one_by_one`: The same for what was given.
-/

namespace Xbench

namespace Extending

variable {σ : Type}

/-- A dictionary of Python, in which no mapping has a key twice. -/
@[ext]
structure Parameters (σ : Type) where
  entries : Mapping σ
  distinct : (Nested.node entries).Distinct

namespace Parameters

theorem distinct_nil : (Nested.node ([] : Mapping σ)).Distinct :=
  .node [] List.nodup_nil (fun _ h => absurd h List.not_mem_nil)

def empty : Parameters σ :=
  ⟨[], distinct_nil⟩

/-- The value at a path. -/
def value (m : Parameters σ) (path : List String) : Option (Nested String σ) :=
  (Nested.node m.entries).leadsTo path

end Parameters

/-- `extender`. It goes down where both have a mapping, and sets the key where
    they have not. -/
def extender (base extra : Parameters σ) : Parameters σ :=
  ⟨Nested.merge base.entries extra.entries,
    Nested.distinct_merge base.entries extra.entries base.distinct extra.distinct⟩

def SetsLeaf (extra : Parameters σ) (path : List String) : Prop :=
  ∃ a, extra.value path = some (.leaf a)

def SetsMapping (extra : Parameters σ) (path : List String) : Prop :=
  ∃ entries, extra.value path = some (.node entries)

/-- No path that the first sets to a leaf is a path that the second sets to a
    mapping, or goes on to one. -/
def Apart (extra extra' : Parameters σ) : Prop :=
  ∀ path path', SetsLeaf extra path → SetsMapping extra' path' → ¬ path <+: path'

/-- Each two of the overrides are apart. -/
def Separate (overrides : List (Parameters σ)) : Prop :=
  overrides.Pairwise (fun extra extra' => Apart extra extra' ∧ Apart extra' extra)

/-- There is something at the path, or a leaf on the way to it. -/
def Touches (extra : Parameters σ) (path : List String) : Prop :=
  (∃ t, extra.value path = some t) ∨ ∃ front, front <+: path ∧ SetsLeaf extra front

section Fold

/-- A leaf of overrides that are merged is a leaf of one of them. -/
theorem leaf_of_foldl (overrides : List (Parameters σ)) (base : Parameters σ)
    (path : List String) (a : σ)
    (h : (overrides.foldl extender base).value path = some (.leaf a)) :
    base.value path = some (.leaf a) ∨ ∃ extra ∈ overrides, SetsLeaf extra path := by
  induction overrides generalizing base with
  | nil => exact Or.inl h
  | cons extra overrides ih =>
      rw [List.foldl_cons] at h
      rcases ih _ h with hbase | ⟨extra', hmem, hleaf⟩
      · rcases Nested.leaf_of_merge base.entries extra.entries extra.distinct path a hbase with
          hold | hnew
        · exact Or.inl hold
        · exact Or.inr ⟨extra, List.mem_cons_self, a, hnew⟩
      · exact Or.inr ⟨extra', List.mem_cons_of_mem extra hmem, hleaf⟩

theorem empty_no_leaf (path : List String) (a : σ) :
    (Parameters.empty : Parameters σ).value path ≠ some (.leaf a) := by
  intro h
  cases path with
  | nil => cases h
  | cons key path => cases h

/-- The step: extending twice is extending by the merge of both. -/
theorem extender_assoc (base extra extra' : Parameters σ)
    (h : ∀ path, SetsLeaf extra path → ¬ SetsMapping extra' path) :
    extender (extender base extra) extra' = extender base (extender extra extra') := by
  apply Parameters.ext
  refine Nested.merge_assoc base.entries extra.entries extra'.entries base.distinct
    extra.distinct extra'.distinct ?_
  rintro ⟨path, a, entries, hleaf, hmapping⟩
  exact h path ⟨a, hleaf⟩ ⟨entries, hmapping⟩

theorem extender_empty (base : Parameters σ) : extender base Parameters.empty = base := by
  apply Parameters.ext
  exact Nested.merge.eq_1 base.entries

/-- The run: extending by one after the other is extending by the merge, if
    nothing that comes later has a mapping where there is a leaf. -/
theorem foldl_extender (base : Parameters σ) (overrides : List (Parameters σ))
    (h : overrides.Pairwise Apart) :
    overrides.foldl extender base
      = extender base (overrides.foldl extender Parameters.empty) := by
  induction overrides using List.reverseRecOn with
  | nil => exact (extender_empty base).symm
  | append_singleton overrides extra ih =>
      rw [List.pairwise_append] at h
      rw [List.foldl_append, List.foldl_append, List.foldl_cons, List.foldl_cons, List.foldl_nil,
        List.foldl_nil, ih h.1]
      refine extender_assoc base _ extra (fun path hleaf hmapping => ?_)
      -- the leaf comes from one of those in front
      rcases hleaf with ⟨a, hleaf⟩
      rcases leaf_of_foldl overrides _ path a hleaf with hempty | ⟨extra', hmem, hleaf'⟩
      · exact empty_no_leaf path a hempty
      · exact h.2.2 extra' hmem extra List.mem_cons_self path path hleaf' hmapping
          List.prefix_rfl

/-- What no override touches is as it was. -/
theorem foldl_extender_untouched (base : Parameters σ) (overrides : List (Parameters σ))
    (path : List String) (h : ∀ extra ∈ overrides, ¬ Touches extra path) :
    (overrides.foldl extender base).value path = base.value path := by
  induction overrides generalizing base with
  | nil => rfl
  | cons extra overrides ih =>
      rw [List.forall_mem_cons] at h
      rw [List.foldl_cons, ih _ h.2]
      refine Nested.leadsTo_merge_of_not_reached base.entries extra.entries extra.distinct path ?_
      rintro (hthere | ⟨front, a, hfront, hleaf⟩)
      · exact h.1 (Or.inl hthere)
      · exact h.1 (Or.inr ⟨front, hfront, a, hleaf⟩)

/-- Extending by overrides one by one is extending by their merge, and what none
    of them touches is as it was. -/
theorem extenders_merge (base : Parameters σ) (overrides : List (Parameters σ))
    (h : Separate overrides) :
    overrides.foldl extender base = extender base (overrides.foldl extender Parameters.empty)
      ∧ ∀ path, (∀ extra ∈ overrides, ¬ Touches extra path) →
          (overrides.foldl extender base).value path = base.value path :=
  ⟨foldl_extender base overrides (h.imp And.left),
    fun path => foldl_extender_untouched base overrides path⟩

end Fold

section Given

/-- What is given by an argument: the names of a parameter, and its value. -/
structure Given (σ : Type) where
  first : String
  rest : List String
  value : σ

namespace Given

variable (g : Given σ)

def names : List String :=
  g.first :: g.rest

theorem distinct_single (names : List String) (a : σ) : (Nested.single names a).Distinct := by
  induction names with
  | nil => exact .leaf a
  | cons name names ih =>
      refine .node _ (List.nodup_singleton name) (fun e he => ?_)
      rw [List.mem_singleton.mp he]
      exact ih

/-- The dictionary with the one parameter. -/
def parameters : Parameters σ :=
  ⟨[(g.first, Nested.single g.rest g.value)], distinct_single (g.first :: g.rest) g.value⟩

end Given

/-- The leaf is at the end of the names, and the mappings are on the way to it. -/
theorem leadsTo_single (names path : List String) (a : σ) (t : Nested String σ)
    (h : (Nested.single names a).leadsTo path = some t) :
    (path = names ∧ t = .leaf a) ∨ (path <+: names ∧ path ≠ names ∧ ∃ es, t = .node es) := by
  induction names generalizing path with
  | nil =>
      rw [Nested.single] at h
      have hnil := Nested.leadsTo_leaf a path t h
      rw [hnil, Nested.leadsTo_nil] at h
      exact Or.inl ⟨hnil, (Option.some.inj h).symm⟩
  | cons name names ih =>
      cases path with
      | nil =>
          rw [Nested.leadsTo_nil, Nested.single] at h
          exact Or.inr ⟨List.nil_prefix, (List.cons_ne_nil name names).symm, _,
            (Option.some.inj h).symm⟩
      | cons key path =>
          rw [Nested.single, Nested.leadsTo_cons, List.lookup_cons] at h
          by_cases hkey : key = name
          · rw [beq_iff_eq.mpr hkey] at h
            rw [List.cons_prefix_cons, List.cons.injEq, ne_eq, List.cons.injEq]
            rcases ih path h with ⟨hpath, ht⟩ | ⟨hpre, hne, hnode⟩
            · exact Or.inl ⟨⟨hkey, hpath⟩, ht⟩
            · exact Or.inr ⟨⟨hkey, hpre⟩, fun heq => hne heq.2, hnode⟩
          · rw [beq_eq_false_iff_ne.mpr hkey] at h
            cases h

/-- The names of the first are not a part of the way to the leaf of the second. -/
def Beside (g g' : Given σ) : Prop :=
  g.names <+: g'.names → g.names = g'.names

theorem apart_of_beside (g g' : Given σ) (h : Beside g g') :
    Apart g.parameters g'.parameters := by
  intro path path' hleaf hmapping hpre
  rcases hleaf with ⟨a, hleaf⟩
  rcases hmapping with ⟨entries, hmapping⟩
  rcases leadsTo_single g.names path g.value _ hleaf with ⟨hpath, _⟩ | ⟨_, _, es, hnode⟩
  · rcases leadsTo_single g'.names path' g'.value _ hmapping with ⟨_, ht⟩ | ⟨hpath', hne, _⟩
    · cases ht
    · -- the leaf would be at the end of the longer names
      rw [hpath] at hpre
      have heq := h (hpre.trans hpath')
      rw [heq] at hpre
      exact hne (hpath'.eq_of_length_le hpre.length_le)
  · cases hnode

theorem parseArg_given (internalEval : String → σ) (base : Parameters σ) (base' : Mapping σ)
    (arg : String) (h : parseArg internalEval base.entries arg = .ok base') :
    ∃ g : Given σ, base' = (extender base g.parameters).entries := by
  rcases parseArg_ok internalEval base.entries base' arg h with ⟨k, ks, v, hput, _⟩
  exact ⟨⟨k, ks, internalEval v⟩, hput⟩

/-- What was parsed is what extending by the given ones, one by one, makes of
    nothing. -/
theorem parseUnknown_given (internalEval : String → σ) (unknown : List String) (m : Mapping σ)
    (h : parseUnknown internalEval unknown = .ok m) :
    ∃ given : List (Given σ),
      m = ((given.map Given.parameters).foldl extender Parameters.empty).entries := by
  have hrun : ∀ base : Parameters σ, unknown.foldlM (parseArg internalEval) base.entries = .ok m →
      ∃ given : List (Given σ), m = ((given.map Given.parameters).foldl extender base).entries := by
    clear h
    induction unknown with
    | nil =>
        intro base h
        exact ⟨[], (Except.ok.inj h).symm⟩
    | cons arg unknown ih =>
        intro base h
        rw [List.foldlM_cons] at h
        rcases except_bind_eq_ok _ _ _ h with ⟨base', hfirst, hrest⟩
        rcases parseArg_given internalEval base base' arg hfirst with ⟨g, rfl⟩
        rcases ih _ hrest with ⟨given, hgiven⟩
        exact ⟨g :: given, hgiven⟩
  exact hrun Parameters.empty h

/-- Extending a component by what was parsed is extending it by what was given,
    one by one, if no name goes on from a value that was given before. -/
theorem given_one_by_one (base : Parameters σ) (given : List (Given σ))
    (h : given.Pairwise Beside) :
    (given.map Given.parameters).foldl extender base
      = extender base ((given.map Given.parameters).foldl extender Parameters.empty) :=
  foldl_extender base _ (List.pairwise_map.mpr (h.imp (fun hbeside => apart_of_beside _ _ hbeside)))

/-- Two threads and a warehouse over the parameters of a file. -/
theorem extenders_merge_twoGiven :
    let base : Parameters Nat := Given.parameters ⟨"workload", ["duration"], 60⟩
    let overrides := [Given.parameters ⟨"workload", ["threads"], 2⟩,
      Given.parameters ⟨"db", ["data", "warehouses"], 1⟩]
    overrides.foldl extender base = extender base (overrides.foldl extender Parameters.empty)
      ∧ ∀ path, (∀ extra ∈ overrides, ¬ Touches extra path) →
          (overrides.foldl extender base).value path = base.value path := by
  refine extenders_merge _ _ (List.pairwise_pair.mpr ⟨?_, ?_⟩)
  · exact apart_of_beside _ _ (fun h => absurd h (by decide))
  · exact apart_of_beside _ _ (fun h => absurd h (by decide))

end Given

end Extending

end Xbench
