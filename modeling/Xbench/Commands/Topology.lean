import Xbench.Commands.Provisioning

/-!
# Configured Topologies

What a configured cluster says about its instances: which components the
topology map has, what names each of them stands for, and that the renamed
tree stands for the same names.

Renaming goes over the tree once and keeps a table, and the table only grows:
a component that is met again takes the name it has. `Renames` is the
invariant of that walk, from which the facts about the finished cluster are
read off.

Names are joined with commas and split again later, so two provisos are
needed. A component name holds no comma, and a component has at least one
instance: the empty join splits into one empty name. A third is about the tree
alone, since a node called `cluster` is skipped wherever it stands.

## Main definitions

* `below`: The names below the root.
* `Renames`: The invariant of the walk over the tree.
* `describes`: An environment has parameters for a component.
* `Proper`: The provisos.
* `componentNames`: The instance names of a component.

## Theorems

* `renames_fold`: The invariant holds of the finished table.
* `split_instanceNames`: Splitting gives the instance names back.
* `names_disjoint`: Different components have different instance names.
* `configured_spec`: The table and the tree of a configured cluster.
* `mem_treeNames_iff`: The tree stands for the names of the table.
-/

namespace Xbench

open Text

/-- The names below the root. -/
def below (tree : Tree Value) : List Value :=
  (tree.levels.drop 1).flatten

theorem names_buildTree (topo : Value) :
    (buildTreeFromDict topo).names = .str rootName :: below (buildTreeFromDict topo) := by
  rw [buildTreeFromDict, Tree.names, below, Tree.levels]
  rfl

section Walk

variable (self : Provisioning)

/-- A component of the table has parameters, and its entry is its instance
    names. -/
def Named (component joined : String) : Prop :=
  component ≠ rootName
    ∧ ∃ params, self.getComponentParams component = .ok params
      ∧ instanceNames component params = .ok joined

/-- The table before and after some nodes of the tree. -/
structure Renames (p : Provisioning) (names : List Value) (hash hash' : Dict String String) :
    Prop where
  grows : ∀ k v, hash.get? k = some v → hash'.get? k = some v
  covers : ∀ name ∈ names, name = .str rootName
    ∨ ∃ component, name = .str component ∧ component ∈ hash'.keys
  named : ∀ k v, hash'.get? k = some v →
    hash.get? k = some v ∨ (Value.str k ∈ names ∧ Named p k v)

/-- One node: it is the root, it is in the table, or it is put there. -/
theorem configureNode_cases (hash hash' : Dict String String) (name : Value)
    (h : self.configureNode hash name = .ok hash') :
    ∃ component, name = .str component
      ∧ ((hash' = hash ∧ (component = rootName ∨ component ∈ hash.keys))
        ∨ ∃ joined, hash.get? component = none ∧ hash' = hash.set component joined
          ∧ Named self component joined) := by
  unfold Provisioning.configureNode at h
  cases name with
  | str component =>
      refine ⟨component, rfl, ?_⟩
      dsimp only at h
      by_cases hroot : component = rootName
      · rw [if_pos hroot] at h
        exact Or.inl ⟨(Except.ok.inj h).symm, Or.inl hroot⟩
      · rw [if_neg hroot] at h
        cases hget : hash.get? component with
        | some v =>
            rw [hget] at h
            refine Or.inl ⟨(Except.ok.inj h).symm, Or.inr ?_⟩
            rw [Dict.mem_keys_iff, hget]
            rfl
        | none =>
            rw [hget] at h
            rcases except_bind_eq_ok _ _ _ h with ⟨params, hparams, h⟩
            rcases except_bind_eq_ok _ _ _ h with ⟨joined, hjoined, h⟩
            exact Or.inr ⟨joined, rfl, (Except.ok.inj h).symm, hroot, params, hparams, hjoined⟩
  | _ => exact nomatch h

/-- The step of the walk. -/
theorem renames_cons (names : List Value) (name : Value) (hash hash₁ hash' : Dict String String)
    (hstep : self.configureNode hash name = .ok hash₁) (hrest : Renames self names hash₁ hash') :
    Renames self (name :: names) hash hash' := by
  rcases configureNode_cases self hash hash₁ name hstep with ⟨component, rfl, hcases⟩
  -- the name was seen before, or is new and gets an entry
  rcases hcases with ⟨rfl, hseen⟩ | ⟨joined, hfree, rfl, hnamed⟩
  · refine ⟨hrest.grows, fun n hn => ?_, fun k v hk => ?_⟩
    · rcases List.mem_cons.mp hn with rfl | hn
      · rcases hseen with rfl | hkey
        · exact Or.inl rfl
        · rw [Dict.mem_keys_iff, Option.isSome_iff_exists] at hkey
          rcases hkey with ⟨v, hv⟩
          refine Or.inr ⟨component, rfl, ?_⟩
          rw [Dict.mem_keys_iff, hrest.grows component v hv]
          rfl
      · exact hrest.covers n hn
    · exact (hrest.named k v hk).imp_right (fun ⟨hmem, hn⟩ => ⟨List.mem_cons_of_mem _ hmem, hn⟩)
  · have hnew := hrest.grows component joined (Dict.get?_set_self hash component joined)
    refine ⟨fun k v hk => ?_, fun n hn => ?_, fun k v hk => ?_⟩
    · refine hrest.grows k v ?_
      have hne : k ≠ component := fun hkc => by
        rw [hkc, hfree] at hk
        exact nomatch hk
      rw [Dict.get?_set_other _ _ _ _ hne]
      exact hk
    · rcases List.mem_cons.mp hn with rfl | hn
      · refine Or.inr ⟨component, rfl, ?_⟩
        rw [Dict.mem_keys_iff, hnew]
        rfl
      · exact hrest.covers n hn
    · rcases hrest.named k v hk with hold | ⟨hmem, hn⟩
      -- the entry that was made now, or one that was there
      · by_cases hkc : k = component
        · subst hkc
          rw [Dict.get?_set_self] at hold
          rw [← Option.some.inj hold]
          exact Or.inr ⟨List.mem_cons_self, hnamed⟩
        · rw [Dict.get?_set_other _ _ _ _ hkc] at hold
          exact Or.inl hold
      · exact Or.inr ⟨List.mem_cons_of_mem _ hmem, hn⟩

/-- The invariant holds of the finished table. -/
theorem renames_fold (names : List Value) (hash hash' : Dict String String)
    (h : names.foldlM self.configureNode hash = .ok hash') : Renames self names hash hash' := by
  induction names generalizing hash with
  | nil =>
      have heq : hash = hash' := Except.ok.inj h
      rw [heq]
      exact ⟨fun _ _ hk => hk, fun n hn => absurd hn List.not_mem_nil, fun _ _ hk => Or.inl hk⟩
  | cons name names ih =>
      rw [List.foldlM_cons] at h
      rcases except_bind_eq_ok _ _ _ h with ⟨hash₁, hstep, hrest⟩
      exact renames_cons self names name hash hash₁ hash' hstep (ih hash₁ hrest)

end Walk

section Names

/-- The instance names of a component. -/
def componentNames (component : String) (count : Nat) : List String :=
  (List.range count).map (numbered component)

theorem componentNames_nodup (component : String) (count : Nat) :
    (componentNames component count).Nodup :=
  List.Nodup.map (fun i j h => (numbered_inj component component i j h).2) List.nodup_range

theorem mem_componentNames (component name : String) (count : Nat) :
    name ∈ componentNames component count ↔ ∃ i < count, numbered component i = name := by
  rw [componentNames, List.mem_map]
  simp only [List.mem_range]

/-- Different components have different instance names. -/
theorem names_disjoint (a b : String) (m n : Nat) (name : String)
    (ha : name ∈ componentNames a m) (hb : name ∈ componentNames b n) : a = b := by
  rcases (mem_componentNames a name m).mp ha with ⟨i, _, hi⟩
  rcases (mem_componentNames b name n).mp hb with ⟨j, _, hj⟩
  exact (numbered_inj a b i j (hi.trans hj.symm)).1

theorem comma_notMem_numbered (component : String) (i : Nat) (h : ',' ∉ component.toList) :
    ',' ∉ (numbered component i).toList := by
  rw [toList_numbered, List.mem_append, List.mem_cons]
  rintro (hmem | hhyphen | hdigit)
  · exact h hmem
  · exact absurd hhyphen (by decide)
  · exact absurd (isDigit_of_mem_toString i ',' hdigit) (by decide)

/-- Splitting gives the instance names back. -/
theorem split_instanceNames (component joined : String) (params : Params) (count : Int)
    (hcomma : ',' ∉ component.toList) (hcount : pyInt (params.read "count") = .ok count)
    (hpos : 1 ≤ count) (h : instanceNames component params = .ok joined) :
    split ',' joined = componentNames component count.toNat := by
  unfold instanceNames at h
  rw [hcount] at h
  rw [← Except.ok.inj h]
  refine split_join ',' _ ?_ (fun p hp => ?_)
  · have hne : count.toNat ≠ 0 := by omega
    simpa only [ne_eq, List.map_eq_nil_iff, List.range_eq_nil] using hne
  · rcases (mem_componentNames component p count.toNat).mp hp with ⟨i, _, rfl⟩
    exact comma_notMem_numbered component i hcomma

end Names

/-- An environment has parameters for a component. -/
def describes (env : EnvironmentComponents) (component : String) : Bool :=
  (env.getComponentParams component).isSome

/-- The provisos on a topology: no node below the root is called like the
    root, no component name holds a comma, and every component has an
    instance. -/
structure Proper (p : Provisioning) (topo : Value) : Prop where
  root : Value.str rootName ∉ below (buildTreeFromDict topo)
  comma : ∀ component, Value.str component ∈ below (buildTreeFromDict topo) →
    ',' ∉ component.toList
  counted : ∀ component params count, Value.str component ∈ below (buildTreeFromDict topo) →
    p.getComponentParams component = .ok params →
    pyInt (params.read "count") = .ok count → 1 ≤ count

section Configured

variable (self : Provisioning)

/-- What a component of the topology map stands for. -/
structure StandsFor (p : Provisioning) (component joined : String) (count : Int) : Prop where
  described : ∃ env ∈ p.envs, describes env component = true
  counted : ∃ params, p.getComponentParams component = .ok params
    ∧ pyInt (params.read "count") = .ok count
  names : split ',' joined = componentNames component count.toNat

theorem getComponentParams_ok (component : String) (params : Params)
    (h : self.getComponentParams component = .ok params) :
    ∃ env ∈ self.envs, describes env component = true := by
  unfold Provisioning.getComponentParams at h
  cases hfind : self.envs.findSome? (fun env => env.getComponentParams component) with
  | none =>
      rw [hfind] at h
      exact nomatch h
  | some p =>
      rcases List.exists_of_findSome?_eq_some hfind with ⟨env, henv, hp⟩
      exact ⟨env, henv, by rw [describes, hp]; rfl⟩

/-- The table and the tree of a configured cluster. -/
structure IsConfigured (p : Provisioning) (topo : Value) (c : Cluster) : Prop where
  tree : c.clusterTree = (buildTreeFromDict topo).map (renamed c.topoMap)
  members : c.members = Dict.empty
  envs : c.envs = []
  clusterName : c.clusterName = p.clusterName
  table : Renames p (buildTreeFromDict topo).names Dict.empty c.topoMap

theorem configured_spec (topo : Value) (c : Cluster) (h : self.configured topo = .ok c) :
    IsConfigured self topo c := by
  unfold Provisioning.configured at h
  rcases except_bind_eq_ok _ _ _ h with ⟨hash, hhash, h⟩
  rw [← Except.ok.inj h]
  exact ⟨rfl, rfl, rfl, rfl, renames_fold self _ _ hash hhash⟩

variable (topo : Value) (c : Cluster)

theorem standsFor_of_configured (hproper : Proper self topo) (hconf : IsConfigured self topo c)
    (component joined : String) (h : c.topoMap.get? component = some joined) :
    Value.str component ∈ below (buildTreeFromDict topo)
      ∧ ∃ count, StandsFor self component joined count := by
  rcases hconf.table.named component joined h with hold | ⟨hmem, hnotRoot, params, hparams, hnames⟩
  · exact nomatch hold
  · rw [names_buildTree] at hmem
    have hbelow : Value.str component ∈ below (buildTreeFromDict topo) := by
      rcases List.mem_cons.mp hmem with hroot | hbelow
      · exact absurd (Value.str.inj hroot) hnotRoot
      · exact hbelow
    have hnames' := hnames
    unfold instanceNames at hnames'
    rcases except_bind_eq_ok _ _ _ hnames' with ⟨count, hcount, _⟩
    refine ⟨hbelow, count, getComponentParams_ok self component params hparams,
      ⟨params, hparams, hcount⟩, ?_⟩
    exact split_instanceNames component joined params count (hproper.comma component hbelow)
      hcount (hproper.counted component params count hbelow hparams hcount) hnames

/-- Below the root there are only components of the table. -/
theorem below_component (hproper : Proper self topo) (hconf : IsConfigured self topo c)
    (v : Value) (h : v ∈ below (buildTreeFromDict topo)) :
    ∃ component joined, v = .str component ∧ c.topoMap.get? component = some joined
      ∧ renamed c.topoMap v = joined := by
  have hnames : v ∈ (buildTreeFromDict topo).names := by
    rw [names_buildTree]
    exact List.mem_cons_of_mem _ h
  rcases hconf.table.covers v hnames with rfl | ⟨component, rfl, hkey⟩
  · exact absurd h hproper.root
  · rw [Dict.mem_keys_iff, Option.isSome_iff_exists] at hkey
    rcases hkey with ⟨joined, hjoined⟩
    refine ⟨component, joined, rfl, hjoined, ?_⟩
    have hne : component ≠ rootName := by
      rintro rfl
      exact hproper.root h
    rw [renamed, Value.text, if_neg hne, hjoined, Option.getD_some]

/-- The tree stands for the names of the table. -/
theorem mem_treeNames_iff (hproper : Proper self topo) (hconf : IsConfigured self topo c)
    (name : String) :
    name ∈ c.treeNames
      ↔ ∃ component joined, c.topoMap.get? component = some joined ∧ name ∈ split ',' joined := by
  have htree : (c.clusterTree.levels.drop 1).flatten
      = (below (buildTreeFromDict topo)).map (renamed c.topoMap) := by
    rw [hconf.tree, levels_map, ← List.map_drop, below, List.map_flatten]
  rw [Cluster.treeNames, htree, List.mem_flatMap]
  constructor
  · rintro ⟨joined, hmem, hname⟩
    rcases List.mem_map.mp hmem with ⟨v, hv, rfl⟩
    rcases below_component self topo c hproper hconf v hv with ⟨component, joined, _, hget, heq⟩
    exact ⟨component, joined, hget, heq ▸ hname⟩
  · rintro ⟨component, joined, hget, hname⟩
    have hbelow := (standsFor_of_configured self topo c hproper hconf component joined hget).1
    rcases below_component self topo c hproper hconf _ hbelow with
      ⟨component', joined', hcomp, hget', heq⟩
    rw [← Value.str.inj hcomp, hget, Option.some.injEq] at hget'
    exact ⟨joined, List.mem_map.mpr ⟨_, hbelow, heq.trans hget'.symm⟩, hname⟩

end Configured

end Xbench
