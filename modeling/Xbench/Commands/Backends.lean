import Xbench.Commands.Renaming
import Xbench.Compute.Groups

/-!
# The Backend of a Workload

A workload is run against what `get_backend_nodes` returns, and the backend was
installed on what `group_nodes_by_name` returns. The first takes one node of
the last level of the tree, the second goes over all levels and puts the
instances of a clustered class together by their roles. A role is the name of a
component without digits and underscores, so `backend1`, `backend2` and
`backend3` are one backend to the installation. To the workload they are
`backend1`.

The instance names of different components are apart, and an instance is a
member under its own name. The two views are therefore the same exactly when
there is one component behind the role, which is `sees_backend_iff`.

## Main definitions

* `Provisioned`: A configured cluster whose instances are there.
* `lastLevel`: The names on the last level of a topology.
* `EndsIn`: The last level is one clustered backend class with one role.
* `SeesBackend`: The workload sees the backend that was installed.
* `OneBackend`: One component is behind the role.

## Theorems

* `role_of_request`: An instance has the role it was asked for with.
* `mem_backendGroup`: The nodes of the backend group.
* `getBackendNodes_first`: What a workload is run against.
* `sees_backend_iff`: When the two are the same.
-/

namespace Xbench

open Text

open Cluster (Klass GroupNodes Group groupNodesByName notAppendable)

section Roles

theorem isDigit_notMem_removeNumbers (s : String) (c : Char)
    (hc : c ∈ (removeNumbers s).toList) : c.isDigit = false := by
  rw [removeNumbers, String.toList_ofList, List.mem_filter, Bool.and_eq_true,
    Bool.not_eq_true'] at hc
  exact hc.2.1

/-- A role is not the name of an instance, which ends in a digit. -/
theorem removeNumbers_ne_numbered (s component : String) (i : Nat) :
    removeNumbers s ≠ numbered component i := by
  intro h
  have hne : (toString i).toList ≠ [] := by
    rw [toList_toString]
    exact Nat.toDigits_ne_nil
  rcases List.exists_mem_of_ne_nil _ hne with ⟨c, hc⟩
  have hmem : c ∈ (removeNumbers s).toList := by
    rw [h, toList_numbered]
    exact List.mem_append_right _ (List.mem_cons_of_mem _ hc)
  have hdigit := isDigit_of_mem_toString i c hc
  rw [isDigit_notMem_removeNumbers s c hmem] at hdigit
  exact nomatch hdigit

/-- An instance has the role it was asked for with. -/
theorem role_of_request (env : EnvironmentComponents) (component implName : String)
    (params : Params) (vm : VirtualMachine)
    (h : VirtualMachine.fromDict (request env component implName params) = .ok vm) :
    vm.role = removeNumbers component := by
  have hrole : (request env component implName params).get? "role"
      = some (.str (removeNumbers component)) := by
    rw [request_get? env component implName params "role" (by decide),
      Dict.get?_set_other _ _ _ _ (by decide), Dict.get?_set_self]
  unfold VirtualMachine.fromDict at h
  iterate 4 rcases except_bind_eq_ok _ _ _ h with ⟨_, _, h⟩
  rcases except_bind_eq_ok _ _ _ h with ⟨role, hread, h⟩
  -- the sixteen fields after the role
  iterate 16 rcases except_bind_eq_ok _ _ _ h with ⟨_, _, h⟩
  have hget := strField_ok _ "role" role hread
  rw [hrole] at hget
  rw [← Except.ok.inj h]
  exact (Value.str.inj (Option.some.inj hget)).symm

end Roles

section Provisioned

/-- A cluster that is configured for a topology and whose instances are there:
    each is a member under its own name, with the role it was asked for
    with. -/
structure Provisioned (p : Provisioning) (topo : Value) (counts : String → Nat) (c : Cluster) :
    Prop where
  assigned : Assigned p topo counts
  configured : ∃ c₀, p.configured topo = .ok c₀ ∧ c.clusterTree = c₀.clusterTree
  named : MembersNamed c
  member : ∀ component, Value.str component ∈ below (buildTreeFromDict topo) →
    ∀ name ∈ componentNames component (counts component),
    ∃ n, c.members.get? name = some n ∧ n.vm.role = removeNumbers component

variable (self : Provisioning) (topo : Value) (counts : String → Nat) (c : Cluster)

theorem tree_of_provisioned (h : Provisioned self topo counts c) :
    c.clusterTree = (buildTreeFromDict topo).map (instancesOf counts) := by
  rcases h.configured with ⟨c₀, hc₀, htree⟩
  rw [htree]
  exact (faithful_of_assigned self topo counts h.assigned c₀
    (configured_spec self topo c₀ hc₀)).tree

/-- A node below the root stands for the instances of its component. -/
theorem split_instancesOf (h : Assigned self topo counts) (component : String)
    (hcomponent : Value.str component ∈ below (buildTreeFromDict topo)) :
    split ',' (instancesOf counts (.str component))
      = componentNames component (counts component) := by
  rcases h.named _ hcomponent with ⟨component', heq, hne, hcomma⟩
  rw [← Value.str.inj heq] at hne hcomma
  have hpositive := h.positive component hcomponent
  rw [instancesOf, if_neg hne]
  refine split_join ',' _ ?_ (fun p hp => ?_)
  · rw [componentNames, ne_eq, List.map_eq_nil_iff, List.range_eq_nil]
    omega
  · rcases (mem_componentNames component p _).mp hp with ⟨i, _, rfl⟩
    exact comma_notMem_numbered component i hcomma

/-- The tree stands for the instances of the components. -/
theorem mem_treeNames_provisioned (h : Provisioned self topo counts c) (name : String) :
    name ∈ c.treeNames
      ↔ ∃ component, Value.str component ∈ below (buildTreeFromDict topo)
        ∧ name ∈ componentNames component (counts component) := by
  have hnames : (c.clusterTree.levels.drop 1).flatten
      = (below (buildTreeFromDict topo)).map (instancesOf counts) := by
    rw [tree_of_provisioned self topo counts c h, levels_map, ← List.map_drop, below,
      List.map_flatten]
  rw [Cluster.treeNames, hnames, List.mem_flatMap]
  constructor
  · rintro ⟨joined, hmem, hname⟩
    rcases List.mem_map.mp hmem with ⟨v, hv, rfl⟩
    rcases h.assigned.named v hv with ⟨component, rfl, _, _⟩
    rw [split_instancesOf self topo counts h.assigned component hv] at hname
    exact ⟨component, hv, hname⟩
  · rintro ⟨component, hcomponent, hname⟩
    refine ⟨_, List.mem_map.mpr ⟨_, hcomponent, rfl⟩, ?_⟩
    rw [split_instancesOf self topo counts h.assigned component hcomponent]
    exact hname

end Provisioned

section Views

/-- The names on the last level of a topology, when there is one below the
    root. -/
def lastLevel (topo : Value) : Option (List Value) :=
  ((buildTreeFromDict topo).levels.drop 1).getLast?

variable (klasses : String → Except Exn Klass)

/-- The last level consists of components of one clustered backend class with
    one role. -/
structure EndsIn (klasses : String → Except Exn Klass) (topo : Value) (counts : String → Nat)
    (c : Cluster) (klass : Klass) (role : String) : Prop where
  last : ∃ level, lastLevel topo = some level ∧ ∀ component, Value.str component ∈ level →
    removeNumbers component = role ∧ ∀ name ∈ componentNames component (counts component),
      ∀ n, c.members.get? name = some n → klasses n.vm.klass = .ok klass
  clustered : klass.clustered = true
  backend : klass.isBackend = true

/-- The workload sees the backend that was installed: what it is run against
    are the nodes of the group, without repetition. -/
def SeesBackend (groups : Dict String Group) (c : Cluster) (role : String) : Prop :=
  ∃ (nodes : List Node) (g : Group), c.getBackendNodes = .ok (nodes.map some)
    ∧ groups.get? role = some g ∧ nodes.Nodup ∧ ∀ n, n ∈ nodes ↔ n ∈ g.nodes.list

/-- One component of the topology is behind a role, as far as clustered classes
    go. -/
def OneBackend (klasses : String → Except Exn Klass) (topo : Value) (counts : String → Nat)
    (c : Cluster) (role : String) : Prop :=
  ∃ backend, ∀ component, Value.str component ∈ below (buildTreeFromDict topo) →
    removeNumbers component = role →
    (∃ name ∈ componentNames component (counts component), c.isClustered klasses name = true) →
    component = backend

theorem beside_ne_nil {α : Type} (ls ls' : List (List α)) (h : ∀ l ∈ ls, l ≠ [])
    (h' : ∀ l ∈ ls', l ≠ []) : ∀ l ∈ beside ls ls', l ≠ [] := by
  induction ls generalizing ls' with
  | nil => exact h'
  | cons l ls ih =>
      cases ls' with
      | nil => exact h
      | cons l' ls' =>
          intro k hk
          rw [beside, List.mem_cons] at hk
          rcases hk with rfl | hk
          · exact List.append_ne_nil_of_left_ne_nil (h l List.mem_cons_self) l'
          · exact ih ls' (fun k hk => h k (List.mem_cons_of_mem l hk))
              (fun k hk => h' k (List.mem_cons_of_mem l' hk)) k hk

mutual

/-- There is a name on every level. -/
theorem levels_ne_nil {α : Type} (t : Tree α) : ∀ l ∈ t.levels, l ≠ [] := by
  cases t with
  | node name children =>
      intro l hl
      rw [Tree.levels, List.mem_cons] at hl
      rcases hl with rfl | hl
      · exact List.cons_ne_nil name []
      · exact levelsOf_ne_nil children l hl

theorem levelsOf_ne_nil {α : Type} (ts : List (Tree α)) : ∀ l ∈ levelsOf ts, l ≠ [] := by
  cases ts with
  | nil => exact fun l hl => absurd hl List.not_mem_nil
  | cons t ts =>
      rw [levelsOf]
      exact beside_ne_nil _ _ (levels_ne_nil t) (levelsOf_ne_nil ts)

end

variable (self : Provisioning) (topo : Value) (counts : String → Nat) (c : Cluster)

theorem mem_below_of_lastLevel (level : List Value) (h : lastLevel topo = some level) (v : Value)
    (hv : v ∈ level) : v ∈ below (buildTreeFromDict topo) :=
  List.mem_flatten.mpr ⟨level, List.mem_of_getLast? h, hv⟩

/-- What a workload is run against: the instances of the first component of the
    last level, each once. -/
theorem getBackendNodes_first (h : Provisioned self topo counts c) (level : List Value)
    (hlevel : lastLevel topo = some level) :
    ∃ (backend : String) (nodes : List Node), Value.str backend ∈ level
      ∧ c.getBackendNodes = .ok (nodes.map some) ∧ nodes.Nodup ∧ ∀ n, n ∈ nodes
        ↔ ∃ name ∈ componentNames backend (counts backend), c.members.get? name = some n := by
  have hlast : c.levelOrderGroupMembers.getLast?
      = some (uniqueNames (level.map (instancesOf counts))) := by
    rw [Cluster.levelOrderGroupMembers, tree_of_provisioned self topo counts c h, levels_map,
      List.map_map, ← List.map_drop, List.getLast?_map]
    rw [lastLevel] at hlevel
    rw [hlevel]
    rfl
  have hbelow := mem_below_of_lastLevel topo level hlevel
  have hmem := List.mem_of_mem_drop (List.mem_of_getLast? hlevel)
  cases level with
  | nil => exact absurd rfl (levels_ne_nil _ _ hmem)
  | cons v rest =>
      rcases h.assigned.named v (hbelow v List.mem_cons_self) with ⟨backend, rfl, _, _⟩
      have hbackend := hbelow _ List.mem_cons_self
      have hmember := h.member backend hbackend
      have hnodup := componentNames_nodup backend (counts backend)
      have hnodes : c.getBackendNodes = .ok
          ((componentNames backend (counts backend)).map c.members.get?) := by
        unfold Cluster.getBackendNodes
        rw [hlast, List.map_cons, uniqueNames]
        dsimp only
        rw [split_instancesOf self topo counts h.assigned backend hbackend]
      refine ⟨backend, (componentNames backend (counts backend)).filterMap c.members.get?,
        List.mem_cons_self, ?_, ?_, fun n => ?_⟩
      · rw [hnodes, List.map_filterMap_some_eq_filter_map_isSome, List.filter_eq_self.mpr]
        intro o ho
        rcases List.mem_map.mp ho with ⟨name, hname, rfl⟩
        rcases hmember name hname with ⟨n, hn, _⟩
        rw [hn]
        rfl
      · -- a member tells its name
        refine hnodup.filterMap (fun a a' n ha ha' => ?_)
        exact (h.named a n ha).symm.trans (h.named a' n ha')
      · rw [List.mem_filterMap]

theorem isClustered_iff (m : String) :
    c.isClustered klasses m = true
      ↔ ∃ n klass, c.members.get? m = some n ∧ klasses n.vm.klass = .ok klass
        ∧ klass.clustered = true := by
  unfold Cluster.isClustered
  cases hget : c.members.get? m with
  | none => exact ⟨fun h => (nomatch h), fun ⟨_, _, hn, _⟩ => (nomatch hn)⟩
  | some n =>
      dsimp only
      constructor
      · intro h
        cases hklass : klasses n.vm.klass with
        | error e =>
            rw [hklass] at h
            exact nomatch h
        | ok klass =>
            rw [hklass] at h
            exact ⟨n, klass, rfl, hklass, h⟩
      · rintro ⟨n', klass, hn, hklass, hclustered⟩
        rw [Option.some.inj hn, hklass]
        exact hclustered

/-- The instance names of the tree with their components and roles. -/
theorem plays_component (h : Provisioned self topo counts c) (m : String) (n : Node)
    (klass : Klass) (hplays : c.Plays klasses m n klass) :
    ∃ component, Value.str component ∈ below (buildTreeFromDict topo)
      ∧ m ∈ componentNames component (counts component)
      ∧ n.vm.role = removeNumbers component := by
  rcases (mem_treeNames_provisioned self topo counts c h m).mp hplays.named with
    ⟨component, hcomponent, hm⟩
  rcases h.member component hcomponent m hm with ⟨n', hn', hrole⟩
  rw [hplays.member] at hn'
  rw [← Option.some.inj hn'] at hrole
  exact ⟨component, hcomponent, hm, hrole⟩

/-- No role is the name of an instance. -/
theorem apart_of_provisioned (h : Provisioned self topo counts c) (vs : List Visit)
    (hvs : c.visits klasses = .ok vs) : KeysApart Visit.key Visit.alone vs := by
  rw [keysApart_iff klasses c vs hvs]
  intro m n klass m' n' klass' hplays hplays' _ _
  rcases plays_component klasses self topo counts c h m n klass hplays with
    ⟨component, _, _, hrole⟩
  rcases plays_component klasses self topo counts c h m' n' klass' hplays' with
    ⟨component', _, hm', _⟩
  rcases (mem_componentNames component' m' _).mp hm' with ⟨i, _, rfl⟩
  rw [hrole]
  exact removeNumbers_ne_numbered component component' i

/-- An instance on the last level, with its class. -/
theorem plays_of_endsIn (h : Provisioned self topo counts c) (klass : Klass) (role : String)
    (hends : EndsIn klasses topo counts c klass role) (level : List Value)
    (hlevel : lastLevel topo = some level) (component : String)
    (hcomponent : Value.str component ∈ level) (name : String)
    (hname : name ∈ componentNames component (counts component)) :
    ∃ n, c.Plays klasses name n klass ∧ n.vm.role = role := by
  rcases hends.last with ⟨level', hlevel', hall⟩
  rw [hlevel, Option.some.injEq] at hlevel'
  rw [← hlevel'] at hall
  have hbelow := mem_below_of_lastLevel topo level hlevel _ hcomponent
  rcases hall component hcomponent with ⟨hrole, hklass⟩
  rcases h.member component hbelow name hname with ⟨n, hn, hnrole⟩
  refine ⟨n, ⟨?_, hn, hklass name hname n hn⟩, hnrole.trans hrole⟩
  exact (mem_treeNames_provisioned self topo counts c h name).mpr ⟨component, hbelow, hname⟩

/-- The nodes of the backend group: the instances of the clustered components
    with the role. -/
theorem mem_backendGroup (h : Provisioned self topo counts c) (klass : Klass) (role : String)
    (hends : EndsIn klasses topo counts c klass role) (groups : Dict String Group)
    (hgroups : groupNodesByName klasses c = .ok groups) :
    ∃ g, groups.get? role = some g ∧ ∀ n, n ∈ g.nodes.list
      ↔ ∃ component name, Value.str component ∈ below (buildTreeFromDict topo)
        ∧ removeNumbers component = role ∧ name ∈ componentNames component (counts component)
        ∧ c.isClustered klasses name = true ∧ c.members.get? name = some n := by
  rcases (groupNodesByName_ok_iff klasses c groups).mp hgroups with ⟨vs, hvs, d, hd, rfl⟩
  have hapart := apart_of_provisioned klasses self topo counts c h vs hvs
  -- some instance on the last level shares the key
  have hshares : ∃ v ∈ vs, v.alone = false ∧ v.key = role := by
    rcases hends.last with ⟨level, hlevel, _⟩
    rcases getBackendNodes_first self topo counts c h level hlevel with ⟨backend, _, hbackend, _⟩
    have hpositive := h.assigned.positive backend
      (mem_below_of_lastLevel topo level hlevel _ hbackend)
    have hname : numbered backend 0 ∈ componentNames backend (counts backend) :=
      (mem_componentNames backend _ _).mpr ⟨0, by omega, rfl⟩
    rcases plays_of_endsIn klasses self topo counts c h klass role hends level hlevel backend
      hbackend _ hname with ⟨n, hplays, hrole⟩
    rcases plays_visit klasses c vs hvs _ n klass hplays with ⟨v, hv, _, rfl, rfl⟩
    refine ⟨v, hv, ?_, ?_⟩
    · rw [Visit.alone, hends.clustered]
      rfl
    · rw [Visit.key, hends.clustered, if_pos rfl]
      exact hrole
  rcases hshares with ⟨x, hx, hxs, rfl⟩
  rcases bucket_of_apart Visit.key Visit.alone notAppendable vs d hapart hd x hx with
    ⟨b, hb, hcases⟩
  have hitems : b.items = withKey Visit.key vs x.key := by
    rcases hcases with ⟨_, hitems⟩ | ⟨hxa, _⟩
    · exact hitems
    · rw [hxs] at hxa
      cases hxa
  refine ⟨Group.ofBucket b, by rw [Dict.get?_mapValues, hb]; rfl, fun n => ?_⟩
  rw [list_ofBucket, hitems, List.mem_map]
  constructor
  · rintro ⟨v, hv, rfl⟩
    rcases (mem_withKey Visit.key vs x.key v).mp hv with ⟨hv, hkey⟩
    have hplays := visit_plays klasses c vs hvs v hv
    have hvs' : v.alone = false := by
      by_contra hva
      exact hapart x hx v hv hxs (by simpa using hva) hkey.symm
    have hclustered : v.klass.clustered = true := by simpa [Visit.alone] using hvs'
    rcases plays_component klasses self topo counts c h _ _ _ hplays with
      ⟨component, hcomponent, hname, hrole⟩
    rw [Visit.key, hclustered, if_pos rfl] at hkey
    refine ⟨component, v.instanceName, hcomponent, hrole.symm.trans hkey, hname, ?_,
      hplays.member⟩
    exact (isClustered_iff klasses c _).mpr
      ⟨v.node, v.klass, hplays.member, hplays.imported, hclustered⟩
  · rintro ⟨component, name, hcomponent, hrole, hname, hclustered, hn⟩
    rcases (isClustered_iff klasses c name).mp hclustered with ⟨n', klass', hn', hklass', hc⟩
    rw [hn] at hn'
    rw [← Option.some.inj hn'] at hklass'
    have hmem := (mem_treeNames_provisioned self topo counts c h name).mpr
      ⟨component, hcomponent, hname⟩
    rcases plays_visit klasses c vs hvs name n klass' ⟨hmem, hn, hklass'⟩ with
      ⟨v, hv, rfl, rfl, rfl⟩
    rcases h.member component hcomponent _ hname with ⟨n'', hn'', hnrole⟩
    rw [hn] at hn''
    rw [← Option.some.inj hn''] at hnrole
    refine ⟨v, (mem_withKey Visit.key vs x.key v).mpr ⟨hv, ?_⟩, rfl⟩
    rw [Visit.key, hc, if_pos rfl, hnrole, hrole]

/-- The workload sees the backend that was installed exactly when one component
    is behind it. -/
theorem sees_backend_iff (h : Provisioned self topo counts c) (klass : Klass) (role : String)
    (hends : EndsIn klasses topo counts c klass role) (groups : Dict String Group)
    (hgroups : groupNodesByName klasses c = .ok groups) :
    SeesBackend groups c role ↔ OneBackend klasses topo counts c role := by
  rcases hends.last with ⟨level, hlevel, hall⟩
  rcases getBackendNodes_first self topo counts c h level hlevel with
    ⟨backend, nodes, hbackend, hnodes, hnodup, hmem⟩
  rcases mem_backendGroup klasses self topo counts c h klass role hends groups hgroups with
    ⟨g, hg, hgmem⟩
  have hbelow := mem_below_of_lastLevel topo level hlevel _ hbackend
  -- the first component of the last level is behind the role
  have hclustered : ∀ name ∈ componentNames backend (counts backend),
      c.isClustered klasses name = true := by
    intro name hname
    rcases plays_of_endsIn klasses self topo counts c h klass role hends level hlevel backend
      hbackend name hname with ⟨n, hplays, _⟩
    exact (isClustered_iff klasses c name).mpr
      ⟨n, klass, hplays.member, hplays.imported, hends.clustered⟩
  constructor
  · rintro ⟨nodes', g', hnodes', hg', _, hsame⟩
    rw [hnodes, Except.ok.injEq] at hnodes'
    have heq := List.map_injective_iff.mpr (fun _ _ hn => Option.some.inj hn) hnodes'
    rw [hg, Option.some.injEq] at hg'
    rw [← heq, ← hg'] at hsame
    refine ⟨backend, fun component hcomponent hrole hname => ?_⟩
    rcases hname with ⟨name, hname, hc⟩
    rcases h.member component hcomponent name hname with ⟨n, hn, _⟩
    have hin := (hsame n).mpr ((hgmem n).mpr
      ⟨component, name, hcomponent, hrole, hname, hc, hn⟩)
    rcases (hmem n).mp hin with ⟨name', hname', hn'⟩
    have hsameName := (h.named name n hn).symm.trans (h.named name' n hn')
    rw [← hsameName] at hname'
    exact names_disjoint component backend _ _ name hname hname'
  · rintro ⟨only, honly⟩
    have hpositive := h.assigned.positive backend hbelow
    have hfirst : numbered backend 0 ∈ componentNames backend (counts backend) :=
      (mem_componentNames backend _ _).mpr ⟨0, by omega, rfl⟩
    have hbackendOnly : backend = only := honly backend hbelow (hall backend hbackend).1
      ⟨_, hfirst, hclustered _ hfirst⟩
    refine ⟨nodes, g, hnodes, hg, hnodup, fun n => ?_⟩
    rw [hmem, hgmem]
    constructor
    · rintro ⟨name, hname, hn⟩
      exact ⟨backend, name, hbelow, (hall backend hbackend).1, hname, hclustered name hname, hn⟩
    · rintro ⟨component, name, hcomponent, hrole, hname, hc, hn⟩
      have honlyThis := honly component hcomponent hrole ⟨name, hname, hc⟩
      rw [honlyThis, ← hbackendOnly] at hname
      exact ⟨name, hname, hn⟩

end Views

section Shipped

/-- Nodes for the instances of some components make a provisioned cluster. -/
theorem provisioned_ofNodes (components : List (String × Nat)) (topo : Value)
    (tree : List (Tree String)) (nodes : List Node)
    (hassigned : Assigned (describing components) topo (countOf components))
    (hconf : ∃ c₀, (describing components).configured topo = .ok c₀
      ∧ (clusterOfNodes tree nodes).clusterTree = c₀.clusterTree)
    (hmember : ∀ component, Value.str component ∈ below (buildTreeFromDict topo) →
      ∀ name ∈ componentNames component (countOf components component),
        ((clusterOfNodes tree nodes).members.get? name).any
          (fun n => decide (n.vm.role = removeNumbers component)) = true) :
    Provisioned (describing components) topo (countOf components) (clusterOfNodes tree nodes) := by
  refine ⟨hassigned, hconf, membersNamed_ofNodes tree nodes,
    fun component hcomponent name hname => ?_⟩
  have hany := hmember component hcomponent name hname
  rw [Option.any_eq_true] at hany
  rcases hany with ⟨n, hn, hrole⟩
  exact ⟨n, hn, of_decide_eq_true hrole⟩

/-- A driver and a backend of two nodes. -/
def simpleComponents : List (String × Nat) :=
  [("driver", 1), ("backend", 2)]

def simpleTopo : Value :=
  .dict [("driver", .list [.str "backend"])]

theorem mem_simpleTopo (v : Value) (hv : v ∈ below (buildTreeFromDict simpleTopo)) :
    v = .str "driver" ∨ v = .str "backend" := by
  have hbelow : below (buildTreeFromDict simpleTopo) = [.str "driver", .str "backend"] := rfl
  rw [hbelow] at hv
  simpa only [List.mem_cons, List.not_mem_nil, or_false] using hv

theorem provisioned_simple :
    Provisioned (describing simpleComponents) simpleTopo (countOf simpleComponents) twoNodes := by
  refine provisioned_ofNodes _ _ _ _ ?_ ⟨_, rfl, rfl⟩ (fun component hcomponent => ?_)
  · refine assigned_describing simpleComponents (by decide) simpleTopo (fun v hv => ?_) (by decide)
    rcases mem_simpleTopo v hv with rfl | rfl
    · exact ⟨("driver", 1), by decide, rfl⟩
    · exact ⟨("backend", 2), by decide, rfl⟩
  · rcases mem_simpleTopo _ hcomponent with h | h
    · rw [Value.str.inj h]
      decide
    · rw [Value.str.inj h]
      decide

theorem endsIn_shipped (topo : Value) (counts : String → Nat) (c : Cluster) (klass : Klass)
    (role : String) (level : List Value) (hlevel : lastLevel topo = some level)
    (hlast : ∀ component, Value.str component ∈ level → removeNumbers component = role
      ∧ ∀ name ∈ componentNames component (counts component), (c.members.get? name).all
        (fun n => decide ((shippedKlasses n.vm.klass).toOption = some klass)) = true)
    (hklass : klass.clustered = true ∧ klass.isBackend = true) :
    EndsIn shippedKlasses topo counts c klass role := by
  refine ⟨⟨level, hlevel, fun component hcomponent => ?_⟩, hklass.1, hklass.2⟩
  rcases hlast component hcomponent with ⟨hrole, hnames⟩
  refine ⟨hrole, fun name hname n hn => ?_⟩
  have hall := hnames name hname
  rw [hn, Option.all_some, decide_eq_true_iff] at hall
  cases hk : shippedKlasses n.vm.klass with
  | error e =>
      rw [hk] at hall
      exact nomatch hall
  | ok k =>
      rw [hk] at hall
      rw [Option.some.inj hall]

theorem endsIn_simple :
    EndsIn shippedKlasses simpleTopo (countOf simpleComponents) twoNodes ⟨"Xpand", true, true⟩
      "backend" := by
  refine endsIn_shipped _ _ _ _ _ [.str "backend"] rfl (fun component hcomponent => ?_) ⟨rfl, rfl⟩
  rw [Value.str.inj (List.mem_singleton.mp hcomponent)]
  decide

/-- The workload is run against both nodes of the backend. -/
theorem simple_sees_backend :
    ∃ groups, groupNodesByName shippedKlasses twoNodes = .ok groups
      ∧ SeesBackend groups twoNodes "backend" := by
  refine ⟨_, rfl, (sees_backend_iff shippedKlasses (describing simpleComponents) simpleTopo
    (countOf simpleComponents) twoNodes provisioned_simple _ "backend" endsIn_simple _ rfl).mpr
      ⟨"backend", fun component hcomponent hrole _ => ?_⟩⟩
  rcases mem_simpleTopo _ hcomponent with h | h
  · rw [Value.str.inj h] at hrole
    exact absurd hrole (by decide)
  · exact Value.str.inj h

/-- A driver and a backend in three zones, one node in each. -/
def zoneComponents : List (String × Nat) :=
  [("driver", 1), ("backend1", 1), ("backend2", 1), ("backend3", 1)]

def multiZoneSimple : Value :=
  .dict [("driver", .list [.str "backend1", .str "backend2", .str "backend3"])]

def threeZones : Cluster :=
  clusterOfNodes
    [.node "driver-0" [.node "backend1-0" [], .node "backend2-0" [], .node "backend3-0" []]]
    [componentNode "driver-0" "driver" "driver.BaseDriver",
      componentNode "backend1-0" "backend" "backend.Xpand",
      componentNode "backend2-0" "backend" "backend.Xpand",
      componentNode "backend3-0" "backend" "backend.Xpand"]

theorem mem_multiZoneSimple (v : Value) (hv : v ∈ below (buildTreeFromDict multiZoneSimple)) :
    v = .str "driver" ∨ v = .str "backend1" ∨ v = .str "backend2" ∨ v = .str "backend3" := by
  have hbelow : below (buildTreeFromDict multiZoneSimple)
      = [.str "driver", .str "backend1", .str "backend2", .str "backend3"] := rfl
  rw [hbelow] at hv
  simpa only [List.mem_cons, List.not_mem_nil, or_false] using hv

theorem provisioned_threeZones :
    Provisioned (describing zoneComponents) multiZoneSimple (countOf zoneComponents)
      threeZones := by
  refine provisioned_ofNodes _ _ _ _ ?_ ⟨_, rfl, rfl⟩ (fun component hcomponent => ?_)
  · refine assigned_describing zoneComponents (by decide) multiZoneSimple (fun v hv => ?_)
      (by decide)
    rcases mem_multiZoneSimple v hv with rfl | rfl | rfl | rfl
    · exact ⟨("driver", 1), by decide, rfl⟩
    · exact ⟨("backend1", 1), by decide, rfl⟩
    · exact ⟨("backend2", 1), by decide, rfl⟩
    · exact ⟨("backend3", 1), by decide, rfl⟩
  · rcases mem_multiZoneSimple _ hcomponent with h | h | h | h
    all_goals
      rw [Value.str.inj h]
      decide

theorem endsIn_threeZones :
    EndsIn shippedKlasses multiZoneSimple (countOf zoneComponents) threeZones
      ⟨"Xpand", true, true⟩ "backend" := by
  refine endsIn_shipped _ _ _ _ _ [.str "backend1", .str "backend2", .str "backend3"] rfl
    (fun component hcomponent => ?_) ⟨rfl, rfl⟩
  simp only [List.mem_cons, Value.str.injEq, List.not_mem_nil, or_false] at hcomponent
  rcases hcomponent with rfl | rfl | rfl <;> decide

/-- The backend is installed on three nodes, and the workload is run against
    the first of them. -/
theorem threeZones_misses :
    Provisioned (describing zoneComponents) multiZoneSimple (countOf zoneComponents) threeZones
      ∧ EndsIn shippedKlasses multiZoneSimple (countOf zoneComponents) threeZones
        ⟨"Xpand", true, true⟩ "backend"
      ∧ ∃ groups, groupNodesByName shippedKlasses threeZones = .ok groups
        ∧ ¬ SeesBackend groups threeZones "backend" := by
  have hrun : (groupNodesByName shippedKlasses threeZones).map
      (fun groups => (groups.get? "backend").map (fun g => g.nodes.list.map (fun n => n.vm.name)))
        = .ok (some ["backend1-0", "backend2-0", "backend3-0"]) := rfl
  rcases except_map_eq_ok _ _ _ hrun with ⟨groups, hgroups, hgroup⟩
  refine ⟨provisioned_threeZones, endsIn_threeZones, groups, hgroups, ?_⟩
  rintro ⟨nodes, g, hnodes, hg, _, hsame⟩
  rw [hg, Option.map_some, Option.some.injEq] at hgroup
  have hseen : some "backend2-0" ∉ (nodes.map some).map (Option.map (fun n => n.vm.name)) := by
    rw [← Except.ok.inj hnodes]
    decide
  have hsecond : "backend2-0" ∈ g.nodes.list.map (fun n => n.vm.name) := by
    rw [hgroup]
    decide
  rcases List.mem_map.mp hsecond with ⟨n, hn, hname⟩
  refine hseen (List.mem_map.mpr ⟨some n, List.mem_map.mpr ⟨n, (hsame n).mpr hn, rfl⟩, ?_⟩)
  rw [Option.map_some, hname]

end Shipped

end Xbench
