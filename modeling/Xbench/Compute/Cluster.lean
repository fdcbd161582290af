import Xbench.Lib.Text
import Xbench.Compute.BackendTarget

/-!
# Clusters

A cluster: its environments, its members by instance name, the tree of its
topology, and the map from components to instance names.

The tree is walked level by level, as `anytree` does. A node's levels are its
own name followed by the levels of its children put side by side, so the walk
is a structural recursion, and a fact about all names of the tree is a fact
about the levels put end to end. `levels_map` says that renaming a tree renames
its levels.

Before it is configured the tree is made of whatever the topology file holds;
afterwards a name is the instance names of a component with commas between
them. The names stay a parameter for that reason.

Grouping asks the member table for each instance name and uses the answer
without a look: a name that is not there is an attribute error. The driver and
backend lists do not even notice. `mem_levelOrderGroupMembers` says which names
all three ask for: those of the nodes below the root.

## Main definitions

* `Environment`: A cloud and a region under a name.
* `ClusterState`: The states of a cluster.
* `Tree`: A topology tree.
* `Tree.levels`: Its names, level by level.
* `Tree.map`: Renaming a tree.
* `buildTreeFromDict`: The tree of a topology.
* `Cluster`: The cluster.
* `Cluster.addMember`: Adding a node under a name.
* `uniqueNames`: Names without repetitions.
* `Cluster.levelOrderGroupMembers`: The levels below the root.
* `Cluster.getAllDriverNodes`: The members of the first level.
* `Cluster.getBackendNodes`: The members of the last level's first name.
* `Cluster.groupNodesByName`: The members grouped for their classes.
* `removeNumbers`: A name without digits and underscores.
* `Cluster.Present`: Every name the tree stands for is a member.
* `MembersNamed`: Members are under their own names.

## Theorems

* `levels_map`: Renaming a tree renames its levels.
* `map_comp`: Renaming twice is renaming once.
* `beside_perm`: Levels side by side have the names of both.
* `map_congr`: Renaming looks at the names of the tree only.
* `mem_uniqueNames`: Dropping repetitions keeps every name.
* `mem_levelOrderGroupMembers`: The names that are asked for.
* `getAllDriverNodes_present`: With every name a member, no driver is missing.
* `getBackendNodes_present`: The same of backends.
* `groupNodesByName_error`: The same of groups.
-/

namespace Xbench

open Text

structure Environment where
  name : String
  cloud : String
  cloudKlass : String
  region : String
deriving DecidableEq

/-- `ClusterState`. -/
inductive ClusterState where
  | ready
  | down
  | failed
  | allocated
  | notReady
deriving DecidableEq

/-- A topology tree. -/
inductive Tree (α : Type) where
  | node (name : α) (children : List (Tree α))

section Tree

variable {α β : Type}

def Tree.name : Tree α → α
  | .node name _ => name

def Tree.children : Tree α → List (Tree α)
  | .node _ children => children

/-- Levels side by side. -/
def beside : List (List α) → List (List α) → List (List α)
  | [], ls' => ls'
  | ls, [] => ls
  | l :: ls, l' :: ls' => (l ++ l') :: beside ls ls'

mutual

/-- The names of the tree, level by level. -/
def Tree.levels : Tree α → List (List α)
  | .node name children => [name] :: levelsOf children

def levelsOf : List (Tree α) → List (List α)
  | [] => []
  | t :: ts => beside t.levels (levelsOf ts)

end

mutual

def Tree.map (f : α → β) : Tree α → Tree β
  | .node name children => .node (f name) (mapTrees f children)

def mapTrees (f : α → β) : List (Tree α) → List (Tree β)
  | [] => []
  | t :: ts => t.map f :: mapTrees f ts

end

/-- The names of the tree, in level order. -/
def Tree.names (t : Tree α) : List α :=
  t.levels.flatten

theorem beside_map (f : α → β) (ls ls' : List (List α)) :
    (beside ls ls').map (List.map f) = beside (ls.map (List.map f)) (ls'.map (List.map f)) := by
  induction ls generalizing ls' with
  | nil => rfl
  | cons l ls ih =>
      cases ls' with
      | nil => rfl
      | cons l' ls' =>
          rw [beside, List.map_cons, List.map_cons, List.map_cons, beside, ih, List.map_append]

mutual

theorem levels_map (f : α → β) (t : Tree α) :
    (t.map f).levels = t.levels.map (List.map f) := by
  cases t with
  | node name children =>
      rw [Tree.map, Tree.levels, Tree.levels, List.map_cons, levelsOf_map f children]
      rfl

theorem levelsOf_map (f : α → β) (ts : List (Tree α)) :
    levelsOf (mapTrees f ts) = (levelsOf ts).map (List.map f) := by
  cases ts with
  | nil => rfl
  | cons t ts =>
      rw [mapTrees, levelsOf, levelsOf, beside_map, levels_map f t, levelsOf_map f ts]

end

theorem names_map (f : α → β) (t : Tree α) : (t.map f).names = t.names.map f := by
  rw [Tree.names, Tree.names, levels_map, List.map_flatten]

mutual

theorem map_comp {γ : Type} (f : α → β) (g : β → γ) (t : Tree α) :
    (t.map f).map g = t.map (g ∘ f) := by
  cases t with
  | node name children =>
      rw [Tree.map, Tree.map, Tree.map, mapTrees_comp f g children]
      rfl

theorem mapTrees_comp {γ : Type} (f : α → β) (g : β → γ) (ts : List (Tree α)) :
    mapTrees g (mapTrees f ts) = mapTrees (g ∘ f) ts := by
  cases ts with
  | nil => rfl
  | cons t ts => rw [mapTrees, mapTrees, mapTrees, map_comp f g t, mapTrees_comp f g ts]

end

theorem beside_perm (ls ls' : List (List α)) :
    (beside ls ls').flatten.Perm (ls.flatten ++ ls'.flatten) := by
  induction ls generalizing ls' with
  | nil => exact List.Perm.refl _
  | cons l ls ih =>
      cases ls' with
      | nil =>
          rw [List.flatten_nil, List.append_nil]
          exact List.Perm.refl _
      | cons l' ls' =>
          rw [beside, List.flatten_cons, List.flatten_cons, List.flatten_cons, List.append_assoc,
            List.append_assoc]
          refine List.Perm.append_left l ?_
          refine ((ih ls').append_left l').trans ?_
          rw [← List.append_assoc, ← List.append_assoc]
          exact (List.perm_append_comm).append_right _

theorem mem_beside (ls ls' : List (List α)) (a : α) :
    a ∈ (beside ls ls').flatten ↔ a ∈ ls.flatten ∨ a ∈ ls'.flatten :=
  (beside_perm ls ls').mem_iff.trans List.mem_append

mutual

/-- Renaming looks at the names of the tree only. -/
theorem map_congr (f g : α → β) (t : Tree α) (h : ∀ a ∈ t.names, f a = g a) :
    t.map f = t.map g := by
  cases t with
  | node name children =>
      have hname : name ∈ (Tree.node name children).names := by
        rw [Tree.names, Tree.levels]
        exact List.mem_cons_self
      rw [Tree.map, Tree.map, h name hname, mapTrees_congr f g children (fun a ha => h a ?_)]
      rw [Tree.names, Tree.levels, List.flatten_cons]
      exact List.mem_append_right _ ha

theorem mapTrees_congr (f g : α → β) (ts : List (Tree α))
    (h : ∀ a ∈ (levelsOf ts).flatten, f a = g a) : mapTrees f ts = mapTrees g ts := by
  cases ts with
  | nil => rfl
  | cons t ts =>
      rw [levelsOf] at h
      rw [mapTrees, mapTrees,
        map_congr f g t (fun a ha => h a ((mem_beside _ _ a).mpr (Or.inl ha))),
        mapTrees_congr f g ts (fun a ha => h a ((mem_beside _ _ a).mpr (Or.inr ha)))]

end

end Tree

mutual

/-- `_add_children`: the nodes below one, for a mapping, a list or anything
    else. -/
def addChildren : Value → List (Tree Value)
  | .dict entries => addEntries entries
  | .list items => items.map (fun item => .node item [])
  | _ => []

def addEntries : List (String × Value) → List (Tree Value)
  | [] => []
  | (key, v) :: rest => .node (.str key) (addChildren v) :: addEntries rest

end

/-- `build_tree_from_dict`, below the root `AnyNode("cluster")`. -/
def buildTreeFromDict (topo : Value) : Tree Value :=
  .node (.str "cluster") (addChildren topo)

/-- Names without repetitions, the first of each kept. -/
def uniqueNames : List String → List String
  | [] => []
  | n :: ns => n :: (uniqueNames ns).filter (fun m => decide (m ≠ n))

theorem mem_uniqueNames (ns : List String) (n : String) : n ∈ uniqueNames ns ↔ n ∈ ns := by
  induction ns with
  | nil => exact Iff.rfl
  | cons m ns ih =>
      rw [uniqueNames, List.mem_cons, List.mem_cons, List.mem_filter, ih, decide_eq_true_iff]
      by_cases hm : n = m
      · exact ⟨fun _ => Or.inl hm, fun _ => Or.inl hm⟩
      · exact ⟨fun h => h.imp id And.left, fun h => h.imp id (fun hn => ⟨hn, hm⟩)⟩

/-- `group_name`'s sibling: a name without its digits and underscores. -/
def removeNumbers (s : String) : String :=
  String.ofList (s.toList.filter (fun c => !c.isDigit && c != '_'))

structure Cluster where
  clusterName : String
  state : ClusterState
  topo : String
  envs : List Environment
  members : Dict String Node
  clusterTree : Tree String
  topoMap : Dict String String
  bt : BackendTarget
  sharedStorage : List VirtualStorage

namespace Cluster

def addMember (c : Cluster) (instanceName : String) (node : Node) : Cluster :=
  { c with members := c.members.set instanceName node }

/-- `level_order_group_cluster_members`: the levels below the root. -/
def levelOrderGroupMembers (c : Cluster) : List (List String) :=
  (c.clusterTree.levels.map uniqueNames).drop 1

/-- `get_all_driver_nodes`; a name that is no member gives `None`. -/
def getAllDriverNodes (c : Cluster) : Except Exn (List (Option Node)) :=
  match c.levelOrderGroupMembers with
  | [] => .error ⟨.indexError, "list index out of range"⟩
  | drivers :: _ => .ok (drivers.flatMap (fun driver => (split ',' driver).map c.members.get?))

/-- `get_backend_nodes`; a name that is no member gives `None`. -/
def getBackendNodes (c : Cluster) : Except Exn (List (Option Node)) :=
  match c.levelOrderGroupMembers.getLast? with
  | some (backends :: _) => .ok ((split ',' backends).map c.members.get?)
  | _ => .error ⟨.indexError, "list index out of range"⟩

/-- What a node class says about itself. -/
structure Klass where
  name : String
  clustered : Bool
  isBackend : Bool
deriving DecidableEq

/-- The nodes an instance of a class gets: all of a role, or one. -/
inductive GroupNodes where
  | many (nodes : List Node)
  | one (node : Node)

structure Group where
  klass : Klass
  nodes : GroupNodes
  name : String
  env : String

/-- What asking a missing member for its machine gives. -/
def missingMember : Exn :=
  ⟨.attributeError, "'NoneType' object has no attribute 'vm'"⟩

/-- What a clustered class gives whose role is the name of another group. -/
def notAppendable : Exn :=
  ⟨.attributeError, "'Node' object has no attribute 'append'"⟩

/-- One instance name `m` out of the tree node `name`. -/
def groupMember (klasses : String → Except Exn Klass) (c : Cluster) (name m : String)
    (groups : Dict String Group) : Except Exn (Dict String Group) :=
  match c.members.get? m with
  | none => .error missingMember
  | some node => do
      let klass ← klasses node.vm.klass
      if klass.clustered then
        -- all nodes of a role go together, whatever they are called
        match groups.get? node.vm.role with
        | none => .ok (groups.set node.vm.role ⟨klass, .many [node], name, node.vm.env⟩)
        | some g =>
            match g.nodes with
            | .many nodes =>
                .ok (groups.set node.vm.role { g with nodes := .many (nodes ++ [node]) })
            | .one _ => .error notAppendable
      else .ok (groups.set m ⟨klass, .one node, name, node.vm.env⟩)

/-- `group_nodes_by_name`. `klasses` imports a class by its name. -/
def groupNodesByName (klasses : String → Except Exn Klass) (c : Cluster) :
    Except Exn (Dict String Group) :=
  (c.levelOrderGroupMembers.flatten.flatMap (fun name => (split ',' name).map (fun m => (name, m)))
    ).foldlM (fun groups x => groupMember klasses c x.1 x.2 groups) Dict.empty

/-- The instance names the tree stands for: those of every node below the
    root. -/
def treeNames (c : Cluster) : List String :=
  (c.clusterTree.levels.drop 1).flatten.flatMap (split ',')

theorem mem_levelOrderGroupMembers (c : Cluster) (name : String) :
    name ∈ c.levelOrderGroupMembers.flatten ↔ name ∈ (c.clusterTree.levels.drop 1).flatten := by
  rw [levelOrderGroupMembers, ← List.map_drop, List.mem_flatten, List.mem_flatten]
  constructor
  · rintro ⟨l, hl, hname⟩
    rcases List.mem_map.mp hl with ⟨l', hl', rfl⟩
    exact ⟨l', hl', (mem_uniqueNames l' name).mp hname⟩
  · rintro ⟨l, hl, hname⟩
    exact ⟨uniqueNames l, List.mem_map.mpr ⟨l, hl, rfl⟩, (mem_uniqueNames l name).mpr hname⟩

/-- Every name the tree stands for is a member. -/
def Present (c : Cluster) : Prop :=
  ∀ name ∈ c.treeNames, ∃ n, c.members.get? name = some n

/-- A level's names are among those of the tree. -/
theorem mem_treeNames (c : Cluster) (level : List String) (name m : String)
    (hlevel : level ∈ c.levelOrderGroupMembers) (hname : name ∈ level)
    (hm : m ∈ split ',' name) : m ∈ c.treeNames := by
  refine List.mem_flatMap.mpr ⟨name, ?_, hm⟩
  exact (mem_levelOrderGroupMembers c name).mp (List.mem_flatten.mpr ⟨level, hlevel, hname⟩)

/-- No driver is missing. -/
theorem getAllDriverNodes_present (c : Cluster) (h : c.Present) (l : List (Option Node))
    (hl : c.getAllDriverNodes = .ok l) : none ∉ l := by
  unfold getAllDriverNodes at hl
  cases hlevels : c.levelOrderGroupMembers with
  | nil =>
      rw [hlevels] at hl
      exact nomatch hl
  | cons drivers levels =>
      rw [hlevels] at hl
      rw [← Except.ok.inj hl]
      intro hnone
      rcases List.mem_flatMap.mp hnone with ⟨driver, hdriver, hnone⟩
      rcases List.mem_map.mp hnone with ⟨m, hm, hget⟩
      have hlevel : drivers ∈ c.levelOrderGroupMembers := by
        rw [hlevels]
        exact List.mem_cons_self
      rcases h m (mem_treeNames c drivers driver m hlevel hdriver hm) with ⟨n, hn⟩
      rw [hget] at hn
      exact nomatch hn

/-- No backend is missing. -/
theorem getBackendNodes_present (c : Cluster) (h : c.Present) (l : List (Option Node))
    (hl : c.getBackendNodes = .ok l) : none ∉ l := by
  unfold getBackendNodes at hl
  cases hlast : c.levelOrderGroupMembers.getLast? with
  | none =>
      rw [hlast] at hl
      exact nomatch hl
  | some level =>
      rw [hlast] at hl
      cases level with
      | nil => exact nomatch hl
      | cons backends rest =>
          rw [← Except.ok.inj hl]
          intro hnone
          rcases List.mem_map.mp hnone with ⟨m, hm, hget⟩
          rcases h m (mem_treeNames c _ backends m (List.mem_of_getLast? hlast)
            List.mem_cons_self hm) with ⟨n, hn⟩
          rw [hget] at hn
          exact nomatch hn

/-- Grouping a member that is there fails on its class or on its role only. -/
theorem groupMember_error (klasses : String → Except Exn Klass) (c : Cluster) (name m : String)
    (groups : Dict String Group) (e : Exn) (n : Node) (hget : c.members.get? m = some n)
    (he : groupMember klasses c name m groups = .error e) :
    klasses n.vm.klass = .error e ∨ e = notAppendable := by
  unfold groupMember at he
  rw [hget] at he
  dsimp only at he
  -- the klass is looked up first, and only a group of one node cannot be appended to
  cases hklass : klasses n.vm.klass with
  | error e' =>
      rw [hklass] at he
      exact Or.inl (congrArg Except.error (Except.error.inj he))
  | ok klass =>
      rw [hklass] at he
      change (if klass.clustered then _ else _) = _ at he
      by_cases hclustered : klass.clustered = true
      · rw [if_pos hclustered] at he
        cases hgroup : groups.get? n.vm.role with
        | none =>
            rw [hgroup] at he
            exact nomatch he
        | some g =>
            rw [hgroup] at he
            dsimp only at he
            cases hnodes : g.nodes with
            | many nodes =>
                rw [hnodes] at he
                exact nomatch he
            | one node =>
                rw [hnodes] at he
                exact Or.inr (Except.error.inj he).symm
      · rw [if_neg hclustered] at he
        exact nomatch he

theorem foldlM_error {α β χ : Type} (f : β → α → Except χ β) (l : List α) (b : β) (e : χ)
    (h : l.foldlM f b = .error e) : ∃ a ∈ l, ∃ b', f b' a = .error e := by
  induction l generalizing b with
  | nil => exact nomatch h
  | cons a l ih =>
      rw [List.foldlM_cons] at h
      cases ha : f b a with
      | error e' =>
          rw [ha] at h
          exact ⟨a, List.mem_cons_self, b, ha.trans (congrArg _ (Except.error.inj h))⟩
      | ok b' =>
          rw [ha] at h
          rcases ih b' h with ⟨a', ha', hfa'⟩
          exact ⟨a', List.mem_cons_of_mem a ha', hfa'⟩

/-- Grouping a cluster whose members are there never asks a missing one. -/
theorem groupNodesByName_error (klasses : String → Except Exn Klass) (c : Cluster)
    (h : c.Present) (e : Exn) (he : groupNodesByName klasses c = .error e) :
    (∃ klass, klasses klass = .error e) ∨ e = notAppendable := by
  rcases foldlM_error _ _ _ e he with ⟨⟨name, m⟩, hmem, groups, hgroup⟩
  rcases List.mem_flatMap.mp hmem with ⟨name', hname, hm⟩
  rcases List.mem_map.mp hm with ⟨m', hm', hpair⟩
  rcases Prod.mk.inj hpair with ⟨rfl, rfl⟩
  rcases List.mem_flatten.mp hname with ⟨level, hlevel, hin⟩
  rcases h m' (mem_treeNames c level name' m' hlevel hin hm') with ⟨n, hn⟩
  exact (groupMember_error klasses c name' m' groups e n hn hgroup).imp_left (fun hk => ⟨_, hk⟩)

end Cluster

/-- Members are under their own names, as every way of adding one puts
    them. -/
def MembersNamed (c : Cluster) : Prop :=
  ∀ k n, c.members.get? k = some n → n.vm.name = k

theorem membersNamed_addMember (c : Cluster) (n : Node) (h : MembersNamed c) :
    MembersNamed (c.addMember n.vm.name n) := by
  intro k m hm
  rw [Cluster.addMember, Dict.get?_set] at hm
  by_cases hk : k = n.vm.name
  · rw [if_pos hk] at hm
    rw [← Option.some.inj hm, hk]
  · rw [if_neg hk] at hm
    exact h k m hm

end Xbench
