import Xbench.Lib.Grouping
import Xbench.Compute.Cluster

/-!
# Groups of a Cluster

Which nodes the classes of a cluster get. The commands run once for every
group, on its nodes: a node in two groups is worked on twice, a node in none
never.

Grouping goes over the instance names of the tree, level by level. An instance
of a clustered class shares the key of its role with the others, and the group
is of the class of the first; any other instance takes its own name for a key.
`groupNodesByName_ok_iff` says that this is grouping by keys, so that the
general facts about buckets apply.

Repetitions are dropped in each level alone. A clustered component that stands
on two levels is appended twice. The keys come from two spaces that nobody
keeps apart, and a class is looked at for the first instance of a role only.
`partitioned_iff` says that nothing else can go wrong.

## Main definitions

* `Visit`: An instance name that is met, with what grouping looks at.
* `Cluster.visited`: The instance names that are met, with their tree nodes.
* `Cluster.visits`: What grouping looks at.
* `Group.ofBucket`: The group of a bucket.
* `groupedNodes`: The nodes of all groups.
* `Cluster.Partitioned`: The groups are a partition of the cluster.
* `Cluster.Plays`: An instance name of the tree with its node and its class.
* `Cluster.Separable`: What keeps the groups apart.

## Theorems

* `groupNodesByName_ok_iff`: Grouping is grouping by keys.
* `mem_visited`: The names that are met are those of the tree.
* `once_iff`: The nodes of all groups are those that the buckets hold.
* `alike_iff`: The nodes of a group have its class.
* `partitioned_iff`: When the groups are a partition.
-/

namespace Xbench

open Text

open Cluster (Klass GroupNodes Group groupMember missingMember notAppendable groupNodesByName)

/-- An instance name that is met, with what grouping looks at. -/
structure Visit where
  name : String
  instanceName : String
  node : Node
  klass : Klass

/-- The key of an instance: the role of a clustered one, else its name. -/
def Visit.key (v : Visit) : String :=
  if v.klass.clustered then v.node.vm.role else v.instanceName

def Visit.alone (v : Visit) : Bool :=
  !v.klass.clustered

/-- The group of a bucket; a role is of the class of its first instance. -/
def Cluster.Group.ofBucket : Bucket Visit → Group
  | .many v vs => ⟨v.klass, .many (v.node :: vs.map Visit.node), v.name, v.node.vm.env⟩
  | .one v => ⟨v.klass, .one v.node, v.name, v.node.vm.env⟩

section Refinement

variable (klasses : String → Except Exn Klass) (c : Cluster)

/-- The instance names that are met, with their tree nodes. -/
def Cluster.visited (c : Cluster) : List (String × String) :=
  c.levelOrderGroupMembers.flatten.flatMap (fun name => (split ',' name).map (fun m => (name, m)))

/-- What grouping looks at for one of them. -/
def Cluster.visit (x : String × String) : Except Exn Visit :=
  match c.members.get? x.2 with
  | none => .error missingMember
  | some node => (klasses node.vm.klass).map (fun klass => ⟨x.1, x.2, node, klass⟩)

def Cluster.visits : Except Exn (List Visit) :=
  c.visited.mapM (c.visit klasses)

theorem visit_ok_iff (x : String × String) (v : Visit) :
    c.visit klasses x = .ok v
      ↔ v.name = x.1 ∧ v.instanceName = x.2 ∧ c.members.get? x.2 = some v.node
        ∧ klasses v.node.vm.klass = .ok v.klass := by
  unfold Cluster.visit
  cases hget : c.members.get? x.2 with
  | none => exact ⟨fun h => (nomatch h), fun h => (nomatch h.2.2.1)⟩
  | some node =>
      dsimp only
      constructor
      · intro h
        rcases except_map_eq_ok _ _ _ h with ⟨klass, hklass, rfl⟩
        exact ⟨rfl, rfl, rfl, hklass⟩
      · rintro ⟨hname, hinstance, hnode, hklass⟩
        rw [Option.some.inj hnode, hklass, ← hname, ← hinstance]
        rfl

/-- One instance is put into the bucket of its key. -/
theorem groupMember_ofBucket (x : String × String) (v : Visit) (hv : c.visit klasses x = .ok v)
    (d : Dict String (Bucket Visit)) :
    groupMember klasses c x.1 x.2 (d.mapValues Group.ofBucket)
      = (groupStep Visit.key Visit.alone notAppendable d v).map
          (Dict.mapValues Group.ofBucket) := by
  rcases (visit_ok_iff klasses c x v).mp hv with ⟨hname, hinstance, hget, hklass⟩
  unfold groupMember groupStep
  rw [hget]
  dsimp only
  rw [hklass]
  change (if v.klass.clustered then _ else _) = _
  -- a klass that is not clustered makes a group of its own
  cases hclustered : v.klass.clustered with
  | false =>
      have halone : v.alone = true := by rw [Visit.alone, hclustered]; rfl
      have hkey : v.key = x.2 := by rw [Visit.key, hclustered, ← hinstance]; rfl
      rw [Bucket.put_alone Visit.alone notAppendable _ v halone, hkey]
      change _ = Except.ok (Dict.mapValues _ _)
      rw [Dict.mapValues_set, ← hname]
      rfl
  | true =>
      have halone : v.alone = false := by rw [Visit.alone, hclustered]; rfl
      have hkey : v.key = v.node.vm.role := by rw [Visit.key, hclustered]; rfl
      rw [if_pos rfl, hkey, Dict.get?_mapValues]
      -- no group yet, one to append to, or one that cannot be appended to
      rcases d.get? v.node.vm.role with _ | ⟨y, ys⟩ | y
      · rw [(Bucket.put_sharing Visit.alone notAppendable v v [] halone).1]
        change _ = Except.ok (Dict.mapValues _ _)
        rw [Dict.mapValues_set, ← hname]
        rfl
      · rw [(Bucket.put_sharing Visit.alone notAppendable v y ys halone).2.1]
        change _ = Except.ok (Dict.mapValues _ _)
        rw [Dict.mapValues_set]
        dsimp only [Option.map_some, Group.ofBucket]
        rw [List.map_append]
        rfl
      · rw [(Bucket.put_sharing Visit.alone notAppendable v y [] halone).2.2]
        rfl

/-- Asking for a member and its class is the first thing grouping does. -/
theorem visit_of_groupMember (x : String × String) (groups groups' : Dict String Group)
    (h : groupMember klasses c x.1 x.2 groups = .ok groups') :
    ∃ v, c.visit klasses x = .ok v := by
  unfold groupMember at h
  cases hget : c.members.get? x.2 with
  | none =>
      rw [hget] at h
      exact nomatch h
  | some node =>
      rw [hget] at h
      rcases except_bind_eq_ok _ _ _ h with ⟨klass, hklass, _⟩
      exact ⟨⟨x.1, x.2, node, klass⟩,
        (visit_ok_iff klasses c x _).mpr ⟨rfl, rfl, hget, hklass⟩⟩

theorem groupFrom_ok_iff (xs : List (String × String)) (d : Dict String (Bucket Visit))
    (groups : Dict String Group) :
    xs.foldlM (fun groups x => groupMember klasses c x.1 x.2 groups) (d.mapValues Group.ofBucket)
        = .ok groups
      ↔ ∃ vs, xs.mapM (c.visit klasses) = .ok vs
        ∧ ∃ d', groupFrom Visit.key Visit.alone notAppendable d vs = .ok d'
          ∧ groups = d'.mapValues Group.ofBucket := by
  induction xs generalizing d with
  | nil =>
      -- visiting and grouping in one loop, or one after the other
      constructor
      · intro h
        exact ⟨[], rfl, d, rfl, (Except.ok.inj h).symm⟩
      · rintro ⟨vs, hvs, d', hd', rfl⟩
        rw [← Except.ok.inj hvs] at hd'
        rw [← Except.ok.inj hd']
        rfl
  | cons x xs ih =>
      rw [List.foldlM_cons, List.mapM_cons]
      constructor
      · intro h
        rcases except_bind_eq_ok _ _ _ h with ⟨groups₁, hstep, hrest⟩
        rcases visit_of_groupMember klasses c x _ _ hstep with ⟨v, hv⟩
        rw [groupMember_ofBucket klasses c x v hv] at hstep
        rcases except_map_eq_ok _ _ _ hstep with ⟨d₁, hd₁, rfl⟩
        rcases (ih d₁).mp hrest with ⟨vs, hvs, d', hd', rfl⟩
        refine ⟨v :: vs, ?_, d', ?_, rfl⟩
        · rw [hv, hvs]
          rfl
        · rw [groupFrom, List.foldlM_cons, hd₁]
          exact hd'
      · rintro ⟨vs, hvs, d', hd', hgroups⟩
        rcases except_bind_eq_ok _ _ _ hvs with ⟨v, hv, hvs⟩
        rcases except_bind_eq_ok _ _ _ hvs with ⟨vs', hvs', hcons⟩
        rw [← Except.ok.inj hcons, groupFrom, List.foldlM_cons] at hd'
        rcases except_bind_eq_ok _ _ _ hd' with ⟨d₁, hd₁, hrest⟩
        rw [groupMember_ofBucket klasses c x v hv, hd₁]
        exact (ih d₁).mpr ⟨vs', hvs', d', hrest, hgroups⟩

/-- Grouping is grouping by keys. -/
theorem groupNodesByName_ok_iff (groups : Dict String Group) :
    groupNodesByName klasses c = .ok groups
      ↔ ∃ vs, c.visits klasses = .ok vs
        ∧ ∃ d, grouped Visit.key Visit.alone notAppendable vs = .ok d
          ∧ groups = d.mapValues Group.ofBucket :=
  groupFrom_ok_iff klasses c c.visited Dict.empty groups

variable (vs : List Visit) (hvs : c.visits klasses = .ok vs)

include hvs

theorem visits_forall₂ :
    List.Forall₂ (fun x v => c.visit klasses x = .ok v) c.visited vs :=
  (except_mapM_ok_iff _ _ _).mp hvs

/-- The names that are met. -/
theorem map_instanceName_visits : vs.map Visit.instanceName = c.visited.map Prod.snd := by
  have h := visits_forall₂ klasses c vs hvs
  generalize c.visited = xs at h
  clear hvs
  induction h with
  | nil => rfl
  | cons hv _ ih =>
      rw [List.map_cons, List.map_cons, ih, ((visit_ok_iff klasses c _ _).mp hv).2.1]

/-- What is known of a visit. -/
theorem visit_spec (v : Visit) (hv : v ∈ vs) :
    c.members.get? v.instanceName = some v.node ∧ klasses v.node.vm.klass = .ok v.klass := by
  have h := visits_forall₂ klasses c vs hvs
  generalize c.visited = xs at h
  clear hvs
  induction h with
  | nil => exact absurd hv List.not_mem_nil
  | cons hw _ ih =>
      rcases List.mem_cons.mp hv with rfl | hrest
      · rcases (visit_ok_iff klasses c _ _).mp hw with ⟨_, hinstance, hget, hklass⟩
        exact ⟨hinstance ▸ hget, hklass⟩
      · exact ih hrest

/-- An instance is put by its name alone. -/
theorem visits_identify : Identifies Visit.key Visit.alone Visit.instanceName vs := by
  constructor
  · intro x hx y hy hxy
    rcases visit_spec klasses c vs hvs x hx with ⟨hgetx, hklassx⟩
    rcases visit_spec klasses c vs hvs y hy with ⟨hgety, hklassy⟩
    have hnode : x.node = y.node := by
      rw [hxy, hgety] at hgetx
      exact (Option.some.inj hgetx).symm
    have hklass : x.klass = y.klass := by
      rw [hnode, hklassy] at hklassx
      exact (Except.ok.inj hklassx).symm
    rw [Visit.key, Visit.key, Visit.alone, Visit.alone, hnode, hklass, hxy]
    exact ⟨rfl, rfl⟩
  · intro x _ y _ hx hy hkey
    rw [Visit.alone, Bool.not_eq_true'] at hx hy
    rw [Visit.key, Visit.key, hx, hy] at hkey
    exact hkey

end Refinement

section Partition

variable (klasses : String → Except Exn Klass) (c : Cluster)

def Cluster.GroupNodes.list : GroupNodes → List Node
  | .many nodes => nodes
  | .one node => [node]

/-- The nodes of all groups. -/
def groupedNodes (groups : Dict String Group) : List Node :=
  groups.values.flatMap (fun g => g.nodes.list)

/-- The groups are a partition of the cluster: every instance name of the tree
    occurs once among their nodes, no other node occurs, and a node has the
    class of its group. -/
structure Cluster.Partitioned (klasses : String → Except Exn Klass) (c : Cluster)
    (groups : Dict String Group) : Prop where
  once : ((groupedNodes groups).map (fun n => n.vm.name)).Nodup
  all : ∀ n, n ∈ groupedNodes groups ↔ ∃ m ∈ c.treeNames, c.members.get? m = some n
  alike : ∀ g ∈ groups.values, ∀ n ∈ g.nodes.list, klasses n.vm.klass = .ok g.klass

/-- An instance name of the tree with its node and its class. -/
structure Cluster.Plays (klasses : String → Except Exn Klass) (c : Cluster) (m : String)
    (n : Node) (klass : Klass) : Prop where
  named : m ∈ c.treeNames
  member : c.members.get? m = some n
  imported : klasses n.vm.klass = .ok klass

/-- An instance of a clustered class. -/
def Cluster.isClustered (m : String) : Bool :=
  match c.members.get? m with
  | none => false
  | some n =>
      match klasses n.vm.klass with
      | .error _ => false
      | .ok klass => klass.clustered

/-- What keeps the groups apart: the classes can be imported, no instance of a
    clustered class is met on two levels, those of one role are of one class,
    and no role is the name of an instance that has a group to itself. -/
structure Cluster.Separable (klasses : String → Except Exn Klass) (c : Cluster) : Prop where
  imports : ∀ m ∈ c.treeNames, ∀ n, c.members.get? m = some n →
    ∃ klass, klasses n.vm.klass = .ok klass
  once : ((c.levelOrderGroupMembers.flatten.flatMap (split ',')).filter
    (c.isClustered klasses)).Nodup
  alike : ∀ m n klass m' n' klass', c.Plays klasses m n klass → c.Plays klasses m' n' klass' →
    klass.clustered = true → klass'.clustered = true → n.vm.role = n'.vm.role → klass = klass'
  apart : ∀ m n klass m' n' klass', c.Plays klasses m n klass → c.Plays klasses m' n' klass' →
    klass.clustered = true → klass'.clustered = false → n.vm.role ≠ m'

theorem map_snd_visited :
    c.visited.map Prod.snd = c.levelOrderGroupMembers.flatten.flatMap (split ',') := by
  rw [Cluster.visited, List.map_flatMap]
  congr 1
  funext name
  rw [List.map_map]
  exact List.map_id _

theorem mem_visited (m : String) : m ∈ c.visited.map Prod.snd ↔ m ∈ c.treeNames := by
  rw [map_snd_visited, Cluster.treeNames, List.mem_flatMap, List.mem_flatMap]
  exact exists_congr (fun name =>
    and_congr_left (fun _ => Cluster.mem_levelOrderGroupMembers c name))

theorem visits_ok (hpresent : c.Present)
    (himports : ∀ m ∈ c.treeNames, ∀ n, c.members.get? m = some n →
      ∃ klass, klasses n.vm.klass = .ok klass) : ∃ vs, c.visits klasses = .ok vs := by
  refine except_mapM_ok _ _ (fun x hx => ?_)
  have hm : x.2 ∈ c.treeNames := (mem_visited c x.2).mp (List.mem_map.mpr ⟨x, hx, rfl⟩)
  rcases hpresent x.2 hm with ⟨n, hn⟩
  rcases himports x.2 hm n hn with ⟨klass, hklass⟩
  exact ⟨⟨x.1, x.2, n, klass⟩, (visit_ok_iff klasses c x _).mpr ⟨rfl, rfl, hn, hklass⟩⟩

section Buckets

variable (vs : List Visit) (hvs : c.visits klasses = .ok vs) (d : Dict String (Bucket Visit))

theorem list_ofBucket (b : Bucket Visit) :
    (Group.ofBucket b).nodes.list = b.items.map Visit.node := by
  cases b with
  | many v vs => rfl
  | one v => rfl

theorem groupedNodes_ofBucket :
    groupedNodes (d.mapValues Group.ofBucket) = (contents d).map Visit.node := by
  rw [groupedNodes, contents, List.map_flatMap, Dict.values, Dict.values, Dict.mapValues,
    List.map_map, List.flatMap_map, List.flatMap_map]
  congr 1
  funext e
  exact list_ofBucket e.2

theorem mem_of_contents (hd : grouped Visit.key Visit.alone notAppendable vs = .ok d) (v : Visit)
    (hv : v ∈ contents d) : v ∈ vs := by
  rcases (mem_contents_iff d v).mp hv with ⟨k, b, hb, hvb⟩
  exact (mem_bucket Visit.key Visit.alone notAppendable vs d hd k b hb v hvb).1

include hvs

theorem mem_visits_names (m : String) : m ∈ vs.map Visit.instanceName ↔ m ∈ c.treeNames := by
  rw [map_instanceName_visits klasses c vs hvs]
  exact mem_visited c m

theorem visit_plays (v : Visit) (hv : v ∈ vs) :
    c.Plays klasses v.instanceName v.node v.klass := by
  rcases visit_spec klasses c vs hvs v hv with ⟨hget, hklass⟩
  exact ⟨(mem_visits_names klasses c vs hvs _).mp (List.mem_map.mpr ⟨v, hv, rfl⟩), hget, hklass⟩

theorem plays_visit (m : String) (n : Node) (klass : Klass) (h : c.Plays klasses m n klass) :
    ∃ v ∈ vs, v.instanceName = m ∧ v.node = n ∧ v.klass = klass := by
  have hm := (mem_visits_names klasses c vs hvs m).mpr h.named
  rcases List.mem_map.mp hm with ⟨v, hv, rfl⟩
  rcases visit_spec klasses c vs hvs v hv with ⟨hget, hklass⟩
  have hnode : v.node = n := Option.some.inj (hget.symm.trans h.member)
  refine ⟨v, hv, rfl, hnode, ?_⟩
  rw [hnode, h.imported] at hklass
  exact (Except.ok.inj hklass).symm

theorem name_visit (hnamed : MembersNamed c) (v : Visit) (hv : v ∈ vs) :
    v.node.vm.name = v.instanceName :=
  hnamed v.instanceName v.node (visit_spec klasses c vs hvs v hv).1

/-- The nodes of all groups are those that the buckets hold. -/
theorem once_iff (hnamed : MembersNamed c)
    (hd : grouped Visit.key Visit.alone notAppendable vs = .ok d) :
    (((groupedNodes (d.mapValues Group.ofBucket)).map (fun n => n.vm.name)).Nodup
        ∧ ∀ n, n ∈ groupedNodes (d.mapValues Group.ofBucket)
          ↔ ∃ m ∈ c.treeNames, c.members.get? m = some n)
      ↔ Once Visit.instanceName vs d := by
  have hnames : ((contents d).map Visit.node).map (fun n => n.vm.name)
      = (contents d).map Visit.instanceName := by
    rw [List.map_map]
    exact List.map_congr_left (fun v hv =>
      name_visit klasses c vs hvs hnamed v (mem_of_contents vs d hd v hv))
  rw [groupedNodes_ofBucket, hnames, Once]
  refine and_congr_right (fun _ => ⟨fun hall a => ⟨fun ha => ?_, fun ha => ?_⟩,
    fun hall n => ⟨fun hn => ?_, fun hn => ?_⟩⟩)
  · rcases List.mem_map.mp ha with ⟨v, hv, rfl⟩
    exact List.mem_map.mpr ⟨v, mem_of_contents vs d hd v hv, rfl⟩
  · -- the node of a visit is in some bucket, and its name tells which visit that is
    rcases List.mem_map.mp ha with ⟨v, hv, rfl⟩
    have hnode : v.node ∈ (contents d).map Visit.node :=
      (hall v.node).mpr ⟨v.instanceName, (mem_visits_names klasses c vs hvs _).mp ha,
        (visit_spec klasses c vs hvs v hv).1⟩
    rcases List.mem_map.mp hnode with ⟨w, hw, hwv⟩
    refine List.mem_map.mpr ⟨w, hw, ?_⟩
    rw [← name_visit klasses c vs hvs hnamed w (mem_of_contents vs d hd w hw), hwv]
    exact name_visit klasses c vs hvs hnamed v hv
  · rcases List.mem_map.mp hn with ⟨v, hv, rfl⟩
    have hplays := visit_plays klasses c vs hvs v (mem_of_contents vs d hd v hv)
    exact ⟨v.instanceName, hplays.named, hplays.member⟩
  · rcases hn with ⟨m, hm, hget⟩
    have hmet := (hall m).mpr ((mem_visits_names klasses c vs hvs m).mpr hm)
    rcases List.mem_map.mp hmet with ⟨v, hv, rfl⟩
    have hspec := (visit_spec klasses c vs hvs v (mem_of_contents vs d hd v hv)).1
    exact List.mem_map.mpr ⟨v, hv, Option.some.inj (hspec.symm.trans hget)⟩

/-- No identity that shares is met twice, in the words of the cluster. -/
theorem sharedOnce_iff :
    SharedOnce Visit.alone Visit.instanceName vs
      ↔ ((c.levelOrderGroupMembers.flatten.flatMap (split ',')).filter
          (c.isClustered klasses)).Nodup := by
  rw [← map_snd_visited, ← map_instanceName_visits klasses c vs hvs, List.filter_map, List.Nodup,
    List.pairwise_map, List.pairwise_filter, SharedOnce]
  have hclustered : ∀ v ∈ vs, c.isClustered klasses v.instanceName = !v.alone := by
    intro v hv
    rcases visit_spec klasses c vs hvs v hv with ⟨hget, hklass⟩
    unfold Cluster.isClustered
    rw [hget]
    dsimp only
    rw [hklass, Visit.alone, Bool.not_not]
  refine List.Pairwise.iff_of_mem (fun {x y} hx hy => ⟨fun h hxc _ => h ?_, fun h hxs heq => ?_⟩)
  · rw [Function.comp_apply, hclustered x hx] at hxc
    simpa using hxc
  · have hxc : c.isClustered klasses x.instanceName = true := by
      rw [hclustered x hx, hxs]
      rfl
    have hyc : c.isClustered klasses y.instanceName = true := heq ▸ hxc
    exact h hxc hyc heq

theorem keysApart_iff :
    KeysApart Visit.key Visit.alone vs
      ↔ ∀ m n klass m' n' klass', c.Plays klasses m n klass → c.Plays klasses m' n' klass' →
        klass.clustered = true → klass'.clustered = false → n.vm.role ≠ m' := by
  constructor
  · intro h m n klass m' n' klass' hm hm' hklass hklass'
    rcases plays_visit klasses c vs hvs m n klass hm with ⟨v, hv, _, rfl, rfl⟩
    rcases plays_visit klasses c vs hvs m' n' klass' hm' with ⟨v', hv', rfl, _, rfl⟩
    have hkey := h v hv v' hv' (by rw [Visit.alone, hklass]; rfl)
      (by rw [Visit.alone, hklass']; rfl)
    rw [Visit.key, Visit.key, hklass, hklass'] at hkey
    exact hkey
  · intro h x hx y hy hxs hya
    rw [Visit.alone, Bool.not_eq_false'] at hxs
    rw [Visit.alone, Bool.not_eq_true'] at hya
    rw [Visit.key, Visit.key, hxs, hya]
    exact h _ _ _ _ _ _ (visit_plays klasses c vs hvs x hx) (visit_plays klasses c vs hvs y hy)
      hxs hya

/-- The nodes of a group have its class. -/
theorem alike_iff (hd : grouped Visit.key Visit.alone notAppendable vs = .ok d)
    (honce : Once Visit.instanceName vs d) :
    (∀ g ∈ (d.mapValues Group.ofBucket).values, ∀ n ∈ g.nodes.list,
        klasses n.vm.klass = .ok g.klass)
      ↔ ∀ m n klass m' n' klass', c.Plays klasses m n klass → c.Plays klasses m' n' klass' →
        klass.clustered = true → klass'.clustered = true → n.vm.role = n'.vm.role →
        klass = klass' := by
  have hvalues : ∀ g, g ∈ (d.mapValues Group.ofBucket).values
      ↔ ∃ k b, d.get? k = some b ∧ g = Group.ofBucket b := by
    intro g
    rw [Dict.mem_values_iff]
    refine exists_congr (fun k => ?_)
    rw [Dict.get?_mapValues, Option.map_eq_some_iff]
    exact exists_congr (fun b => and_congr_right (fun _ => eq_comm))
  have hbucket : ∀ m n klass, c.Plays klasses m n klass → klass.clustered = true →
      ∃ b, d.get? n.vm.role = some b ∧ n ∈ (Group.ofBucket b).nodes.list := by
    intro m n klass hm hklass
    have hmet := (honce.2 m).mpr ((mem_visits_names klasses c vs hvs m).mpr hm.named)
    rcases List.mem_map.mp hmet with ⟨v, hv, rfl⟩
    rcases (mem_contents_iff d v).mp hv with ⟨k, b, hb, hvb⟩
    have hmem := mem_bucket Visit.key Visit.alone notAppendable vs d hd k b hb v hvb
    rcases visit_spec klasses c vs hvs v hmem.1 with ⟨hget, hvk⟩
    have hnode : v.node = n := Option.some.inj (hget.symm.trans hm.member)
    have hvklass : v.klass = klass := by
      rw [hnode, hm.imported] at hvk
      exact (Except.ok.inj hvk).symm
    have hkey : n.vm.role = k := by
      rw [← hmem.2, Visit.key, hvklass, hklass, hnode]
      rfl
    refine ⟨b, hkey ▸ hb, ?_⟩
    rw [list_ofBucket]
    exact List.mem_map.mpr ⟨v, hvb, hnode⟩
  constructor
  · intro h m n klass m' n' klass' hm hm' hklass hklass' hrole
    rcases hbucket m n klass hm hklass with ⟨b, hb, hn⟩
    rcases hbucket m' n' klass' hm' hklass' with ⟨b', hb', hn'⟩
    rw [hrole, hb'] at hb
    rw [← Option.some.inj hb] at hn
    have hg := (hvalues (Group.ofBucket b')).mpr ⟨_, b', hb', rfl⟩
    have hk := (h _ hg n hn).symm.trans hm.imported
    have hk' := (h _ hg n' hn').symm.trans hm'.imported
    exact (Except.ok.inj hk).symm.trans (Except.ok.inj hk')
  · intro h g hg n hn
    rcases (hvalues g).mp hg with ⟨k, b, hb, rfl⟩
    rw [list_ofBucket] at hn
    rcases List.mem_map.mp hn with ⟨v, hv, rfl⟩
    rcases mem_bucket Visit.key Visit.alone notAppendable vs d hd k b hb v hv with ⟨hvs', hvk⟩
    have hspec := (visit_spec klasses c vs hvs v hvs').2
    rcases b with ⟨x, xs⟩ | x
    · -- all of them are clustered and of one role, so they are of the class of the first
      have hshare := sharing_of_many Visit.key Visit.alone notAppendable vs d hd k x xs hb
      have hx : x ∈ x :: xs := List.mem_cons_self
      rcases mem_bucket Visit.key Visit.alone notAppendable vs d hd k _ hb x hx with ⟨hxs, hxk⟩
      have hvc : v.klass.clustered = true := by simpa [Visit.alone] using hshare v hv
      have hxc : x.klass.clustered = true := by simpa [Visit.alone] using hshare x hx
      rw [← hvk, Visit.key, Visit.key, hvc, hxc] at hxk
      have heq := h _ _ _ _ _ _ (visit_plays klasses c vs hvs x hxs)
        (visit_plays klasses c vs hvs v hvs') hxc hvc hxk
      rw [hspec, ← heq]
      rfl
    · rw [List.mem_singleton.mp hv] at hspec ⊢
      exact hspec

end Buckets

/-- When the groups are a partition. -/
theorem partitioned_iff (hpresent : c.Present) (hnamed : MembersNamed c) :
    (∃ groups, groupNodesByName klasses c = .ok groups ∧ c.Partitioned klasses groups)
      ↔ c.Separable klasses := by
  constructor
  · rintro ⟨groups, hgroups, hpart⟩
    rcases (groupNodesByName_ok_iff klasses c groups).mp hgroups with ⟨vs, hvs, d, hd, rfl⟩
    have honce := (once_iff klasses c vs hvs d hnamed hd).mp ⟨hpart.once, hpart.all⟩
    have hkeys := (grouped_once_iff Visit.key Visit.alone notAppendable Visit.instanceName vs
      (visits_identify klasses c vs hvs)).mp ⟨d, hd, honce⟩
    constructor
    · intro m hm n hn
      rcases List.mem_map.mp ((mem_visits_names klasses c vs hvs m).mpr hm) with ⟨v, hv, rfl⟩
      rcases visit_spec klasses c vs hvs v hv with ⟨hget, hklass⟩
      rw [hn] at hget
      exact ⟨v.klass, Option.some.inj hget ▸ hklass⟩
    · exact (sharedOnce_iff klasses c vs hvs).mp hkeys.2
    · exact (alike_iff klasses c vs hvs d hd honce).mp hpart.alike
    · exact (keysApart_iff klasses c vs hvs).mp hkeys.1
  · intro h
    rcases visits_ok klasses c hpresent h.imports with ⟨vs, hvs⟩
    have hkeys := (keysApart_iff klasses c vs hvs).mpr h.apart
    have hshared := (sharedOnce_iff klasses c vs hvs).mpr h.once
    rcases (grouped_once_iff Visit.key Visit.alone notAppendable Visit.instanceName vs
      (visits_identify klasses c vs hvs)).mpr ⟨hkeys, hshared⟩ with ⟨d, hd, honce⟩
    rcases (once_iff klasses c vs hvs d hnamed hd).mpr honce with ⟨hnodup, hall⟩
    exact ⟨_, (groupNodesByName_ok_iff klasses c _).mpr ⟨vs, hvs, d, hd, rfl⟩, hnodup, hall,
      (alike_iff klasses c vs hvs d hd honce).mpr h.alike⟩

end Partition

section Examples

/-- Three classes of the implementations. -/
def shippedKlasses : String → Except Exn Klass
  | "driver.BaseDriver" => .ok ⟨"BaseDriver", false, false⟩
  | "proxy.Maxscale" => .ok ⟨"Maxscale", true, false⟩
  | "backend.Xpand" => .ok ⟨"Xpand", true, true⟩
  | "backend.MySQLServer" => .ok ⟨"MySQLServer", false, true⟩
  | klass => .error ⟨.attributeError, klass⟩

/-- A machine of a component. -/
def componentNode (name role klass : String) : Node where
  vm :=
    { env := "env_0", cloud := "aws", clusterName := "c1", name := name, role := role
      klass := klass, klassConfigLabel := "default", instanceType := "c5.large", zone := "a"
      osType := "CentOS7", managed := true, provisioned := true, arch := "x86_64"
      keyFile := "k", pubFile := "", storage := none, storageList := [], network := none
      placementGroup := none, id := none, sshUser := "centos" }

/-- A cluster of some nodes in a tree. -/
def clusterOfNodes (tree : List (Tree String)) (nodes : List Node) : Cluster where
  clusterName := "c1"
  state := .allocated
  topo := "topo"
  envs := [⟨"env_0", "aws", "aws.AWS", "us-west-2"⟩]
  members := Dict.ofList (nodes.map (fun n => (n.vm.name, n)))
  clusterTree := .node "cluster" tree
  topoMap := Dict.empty
  bt := .new "" "" "" "" 0
  sharedStorage := []

theorem membersNamed_ofNodes (tree : List (Tree String)) (nodes : List Node) :
    MembersNamed (clusterOfNodes tree nodes) := by
  intro k n hn
  have hset : (clusterOfNodes tree nodes).members
      = Dict.setAllBy (fun n => n.vm.name) Dict.empty nodes := rfl
  rw [hset] at hn
  rcases (Dict.get?_setAllBy (fun n : Node => n.vm.name) Dict.empty nodes k n).mp hn with h | h
  · exact h.1
  · rw [Dict.get?_empty] at h
    exact nomatch h.2

/-- A driver with a backend of two nodes. -/
def twoNodes : Cluster :=
  clusterOfNodes [.node "driver-0" [.node "backend-0,backend-1" []]]
    [componentNode "driver-0" "driver" "driver.BaseDriver",
      componentNode "backend-0" "backend" "backend.Xpand",
      componentNode "backend-1" "backend" "backend.Xpand"]

/-- The parts of that cluster. -/
def twoNodesCast : List (String × Node × Klass) :=
  [("driver-0", componentNode "driver-0" "driver" "driver.BaseDriver",
      ⟨"BaseDriver", false, false⟩),
    ("backend-0", componentNode "backend-0" "backend" "backend.Xpand", ⟨"Xpand", true, true⟩),
    ("backend-1", componentNode "backend-1" "backend" "backend.Xpand", ⟨"Xpand", true, true⟩)]

theorem twoNodes_names : twoNodes.treeNames = ["driver-0", "backend-0", "backend-1"] := rfl

theorem twoNodes_cast (m : String) (hm : m ∈ twoNodes.treeNames) :
    ∃ x ∈ twoNodesCast, x.1 = m ∧ twoNodes.members.get? m = some x.2.1
      ∧ shippedKlasses x.2.1.vm.klass = .ok x.2.2 := by
  rw [twoNodes_names] at hm
  rcases List.mem_cons.mp hm with rfl | hm
  · exact ⟨_, List.mem_cons_self, rfl, rfl, rfl⟩
  rcases List.mem_cons.mp hm with rfl | hm
  · exact ⟨_, List.mem_cons_of_mem _ List.mem_cons_self, rfl, rfl, rfl⟩
  rcases List.mem_singleton.mp hm with rfl
  exact ⟨_, List.mem_cons_of_mem _ (List.mem_cons_of_mem _ List.mem_cons_self), rfl, rfl, rfl⟩

theorem twoNodes_plays (m : String) (n : Node) (klass : Klass)
    (h : twoNodes.Plays shippedKlasses m n klass) : (m, n, klass) ∈ twoNodesCast := by
  rcases twoNodes_cast m h.named with ⟨⟨m', n', klass'⟩, hx, rfl, hget, hklass⟩
  have hn : n' = n := Option.some.inj (hget.symm.trans h.member)
  subst hn
  have hk : klass' = klass := Except.ok.inj (hklass.symm.trans h.imported)
  exact hk ▸ hx

theorem twoNodes_present : twoNodes.Present := by
  intro m hm
  rcases twoNodes_cast m hm with ⟨x, _, _, hget, _⟩
  exact ⟨x.2.1, hget⟩

/-- Its groups are a driver and a backend. -/
theorem twoNodes_partitioned :
    ∃ groups, groupNodesByName shippedKlasses twoNodes = .ok groups
      ∧ twoNodes.Partitioned shippedKlasses groups := by
  refine (partitioned_iff shippedKlasses twoNodes twoNodes_present
    (membersNamed_ofNodes _ _)).mpr ⟨fun m hm n hn => ?_, ?_, ?_, ?_⟩
  · rcases twoNodes_cast m hm with ⟨x, _, _, hget, hklass⟩
    rw [hn] at hget
    exact ⟨x.2.2, Option.some.inj hget ▸ hklass⟩
  · have hshared : (twoNodes.levelOrderGroupMembers.flatten.flatMap (split ',')).filter
      (twoNodes.isClustered shippedKlasses) = ["backend-0", "backend-1"] := rfl
    rw [hshared]
    decide
  · intro m n klass m' n' klass' h h'
    exact (by decide : ∀ x ∈ twoNodesCast, ∀ y ∈ twoNodesCast, x.2.2.clustered = true →
      y.2.2.clustered = true → x.2.1.vm.role = y.2.1.vm.role → x.2.2 = y.2.2)
      _ (twoNodes_plays m n klass h) _ (twoNodes_plays m' n' klass' h')
  · intro m n klass m' n' klass' h h'
    exact (by decide : ∀ x ∈ twoNodesCast, ∀ y ∈ twoNodesCast, x.2.2.clustered = true →
      y.2.2.clustered = false → x.2.1.vm.role ≠ y.1)
      _ (twoNodes_plays m n klass h) _ (twoNodes_plays m' n' klass' h')

/-- A driver with a backend behind a proxy, and the same backend next to the
    proxy. -/
def twoLevels : Cluster :=
  clusterOfNodes
    [.node "driver-0" [.node "proxy-0" [.node "backend-0" []], .node "backend-0" []]]
    [componentNode "driver-0" "driver" "driver.BaseDriver",
      componentNode "proxy-0" "proxy" "proxy.Maxscale",
      componentNode "backend-0" "backend" "backend.Xpand"]

/-- The backend is a node of its own cluster twice. -/
theorem twoLevels_twice :
    twoLevels.Present ∧ MembersNamed twoLevels
      ∧ ¬ ∃ groups, groupNodesByName shippedKlasses twoLevels = .ok groups
        ∧ twoLevels.Partitioned shippedKlasses groups := by
  refine ⟨?_, membersNamed_ofNodes _ _, ?_⟩
  · intro m hm
    have hnames : twoLevels.treeNames = ["driver-0", "proxy-0", "backend-0", "backend-0"] := rfl
    have hall : ∀ m ∈ ["driver-0", "proxy-0", "backend-0", "backend-0"],
        (twoLevels.members.get? m).isSome = true := by decide
    exact Option.isSome_iff_exists.mp (hall m (hnames ▸ hm))
  · rintro ⟨groups, hgroups, hpart⟩
    have hrun : (groupNodesByName shippedKlasses twoLevels).map
      (fun groups => (groupedNodes groups).map (fun n => n.vm.name))
        = .ok ["driver-0", "proxy-0", "backend-0", "backend-0"] := rfl
    rw [hgroups] at hrun
    have hnodup := hpart.once
    have hnames : (groupedNodes groups).map (fun n => n.vm.name)
        = ["driver-0", "proxy-0", "backend-0", "backend-0"] := Except.ok.inj hrun
    rw [hnames] at hnodup
    exact absurd hnodup (by decide)

end Examples

end Xbench
