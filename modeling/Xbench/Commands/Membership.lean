import Xbench.Commands.Allocation
import Xbench.Commands.Topology

/-!
# Members of an Allocated Cluster

The invariant that everything after an allocation uses without a check: the
keys of the members are the names the topology stands for, and every node is
under its own key.

An environment returns one node for each instance of each component it
describes, which is the statement about launching for the names of its
requests. Two provisos remain from below. A topology must be proper, or the
names do not survive the joining and splitting; and an environment on a cloud
that launches a single instance must not be asked for two.

A component that two environments describe is launched in both, under the same
names, and the later node takes the key. `Complete` counts for that reason by
environment: with one environment that describes a component, the count is
one.

## Main definitions

* `describedNames`: The instances of the components an environment describes.
* `WithinReach`: No single-instance cloud is asked for two.
* `Complete`: The invariant.

## Theorems

* `envNames_perm`: The expected names are those described.
* `attempts_ok`: A successful allocation reached every environment.
* `returned_perm`: What an environment returned.
* `describedNames_nodup`: An environment is asked for each name once.
* `allocate_complete`: A successful allocation is complete.
-/

namespace Xbench

open Effect
open Text

section Described

variable (env : EnvironmentComponents) (topoMap : Dict String String)

/-- The instances of the components an environment describes. -/
def describedNames : List String :=
  topoMap.entries.flatMap (fun e => if describes env e.1 then split ',' e.2 else [])

theorem mem_describedNames (name : String) :
    name ∈ describedNames env topoMap
      ↔ ∃ component joined, topoMap.get? component = some joined
        ∧ describes env component = true ∧ name ∈ split ',' joined := by
  rw [describedNames, List.mem_flatMap]
  constructor
  · rintro ⟨⟨component, joined⟩, he, hname⟩
    by_cases hdesc : describes env component = true
    · rw [if_pos hdesc] at hname
      exact ⟨component, joined, (Dict.mem_entries_iff topoMap _ _).mp he, hdesc, hname⟩
    · rw [if_neg hdesc] at hname
      exact absurd hname List.not_mem_nil
  · rintro ⟨component, joined, hget, hdesc, hname⟩
    refine ⟨(component, joined), (Dict.mem_entries_iff topoMap _ _).mpr hget, ?_⟩
    rw [if_pos hdesc]
    exact hname

/-- The requests carry the described names. -/
theorem map_requestName_requests :
    (requests env topoMap).map requestName = describedNames env topoMap := by
  rw [requests, describedNames, List.map_flatMap]
  refine List.flatMap_congr (fun e _ => ?_)
  unfold describes
  cases env.getComponentParams e.1 with
  | none => rfl
  | some params =>
      have hname : requestName ∘ (fun implName => request env e.1 implName params) = id :=
        funext fun implName => (request_requested env e.1 implName params).2
      simp only [List.map_map, hname, List.map_id, Option.isSome_some, if_true]

/-- The expected names are those described, unless a cloud that launches a
    single instance is asked for more. -/
theorem envNames_perm (t : CloudType) (ht : CloudType.fromString env.env.cloud = .ok t)
    (hsingle : singleInstance t = true → (instancesToLaunch env topoMap).length ≤ 1) :
    (envNames env topoMap).Perm (describedNames env topoMap) := by
  rw [envNames, ht]
  dsimp only
  rw [returnedNames_all t _ hsingle, ← List.map_append, ← map_requestName_requests]
  exact (List.filter_append_perm isProvisioned (requests env topoMap)).map requestName

/-- The components of a topology map stand for their own instance names. -/
def StandsForNames : Prop :=
  ∀ component joined, topoMap.get? component = some joined →
    ∃ count, split ',' joined = componentNames component count

theorem describedNames_nodup (h : StandsForNames topoMap) :
    (describedNames env topoMap).Nodup := by
  rw [describedNames, List.nodup_flatMap]
  constructor
  · rintro ⟨component, joined⟩ he
    rcases h component joined ((Dict.mem_entries_iff topoMap _ _).mp he) with ⟨count, hsplit⟩
    by_cases hdesc : describes env component = true
    · simp only [hdesc, if_true, hsplit]
      exact componentNames_nodup component count
    · simp only [hdesc, Bool.false_eq_true, if_false, List.nodup_nil]
  · have hkeys : topoMap.entries.Pairwise (fun e e' => e.1 ≠ e'.1) :=
      List.pairwise_map.mp topoMap.nodup
    refine hkeys.imp_of_mem (fun {e e'} he he' hne => ?_)
    rintro name hname hname'
    -- a shared name would make the two components the same
    have hmem : ∀ x ∈ topoMap.entries,
        name ∈ (if describes env x.1 then split ',' x.2 else []) →
        ∃ count, name ∈ componentNames x.1 count := by
      intro x hx hx'
      rcases h x.1 x.2 ((Dict.mem_entries_iff topoMap _ _).mp hx) with ⟨count, hsplit⟩
      by_cases hdesc : describes env x.1 = true
      · rw [if_pos hdesc, hsplit] at hx'
        exact ⟨count, hx'⟩
      · rw [if_neg hdesc] at hx'
        exact absurd hx' List.not_mem_nil
    rcases hmem e he hname with ⟨m, hm⟩
    rcases hmem e' he' hname' with ⟨n, hn⟩
    exact hne (names_disjoint e.1 e'.1 m n name hm hn)

/-- An environment is asked for an instance once if it describes its
    component, and not at all otherwise. -/
theorem count_describedNames (h : StandsForNames topoMap) (component joined : String)
    (count i : Nat) (hget : topoMap.get? component = some joined)
    (hsplit : split ',' joined = componentNames component count) (hi : i < count) :
    (describedNames env topoMap).count (numbered component i)
      = if describes env component then 1 else 0 := by
  have hself : numbered component i ∈ componentNames component count :=
    (mem_componentNames component _ count).mpr ⟨i, hi, rfl⟩
  by_cases hdesc : describes env component = true
  · rw [if_pos hdesc]
    refine List.count_eq_one_of_mem (describedNames_nodup env topoMap h) ?_
    rw [mem_describedNames]
    exact ⟨component, joined, hget, hdesc, hsplit ▸ hself⟩
  · rw [if_neg hdesc]
    refine List.count_eq_zero_of_not_mem (fun hmem => ?_)
    rcases (mem_describedNames env topoMap _).mp hmem with ⟨component', joined', hget', hdesc', hn⟩
    rcases h component' joined' hget' with ⟨count', hsplit'⟩
    rw [hsplit'] at hn
    rw [← names_disjoint component component' count count' _ hself hn] at hdesc'
    exact hdesc hdesc'

end Described

/-- No cloud that launches a single instance is asked for two. -/
def WithinReach (envs : List EnvironmentComponents) (topoMap : Dict String String) : Prop :=
  ∀ env ∈ envs, ∀ t, CloudType.fromString env.env.cloud = .ok t → singleInstance t = true →
    (instancesToLaunch env topoMap).length ≤ 1

section Attempts

variable (self : Provisioning) (out : Outside)

theorem allocateEnv_cloudType (env : EnvironmentComponents) (provisionedClouds : List String)
    (topoMap : Dict String String) (launched : Launched)
    (h : (self.allocateEnv out env provisionedClouds topoMap).result = .ok launched) :
    ∃ t, CloudType.fromString env.env.cloud = .ok t := by
  unfold Provisioning.allocateEnv at h
  rcases bind_result_ok _ _ _ h with ⟨_, _, h⟩
  rcases bind_result_ok _ _ _ h with ⟨cloud, hcloud, _⟩
  rcases except_bind_eq_ok _ _ _ hcloud with ⟨t, ht, _⟩
  exact ⟨t, ht⟩

/-- A successful allocation reached every environment, and none of them missed
    a node. -/
theorem attempts_ok (envs : List EnvironmentComponents) (provisionedClouds : List String)
    (c c' : Cluster) (h : (self.allocateEnvs out envs provisionedClouds c).result = .ok c') :
    (self.attempts out c.topoMap envs provisionedClouds).map Prod.fst = envs
      ∧ ∀ a ∈ self.attempts out c.topoMap envs provisionedClouds,
        ∃ launched, a.2.result = .ok launched ∧ none ∉ launched.nodes := by
  induction envs generalizing provisionedClouds c with
  | nil => exact ⟨rfl, fun a ha => absurd ha List.not_mem_nil⟩
  | cons env envs ih =>
      rw [Provisioning.allocateEnvs] at h
      rcases bind_result_ok _ _ _ h with ⟨launched, hx, h⟩
      by_cases hnone : none ∈ launched.nodes
      · rw [if_pos hnone] at h
        cases h
      · rw [if_neg hnone] at h
        rcases bind_result_ok _ _ _ h with ⟨_, _, h⟩
        have htopo : (joined c env launched).topoMap = c.topoMap :=
          (joinNodes_members _ launched.nodes).2.2.2.1
        have hrest := ih (seen env provisionedClouds) (joined c env launched) h
        rw [htopo] at hrest
        rw [Provisioning.attempts]
        simp only [hx, if_neg hnone]
        refine ⟨by rw [List.map_cons, hrest.1], fun a ha => ?_⟩
        rcases List.mem_cons.mp ha with rfl | ha
        · exact ⟨launched, hx, hnone⟩
        · exact hrest.2 a ha

/-- What an environment returned: the instances it describes, each once. -/
theorem returned_perm (envs : List EnvironmentComponents) (provisionedClouds : List String)
    (c c' : Cluster) (h : (self.allocateEnvs out envs provisionedClouds c).result = .ok c')
    (hreach : WithinReach envs c.topoMap)
    (a : EnvironmentComponents × Command Launched)
    (ha : a ∈ self.attempts out c.topoMap envs provisionedClouds) :
    ((returned a.2).map nodeName).Perm (describedNames a.1 c.topoMap) := by
  rcases mem_attempts self out c.topoMap envs provisionedClouds a ha with ⟨henv, seenClouds, heq⟩
  rcases (attempts_ok self out envs provisionedClouds c c' h).2 a ha with
    ⟨launched, hres, hnone⟩
  have hnames : (returned a.2).map nodeName = nodeNames launched.nodes := by
    rw [returned, hres, nodeNames]
    dsimp only
    rw [List.map_filterMap]
    rfl
  rw [hnames]
  rw [heq] at hres
  rcases allocateEnv_cloudType self out a.1 seenClouds c.topoMap launched hres with ⟨t, ht⟩
  have hspec := (allocateEnv_spec self out a.1 seenClouds c.topoMap).result launched hres
  exact (hspec.names hnone).trans (envNames_perm a.1 c.topoMap t ht (hreach a.1 henv t ht))

end Attempts

/-- The invariant of an allocated cluster. The count of an instance is the
    number of environments that describe its component; a node is under its
    own key unless a later environment describes its component too; and the
    keys are the names of the topology map and of the tree. -/
structure Complete (p : Provisioning) (c : Cluster) (as : Attempts) (c' : Cluster) : Prop where
  launched : ∀ component params count, component ∈ c.topoMap.keys →
    p.getComponentParams component = .ok params → pyInt (params.read "count") = .ok count →
    ∀ i < count.toNat, (as.nodes.map nodeName).count (numbered component i)
      = (p.envs.filter (fun env => describes env component)).length
  value : ∀ pre a post, as = pre ++ a :: post → ∀ n ∈ returned a.2,
    (∀ b ∈ post, nodeName n ∉ describedNames b.1 c.topoMap) →
    c'.members.get? (nodeName n) = some n
  keys : ∀ name, name ∈ c'.members.keys
    ↔ ∃ component joined, c.topoMap.get? component = some joined ∧ name ∈ split ',' joined
  tree : ∀ name, name ∈ c'.members.keys ↔ name ∈ c'.treeNames
  drivers : ∀ l, c'.getAllDriverNodes = .ok l → none ∉ l
  backends : ∀ l, c'.getBackendNodes = .ok l → none ∉ l
  groups : ∀ klasses e, Cluster.groupNodesByName klasses c' = .error e →
    (∃ klass, klasses klass = .error e) ∨ e = Cluster.notAppendable

section Complete

/-- Each environment counts once if it is one of the kind. -/
theorem count_nodes (as : Attempts) (name : String) (kind : EnvironmentComponents → Bool)
    (h : ∀ a ∈ as, ((returned a.2).map nodeName).count name = if kind a.1 then 1 else 0) :
    (as.nodes.map nodeName).count name = ((as.map Prod.fst).filter kind).length := by
  induction as with
  | nil => rfl
  | cons a as ih =>
      have hcons : Attempts.nodes (a :: as) = returned a.2 ++ Attempts.nodes as := List.flatMap_cons
      rw [hcons, List.map_append, List.count_append, h a List.mem_cons_self,
        ih (fun b hb => h b (List.mem_cons_of_mem a hb)), List.map_cons]
      by_cases hkind : kind a.1 = true
      · rw [if_pos hkind, List.filter_cons_of_pos hkind, List.length_cons, Nat.add_comm]
      · rw [if_neg hkind, List.filter_cons_of_neg hkind, Nat.zero_add]

/-- A node is the last with its name when its environment returned the name
    once and no later environment returned it. -/
theorem lastWith_nodes (as pre post : Attempts) (a : EnvironmentComponents × Command Launched)
    (n : Node) (has : as = pre ++ a :: post) (hn : n ∈ returned a.2)
    (hnodup : ((returned a.2).map nodeName).Nodup)
    (hpost : ∀ b ∈ post, nodeName n ∉ (returned b.2).map nodeName) :
    Dict.LastWith nodeName n as.nodes := by
  rcases List.mem_iff_append.mp hn with ⟨front, back, hsplit⟩
  refine ⟨Attempts.nodes pre ++ front, back ++ Attempts.nodes post, ?_, fun w hw => ?_⟩
  · rw [has, Attempts.nodes, List.flatMap_append, List.flatMap_cons, hsplit]
    simp only [Attempts.nodes, List.append_assoc, List.cons_append]
  · rcases List.mem_append.mp hw with hw | hw
    · rw [hsplit, List.map_append, List.map_cons] at hnodup
      have hback := (List.nodup_cons.mp (List.nodup_append.mp hnodup).2.1).1
      exact fun h => hback (h ▸ List.mem_map.mpr ⟨w, hw, rfl⟩)
    · rcases List.mem_flatMap.mp hw with ⟨b, hb, hwb⟩
      exact fun h => hpost b hb (h ▸ List.mem_map.mpr ⟨w, hwb, rfl⟩)

variable (self : Provisioning) (out : Outside)

/-- The loop over the environments, from a configured cluster. -/
theorem allocateEnvs_complete (topo : Value) (dir : ClustersDir) (c c' : Cluster)
    (hproper : Proper self topo) (hconf : IsConfigured self topo c) (hshows : Shows dir c)
    (hreach : WithinReach self.envs c.topoMap)
    (h : (self.allocateEnvs out self.envs [] c).result = .ok c') :
    Complete self c (self.attempts out c.topoMap self.envs []) c' := by
  have haccounts := (allocateEnvs_accounts self out self.envs [] c dir hshows).returns c' h
  have hperm := returned_perm self out self.envs [] c c' h hreach
  have henvs := (attempts_ok self out self.envs [] c c' h).1
  have hstands := standsFor_of_configured self topo c hproper hconf
  have hnames : StandsForNames c.topoMap := by
    intro component joined hget
    rcases (hstands component joined hget).2 with ⟨count, hcount⟩
    exact ⟨count.toNat, hcount.names⟩
  have hmembers := haccounts.members
  rw [hconf.members] at hmembers
  -- the keys of the members are the names that came back
  have hkeys : ∀ name, name ∈ c'.members.keys
      ↔ ∃ component joined, c.topoMap.get? component = some joined ∧ name ∈ split ',' joined := by
    intro name
    rw [hmembers, Dict.mem_keys_setAllBy]
    constructor
    · rintro (⟨n, hn, hname⟩ | hold)
      · rcases List.mem_flatMap.mp hn with ⟨a, ha, hna⟩
        have hmem := (hperm a ha).mem_iff.mp (List.mem_map.mpr ⟨n, hna, hname⟩)
        rcases (mem_describedNames a.1 c.topoMap name).mp hmem with ⟨component, joined, hget, _, hs⟩
        exact ⟨component, joined, hget, hs⟩
      · exact absurd hold List.not_mem_nil
    · rintro ⟨component, joined, hget, hname⟩
      rcases (hstands component joined hget).2 with ⟨count, hcount⟩
      rcases hcount.described with ⟨env, henv, hdesc⟩
      rw [← henvs] at henv
      rcases List.mem_map.mp henv with ⟨a, ha, rfl⟩
      have hmem := (mem_describedNames a.1 c.topoMap name).mpr
        ⟨component, joined, hget, hdesc, hname⟩
      rcases List.mem_map.mp ((hperm a ha).mem_iff.mpr hmem) with ⟨n, hn, hnname⟩
      exact Or.inl ⟨n, List.mem_flatMap.mpr ⟨a, ha, hn⟩, hnname⟩
  have htree : ∀ name, name ∈ c'.members.keys ↔ name ∈ c'.treeNames := by
    intro name
    have hnames' : c'.treeNames = c.treeNames := by
      rw [Cluster.treeNames, Cluster.treeNames, haccounts.clusterTree]
    rw [hkeys, hnames']
    exact (mem_treeNames_iff self topo c hproper hconf name).symm
  have hpresent : c'.Present := by
    intro name hname
    exact Option.isSome_iff_exists.mp ((Dict.mem_keys_iff _ name).mp ((htree name).mpr hname))
  refine ⟨?_, ?_, hkeys, htree, c'.getAllDriverNodes_present hpresent,
    c'.getBackendNodes_present hpresent,
    fun klasses e => Cluster.groupNodesByName_error klasses c' hpresent e⟩
  · intro component params count hkey hparams hcount i hi
    rw [Dict.mem_keys_iff, Option.isSome_iff_exists] at hkey
    rcases hkey with ⟨joined, hget⟩
    rcases (hstands component joined hget).2 with ⟨count', hcount'⟩
    rcases hcount'.counted with ⟨params', hparams', hc'⟩
    -- the same parameters, hence the same count
    rw [hparams, Except.ok.injEq] at hparams'
    rw [← hparams', hcount, Except.ok.injEq] at hc'
    rw [← hc'] at hcount'
    have hcounts := count_nodes (self.attempts out c.topoMap self.envs [])
      (numbered component i) (fun env => describes env component) (fun a ha => by
        rw [(hperm a ha).count_eq]
        exact count_describedNames a.1 c.topoMap hnames component joined count.toNat i hget
          hcount'.names hi)
    rw [henvs] at hcounts
    exact hcounts
  · intro pre a post has n hn hpost
    have ha : a ∈ self.attempts out c.topoMap self.envs [] := by
      rw [has]
      exact List.mem_append_right pre List.mem_cons_self
    rw [hmembers, Dict.get?_setAllBy]
    refine Or.inl ⟨rfl, lastWith_nodes _ pre post a n has hn ?_ (fun b hb => ?_)⟩
    · exact (hperm a ha).nodup_iff.mpr (describedNames_nodup a.1 c.topoMap hnames)
    · have hb' : b ∈ self.attempts out c.topoMap self.envs [] := by
        rw [has]
        exact List.mem_append_right pre (List.mem_cons_of_mem a hb)
      exact fun hmem => hpost b hb ((hperm b hb').mem_iff.mp hmem)

theorem asFile_of_empty (c : Cluster) (h : c.members = Dict.empty) (hbt : c.bt.asSaved = c.bt) :
    c.asFile = c := by
  rcases c with ⟨clusterName, state, topo, envs, members, tree, topoMap, bt, sharedStorage⟩
  dsimp only at h hbt
  subst h
  rw [Cluster.asFile, hbt]
  rfl

theorem configured_bt (topo : Value) (c : Cluster) (h : self.configured topo = .ok c) :
    c.bt.asSaved = c.bt := by
  unfold Provisioning.configured at h
  rcases except_bind_eq_ok _ _ _ h with ⟨hash, _, h⟩
  rw [← Except.ok.inj h]
  rfl

/-- A configuration that ends without exception saves its cluster. -/
theorem configure_ok (topo : Value) (c : Cluster)
    (h : (self.configure out (.ok topo)).result = .ok c) :
    self.configured topo = .ok c
      ∧ (self.configure out (.ok topo)).trace = [.saveCluster c] := by
  unfold Provisioning.configure at h ⊢
  rcases bind_result_ok _ _ _ h with ⟨u, hrunning, h⟩
  rw [bind_ok _ _ u hrunning, bind_ok _ _ topo rfl]
  rcases bind_result_ok _ _ _ h with ⟨topo', htopo, h⟩
  rw [← Except.ok.inj htopo] at h
  rcases bind_result_ok _ _ _ h with ⟨cluster, hcluster, h⟩
  rw [bind_ok _ _ cluster hcluster]
  have hcc : cluster = c := Except.ok.inj h
  rw [← hcc]
  exact ⟨hcluster, rfl⟩

end Complete

section Runs

/-- Answers under which every request succeeds. -/
def obedient : Outside :=
  ⟨fun _ _ => obedientApi, fun _ => Schedule.sequential Event⟩

/-- The end of configuring and allocating, or the given cluster. -/
def allocated (p : Provisioning) (topo : Value) (otherwise : Cluster) : Cluster :=
  ((p.allocate obedient (fun _ => .ok ())
    (emptyDir.after (p.configure obedient (.ok topo)).trace)).result.toOption).getD otherwise

theorem proper_oneDriver : Proper oneDriver (.list [.str "driver"]) := by
  have hbelow : below (buildTreeFromDict (.list [.str "driver"])) = [.str "driver"] := rfl
  refine ⟨?_, ?_, ?_⟩
  · rw [hbelow]
    intro h
    exact absurd (Value.str.inj (List.mem_singleton.mp h)) (by decide)
  · intro component h
    rw [hbelow] at h
    rw [Value.str.inj (List.mem_singleton.mp h)]
    decide
  · intro component params count h hparams hcount
    rw [hbelow] at h
    rw [Value.str.inj (List.mem_singleton.mp h)] at hparams
    have hdriver : oneDriver.getComponentParams "driver" = .ok driverParams := rfl
    rw [hdriver] at hparams
    rw [← Except.ok.inj hparams] at hcount
    have hone : pyInt (driverParams.read "count") = .ok 1 := rfl
    rw [hone] at hcount
    have heq := Except.ok.inj hcount
    omega

/-- A backend of two instances on RDS. -/
def rdsEnvironment : EnvironmentComponents where
  env := ⟨"env_0", "aws_rds", "cloud.aws", "us-west-2"⟩
  regionConfig := Dict.empty
  components := Dict.ofList [("backend", driverParams.set "count" (.int 2))]
  sharedStorage := []

end Runs

end Xbench
