import Xbench.Commands.Steps

/-!
# The Files of a Metrics Server

A target of the metrics server is a file, named after the cluster, the node and
the service with hyphens between them. A cluster is taken off by a pattern,
its name and whatever follows. Names hold hyphens themselves: what a pattern
finds is not only what its cluster has registered, and two targets of a cluster
can be one file.

A registration writes to what follows the last slash of the name.

## Main definitions

* `MetricsTarget`: What a file is named after.
* `MetricsTarget.fileName`: The name of the file.
* `MetricsTarget.stem`: The name without its ending.
* `Registry`: Clusters with registered targets.
* `registering`: Registering them on a server.
* `Registry.Isolated`: Every target has a file, and a cluster is taken off alone.
* `Registry.Apart`: No name gets in the way of another.
* `MetricsTarget.Overlaps`: The node of one target is the other's with more.

## Theorems

* `basename_append`: What has no slash is part of the last component.
* `matches_iff`: What a pattern finds.
* `targets_isolated_iff`: When clusters are taken off alone.
* `apart_iff_of_plain`: When no name gets in the way, for names without slashes.
-/

namespace Xbench

open Effect

open Text (StartsWith)

/-- The labels and the service that a target's file is named after. -/
structure MetricsTarget where
  clusterName : ClusterName
  name : String
  serviceName : String
deriving DecidableEq

namespace MetricsTarget

/-- `target_name`. -/
def targetName (r : MetricsTarget) : String :=
  r.clusterName.text ++ "-" ++ r.name ++ "-" ++ r.serviceName ++ "-exporter.json"

/-- `os.path.basename(exporter.target_name())`. -/
def fileName (r : MetricsTarget) : String :=
  basename r.targetName

/-- The names with hyphens between them, from the last slash on. -/
def stem (r : MetricsTarget) : String :=
  basename (r.clusterName.text ++ "-" ++ r.name ++ "-" ++ r.serviceName ++ "-exporter")

/-- The file on a server. -/
def target (host dir : String) (r : MetricsTarget) : Target :=
  ⟨host, dir, r.fileName⟩

end MetricsTarget

/-- The names are those that a node and an exporter have. -/
theorem targetName_eq (n : Node) (exporter : Exporter) (c : ClusterName)
    (h : n.vm.clusterName = c.text) :
    targetName n exporter = (⟨c, n.vm.name, exporter.service⟩ : MetricsTarget).targetName := by
  unfold targetName MetricsTarget.targetName
  rw [h]

/-- Clusters with registered targets. -/
structure Registry where
  clusters : List ClusterName
  targets : List MetricsTarget
  known : ∀ r ∈ targets, r.clusterName ∈ clusters

/-- Registering targets on a server, one after the other. -/
def registering (host dir : String) (s : Inventory) (rs : List MetricsTarget) : Inventory :=
  s.after (rs.map (fun r => Change.register (r.target host dir)))

/-- `deregister_cluster` on a server. -/
def deregistering (api : MetricsApi) (host dir : String) (s : Inventory) (c : ClusterName) :
    Inventory :=
  s.after (((⟨dir, some host⟩ : MetricsServer).deregisterCluster api c.text).trace.map
    Change.event)

/-- The file of a target is that of no other, and taking a cluster off, where the
    command gets to the server, leaves the files of the others and no more. -/
structure Registry.Isolated (reg : Registry) : Prop where
  unique : ∀ r ∈ reg.targets, ∀ r' ∈ reg.targets, r.fileName = r'.fileName → r = r'
  removed : ∀ (api : MetricsApi) (host dir : String) (s : Inventory), s.targets = [] →
    ∀ c ∈ reg.clusters,
      (api.run host ("rm " ++ dir ++ "/" ++ c.text ++ "*.json")).ran = true →
      ∀ t, t ∈ (deregistering api host dir (registering host dir s reg.targets) c).targets ↔
        ∃ r ∈ reg.targets, r.clusterName ≠ c ∧ t = r.target host dir

/-- The name of a file begins with the name of its cluster and with that of no
    other, and two targets of a cluster have two. -/
structure Registry.Apart (reg : Registry) : Prop where
  own : ∀ r ∈ reg.targets, StartsWith r.stem r.clusterName.text
  others : ∀ r ∈ reg.targets, ∀ c ∈ reg.clusters, c ≠ r.clusterName →
    ¬ StartsWith r.stem c.text
  parted : ∀ r ∈ reg.targets, ∀ r' ∈ reg.targets, r.clusterName = r'.clusterName →
    r.stem = r'.stem → r = r'

section Names

/-- The last component is what follows the last slash. -/
theorem basename_of_slash (s : String) (front back : List Char)
    (hs : s.toList = front ++ '/' :: back) (hback : '/' ∉ back) :
    basename s = String.ofList back := by
  rw [basename, Text.split, hs, List.splitOn_append_cons_self,
    List.splitOn_eq_singleton hback, List.map_append, List.map_cons, List.map_nil,
    List.getLast?_concat, Option.getD_some]

theorem basename_of_notMem (s : String) (h : '/' ∉ s.toList) : basename s = s := by
  rw [basename, Text.split_of_notMem '/' s h, List.getLast?_singleton, Option.getD_some]

/-- What has no slash is part of the last component. -/
theorem basename_append (s t : String) (h : '/' ∉ t.toList) :
    basename (s ++ t) = basename s ++ t := by
  by_cases hs : '/' ∈ s.toList
  · -- cut at the last slash, which is the first one from behind
    rcases List.eq_append_cons_of_mem (List.mem_reverse.mpr hs) with ⟨back, front, hcut, hback⟩
    have hlast : s.toList = front.reverse ++ '/' :: back.reverse := by
      rw [← List.reverse_reverse s.toList, hcut]
      simp
    have hnone : '/' ∉ back.reverse := by simpa using hback
    have hboth : (s ++ t).toList = front.reverse ++ '/' :: (back.reverse ++ t.toList) := by
      rw [String.toList_append, hlast, List.append_assoc, List.cons_append]
    rw [basename_of_slash s _ _ hlast hnone, basename_of_slash _ _ _ hboth (by simp [hback, h]),
      String.ofList_append, String.ofList_toList]
  · rw [basename_of_notMem s hs, basename_of_notMem (s ++ t) (by simp [hs, h])]

/-- A cluster's name has none of the characters of a path. -/
theorem ClusterName.notMem (c : ClusterName) (x : Char) (hx : nameChar x = false) :
    x ∉ c.text.toList := by
  intro hmem
  have h := nameChar_of_matches c.text.toList c.valid x hmem
  rw [hx] at h
  cases h

namespace MetricsTarget

theorem fileName_eq (r : MetricsTarget) : r.fileName = r.stem ++ ".json" := by
  have hending : "-exporter.json" = "-exporter" ++ ".json" := by decide
  have hname : r.targetName
      = r.clusterName.text ++ "-" ++ r.name ++ "-" ++ r.serviceName ++ "-exporter" ++ ".json" := by
    unfold targetName
    rw [hending, ← String.append_assoc]
  rw [fileName, hname, basename_append _ ".json" (by decide)]
  rfl

theorem fileName_inj (r r' : MetricsTarget) : r.fileName = r'.fileName ↔ r.stem = r'.stem := by
  rw [fileName_eq, fileName_eq]
  refine ⟨fun h => ?_, fun h => by rw [h]⟩
  have hlist := congrArg String.toList h
  rw [String.toList_append, String.toList_append] at hlist
  exact String.toList_inj.mp (List.append_cancel_right hlist)

end MetricsTarget

/-- A pattern finds the files that begin with the name of its cluster: the name
    has no dot, so it does not run into the ending. -/
theorem matches_iff (host dir : String) (r : MetricsTarget) (c : ClusterName) :
    (r.target host dir).matches host dir c.text = true ↔ StartsWith r.stem c.text := by
  have hdot : '.' ∉ c.text.toList := c.notMem '.' (by decide)
  have hfile : (r.target host dir).file.toList = r.stem.toList ++ ".json".toList := by
    rw [MetricsTarget.target, MetricsTarget.fileName_eq, String.toList_append]
  have hplace : (r.target host dir).matches host dir c.text
      = (decide (c.text.toList <+: (r.target host dir).file.toList)
        && decide (".json".toList <:+ (r.target host dir).file.toList.drop c.text.length)) := by
    simp [Target.matches, MetricsTarget.target]
  rw [hplace, hfile, Bool.and_eq_true, decide_eq_true_iff, decide_eq_true_iff, StartsWith]
  constructor
  · rintro ⟨hstart, -⟩
    rcases List.prefix_or_prefix_of_prefix hstart (List.prefix_append _ _) with h | h
    · exact h
    · -- a longer name would hold the dot of the ending
      rcases h with ⟨more, hmore⟩
      rw [← hmore] at hstart hdot ⊢
      have hending : more <+: ".json".toList := (List.prefix_append_right_inj _).mp hstart
      cases more with
      | nil => simp
      | cons x more =>
          have hx : x = '.' := (List.cons_prefix_cons.mp hending).1
          rw [hx] at hdot
          exact absurd (List.mem_append_right _ List.mem_cons_self) hdot
  · intro hstart
    refine ⟨hstart.trans (List.prefix_append _ _), ?_⟩
    rcases hstart with ⟨rest, hrest⟩
    rw [← hrest, List.append_assoc, ← String.length_toList, List.drop_left]
    exact List.suffix_append _ _

end Names

section Servers

variable (host dir : String)

/-- What is registered is there, with what was there. -/
theorem mem_registering (s : Inventory) (rs : List MetricsTarget) (t : Target) :
    t ∈ (registering host dir s rs).targets ↔
      t ∈ s.targets ∨ ∃ r ∈ rs, t = r.target host dir := by
  induction rs generalizing s with
  | nil => simp [registering, Inventory.after]
  | cons r rs ih =>
      have hstep : ∀ t, t ∈ (s.apply (.register (r.target host dir))).targets ↔
          t ∈ s.targets ∨ t = r.target host dir := by
        intro t
        rw [Inventory.apply]
        by_cases h : r.target host dir ∈ s.targets
        · rw [if_pos h]
          exact ⟨Or.inl, fun ht => ht.elim id (fun heq => heq ▸ h)⟩
        · rw [if_neg h, List.mem_append, List.mem_singleton]
      have hrest : registering host dir s (r :: rs)
          = registering host dir (s.apply (.register (r.target host dir))) rs := rfl
      rw [hrest, ih, hstep]
      simp only [List.mem_cons, exists_eq_or_imp, or_assoc]

/-- A command that gets to the server removes what its pattern finds. -/
theorem mem_deregistering (api : MetricsApi) (s : Inventory) (c : ClusterName)
    (hran : (api.run host ("rm " ++ dir ++ "/" ++ c.text ++ "*.json")).ran = true) (t : Target) :
    t ∈ (deregistering api host dir s c).targets ↔
      t ∈ s.targets ∧ t.matches host dir c.text = false := by
  have htrace : ((⟨dir, some host⟩ : MetricsServer).deregisterCluster api c.text).trace
      = [.deregisterCluster host dir c.text] := by
    unfold MetricsServer.deregisterCluster
    simp only [hran, if_true, tell_bind]
    rfl
  rw [deregistering, htrace, List.map_cons, List.map_nil, Inventory.after, List.foldl_cons,
    List.foldl_nil, Inventory.apply, Inventory.happen, List.mem_filter, Bool.not_eq_true']

/-- What is left of registered targets when a cluster is taken off. -/
theorem mem_removed (api : MetricsApi) (s : Inventory) (hs : s.targets = [])
    (rs : List MetricsTarget) (c : ClusterName)
    (hran : (api.run host ("rm " ++ dir ++ "/" ++ c.text ++ "*.json")).ran = true) (t : Target) :
    t ∈ (deregistering api host dir (registering host dir s rs) c).targets ↔
      ∃ r ∈ rs, ¬ StartsWith r.stem c.text ∧ t = r.target host dir := by
  rw [mem_deregistering host dir api _ c hran, mem_registering, hs]
  simp only [List.not_mem_nil, false_or]
  constructor
  · rintro ⟨⟨r, hr, rfl⟩, hkept⟩
    refine ⟨r, hr, ?_, rfl⟩
    rw [← matches_iff host dir, hkept]
    exact Bool.false_ne_true
  · rintro ⟨r, hr, hstart, rfl⟩
    rw [← matches_iff host dir, Bool.not_eq_true] at hstart
    exact ⟨⟨r, hr, rfl⟩, hstart⟩

/-- A server that every command gets to. -/
def reachedMetrics : MetricsApi where
  sshClient _ := .ok ()
  run _ _ := ⟨true, .ok (), fun _ => rfl⟩

theorem named_of_none (name : String) (c : Cluster) (h : (none : Option Cluster) = some c) :
    c.clusterName = name := by
  cases h

/-- A server without targets. -/
def noTargets : Inventory :=
  ⟨[], [], ⟨fun _ => none, named_of_none⟩, []⟩

/-- When every target has a file of its own and clusters are taken off alone: no
    name of a cluster begins the files of another, and no two targets of a
    cluster have one name. -/
theorem targets_isolated_iff (reg : Registry) : reg.Isolated ↔ reg.Apart := by
  constructor
  · intro h
    have hleft : ∀ r ∈ reg.targets, ∀ c ∈ reg.clusters,
        ¬ StartsWith r.stem c.text ↔ r.clusterName ≠ c := by
      intro r hr c hc
      have hthere := (mem_removed "" "" reachedMetrics noTargets rfl reg.targets c rfl
        (r.target "" "")).symm.trans (h.removed reachedMetrics "" "" noTargets rfl c hc rfl _)
      have hfile : ∀ r' ∈ reg.targets, r.target "" "" = r'.target "" "" → r = r' :=
        fun r' hr' heq => h.unique r hr r' hr' (congrArg Target.file heq)
      constructor
      · intro hstart
        rcases hthere.mp ⟨r, hr, hstart, rfl⟩ with ⟨r', hr', hne, heq⟩
        rw [hfile r' hr' heq]
        exact hne
      · intro hne
        rcases hthere.mpr ⟨r, hr, hne, rfl⟩ with ⟨r', hr', hstart, heq⟩
        rw [hfile r' hr' heq]
        exact hstart
    refine ⟨fun r hr => ?_, fun r hr c hc hne => ?_, fun r hr r' hr' _ hstem => ?_⟩
    · by_contra hstart
      exact (hleft r hr r.clusterName (reg.known r hr)).mp hstart rfl
    · exact (hleft r hr c hc).mpr (Ne.symm hne)
    · exact h.unique r hr r' hr' ((r.fileName_inj r').mpr hstem)
  · intro h
    refine ⟨fun r hr r' hr' hfile => ?_, fun api host dir s hs c hc hran t => ?_⟩
    · have hstem := (r.fileName_inj r').mp hfile
      -- the shared name begins with both clusters, so there is one
      have hown := h.own r' hr'
      rw [← hstem] at hown
      by_cases hc : r'.clusterName = r.clusterName
      · exact h.parted r hr r' hr' hc.symm hstem
      · exact absurd hown (h.others r hr r'.clusterName (reg.known r' hr') hc)
    · rw [mem_removed host dir api s hs reg.targets c hran t]
      have hiff : ∀ r ∈ reg.targets, ¬ StartsWith r.stem c.text ↔ r.clusterName ≠ c := by
        intro r hr
        refine ⟨fun hstart heq => hstart (heq ▸ h.own r hr), fun hne => ?_⟩
        exact h.others r hr c hc (Ne.symm hne)
      constructor
      · rintro ⟨r, hr, hstart, heq⟩
        exact ⟨r, hr, (hiff r hr).mp hstart, heq⟩
      · rintro ⟨r, hr, hne, heq⟩
        exact ⟨r, hr, (hiff r hr).mpr hne, heq⟩

end Servers

namespace MetricsTarget

/-- Neither name is a path. -/
def Plain (r : MetricsTarget) : Prop :=
  '/' ∉ r.name.toList ∧ '/' ∉ r.serviceName.toList

instance (r : MetricsTarget) : Decidable r.Plain :=
  inferInstanceAs (Decidable (_ ∧ _))

/-- The node of one is that of the other and more, and what is more begins the
    service of the other. -/
def Overlaps (r r' : MetricsTarget) : Prop :=
  ∃ x : String, r'.name = r.name ++ "-" ++ x ∧ r.serviceName = x ++ "-" ++ r'.serviceName

theorem stem_of_plain (r : MetricsTarget) (h : r.Plain) :
    r.stem = r.clusterName.text ++ "-" ++ r.name ++ "-" ++ r.serviceName ++ "-exporter" := by
  have hcluster : '/' ∉ r.clusterName.text.toList := r.clusterName.notMem '/' (by decide)
  refine basename_of_notMem _ ?_
  simp only [String.toList_append, List.mem_append, hcluster, h.1, h.2, false_or, or_false]
  decide

/-- Two hyphenated pairs are one text when they are one pair, or a part has
    moved from one side to the other. -/
theorem pairs_eq_iff (n s n' s' : List Char) :
    n ++ '-' :: s = n' ++ '-' :: s' ↔
      (n = n' ∧ s = s') ∨ (∃ x, n' = n ++ '-' :: x ∧ s = x ++ '-' :: s')
        ∨ (∃ x, n = n' ++ '-' :: x ∧ s' = x ++ '-' :: s) := by
  rw [List.append_eq_append_iff]
  constructor
  · rintro (⟨x, hn, hs⟩ | ⟨x, hn, hs⟩)
    · cases x with
      | nil =>
          rw [List.append_nil] at hn
          exact Or.inl ⟨hn.symm, List.tail_eq_of_cons_eq hs⟩
      | cons y x =>
          have hy : '-' = y := List.head_eq_of_cons_eq hs
          rw [← hy] at hn
          exact Or.inr (Or.inl ⟨x, hn, List.tail_eq_of_cons_eq hs⟩)
    · cases x with
      | nil =>
          rw [List.append_nil] at hn
          exact Or.inl ⟨hn, (List.tail_eq_of_cons_eq hs).symm⟩
      | cons y x =>
          have hy : '-' = y := List.head_eq_of_cons_eq hs
          rw [← hy] at hn
          exact Or.inr (Or.inr ⟨x, hn, List.tail_eq_of_cons_eq hs⟩)
  · rintro (⟨hn, hs⟩ | ⟨x, hn, hs⟩ | ⟨x, hn, hs⟩)
    · exact Or.inl ⟨[], by rw [hn, List.append_nil], by rw [hs, List.nil_append]⟩
    · exact Or.inl ⟨'-' :: x, hn, by rw [hs, List.cons_append]⟩
    · exact Or.inr ⟨'-' :: x, hn, by rw [hs, List.cons_append]⟩

/-- Targets of a cluster have one file when they are one target or overlap. -/
theorem stem_eq_iff (r r' : MetricsTarget) (h : r.Plain) (h' : r'.Plain)
    (hc : r.clusterName = r'.clusterName) :
    r.stem = r'.stem ↔ r = r' ∨ r.Overlaps r' ∨ r'.Overlaps r := by
  have hstem : ∀ r : MetricsTarget, r.Plain →
      r.stem.toList = (r.clusterName.text ++ "-").toList
        ++ (r.name.toList ++ '-' :: r.serviceName.toList ++ "-exporter".toList) := by
    intro r h
    rw [stem_of_plain r h]
    simp [String.toList_append]
  -- what both stems have in common is cancelled at either end
  have hpair : r.stem = r'.stem ↔
      r.name.toList ++ '-' :: r.serviceName.toList
        = r'.name.toList ++ '-' :: r'.serviceName.toList := by
    rw [← String.toList_inj, hstem r h, hstem r' h', hc, List.append_cancel_left_eq,
      List.append_cancel_right_eq]
  have htext : ∀ a b x : String, a = b ++ "-" ++ x ↔ a.toList = b.toList ++ '-' :: x.toList := by
    intro a b x
    rw [← String.toList_inj]
    simp [String.toList_append]
  have hover : ∀ r r' : MetricsTarget, r.Overlaps r' ↔
      ∃ x, r'.name.toList = r.name.toList ++ '-' :: x
        ∧ r.serviceName.toList = x ++ '-' :: r'.serviceName.toList := by
    intro r r'
    simp only [Overlaps, htext]
    refine ⟨fun ⟨x, hx⟩ => ⟨x.toList, hx⟩, fun ⟨x, hx⟩ => ⟨String.ofList x, ?_⟩⟩
    rw [String.toList_ofList]
    exact hx
  have hsame : r = r' ↔
      r.name.toList = r'.name.toList ∧ r.serviceName.toList = r'.serviceName.toList := by
    rw [String.toList_inj, String.toList_inj]
    refine ⟨fun heq => by rw [heq]; exact ⟨rfl, rfl⟩, fun ⟨hn, hs⟩ => ?_⟩
    cases r
    cases r'
    simp_all
  rw [hpair, pairs_eq_iff, hsame, hover, hover]

end MetricsTarget

/-- Where no name of a node or a service is a path, it is enough that no cluster's
    name begins a target of another, and that no two targets overlap. -/
theorem apart_iff_of_plain (reg : Registry) (h : ∀ r ∈ reg.targets, r.Plain) :
    reg.Apart ↔
      (∀ r ∈ reg.targets, ∀ c ∈ reg.clusters, c ≠ r.clusterName →
        ¬ StartsWith (r.clusterName.text ++ "-" ++ r.name ++ "-" ++ r.serviceName ++ "-exporter")
          c.text)
      ∧ ∀ r ∈ reg.targets, ∀ r' ∈ reg.targets, r.clusterName = r'.clusterName →
        ¬ r.Overlaps r' := by
  have hother : ∀ r ∈ reg.targets, ∀ c : ClusterName, StartsWith r.stem c.text ↔
      StartsWith (r.clusterName.text ++ "-" ++ r.name ++ "-" ++ r.serviceName ++ "-exporter")
        c.text := by
    intro r hr c
    rw [r.stem_of_plain (h r hr)]
  -- a target that overlapped itself would be longer than it is
  have hirrefl : ∀ r : MetricsTarget, ¬ r.Overlaps r := by
    rintro r ⟨x, hx, -⟩
    have hlen := congrArg String.length hx
    simp only [String.length_append] at hlen
    have hhyphen : ("-" : String).length = 1 := rfl
    omega
  constructor
  · intro hapart
    refine ⟨fun r hr c hc hne hstart => ?_, fun r hr r' hr' hc hover => ?_⟩
    · exact hapart.others r hr c hc hne ((hother r hr c).mpr hstart)
    · have hstem := (r.stem_eq_iff r' (h r hr) (h r' hr') hc).mpr (Or.inr (Or.inl hover))
      rw [hapart.parted r hr r' hr' hc hstem] at hover
      exact hirrefl r' hover
  · rintro ⟨hothers, hover⟩
    refine ⟨fun r hr => ?_, fun r hr c hc hne hstart => ?_, fun r hr r' hr' hc hstem => ?_⟩
    · rw [r.stem_of_plain (h r hr), StartsWith]
      simp only [String.toList_append, List.append_assoc]
      exact List.prefix_append _ _
    · exact hothers r hr c hc hne ((hother r hr c).mp hstart)
    · rcases (r.stem_eq_iff r' (h r hr) (h r' hr') hc).mp hstem with heq | hlong | hshort
      · exact heq
      · exact absurd hlong (hover r hr r' hr' hc)
      · exact absurd hshort (hover r' hr' r hr hc.symm)

/-- The nodes of two clusters, one of which has a name that begins the other's. -/
def devNode : MetricsTarget :=
  ⟨Colo.dev, "backend_0", "node"⟩

def dev2Node : MetricsTarget :=
  ⟨Colo.dev2, "backend_0", "node"⟩

theorem known_twoTeams (r : MetricsTarget) (h : r ∈ [devNode, dev2Node]) :
    r.clusterName ∈ [Colo.dev, Colo.dev2] := by
  rcases List.mem_cons.mp h with rfl | h
  · exact List.mem_cons_self
  · rw [List.mem_singleton.mp h]
    exact List.mem_cons_of_mem _ List.mem_cons_self

def twoTeams : Registry where
  clusters := [Colo.dev, Colo.dev2]
  targets := [devNode, dev2Node]
  known := known_twoTeams

/-- Cleaning `dev` takes the node of `dev2` off the server. -/
theorem dev2_unmonitored : ¬ twoTeams.Isolated := by
  intro h
  have hkept := (h.removed reachedMetrics "prometheus" "/targets" noTargets rfl Colo.dev
    List.mem_cons_self rfl (dev2Node.target "prometheus" "/targets")).mpr
      ⟨dev2Node, List.mem_cons_of_mem _ List.mem_cons_self, by decide, rfl⟩
  have hgone := ((mem_deregistering "prometheus" "/targets" reachedMetrics _ Colo.dev rfl _).mp
    hkept).2
  rw [← Bool.not_eq_true, matches_iff] at hgone
  refine hgone ?_
  rw [MetricsTarget.stem_of_plain dev2Node (by decide)]
  decide

end Xbench
