import Xbench.Commands.Confinement
import Xbench.Commands.Main

/-!
# Accounting for Machines

What becomes of a machine that a cluster file has, whatever commands follow.

The cluster file is the only thing that knows the machines of a cluster. A
command that fails halfway, or that is repeated, or that is meant for another
cluster, must not lose one.

`Follows` is what the commands make of a cluster: it keeps its name and its
environments, and under every name that is not launched anew the machine is the
one before. Each command saves only such clusters, with three exceptions. A
forced `provision` starts anew. `deprovision` by the tags does not look at the
file. And `deprovision` by the file removes it, when all of it has come to its
end; on AWS and GCP it has then told each machine to go.

A member can only be told to go in the turn of its environment, so the
environments of all members have to be listed. `WellKept` says that they are,
and that is what every history of commands keeps.

## Main definitions

* `WellKept`: Members are under their names, their environments are listed.
* `holding`: The machine of a node, and whether it is to be given back.
* `Follows`: What the commands make of a cluster.
* `Owns`: An event that writes no file but that of a cluster.
* `Preserves`: A command writes one file, and keeps it well.
* `Relaunched`: A name that an allocation returns.
* `Forgets`: The commands that may forget a member.

## Theorems

* `allocateEnvs_follows`, `install_follows`, `cleanEnvs_follows`,
  `startStop_follows`: What the steps save.
* `inTurn_preserves`: Commands in a row.
* `invocation_preserves`: All commands keep the files well.
* `step_follows`: A step that does not start anew.
* `clean_releases`: A teardown that comes to its end.
* `accounted`: A recorded machine stays recorded, or was told to go.
-/

namespace Xbench

open Effect

open Cluster (Group groupNodesByName)

open Lifecycle (SavesOnly savesOnly_unwritten savesOnly_mono file_after)

namespace Main

/-- Members are under their own names, and their environments are listed. -/
structure WellKept (c : Cluster) : Prop where
  named : MembersNamed c
  covered : ∀ k n, c.members.get? k = some n → ∃ env ∈ c.envs, env.name = n.vm.env

/-- The machine of a node, and whether it is the cluster's to give back. -/
def holding (n : Node) : (String × String × Option String) × Bool :=
  (n.machine, n.vm.provisioned)

/-- What the commands make of a cluster. Under the names that are not fresh
    there is what was there. -/
structure Follows (fresh : String → Prop) (c c' : Cluster) : Prop where
  clusterName : c'.clusterName = c.clusterName
  kept : WellKept c'
  envs : ∀ env ∈ c.envs, env ∈ c'.envs
  held : ∀ k, ¬ fresh k → (c'.members.get? k).map holding = (c.members.get? k).map holding

section Follow

variable (fresh : String → Prop)

theorem get?_asFile (c : Cluster) (k : String) :
    c.asFile.members.get? k = (c.members.get? k).map (fun n => ⟨n.vm.asBase⟩) :=
  Dict.get?_mapValues _ c.members k

theorem wellKept_asFile (c : Cluster) (h : WellKept c) : WellKept c.asFile := by
  refine ⟨membersNamed_asFile c h.named, fun k n hn => ?_⟩
  rw [get?_asFile] at hn
  rcases Option.map_eq_some_iff.mp hn with ⟨m, hm, rfl⟩
  exact h.covered k m hm

theorem follows_refl (c : Cluster) (h : WellKept c) : Follows fresh c c :=
  ⟨rfl, h, fun _ henv => henv, fun _ _ => rfl⟩

theorem follows_trans (c c' c'' : Cluster) (h : Follows fresh c c') (h' : Follows fresh c' c'') :
    Follows fresh c c'' :=
  ⟨h'.clusterName.trans h.clusterName, h'.kept, fun env henv => h'.envs env (h.envs env henv),
    fun k hk => (h'.held k hk).trans (h.held k hk)⟩

/-- Another state or another target. -/
theorem follows_same (c c' : Cluster) (h : WellKept c) (hname : c'.clusterName = c.clusterName)
    (hmembers : c'.members = c.members) (henvs : c'.envs = c.envs) : Follows fresh c c' := by
  refine ⟨hname, ⟨fun k n hn => ?_, fun k n hn => ?_⟩, fun env henv => henvs ▸ henv, fun k _ => ?_⟩
  · exact h.named k n (hmembers ▸ hn)
  · rw [henvs]
    exact h.covered k n (hmembers ▸ hn)
  · rw [hmembers]

/-- The file of a cluster that follows follows. -/
theorem follows_asFile (c c' : Cluster) (h : Follows fresh c c') : Follows fresh c c'.asFile := by
  refine ⟨h.clusterName, wellKept_asFile c' h.kept, h.envs, fun k hk => ?_⟩
  rw [get?_asFile, Option.map_map, ← h.held k hk]
  rfl

/-- Nodes of a listed environment that come back under fresh names. -/
theorem follows_joined (c : Cluster) (env : EnvironmentComponents) (launched : Launched)
    (h : WellKept c)
    (hnodes : ∀ n, some n ∈ launched.nodes → n.vm.env = env.env.name ∧ fresh n.vm.name) :
    Follows fresh c (joined c env launched) := by
  rcases joinNodes_members
    { c with envs := c.envs ++ [env.env], sharedStorage := launched.sharedStorage }
    launched.nodes with ⟨hmembers, henvs, hname, _, _⟩
  have hback : ∀ n ∈ launched.nodes.filterMap id, n.vm.env = env.env.name ∧ fresh n.vm.name := by
    intro n hn
    rcases List.mem_filterMap.mp hn with ⟨o, ho, hon⟩
    exact hnodes n ((show o = some n from hon) ▸ ho)
  have hget : ∀ k n, (joined c env launched).members.get? k = some n ↔
      (nodeName n = k ∧ Dict.LastWith nodeName n (launched.nodes.filterMap id))
        ∨ ((∀ m ∈ launched.nodes.filterMap id, nodeName m ≠ k) ∧ c.members.get? k = some n) := by
    intro k n
    rw [joined, hmembers]
    exact Dict.get?_setAllBy nodeName c.members _ k n
  have hlisted : (joined c env launched).envs = c.envs ++ [env.env] := henvs
  refine ⟨hname, ⟨fun k n hn => ?_, fun k n hn => ?_⟩, fun e he => ?_, fun k hk => ?_⟩
  · rcases (hget k n).mp hn with ⟨hk, _⟩ | ⟨_, hold⟩
    · exact hk
    · exact h.named k n hold
  · rw [hlisted]
    rcases (hget k n).mp hn with ⟨_, hlast⟩ | ⟨_, hold⟩
    · exact ⟨env.env, List.mem_append_right _ List.mem_cons_self, (hback n hlast.mem).1.symm⟩
    · rcases h.covered k n hold with ⟨e, he, hen⟩
      exact ⟨e, List.mem_append_left _ he, hen⟩
  · rw [hlisted]
    exact List.mem_append_left _ he
  · -- no node came back under a name that is not fresh
    have hfree : ∀ m ∈ launched.nodes.filterMap id, nodeName m ≠ k :=
      fun m hm hmk => hk (hmk ▸ (hback m hm).2)
    have hsame : (joined c env launched).members.get? k = c.members.get? k := by
      refine Option.ext (fun n => ?_)
      rw [hget]
      constructor
      · rintro (⟨hnk, hlast⟩ | ⟨_, hold⟩)
        · exact absurd hnk (hfree n hlast.mem)
        · exact hold
      · exact fun hold => Or.inr ⟨hfree, hold⟩
    rw [hsame]

end Follow

section Saves

variable (fresh : String → Prop)

/-- An allocation that returns nodes only under fresh names. -/
theorem allocateEnvs_follows (self : Provisioning) (out : Outside)
    (envs : List EnvironmentComponents) (provisionedClouds : List String) (c₀ c : Cluster)
    (h : Follows fresh c₀ c)
    (hfresh : ∀ a ∈ self.attempts out c.topoMap envs provisionedClouds,
      ∀ n ∈ returned a.2, fresh n.vm.name) :
    Triple (SavesOnly (Follows fresh c₀)) (fun _ => True)
      (self.allocateEnvs out envs provisionedClouds c) := by
  induction envs generalizing provisionedClouds c with
  | nil => exact triple_pure _ _ _ trivial
  | cons env envs ih =>
      have hspec := allocateEnv_spec self out env provisionedClouds c.topoMap
      rw [Provisioning.allocateEnvs]
      rw [Provisioning.attempts] at hfresh
      refine triple_bind _ (fun launched =>
        (self.allocateEnv out env provisionedClouds c.topoMap).result = .ok launched) _ _ _
        ⟨fun e he => savesOnly_unwritten _ e
          (allocateEnv_unwritten self out env provisionedClouds c.topoMap e he), fun _ hr => hr⟩
        (fun launched hlaunched => ?_)
      have hjoined : Follows fresh c₀ (joined c env launched) := by
        refine follows_trans _ _ _ _ h (follows_joined fresh c env launched h.kept (fun n hn => ?_))
        refine ⟨(hspec.result launched hlaunched).nodes n hn,
          hfresh _ List.mem_cons_self n ?_⟩
        rw [returned, hlaunched]
        exact List.mem_filterMap.mpr ⟨some n, hn, rfl⟩
      by_cases hnone : none ∈ launched.nodes
      · rw [if_pos hnone]
        exact triple_tell_bind _ _ _ _ (follows_trans _ _ _ _ hjoined
          (follows_same _ _ _ hjoined.kept rfl rfl rfl)) (triple_raise _ _ _)
      · rw [if_neg hnone]
        refine triple_tell_bind _ _ _ _ hjoined (ih _ _ hjoined (fun a ha => ?_))
        have htopo : (joined c env launched).topoMap = c.topoMap :=
          (joinNodes_members _ launched.nodes).2.2.2.1
        rw [htopo] at ha
        refine hfresh a (List.mem_cons_of_mem _ ?_)
        simp only [hlaunched, if_neg hnone]
        exact ha

theorem installCluster_follows (self : Installer) (c : Cluster) (σ : Schedule Event)
    (h : WellKept c) :
    Triple (SavesOnly (Follows fresh c)) (fun _ => True) (self.installCluster c σ) := by
  refine triple_bind _ (fun _ => True) _ _ _ (triple_mono _ _ _ _ _ (savesOnly_unwritten _)
    (fun _ _ => trivial) (self.collected_unwritten c σ)) (fun _ _ => ?_)
  exact triple_tell _ _ (follows_same _ _ _ h rfl rfl rfl)

theorem cleanEnvs_follows (self : Uninstaller) (envs : List EnvironmentComponents)
    (c₀ c : Cluster) (h : Follows fresh c₀ c) :
    Triple (SavesOnly (Follows fresh c₀)) (fun _ => True) (self.cleanEnvs envs c) := by
  induction envs generalizing c with
  | nil => exact triple_pure _ _ _ trivial
  | cons env envs ih =>
      have hcleaned : Follows fresh c₀ (Uninstaller.cleaned c) :=
        follows_trans _ _ _ _ h (follows_same _ _ _ h.kept rfl rfl rfl)
      rw [Uninstaller.cleanEnvs]
      refine triple_step _ _ _ _ (fun _ _ => triple_step _ _ _ _ (fun groups _ => ?_))
      refine triple_bind _ (fun _ => True) _ _ _ ?_
        (fun _ _ => triple_tell_bind _ _ _ _ hcleaned (ih _ hcleaned))
      refine triple_mono _ _ _ _ _ (fun _ he => he) (fun _ _ => trivial)
        (triple_parallel _ _ (fun _ => True) _ (fun t ht => ?_))
      rcases List.mem_map.mp ht with ⟨g, _, rfl⟩
      exact triple_ofExcept _ _ _ (fun _ _ => trivial)

/-- A started node holds what the instance did. -/
theorem restartedNode_holding (cloud : AbstractCloud) (n m : Node)
    (h : restartedNode cloud n = some m) : holding m = holding n := by
  unfold restartedNode at h
  cases hdescribe : cloud.api.describe n.vm with
  | error e =>
      rw [hdescribe] at h
      cases h
  | ok ips =>
      rw [hdescribe] at h
      dsimp only at h
      cases hnode : Node.ofVm cloud.api.sshOptions (restartedVm cloud n ips) with
      | error e =>
          rw [hnode] at h
          cases h
      | ok node =>
          rw [hnode] at h
          rw [← Option.some.inj h, holding, Node.machine, ofVm_vm _ _ _ hnode]
          rfl

/-- Nodes that hold what the members of their names do. -/
theorem rejoin_follows (c : Cluster) (nodes : List (Option Node)) (h : WellKept c)
    (hnodes : ∀ m, some m ∈ nodes → (c.members.get? m.vm.name).map holding = some (holding m)) :
    Follows fresh c (rejoin c nodes) := by
  induction nodes generalizing c with
  | nil => exact follows_refl fresh c h
  | cons o nodes ih =>
      cases o with
      | none => exact ih c h (fun m hm => hnodes m (List.mem_cons_of_mem _ hm))
      | some n =>
          have hsame : ∀ k, ((c.addMember n.vm.name n).members.get? k).map holding
              = (c.members.get? k).map holding := by
            intro k
            rw [Cluster.addMember, Dict.get?_set]
            by_cases hk : k = n.vm.name
            · rw [if_pos hk, hk, hnodes n List.mem_cons_self]
              rfl
            · rw [if_neg hk]
          have hadded : Follows fresh c (c.addMember n.vm.name n) := by
            refine ⟨rfl, ⟨membersNamed_addMember c n h.named, fun k m hm => ?_⟩,
              fun _ henv => henv, fun k _ => hsame k⟩
            have hold := hsame k
            rw [hm, Option.map_some] at hold
            rcases Option.map_eq_some_iff.mp hold.symm with ⟨n', hn', heq⟩
            rcases h.covered k n' hn' with ⟨env, henv, hname⟩
            exact ⟨env, henv, hname.trans (congrArg (fun x => x.1.1) heq)⟩
          exact follows_trans _ _ _ _ hadded (ih _ hadded.kept
            (fun m hm => (hsame _).trans (hnodes m (List.mem_cons_of_mem _ hm))))

theorem startEnv_follows (self : Installation) (cloud : AbstractCloud) (env : Environment)
    (hcloud : self.cloudOf env = .ok cloud) (c₀ c : Cluster) (h : Follows fresh c₀ c) :
    Triple (SavesOnly (Follows fresh c₀)) (Follows fresh c₀) (self.startEnv cloud env c) := by
  unfold Installation.startEnv
  by_cases hdown : c.state ≠ .down
  · rw [if_pos hdown]
    exact triple_raise _ _ _
  · rw [if_neg hdown]
    refine triple_bind _ (fun started => (startInstancesOf cloud (self.outside.schedule env)
      (instancesIn c env)).result = .ok started) _ _ _ ⟨fun e he => ?_, fun _ hs => hs⟩
      (fun started hstarted => triple_step _ _ _ _ (fun nodes hnodes => ?_))
    · exact savesOnly_unwritten _ e (power_unwritten _ e
        ((startInstancesOf_power cloud (instancesIn c env) (self.outside.schedule env)).trace e he))
    -- only an answer with nodes comes past the check
    · have hsome : started = some nodes := by
        cases started with
        | none => cases hnodes
        | some l => exact congrArg some (Except.ok.inj hnodes)
      rw [hsome] at hstarted
      have hheld : ∀ m, some m ∈ nodes →
          (c.members.get? m.vm.name).map holding = some (holding m) := by
        intro m hm
        rcases Lifecycle.startInstancesOf_mem cloud (cloudOf_cli self env cloud hcloud) _ _ nodes
          hstarted m hm with ⟨n, hn, hnm⟩
        rcases ((mem_instancesIn c env n).mp hn).1 with ⟨k, hk⟩
        rw [(restartedNode_spec cloud n m hnm).2, h.kept.named k n hk, hk, Option.map_some,
          restartedNode_holding cloud n m hnm]
      have hrejoined := follows_trans _ _ _ _ h (rejoin_follows fresh c nodes h.kept hheld)
      have hready : Follows fresh c₀ { rejoin c nodes with state := .ready } :=
        follows_trans _ _ _ _ hrejoined (follows_same _ _ _ hrejoined.kept rfl rfl rfl)
      exact triple_tell_bind _ _ _ _ hready
        (triple_step _ _ _ _ (fun _ _ => triple_pure _ _ _ hready))

theorem stopEnv_follows (self : Installation) (cloud : AbstractCloud) (env : Environment)
    (c₀ c : Cluster) (h : Follows fresh c₀ c) :
    Triple (SavesOnly (Follows fresh c₀)) (Follows fresh c₀) (self.stopEnv cloud env c) := by
  unfold Installation.stopEnv
  by_cases hready : c.state ≠ .ready
  · rw [if_pos hready]
    exact triple_raise _ _ _
  · rw [if_neg hready]
    by_cases hempty : (instancesIn c env).isEmpty = true
    · rw [if_pos hempty]
      exact triple_pure _ _ _ h
    · rw [if_neg hempty]
      have hdown : Follows fresh c₀ { c with state := .down } :=
        follows_trans _ _ _ _ h (follows_same _ _ _ h.kept rfl rfl rfl)
      refine triple_step _ _ _ _ (fun _ _ => triple_tell_bind _ _ _ _ hdown ?_)
      refine triple_bind _ (fun _ => True) _ _ _ ⟨fun e he => ?_, fun _ _ => trivial⟩
        (fun _ _ => triple_pure _ _ _ hdown)
      exact savesOnly_unwritten _ e (power_unwritten _ e
        ((stopInstancesOf_power cloud (instancesIn c env) (self.outside.schedule env)).trace e he))

/-- `start` and `stop` save the machines they loaded. -/
theorem startStop_follows (self : Installation) (onOff : String) (envs : List Environment)
    (c₀ c : Cluster) (h : Follows fresh c₀ c) :
    Triple (SavesOnly (Follows fresh c₀)) (Follows fresh c₀)
      (self.startStopCluster onOff envs c) := by
  induction envs generalizing c with
  | nil => exact triple_pure _ _ _ h
  | cons env envs ih =>
      rw [Installation.startStopCluster]
      refine triple_bind _ (Follows fresh c₀) _ _ _ ?_ ih
      refine triple_step _ _ _ _ (fun cloud hcloud => ?_)
      by_cases hstart : onOff = "start"
      · rw [if_pos hstart]
        exact startEnv_follows fresh self cloud env hcloud c₀ c h
      · rw [if_neg hstart]
        by_cases hstop : onOff = "stop"
        · rw [if_pos hstop]
          exact stopEnv_follows fresh self cloud env c₀ c h
        · rw [if_neg hstop]
          exact triple_pure _ _ _ h

end Saves

section Files

variable (name : String)

/-- The cluster file, if there is one, is well kept. -/
def Good (dir : ClustersDir) : Prop :=
  ∀ f, dir.file name = some f → WellKept f

/-- An event that writes no file but that of a cluster. -/
def Owns : Event → Prop
  | .saveCluster c => c.clusterName = name
  | .removeClusterYaml clusterName => clusterName = name
  | _ => True

theorem owns_unwritten (e : Event) (h : e.writesFile = false) : Owns name e := by
  cases e with
  | saveCluster c => cases h
  | removeClusterYaml clusterName => cases h
  | _ => trivial

theorem owns_saved (P : Cluster → Prop) (hP : ∀ c, P c → c.clusterName = name) (e : Event)
    (h : SavesOnly P e) : Owns name e := by
  cases e with
  | saveCluster c => exact hP c h
  | removeClusterYaml clusterName => exact h.elim
  | _ => trivial

/-- A cluster's events leave the files of the others. -/
theorem file_other (other : String) (hother : other ≠ name) (dir : ClustersDir)
    (trace : List Event) (h : ∀ e ∈ trace, Owns name e) :
    (dir.after trace).file other = dir.file other := by
  induction trace generalizing dir with
  | nil => rfl
  | cons e trace ih =>
      have hrest := ih (dir.apply e) (fun e' he' => h e' (List.mem_cons_of_mem e he'))
      have hown := h e List.mem_cons_self
      change ((dir.apply e).after trace).file other = _
      rw [hrest]
      cases e with
      | saveCluster c => exact if_neg (fun heq => hother (heq.trans hown))
      | removeClusterYaml clusterName => exact if_neg (fun heq => hother (heq.trans hown))
      | _ => rfl

/-- A command writes one file, and keeps it well. -/
def Preserves (x : ClustersDir → Command Unit) : Prop :=
  ∀ dir, Good name dir →
    (∀ e ∈ (x dir).trace, Owns name e) ∧ Good name (dir.after (x dir).trace)

/-- What a command saves follows what it found, but for fresh names; without a
    file it saves nothing. -/
def Keeping (fresh : Cluster → String → Prop) (trace : ClustersDir → List Event) : Prop :=
  ∀ dir, (∀ c, dir.file name = some c → WellKept c →
      ∀ e ∈ trace dir, SavesOnly (Follows (fresh c) c) e)
    ∧ (dir.file name = none → ∀ e ∈ trace dir, e.writesFile = false)

/-- The file after such a command. -/
theorem follows_file (fresh : Cluster → String → Prop) (trace : ClustersDir → List Event)
    (h : Keeping name fresh trace) (dir : ClustersDir) (c : Cluster)
    (hfile : dir.file name = some c) (hkept : WellKept c) :
    ∃ f, (dir.after (trace dir)).file name = some f ∧ Follows (fresh c) c f := by
  rcases file_after _ dir (trace dir) name ((h dir).1 c hfile hkept) with
    hsame | ⟨c', hfollows, hsaved⟩
  · exact ⟨c, hsame.trans hfile, follows_refl _ c hkept⟩
  · exact ⟨c'.asFile, hsaved, follows_asFile _ c c' hfollows⟩

theorem preserves_keeping (fresh : Cluster → String → Prop) (x : ClustersDir → Command Unit)
    (h : Keeping name fresh (fun dir => (x dir).trace)) : Preserves name x := by
  intro dir hgood
  cases hfile : dir.file name with
  | none =>
      have hunwritten := (h dir).2 hfile
      refine ⟨fun e he => owns_unwritten name e (hunwritten e he), ?_⟩
      rw [after_unwritten dir _ hunwritten]
      exact hgood
  | some c =>
      rcases follows_file name fresh _ h dir c hfile (hgood c hfile) with ⟨f, hf, hfollows⟩
      refine ⟨fun e he => owns_saved name _ (fun c' hc' => ?_) e
        ((h dir).1 c hfile (hgood c hfile) e he), fun f' hf' => ?_⟩
      · exact hc'.clusterName.trans (dir.named name c hfile)
      · rw [Option.some.inj (hf'.symm.trans hf)]
        exact hfollows.kept

/-- A command that begins with loading the cluster. -/
theorem keeping_loaded {α : Type} (fresh : Cluster → String → Prop)
    (opens : Cluster → Except Exn Unit) (body : Cluster → Command α)
    (h : ∀ c, WellKept c → ∀ e ∈ (body c).trace, SavesOnly (Follows (fresh c) c) e) :
    Keeping name fresh (fun dir => (ofExcept (loadCluster opens dir name) >>= body).trace) := by
  intro dir
  refine ⟨fun c hfile hkept => ?_, fun hfile => ?_⟩
  · refine Lifecycle.loaded_saves name opens dir body _ (fun c' hload => ?_)
    rw [Option.some.inj ((loadCluster_ok opens dir name c' hload).symm.trans hfile)]
    exact h c hkept
  · rcases Lifecycle.loadCluster_fresh name opens dir hfile with ⟨e, he⟩
    dsimp only
    rw [he]
    exact fun _ hmem => absurd hmem List.not_mem_nil

/-- Commands in a row. -/
theorem inTurn_preserves (xs : List (ClustersDir → Command Unit))
    (h : ∀ x ∈ xs, Preserves name x) : Preserves name (inTurn xs) := by
  induction xs with
  | nil => exact fun dir hgood => ⟨fun _ he => absurd he List.not_mem_nil, hgood⟩
  | cons x xs ih =>
      intro dir hgood
      rcases h x List.mem_cons_self dir hgood with ⟨howns, hafter⟩
      rw [inTurn_cons]
      cases hx : (x dir).result with
      | error e =>
          rw [bind_error _ _ e hx]
          exact ⟨howns, hafter⟩
      | ok u =>
          rcases ih (fun y hy => h y (List.mem_cons_of_mem x hy)) _ hafter with ⟨howns', hafter'⟩
          rw [bind_ok _ _ u hx]
          refine ⟨fun e he => ?_, ?_⟩
          · rcases List.mem_append.mp he with he | he
            · exact howns e he
            · exact howns' e he
          · rw [ClustersDir.after_append]
            exact hafter'

end Files

section Steps

/-- A handler that only raises does nothing. -/
theorem attempt_trace {α : Type} (x : Command α) (h : Exn → Command α)
    (hraise : ∀ e, (h e).trace = []) : (attempt x h).trace = x.trace := by
  cases hx : x.result with
  | ok a => rw [attempt_ok x h a hx]
  | error e =>
      rw [attempt_error x h e hx, hraise]
      exact List.append_nil _

/-- What comes after a step that only returns is nothing. -/
theorem discard_trace {α : Type} (x : Command α) :
    (x >>= fun _ => (pure () : Command Unit)).trace = x.trace := by
  cases hx : x.result with
  | error e => rw [bind_error _ _ e hx]
  | ok a =>
      rw [bind_ok _ _ a hx]
      exact List.append_nil _

variable (self : Provisioner)

/-- A name that an allocation of the cluster returns. -/
def Relaunched (c : Cluster) (k : String) : Prop :=
  ∃ a ∈ self.provisioning.attempts self.out c.topoMap self.envs [],
    ∃ n ∈ returned a.2, n.vm.name = k

/-- The names that a step makes anew. -/
def refreshed (step : ProvisionStep) (c : Cluster) (k : String) : Prop :=
  step = .allocate ∧ Relaunched self c k

theorem allocate_keeping : Keeping self.clusterName (refreshed self .allocate)
    (fun dir => (self.allocate dir).trace) := by
  have htrace : ∀ dir, (self.allocate dir).trace
      = (ofExcept (loadCluster self.opens dir self.clusterName)
        >>= fun c => asXbench (self.provisioning.allocateEnvs self.out self.envs [] c)).trace :=
    fun dir => discard_trace _
  simp only [htrace]
  refine keeping_loaded _ _ _ _ (fun c hkept e he => ?_)
  rw [asXbench_trace] at he
  exact (allocateEnvs_follows _ self.provisioning self.out self.envs [] c c
    (follows_refl _ c hkept) (fun a ha n hn => ⟨rfl, a, ha, n, hn, rfl⟩)).trace e he

/-- A step that does not start anew. -/
theorem step_keeping (step : ProvisionStep) (h : step.startsAnew = false) :
    Keeping self.clusterName (refreshed self step) (fun dir => (self.step step dir).trace) := by
  -- what a step does that only looks
  have hlooks : ∀ (fresh : Cluster → String → Prop) (look : Cluster → Command Unit),
      (∀ c, (look c).trace = []) → Keeping self.clusterName fresh (fun dir =>
        (ofExcept (loadCluster self.opens dir self.clusterName) >>= look).trace) := by
    intro fresh look hnone
    refine keeping_loaded _ _ _ _ (fun c _ e he => ?_)
    rw [hnone c] at he
    exact absurd he List.not_mem_nil
  cases step with
  | configure => cases h
  | all => cases h
  | allocate => exact allocate_keeping self
  | make =>
      have htrace : ∀ dir, (self.step .make dir).trace = _ := fun dir => asXbench_trace _
      simp only [htrace]
      exact hlooks _ _ (fun c => discard_trace _)
  | test =>
      have htrace : ∀ dir, (self.step .test dir).trace = _ := fun dir => attempt_trace _ _
        (fun e => by split <;> rfl)
      simp only [htrace]
      exact hlooks _ _ (fun c => rfl)
  | install =>
      have htrace : ∀ dir, (self.step .install dir).trace = _ := fun dir =>
        attempt_trace _ _ (fun e => rfl)
      simp only [htrace]
      exact keeping_loaded _ _ _ _ (fun c hkept =>
        (installCluster_follows _ self.toInstaller c self.installSchedule hkept).trace)
  | clean =>
      have htrace : ∀ dir, (self.step .clean dir).trace = _ := fun dir =>
        attempt_trace _ _ (fun e => rfl)
      simp only [htrace]
      exact keeping_loaded _ _ _ _ (fun c hkept =>
        (cleanEnvs_follows _ self.toUninstaller self.envs c c (follows_refl _ c hkept)).trace)

theorem configure_preserves : Preserves self.clusterName self.configure := by
  intro dir hgood
  have hsaves : ∀ e ∈ (self.configure dir).trace, SavesOnly (fun c =>
      c.clusterName = self.clusterName ∧ WellKept c) e := by
    have htrace : (self.configure dir).trace
        = (self.provisioning.configure self.out self.loadTopo).trace := discard_trace _
    rw [htrace]
    refine (triple_step _ (fun _ => True) _ _ (fun _ _ => triple_step _ _ _ _ (fun topo _ =>
      triple_step _ _ _ _ (fun cluster hcluster => ?_)))).trace
    refine triple_tell_bind _ _ _ _ ?_ (triple_pure _ _ _ trivial)
    unfold Provisioning.configured at hcluster
    rcases except_bind_eq_ok _ _ _ hcluster with ⟨hash, _, hcluster⟩
    rw [← Except.ok.inj hcluster]
    -- a new cluster has no members
    exact ⟨rfl, fun k n hn => (by cases hn), fun k n hn => (by cases hn)⟩
  refine ⟨fun e he => owns_saved _ _ (fun c hc => hc.1) e (hsaves e he), fun f hf => ?_⟩
  rcases file_after _ dir _ self.clusterName hsaves with hsame | ⟨c, hc, hsaved⟩
  · exact hgood f (hsame.symm.trans hf)
  · rw [Option.some.inj (hf.symm.trans hsaved)]
    exact wellKept_asFile c hc.2

/-- All steps, one or five, keep the file well. -/
theorem step_preserves (step : ProvisionStep) : Preserves self.clusterName (self.step step) := by
  cases step with
  | configure => exact configure_preserves self
  | all =>
      refine inTurn_preserves _ _ (fun x hx => ?_)
      have hone : ∀ s : ProvisionStep, s.startsAnew = false →
          Preserves self.clusterName (self.step s) :=
        fun s hs => preserves_keeping _ _ _ (step_keeping self s hs)
      simp only [List.mem_cons, List.not_mem_nil, or_false] at hx
      rcases hx with rfl | rfl | rfl | rfl | rfl
      · exact configure_preserves self
      · exact hone .allocate rfl
      · exact hone .test rfl
      · exact hone .make rfl
      · exact hone .install rfl
  | allocate => exact preserves_keeping _ _ _ (step_keeping self .allocate rfl)
  | make => exact preserves_keeping _ _ _ (step_keeping self .make rfl)
  | test => exact preserves_keeping _ _ _ (step_keeping self .test rfl)
  | install => exact preserves_keeping _ _ _ (step_keeping self .install rfl)
  | clean => exact preserves_keeping _ _ _ (step_keeping self .clean rfl)

end Steps

section Teardown

/-- An event that writes no cluster file and makes no machine. -/
def MakesNothing (e : Event) : Prop :=
  e.writesFile = false ∧ e.created? = none

theorem deregisterCluster_makes (ms : MetricsServer) (api : MetricsApi)
    (clusterName : String) :
    Triple MakesNothing (fun _ => True) (ms.deregisterCluster api clusterName) := by
  unfold MetricsServer.deregisterCluster
  cases ms.sshClient with
  | none => exact triple_pure _ _ _ trivial
  | some host =>
      dsimp only
      split
      · exact triple_tell_bind _ _ _ _ ⟨rfl, rfl⟩ (triple_ofExcept _ _ _ (fun _ _ => trivial))
      · exact triple_ofExcept _ _ _ (fun _ _ => trivial)

theorem processStorageInstances_makes (fn : VirtualStorage → Command (Option VirtualStorage))
    (h : ∀ s, Triple MakesNothing (fun _ => True) (fn s)) (l : List VirtualStorage) :
    Triple MakesNothing (fun _ => True) (processStorageInstances fn l) := by
  induction l with
  | nil => exact triple_pure _ _ _ trivial
  | cons s l ih =>
      rw [processStorageInstances]
      exact triple_bind _ _ _ _ _ (h s) (fun _ _ => triple_bind _ _ _ _ _ ih
        (fun _ _ => triple_pure _ _ _ trivial))

variable (cloud : AbstractCloud)

theorem newStorage_makes (s : VirtualStorage) :
    Triple MakesNothing (fun _ => True) (newStorage cloud s) :=
  triple_step _ _ _ _ (fun _ _ => triple_step _ _ _ _ (fun _ _ => triple_pure _ _ _ trivial))

theorem detachStorage_makes (vm : VirtualMachine) (flag : Bool) (s : VirtualStorage) :
    Triple MakesNothing (fun _ => True) (detachStorage cloud vm s flag) := by
  refine triple_tell_bind _ _ _ _ ⟨rfl, rfl⟩ (triple_bind _ _ _ _ _ (newStorage_makes cloud s)
    (fun gs _ => ?_))
  split
  · exact triple_tell_bind _ _ _ _ ⟨rfl, rfl⟩
      (triple_step _ _ _ _ (fun _ _ => triple_pure _ _ _ trivial))
  · exact triple_pure _ _ _ trivial

theorem terminateInstance_makes (n : Node) (flag : Bool) :
    Triple MakesNothing (fun _ => True) (terminateInstance cloud n flag) := by
  refine triple_step _ _ _ _ (fun klass _ => triple_tell_bind _ _ _ _ ⟨rfl, rfl⟩
    (triple_step _ _ _ _ (fun _ _ => ?_)))
  have hdetach := fun s => detachStorage_makes cloud n.vm flag s
  refine triple_bind _ (fun _ => True) _ _ _ (triple_bind _ (fun _ => True) _ _ _ ?_ (fun _ _ =>
    triple_bind _ _ _ _ _ (processStorageInstances_makes _ hdetach _)
      (fun _ _ => triple_pure _ _ _ trivial))) (fun _ _ => triple_pure _ _ _ trivial)
  cases n.vm.storage with
  | none => exact triple_pure _ _ _ trivial
  | some s => exact hdetach s

theorem destroyFirst_makes (destroy : VirtualMachine → Except Exn Unit) (l : List Node) :
    Triple MakesNothing (fun _ => True) (destroyFirst destroy l) := by
  cases l with
  | nil => exact triple_raise _ _ _
  | cons n l => exact triple_tell_bind _ _ _ _ ⟨rfl, rfl⟩ (triple_ofExcept _ _ _ (fun _ _ => trivial))

/-- Terminating makes nothing, on any cloud. -/
theorem terminateInstancesOf_makes (σ : Schedule Event) (l : List Node) (flag : Bool) :
    ∀ e ∈ (terminateInstancesOf cloud σ l flag).trace, MakesNothing e := by
  have hpool : ∀ e ∈ (terminateInstances cloud σ l flag).trace, MakesNothing e := by
    intro e he
    rw [terminateInstances_eq, mem_parallel_trace] at he
    rcases he with ⟨t, ht, het⟩
    rcases List.mem_map.mp ht with ⟨n, _, rfl⟩
    exact (terminateInstance_makes cloud n false).trace e het
  unfold terminateInstancesOf
  cases cloud.cloudType with
  | aws => exact hpool
  | gcp => exact hpool
  | colo =>
      dsimp only
      split
      · exact (triple_raise MakesNothing (fun _ : Unit => True) _).trace
      · exact fun e he => by rw [List.mem_singleton.mp he]; exact ⟨rfl, rfl⟩
  | skySql => exact (destroyFirst_makes _ l).trace
  | skySql2 => exact (destroyFirst_makes _ l).trace
  | rds => exact (destroyFirst_makes _ l).trace
  | aurora => exact (destroyFirst_makes _ l).trace
  | alloyDB => exact (destroyFirst_makes _ l).trace
  | ephemeral => exact (triple_raise MakesNothing (fun _ : Unit => True) _).trace

variable (self : DeProvisioning)

theorem cleanEnv_makes (c : Cluster) (env : Environment) :
    Triple MakesNothing (fun _ => True) (self.cleanEnv c env) := by
  unfold DeProvisioning.cleanEnv
  refine triple_step _ _ _ _ (fun config _ => triple_step _ _ _ _ (fun region _ =>
    triple_step _ _ _ _ (fun ms _ => triple_step _ _ _ _ (fun cloud _ => ?_))))
  refine triple_bind _ _ _ _ _ (deregisterCluster_makes ms _ _) (fun _ _ => ?_)
  have hgroups : Triple MakesNothing (fun _ => True)
      (self.cleanGroups (self.outside.schedule env) c env) := by
    refine triple_step _ _ _ _ (fun groups _ => triple_bind _ (fun _ => True) _ _ _ ?_
      (fun _ _ => triple_pure _ _ _ trivial))
    refine triple_mono _ _ _ _ _ (fun _ he => he) (fun _ _ => trivial)
      (triple_parallel _ _ (fun _ => True) _ (fun t ht => ?_))
    rcases List.mem_map.mp ht with ⟨g, _, rfl⟩
    exact triple_ofExcept _ _ _ (fun _ _ => trivial)
  have hstorage : Triple MakesNothing (fun _ => True) (do
      let _ ← terminateStorageInstances cloud c.sharedStorage
      pure ()) := by
    refine triple_bind _ (fun _ => True) _ _ _ (processStorageInstances_makes _ (fun s => ?_) _)
      (fun _ _ => triple_pure _ _ _ trivial)
    exact triple_bind _ _ _ _ _ (newStorage_makes cloud s) (fun _ _ =>
      triple_tell_bind _ _ _ _ ⟨rfl, rfl⟩ (triple_step _ _ _ _ (fun _ _ => triple_pure _ _ _ trivial)))
  have hrest : Triple MakesNothing (fun _ => True) (if self.dryRun then pure ()
      else do
        if !(provisionedIn c env).isEmpty then
          terminateInstancesOf cloud (self.outside.schedule env) (provisionedIn c env) true
        let _ ← terminateStorageInstances cloud c.sharedStorage
        pure ()) := by
    split
    · exact triple_pure _ _ _ trivial
    · dsimp only
      split
      · exact triple_bind _ (fun _ => True) _ _ _
          ⟨terminateInstancesOf_makes cloud _ _ _, fun _ _ => trivial⟩ (fun _ _ => hstorage)
      · exact hstorage
  dsimp only
  split
  · exact triple_bind _ (fun _ => True) _ _ _ hgroups (fun _ _ => hrest)
  · exact hrest

theorem deprovisionEnvs_makes (c : Cluster) (envs : List Environment) :
    Triple MakesNothing (fun _ => True) (self.cleanEnvs c envs) := by
  induction envs with
  | nil => exact triple_pure _ _ _ trivial
  | cons env envs ih =>
      exact triple_bind _ _ _ _ _ (cleanEnv_makes self c env) (fun _ _ => ih)

/-- The clouds that are told of each machine. -/
def perMachine : CloudType → Bool
  | .aws => true
  | .gcp => true
  | _ => false

/-- On these clouds each of the instances is told to go. -/
theorem terminateInstancesOf_releases (hcloud : perMachine cloud.cloudType = true)
    (hcli : createCli (cloudTypeOf cloud.cloudType) = .ok cloud.cli) (σ : Schedule Event)
    (l : List Node) (flag : Bool) (n : Node) (hn : n ∈ l) :
    .destroyInstance n.vm ∈ (terminateInstancesOf cloud σ l flag).trace := by
  -- their interfaces have a compute class, so the request is made
  have hpool : terminateInstancesOf cloud σ l flag = terminateInstances cloud σ l flag
      ∧ ∃ klass, createCompute cloud.cli = .ok klass := by
    unfold terminateInstancesOf
    cases htype : cloud.cloudType with
    | aws =>
        rw [htype] at hcli
        exact ⟨rfl, .awsEc2, by rw [← Except.ok.inj hcli]; rfl⟩
    | gcp =>
        rw [htype] at hcli
        exact ⟨rfl, .gcpCompute, by rw [← Except.ok.inj hcli]; rfl⟩
    | _ =>
        rw [htype] at hcloud
        cases hcloud
  rcases hpool with ⟨heq, klass, hklass⟩
  rw [heq, terminateInstances_eq, mem_parallel_trace]
  refine ⟨_, List.mem_map.mpr ⟨n, hn, rfl⟩, ?_⟩
  unfold terminateInstance
  rw [hklass, bind_ok _ _ klass rfl]
  exact mem_trace_bind_left _ _ _ List.mem_cons_self

/-- An environment that is torn down to its end has told each of its machines
    to go. -/
theorem cleanEnv_releases (c : Cluster) (env : Environment) (t : CloudType)
    (ht : CloudType.fromString env.cloud = .ok t) (hcloud : perMachine t = true)
    (hdry : self.dryRun = false) (hdone : (self.cleanEnv c env).result = .ok ()) (n : Node)
    (hn : n ∈ provisionedIn c env) :
    .destroyInstance n.vm ∈ (self.cleanEnv c env).trace := by
  unfold DeProvisioning.cleanEnv at hdone ⊢
  rcases bind_result_ok _ _ _ hdone with ⟨config, hconfig, hdone⟩
  rcases bind_result_ok _ _ _ hdone with ⟨region, hregion, hdone⟩
  rcases bind_result_ok _ _ _ hdone with ⟨ms, hms, hdone⟩
  rcases bind_result_ok _ _ _ hdone with ⟨cloud, hmade, hdone⟩
  rcases bind_result_ok _ _ _ hdone with ⟨_, hgone, hdone⟩
  refine mem_trace_bind_right _ _ config _ hconfig (mem_trace_bind_right _ _ region _ hregion
    (mem_trace_bind_right _ _ ms _ hms (mem_trace_bind_right _ _ cloud _ hmade
      (mem_trace_bind_right _ _ () _ hgone ?_))))
  -- the cloud is of the type that the environment names
  have hmade' : createCloud (self.outside.clouds env) t self.clusterName region = .ok cloud := by
    rcases except_bind_eq_ok _ _ _ (show createCloudFromStr (self.outside.clouds env) env.cloud
      self.clusterName region = .ok cloud from hmade) with ⟨t', ht', h⟩
    rw [Except.ok.inj (ht'.symm.trans ht)] at h
    exact h
  rcases createCloud_ok _ _ _ _ cloud hmade' with ⟨htype, hcli⟩
  rw [← htype] at hcloud hcli
  have hsome : (!(provisionedIn c env).isEmpty) = true := by
    cases hl : provisionedIn c env with
    | nil =>
        rw [hl] at hn
        exact absurd hn List.not_mem_nil
    | cons m l => rfl
  have hreleased := terminateInstancesOf_releases cloud hcloud hcli (self.outside.schedule env)
    (provisionedIn c env) true n hn
  simp only [hdry, hsome, if_true, Bool.false_eq_true, if_false] at hdone ⊢
  split at hdone <;> rename_i hpersistent
  · rw [if_pos hpersistent]
    rcases bind_result_ok _ _ _ hdone with ⟨_, hgroups, hdone⟩
    exact mem_trace_bind_right _ _ () _ hgroups (mem_trace_bind_left _ _ _ hreleased)
  · rw [if_neg hpersistent]
    exact mem_trace_bind_left _ _ _ hreleased

/-- So has a teardown that comes to its end. -/
theorem cleanEnvs_releases (c : Cluster) (envs : List Environment)
    (hdry : self.dryRun = false) (hdone : (self.cleanEnvs c envs).result = .ok ())
    (env : Environment) (henv : env ∈ envs) (t : CloudType)
    (ht : CloudType.fromString env.cloud = .ok t) (hcloud : perMachine t = true) (n : Node)
    (hn : n ∈ provisionedIn c env) :
    .destroyInstance n.vm ∈ (self.cleanEnvs c envs).trace := by
  induction envs with
  | nil => exact absurd henv List.not_mem_nil
  | cons env' envs ih =>
      rw [DeProvisioning.cleanEnvs] at hdone ⊢
      rcases bind_result_ok _ _ _ hdone with ⟨_, hfirst, hrest⟩
      rcases List.mem_cons.mp henv with rfl | henv
      · exact mem_trace_bind_left _ _ _
          (cleanEnv_releases self c env t ht hcloud hdry hfirst n hn)
      · exact mem_trace_bind_right _ _ () _ hfirst (ih hrest henv)

/-- A teardown by the file saves the cluster and, when it comes to its end,
    removes the file. -/
theorem deprovisionClean_cases (c : Cluster) :
    (∃ e, (self.clean c).result = .error e
      ∧ ∀ e' ∈ (self.clean c).trace, SavesOnly (fun c' => c' = c) e')
    ∨ ((self.clean c).result = .ok () ∧ (self.cleanEnvs c c.envs).result = .ok ()
      ∧ (self.clean c).trace = .saveCluster c :: ((self.cleanEnvs c c.envs).trace
        ++ [.removeClusterYaml self.clusterName])) := by
  have hmakes := (deprovisionEnvs_makes self c c.envs).trace
  unfold DeProvisioning.clean
  rw [tell_bind]
  cases harchive : self.archive with
  | error e =>
      left
      rw [bind_error _ _ e rfl]
      exact ⟨e, rfl, fun e' he' => by rw [List.mem_singleton.mp he']; rfl⟩
  | ok u =>
      rw [bind_ok _ _ u rfl]
      cases hres : (self.cleanEnvs c c.envs).result with
      | error e =>
          left
          rw [bind_error _ _ e hres]
          refine ⟨e, rfl, fun e' he' => ?_⟩
          rcases List.mem_cons.mp he' with rfl | he'
          · rfl
          · exact savesOnly_unwritten _ e' (hmakes e' he').1
      | ok u' =>
          right
          rw [bind_ok _ _ u' hres]
          exact ⟨rfl, rfl, rfl⟩

/-- An event that writes no file, or removes that of a cluster. -/
def Clears (name : String) (e : Event) : Prop :=
  e.writesFile = false ∨ e = .removeClusterYaml name

theorem requestEach_clears (event : Option String → Event)
    (outcome : Option String → Except Exn Unit) (ids : List (Option String))
    (h : ∀ id, (event id).writesFile = false) :
    Triple (Clears self.clusterName) (fun _ => True) (TagApi.requestEach event outcome ids) :=
  requestEach_spec _ event outcome ids (fun id _ => Or.inl (h id))

theorem nukeFound_clears (cli : Cli) (instances volumes : Option (List (Option String))) :
    Triple (Clears self.clusterName) (fun _ => True) (self.nukeFound cli instances volumes) := by
  have hremove : Triple (Clears self.clusterName) (fun _ => True)
      (tell (.removeClusterYaml self.clusterName) : Command Unit) := triple_tell _ _ (Or.inr rfl)
  have hterminate : ∀ ids, Triple (Clears self.clusterName) (fun _ => True)
      (self.tags.terminateInstances ids cli) := by
    intro ids
    cases cli with
    | aws => exact requestEach_clears self _ _ _ (fun _ => rfl)
    | gcp => exact requestEach_clears self _ _ _ (fun _ => rfl)
    | _ => exact triple_pure _ _ _ trivial
  have hdelete : ∀ ids, Triple (Clears self.clusterName) (fun _ => True)
      (self.tags.deleteVolumes ids cli) := by
    intro ids
    cases cli with
    | aws => exact requestEach_clears self _ _ _ (fun _ => rfl)
    | gcp => exact requestEach_clears self _ _ _ (fun _ => rfl)
    | _ => exact triple_pure _ _ _ trivial
  -- deleting the volumes is the end of every branch
  have hend : Triple (Clears self.clusterName) (fun _ => True)
      (do
        let volumes ← ofExcept (volumes.elim (.error noLength) .ok)
        if !volumes.isEmpty then self.tags.deleteVolumes volumes cli
        tell (.removeClusterYaml self.clusterName)) := by
    refine triple_step _ _ _ _ (fun found _ => ?_)
    split
    · exact triple_bind _ _ _ _ _ (hdelete found) (fun _ _ => hremove)
    · exact hremove
  unfold DeProvisioning.nukeFound
  refine triple_step _ _ _ _ (fun found _ => ?_)
  split
  · exact triple_bind _ _ _ _ _ (hterminate found) (fun _ _ =>
      triple_step _ _ _ _ (fun _ _ => hend))
  · exact hend

theorem nuke_clears (cloudName cloudRegion : String) :
    Triple (Clears self.clusterName) (fun _ => True) (self.nuke cloudName cloudRegion) := by
  unfold DeProvisioning.nuke
  refine triple_step _ _ _ _ (fun config _ => triple_step _ _ _ _ (fun region _ =>
    triple_step _ _ _ _ (fun ms _ => triple_bind _ _ _ _ _ (triple_mono _ _ _ _ _
      (fun _ he => Or.inl he.1) (fun _ h => h) (deregisterCluster_makes ms _ _)) (fun _ _ =>
        triple_step _ _ _ _ (fun cli _ => ?_)))))
  cases cli with
  | none => exact triple_tell _ _ (Or.inr rfl)
  | some cli =>
      refine triple_step _ _ _ _ (fun _ _ => triple_step _ _ _ _ (fun instances _ =>
        triple_step _ _ _ _ (fun volumes _ => ?_)))
      split
      · exact triple_pure _ _ _ trivial
      · exact nukeFound_clears self cli instances volumes

/-- Clearing leaves the file or takes it away. -/
theorem good_clears (name : String) (dir : ClustersDir) (trace : List Event)
    (h : ∀ e ∈ trace, Clears name e) (hgood : Good name dir) :
    (∀ e ∈ trace, Owns name e) ∧ Good name (dir.after trace) := by
  refine ⟨fun e he => ?_, ?_⟩
  · rcases h e he with hunwritten | rfl
    · exact owns_unwritten name e hunwritten
    · rfl
  · induction trace generalizing dir with
    | nil => exact hgood
    | cons e trace ih =>
        refine ih (dir.apply e) (fun e' he' => h e' (List.mem_cons_of_mem e he')) ?_
        rcases h e List.mem_cons_self with hunwritten | rfl
        · have hsame : dir.apply e = dir :=
            after_unwritten dir [e] (fun e' he' => by
              rw [List.mem_singleton.mp he']
              exact hunwritten)
          rw [hsame]
          exact hgood
        · intro f hf
          rw [show (dir.apply (.removeClusterYaml name)).file name = none from if_pos rfl] at hf
          cases hf

/-- The file is gone when a teardown by the file has come to its end. -/
theorem deprovisionClean_file (c : Cluster) (dir : ClustersDir)
    (h : (self.clean c).result = .ok ()) :
    (dir.after (self.clean c).trace).file self.clusterName = none := by
  rcases deprovisionClean_cases self c with ⟨e, he, _⟩ | ⟨_, _, htrace⟩
  · rw [he] at h
    cases h
  · rw [htrace, ← List.cons_append, ClustersDir.after_append]
    exact if_pos rfl

theorem deprovision_preserves (args : DeprovisionArgs) (opens : Cluster → Except Exn Unit) :
    Preserves self.clusterName (deprovision self args opens) := by
  intro dir hgood
  have hnothing : (∀ e ∈ ([] : List Event), Owns self.clusterName e)
      ∧ Good self.clusterName (dir.after []) := ⟨fun _ he => absurd he List.not_mem_nil, hgood⟩
  unfold deprovision
  split
  · split
    · exact good_clears _ dir _ (nuke_clears self _ _).trace hgood
    · cases self.loadCloud _ with
      | error e => exact hnothing
      | ok config => exact hnothing
  · cases hload : loadCluster opens dir self.clusterName with
    | error e => exact hnothing
    | ok c =>
        have hfile := loadCluster_ok opens dir _ c hload
        have hname := dir.named _ c hfile
        rw [bind_ok _ _ c rfl, trace_ofExcept, List.nil_append]
        rcases deprovisionClean_cases self c with ⟨e, he, hsaves⟩ | ⟨hdone, _, htrace⟩
        · refine ⟨fun e he => owns_saved _ _ (fun c' hc' => hc' ▸ hname) e (hsaves e he),
            fun f hf => ?_⟩
          rcases file_after _ dir _ self.clusterName hsaves with hsame | ⟨c', hc', hsaved⟩
          · exact hgood f (hsame.symm.trans hf)
          · rw [Option.some.inj (hf.symm.trans hsaved), hc']
            exact wellKept_asFile c (hgood c hfile)
        · refine ⟨fun e he => ?_, fun f hf => ?_⟩
          · rw [htrace] at he
            rcases List.mem_cons.mp he with rfl | he
            · exact hname
            · rcases List.mem_append.mp he with he | he
              · exact owns_unwritten _ e ((deprovisionEnvs_makes self c c.envs).trace e he).1
              · rw [List.mem_singleton.mp he]
                rfl
          · rw [deprovisionClean_file self c dir hdone] at hf
            cases hf

end Teardown

section Histories

/-- `stop` and `start`, on the cluster of the file. -/
theorem startStop_keeping (self : Installation) (onOff : String)
    (opens : Cluster → Except Exn Unit) : Keeping self.clusterName (fun _ _ => False)
      (fun dir => (Invocation.startStop self onOff opens dir).trace) := by
  have htrace : ∀ dir, (Invocation.startStop self onOff opens dir).trace
      = (ofExcept (loadCluster opens dir self.clusterName)
        >>= fun c => self.startStopCluster onOff c.envs c).trace := fun dir => discard_trace _
  simp only [htrace]
  exact keeping_loaded _ _ _ _ (fun c hkept =>
    (startStop_follows _ self onOff c.envs c c (follows_refl _ c hkept)).trace)

theorem preserves_silent (name : String) (x : ClustersDir → Command Unit)
    (h : ∀ dir, (x dir).trace = []) : Preserves name x := by
  intro dir hgood
  rw [h dir]
  exact ⟨fun _ he => absurd he List.not_mem_nil, hgood⟩

theorem provision_preserves (self : Provisioner) (step : ProvisionStep) (force : Bool) :
    Preserves self.clusterName (provision self step force) := by
  intro dir hgood
  have hnothing : (∀ e ∈ ([] : List Event), Owns self.clusterName e)
      ∧ Good self.clusterName (dir.after []) := ⟨fun _ he => absurd he List.not_mem_nil, hgood⟩
  unfold provision
  split
  · exact hnothing
  · cases self.built with
    | error e => exact hnothing
    | ok u =>
        rw [bind_ok _ _ u rfl, trace_ofExcept, List.nil_append]
        split
        · exact hnothing
        · exact step_preserves self step dir hgood

/-- All commands write one file, and keep it well. -/
theorem invocation_preserves (i : Invocation) : Preserves i.clusterName i.command := by
  cases i with
  | provision self step force => exact provision_preserves self step force
  | deprovision self args opens =>
      change Preserves self.clusterName
        (if args.accepted then Main.deprovision self args opens else fun _ => raise nukeArguments)
      split
      · exact deprovision_preserves self args opens
      · exact preserves_silent _ _ (fun _ => rfl)
  | run self =>
      refine inTurn_preserves _ _ (fun x hx => ?_)
      simp only [List.mem_cons, List.not_mem_nil, or_false] at hx
      rcases hx with rfl | rfl | rfl | rfl
      · exact provision_preserves self.provisioner .all self.args.force
      · exact preserves_silent _ _ (fun _ => rfl)
      · have hsame := deprovision_preserves self.deprovisioning self.args self.provisioner.opens
        rw [self.same] at hsame
        exact hsame
      · exact preserves_silent _ _ (fun _ => rfl)
  | stop self opens => exact preserves_keeping _ _ _ (startStop_keeping self "stop" opens)
  | start self opens => exact preserves_keeping _ _ _ (startStop_keeping self "start" opens)
  | other clusterName outcome => exact preserves_silent _ _ (fun _ => rfl)

/-- A command leaves the files of the other clusters. -/
theorem invoke_other (s : Site) (i : Invocation) (name : String) (hname : name ≠ i.clusterName)
    (h : ∀ other, Good other s.dir) : (invoke s i).dir.file name = s.dir.file name :=
  file_other i.clusterName name hname s.dir _ (invocation_preserves i s.dir (h _)).1

/-- After every history the files are well kept, whatever the commands and
    whichever of them failed. -/
theorem invokeAll_good (s : Site) (history : List Invocation) (h : ∀ name, Good name s.dir) :
    ∀ name, Good name (invokeAll s history).dir := by
  induction history generalizing s with
  | nil => exact h
  | cons i history ih =>
      refine ih (invoke s i) (fun name => ?_)
      by_cases hname : name = i.clusterName
      · rw [hname]
        exact (invocation_preserves i s.dir (h _)).2
      · intro f hf
        rw [invoke_other s i name hname h] at hf
        exact h name f hf

theorem invokeAll_run (s : Site) (history : List Invocation) :
    Transition.run (fun s i => some (invoke s i)) s history = some (invokeAll s history) := by
  induction history generalizing s with
  | nil => rfl
  | cons i history ih => exact ih (invoke s i)

/-- The commands that may forget a member of a cluster: one that starts anew
    by force, an allocation that returns a node of its name, a teardown by the
    tags, and a dry one. -/
def Forgets (name k : String) (s : Site) (i : Invocation) : Prop :=
  i.clusterName = name ∧ match i with
    | .provision self step force =>
        (step.startsAnew = true ∧ force = true)
          ∨ ∃ c, s.dir.file name = some c ∧ refreshed self step c k
    | .deprovision self args _ =>
        self.dryRun = true ∨ (args.force = true ∧ args.cloud.isSome = true)
    | .run self => self.args.force = true
    | _ => False

/-- A history in which no command forgets it. -/
def Remembers (name k : String) : Site → List Invocation → Prop :=
  Transition.Meets (fun s i => some (invoke s i)) (fun s i => ¬ Forgets name k s i)

/-- The file has a machine under a name that it is to give back, and the
    environment of it. -/
def Recorded (dir : ClustersDir) (name k : String) (machine : String × String × Option String)
    (env : Environment) : Prop :=
  ∃ f n, dir.file name = some f ∧ f.members.get? k = some n ∧ n.machine = machine
    ∧ n.vm.provisioned = true ∧ env ∈ f.envs

/-- The machine was told to go. -/
def Released (machine : String × String × Option String) (log : List Event) : Prop :=
  ∃ vm, .destroyInstance vm ∈ log ∧ (⟨vm⟩ : Node).machine = machine

variable (name k : String) (machine : String × String × Option String) (env : Environment)

theorem released_append (log log' : List Event) (h : Released machine log ∨ Released machine log') :
    Released machine (log ++ log') := by
  rcases h with ⟨vm, hvm, hmachine⟩ | ⟨vm, hvm, hmachine⟩
  · exact ⟨vm, List.mem_append_left _ hvm, hmachine⟩
  · exact ⟨vm, List.mem_append_right _ hvm, hmachine⟩

/-- What follows a cluster records what it does, but for fresh names. -/
theorem recorded_follows (fresh : Cluster → String → Prop) (trace : ClustersDir → List Event)
    (h : Keeping name fresh trace) (dir : ClustersDir) (hgood : Good name dir)
    (hrecorded : Recorded dir name k machine env)
    (hfresh : ∀ c, dir.file name = some c → ¬ fresh c k) :
    Recorded (dir.after (trace dir)) name k machine env := by
  rcases hrecorded with ⟨c, n, hfile, hget, hmachine, hprovisioned, henv⟩
  rcases follows_file name fresh trace h dir c hfile (hgood c hfile) with ⟨f, hf, hfollows⟩
  have hheld := hfollows.held k (hfresh c hfile)
  rw [hget, Option.map_some] at hheld
  rcases Option.map_eq_some_iff.mp hheld with ⟨m, hm, heq⟩
  have hparts := Prod.mk.injEq _ _ _ _ ▸ heq
  exact ⟨f, m, hf, hm, hparts.1.trans hmachine, hparts.2.trans hprovisioned, hfollows.envs env henv⟩

/-- A step that is taken leaves the machine recorded. -/
theorem provision_records (self : Provisioner) (step : ProvisionStep) (force : Bool) (s : Site)
    (hgood : Good self.clusterName s.dir)
    (hrecorded : Recorded s.dir self.clusterName k machine env)
    (hkeeps : ¬ Forgets self.clusterName k s (.provision self step force)) :
    Recorded (s.dir.after (provision self step force s.dir).trace) self.clusterName k machine
      env := by
  have hfile : (s.dir.file self.clusterName).isSome = true := by
    rcases hrecorded with ⟨f, _, hf, _⟩
    rw [hf]
    rfl
  unfold provision
  split
  · exact hrecorded
  · cases self.built with
    | error e => exact hrecorded
    | ok u =>
        rw [bind_ok _ _ u rfl, trace_ofExcept, List.nil_append]
        split
        · exact hrecorded
        · -- the guard let a step pass that does not start anew
          rename_i hguard
          have hstep : step.startsAnew = false := by
            rw [hfile, Bool.true_and] at hguard
            cases hanew : step.startsAnew with
            | false => rfl
            | true =>
                rw [hanew, Bool.true_and, Bool.not_eq_true', Bool.not_eq_false] at hguard
                exact absurd ⟨rfl, Or.inl ⟨hanew, hguard⟩⟩ hkeeps
          exact recorded_follows _ k machine env _ _ (step_keeping self step hstep) s.dir hgood
            hrecorded (fun c hc hrefreshed => hkeeps ⟨rfl, Or.inr ⟨c, hc, hrefreshed⟩⟩)

/-- A teardown by the file leaves it recorded, or tells it to go. -/
theorem deprovision_records (self : DeProvisioning) (c : Cluster) (dir : ClustersDir)
    (hfile : dir.file self.clusterName = some c) (hdry : self.dryRun = false)
    (t : CloudType) (ht : CloudType.fromString env.cloud = .ok t) (hcloud : perMachine t = true)
    (hrecorded : Recorded dir self.clusterName k machine env) (henv : env.name = machine.1) :
    Recorded (dir.after (self.clean c).trace) self.clusterName k machine env
      ∨ Released machine (self.clean c).trace := by
  rcases hrecorded with ⟨f, n, hf, hget, hmachine, hprovisioned, hmem⟩
  have hcf : c = f := Option.some.inj (hfile.symm.trans hf)
  subst hcf
  rcases deprovisionClean_cases self c with ⟨e, he, hsaves⟩ | ⟨_, hdone, htrace⟩
  · left
    rcases file_after _ dir _ self.clusterName hsaves with hsame | ⟨c', hc', hsaved⟩
    · exact ⟨c, n, hsame.trans hf, hget, hmachine, hprovisioned, hmem⟩
    · rw [hc'] at hsaved
      refine ⟨_, ⟨n.vm.asBase⟩, hsaved, ?_, hmachine, hprovisioned, hmem⟩
      rw [get?_asFile, hget]
      rfl
  · right
    have hin : n ∈ provisionedIn c env := by
      refine List.mem_filter.mpr ⟨(Dict.mem_values_iff _ n).mpr ⟨k, hget⟩, ?_⟩
      rw [Bool.and_eq_true, beq_iff_eq, henv, ← hmachine]
      exact ⟨rfl, hprovisioned⟩
    refine ⟨n.vm, ?_, hmachine⟩
    rw [htrace]
    exact List.mem_cons_of_mem _ (List.mem_append_left _
      (cleanEnvs_releases self c c.envs hdry hdone env hmem t ht hcloud n hin))

/-- One command. -/
theorem invoke_records (s : Site) (i : Invocation) (hgood : ∀ other, Good other s.dir)
    (t : CloudType) (ht : CloudType.fromString env.cloud = .ok t) (hcloud : perMachine t = true)
    (henv : env.name = machine.1) (hkeeps : ¬ Forgets name k s i)
    (hrecorded : Recorded s.dir name k machine env) :
    Recorded (invoke s i).dir name k machine env
      ∨ Released machine (i.command s.dir).trace := by
  by_cases hname : name = i.clusterName
  · subst hname
    cases i with
    | provision self step force =>
        exact Or.inl (provision_records k machine env self step force s (hgood _) hrecorded hkeeps)
    | deprovision self args opens =>
        change Recorded (s.dir.after ((if args.accepted then Main.deprovision self args opens
          else fun _ => raise nukeArguments) s.dir).trace) self.clusterName k machine env
          ∨ Released machine ((if args.accepted then Main.deprovision self args opens
            else fun _ => raise nukeArguments) s.dir).trace
        split
        · unfold deprovision
          split
          · rename_i hforce hcloudArg
            refine absurd ⟨rfl, Or.inr ⟨hforce, ?_⟩⟩ hkeeps
            rw [hcloudArg]
            rfl
          · cases hload : loadCluster opens s.dir self.clusterName with
            | error e => exact Or.inl hrecorded
            | ok c =>
                have hfile := loadCluster_ok opens s.dir _ c hload
                rw [bind_ok _ _ c rfl, trace_ofExcept, List.nil_append]
                have hdry : self.dryRun = false := by
                  cases hdry : self.dryRun with
                  | false => rfl
                  | true => exact absurd ⟨rfl, Or.inl hdry⟩ hkeeps
                exact deprovision_records k machine env self c s.dir hfile hdry t ht hcloud hrecorded
                  henv
        · exact Or.inl hrecorded
    | run self =>
        -- there is a file, so `run` without force raises at once
        left
        have hforce : self.args.force = false := by
          cases hforce : self.args.force with
          | false => rfl
          | true => exact absurd ⟨rfl, hforce⟩ hkeeps
        have hfirst : ∃ e, provision self.provisioner .all self.args.force s.dir
            = (raise e : Command Unit) := by
          rcases hrecorded with ⟨f, _, hf, _⟩
          have hfile : (s.dir.file self.provisioner.clusterName).isSome = true := by
            rw [show s.dir.file self.provisioner.clusterName = some f from hf]
            rfl
          unfold provision
          split
          · exact ⟨_, rfl⟩
          · cases self.provisioner.built with
            | error e => exact ⟨e, rfl⟩
            | ok u =>
                refine ⟨alreadyExists self.provisioner.clusterName, ?_⟩
                rw [bind_ok _ _ u rfl, hfile, hforce]
                rfl
        rcases hfirst with ⟨e, he⟩
        change Recorded (s.dir.after (self.run s.dir).trace) self.provisioner.clusterName k machine
          env
        rw [EndToEnd.run, inTurn_cons, he]
        exact hrecorded
    | stop self opens =>
        exact Or.inl (recorded_follows _ k machine env _ _ (startStop_keeping self "stop" opens)
          s.dir (hgood _) hrecorded (fun _ _ h => h))
    | start self opens =>
        exact Or.inl (recorded_follows _ k machine env _ _ (startStop_keeping self "start" opens)
          s.dir (hgood _) hrecorded (fun _ _ h => h))
    | other clusterName outcome => exact Or.inl hrecorded
  · left
    rcases hrecorded with ⟨f, n, hf, hrest⟩
    exact ⟨f, n, (invoke_other s i name hname hgood).trans hf, hrest⟩

/-- A machine that is recorded at some time is recorded later, or has been told
    to go since, unless a command forgets it. -/
theorem accounted (earlier later : List Invocation) (f : Cluster) (n : Node)
    (hfile : (invokeAll .start earlier).dir.file name = some f)
    (hmember : f.members.get? k = some n) (hprovisioned : n.vm.provisioned = true)
    (hremembers : Remembers name k (invokeAll .start earlier).since later) :
    (∃ env ∈ f.envs, env.name = n.vm.env)
      ∧ ∀ env ∈ f.envs, env.name = n.vm.env →
        ∀ t, CloudType.fromString env.cloud = .ok t → perMachine t = true →
          Recorded (invokeAll (invokeAll .start earlier).since later).dir name k n.machine env
            ∨ Released n.machine (invokeAll (invokeAll .start earlier).since later).log := by
  have hgood := invokeAll_good .start earlier (fun _ f hf => by cases hf)
  refine ⟨(hgood name f hfile).covered k n hmember, fun env henv hname t ht hcloud => ?_⟩
  have hinvariant := Transition.run_invariant (fun s i => some (invoke s i))
    (fun s i => ¬ Forgets name k s i)
    (fun s => (∀ other, Good other s.dir)
      ∧ (Recorded s.dir name k n.machine env ∨ Released n.machine s.log))
    (fun s i s' hs hkeeps hstep => ?_) later (invokeAll .start earlier).since _
    ⟨hgood, Or.inl ⟨f, n, hfile, hmember, rfl, hprovisioned, henv⟩⟩ hremembers
    (invokeAll_run _ later)
  · exact hinvariant.2
  · rw [← Option.some.inj hstep]
    refine ⟨invokeAll_good s [i] hs.1, ?_⟩
    rcases hs.2 with hrecorded | hreleased
    · rcases invoke_records name k n.machine env s i hs.1 t ht hcloud hname hkeeps hrecorded with
        hrecorded' | hreleased
      · exact Or.inl hrecorded'
      · exact Or.inr (released_append _ _ _ (Or.inr hreleased))
    · exact Or.inr (released_append _ _ _ (Or.inl hreleased))

end Histories

section Driver

/-- The provisioning of one driver in AWS. -/
def driverProvisioner : Provisioner where
  toExporting := Lifecycle.driverExporters
  cleanKlass := fun _ => .ok ()
  cleanSchedule := fun _ => .sequential Event
  topo := "driver"
  built := .ok ()
  out := Lifecycle.ec2
  loadTopo := .ok (.list [.str "driver"])
  opens := fun _ => .ok ()
  installSchedule := .sequential Event
  answers := fun _ => .ok ()

/-- Its teardown. -/
def driverTeardown : DeProvisioning :=
  { devTeardown with toInstallation := Lifecycle.driverInstallation }

/-- Provisioning it, step by step. -/
def driverProvisioned : List Invocation :=
  [.provision driverProvisioner .configure false, .provision driverProvisioner .allocate false,
    .provision driverProvisioner .make false, .provision driverProvisioner .install false]

/-- Provisioning a second time is refused, and the driver is stopped and started
    before the cluster is torn down. -/
def driverLife : List Invocation :=
  [.provision driverProvisioner .all false, .stop Lifecycle.driverInstallation (fun _ => .ok ()),
    .start Lifecycle.driverInstallation (fun _ => .ok ()),
    .deprovision driverTeardown ⟨false, none, none⟩ (fun _ => .ok ())]

theorem invoke_dir (s : Site) (i : Invocation) (dir : ClustersDir) (trace : List Event)
    (hdir : s.dir = dir) (htrace : (i.command dir).trace = trace) :
    (invoke s i).dir = dir.after trace := by
  rw [invoke, hdir, htrace]

theorem driverProvisioned_dir :
    (invokeAll .start driverProvisioned).dir = Lifecycle.onceInstalled := by
  have hconfigured := invoke_dir .start (.provision driverProvisioner .configure false) emptyDir
    [.saveCluster oneDriverCluster] rfl rfl
  have hallocated := invoke_dir _ (.provision driverProvisioner .allocate false)
    Lifecycle.onceConfigured [.createInstance "env_0" (some "i-1"),
      .saveCluster Lifecycle.allocatedDriver] hconfigured rfl
  have hmade := invoke_dir _ (.provision driverProvisioner .make false) Lifecycle.onceAllocated []
    hallocated rfl
  exact invoke_dir _ (.provision driverProvisioner .install false) Lifecycle.onceAllocated
    [.configureComponent ⟨"driver.Sysbench", false, false⟩ (.one Lifecycle.launchedDriver),
      .installComponent ⟨"driver.Sysbench", false, false⟩ (.one Lifecycle.launchedDriver),
      .saveCluster (Lifecycle.installedDriver .ready)] hmade rfl

theorem driver_accounted :
    (invokeAll .start driverProvisioned).dir.file "dev"
        = some (Lifecycle.installedDriver .ready).asFile
      ∧ (Recorded (invokeAll (invokeAll .start driverProvisioned).since driverLife).dir "dev"
          "driver-0" Lifecycle.launchedDriver.machine awsEnvironment.env
        ∨ Released Lifecycle.launchedDriver.machine
          (invokeAll (invokeAll .start driverProvisioned).since driverLife).log) := by
  have hfile : (invokeAll .start driverProvisioned).dir.file "dev"
      = some (Lifecycle.installedDriver .ready).asFile := by
    rw [driverProvisioned_dir]
    rfl
  refine ⟨hfile, (accounted "dev" "driver-0" driverProvisioned driverLife
    (Lifecycle.installedDriver .ready).asFile ⟨Lifecycle.launchedDriver.vm.asBase⟩ hfile rfl rfl
    ?_).2 awsEnvironment.env List.mem_cons_self rfl .aws rfl rfl⟩
  refine ⟨?_, fun _ _ => ⟨?_, fun _ _ => ⟨?_, fun _ _ => ⟨?_, fun _ _ => trivial⟩⟩⟩⟩
  · rintro ⟨_, ⟨_, hforce⟩ | ⟨_, _, hstep, _⟩⟩
    · cases hforce
    · cases hstep
  · exact fun h => h.2
  · exact fun h => h.2
  · rintro ⟨_, hdry | ⟨hforce, _⟩⟩
    · cases hdry
    · cases hforce

end Driver

end Main

end Xbench
