import Mathlib.Data.List.Rotate
import Xbench.Lib.Triple
import Xbench.Compute.Groups
import Xbench.Metrics.Server
import Xbench.Commands.Provisioning

/-!
# Installing a Cluster

`install` configures the components of each environment, then installs the
components of all of them on a pool, and goes over what the installs returned.
A component that returns a target is looked up in the tree by the name of its
group, and every proxy group that is called like the parent of that node is
told the target and gives another one for it.

The results come in the order in which the installs are over, and there is one
target to save: the last result that is none of `None` wins.

## Main definitions

* `Tree.preorder`: The nodes of a tree with their parents.
* `Cluster.findNodeByName`: The first node with a name.
* `ExtraImplParams`: Parameters from the command line.
* `Components`: What the classes of the components do.
* `Installer`: The command with its outside.
* `Installer.wire`: What becomes of a target.
* `Installer.collectTarget`: The loop over the results.
* `Installer.install`: The command.
* `Installer.Completes`: Nothing raises.
* `Installer.results`: What the installs return.
* `savedTargets`: The targets that are saved.
-/

namespace Xbench

open Effect

open Cluster (Klass GroupNodes Group groupNodesByName)

section Tree

variable {α : Type}

mutual

/-- The nodes of a tree, each with its parent, a node before its children. -/
def Tree.preorder (parent : Option α) : Tree α → List (Option α × α)
  | .node name children => (parent, name) :: preorderOf name children

def preorderOf (parent : α) : List (Tree α) → List (Option α × α)
  | [] => []
  | t :: ts => t.preorder (some parent) ++ preorderOf parent ts

end

end Tree

/-- `find_node_by_name`: the first node with the name, after its parent. -/
def Cluster.findNodeByName (c : Cluster) (nodeName : String) :
    Except Exn (Option String × String) :=
  match (c.clusterTree.preorder none).find? (fun node => node.2 == nodeName) with
  | some node => .ok node
  | none => .error ⟨.cluster, "There is no node with a name " ++ nodeName⟩

/-- Sections of parameters from the command line. They are passed along with
    the arguments `klass`, `nodes` and `name`, and no component is called so. -/
structure ExtraImplParams where
  params : Params
  plain : ∀ key ∈ ["klass", "nodes", "name"], params.get? key = none

theorem plain_empty : ∀ key ∈ ["klass", "nodes", "name"], (Dict.empty : Params).get? key = none :=
  fun _ _ => rfl

/-- What the classes of the components do: `klass(nodes, **extras)` and then
    one of its methods. -/
structure Components where
  isProxy : Klass → Bool
  configure : Klass → GroupNodes → Params → Except Exn Unit
  install : Klass → GroupNodes → Params → Except Exn (Option BackendTarget)
  postInstall : Klass → GroupNodes → Params → BackendTarget → Except Exn BackendTarget

/-- The command with its outside. -/
structure Installer where
  clusterName : String
  envs : List EnvironmentComponents
  extraImplParams : ExtraImplParams
  klasses : String → Except Exn Klass
  components : Components
  metrics : MetricsApi
  configureSchedule : Environment → Schedule Event

def Event.savedTarget? : Event → Option BackendTarget
  | .saveCluster c => some c.bt
  | _ => none

/-- The targets that are saved. -/
def savedTargets (trace : List Event) : List BackendTarget :=
  trace.filterMap Event.savedTarget?

/-- The target of a cluster that has none. -/
def noTarget : BackendTarget :=
  .new "127.0.0.1" "user" "no value" "no_value" 0

/-- The `except` clauses of `install`. -/
def installError (e : Exn) : Exn :=
  if e.isA .valueError then
    ⟨.xbench, e.message ++ ". Please check that klass in the form module.class"⟩
  else if e.isA .node || e.isA .shellSSHClient || e.isA .driver || e.isA .backend then
    ⟨.xbench, e.message⟩
  else e

namespace Installer

variable (self : Installer) (c : Cluster)

/-- `klass_instance_configure`; the name of the group is among its extras. -/
def configureInstance (g : Group) : Command Unit := do
  tell (.configureComponent g.klass g.nodes)
  ofExcept (self.components.configure g.klass g.nodes
    ((Dict.empty.set "name" (.str g.name)).union self.extraImplParams.params))

/-- `klass_instance_install`. -/
def installInstance (g : Group) : Command (String × Option BackendTarget) := do
  tell (.installComponent g.klass g.nodes)
  let result ← ofExcept
    (self.components.install g.klass g.nodes self.extraImplParams.params)
  pure (g.name, result)

/-- The first phase, environment by environment. -/
def configureEnvs : List EnvironmentComponents → Command Unit
  | [] => pure ()
  | env :: rest => do
      let _ ← ofExcept (initializeServer self.metrics env.regionConfig)
      let groups ← ofExcept (groupNodesByName self.klasses c)
      let _ ← parallel (self.configureSchedule env.env)
        ((groups.values.filter (fun g => g.env == env.env.name)).map self.configureInstance)
      configureEnvs rest

/-- One group, looked at for a component with the given parent. -/
def wireGroup (parent : Option String) (bt : BackendTarget) (g : Group) :
    Command BackendTarget :=
  match parent with
  | none => raise ⟨.attributeError, "'NoneType' object has no attribute 'name'"⟩
  | some name =>
      if g.name = name ∧ self.components.isProxy g.klass = true then do
        tell (.postInstall g.klass g.nodes bt)
        ofExcept (self.components.postInstall g.klass g.nodes self.extraImplParams.params bt)
      else pure bt

/-- What becomes of the target a component returned. -/
def wire (name : String) (res : BackendTarget) : Command BackendTarget := do
  let myNode ← ofExcept (c.findNodeByName name)
  let groups ← ofExcept (groupNodesByName self.klasses c)
  groups.values.foldlM (self.wireGroup myNode.1) res

/-- The loop over the results. -/
def collectTarget (bt : Option BackendTarget) :
    List (String × Option BackendTarget) → Command (Option BackendTarget)
  | [] => pure bt
  | (_, none) :: rest => collectTarget bt rest
  | (name, some res) :: rest => do
      let bt ← self.wire c name res
      collectTarget (some bt) rest

/-- `install` up to the target. -/
def collected (σ : Schedule Event) : Command (Option BackendTarget) := do
  self.configureEnvs c self.envs
  let groups ← ofExcept (groupNodesByName self.klasses c)
  let completedInstalls ← parallel σ (groups.values.map self.installInstance)
  self.collectTarget c none completedInstalls

/-- `install`, for a cluster that is loaded. -/
def installCluster (σ : Schedule Event) : Command Unit := do
  let bt ← self.collected c σ
  tell (.saveCluster { c with bt := bt.getD noTarget, state := .ready })

/-- `install`. -/
def install (opens : Cluster → Except Exn Unit) (dir : ClustersDir) (σ : Schedule Event) :
    Command Unit :=
  attempt (do
    let c ← ofExcept (loadCluster opens dir self.clusterName)
    self.installCluster c σ) (fun e => raise (installError e))

section Loop

/-- The results that are targets. -/
def returnedTargets (l : List (String × Option BackendTarget)) : List (String × BackendTarget) :=
  l.filterMap (fun r => r.2.map (fun res => (r.1, res)))

/-- What becomes of a target, without the calls. -/
def wired (name : String) (res : BackendTarget) : Except Exn BackendTarget :=
  (self.wire c name res).result

/-- The calls that are made for some targets. -/
def wiring (l : List (String × BackendTarget)) : List Event :=
  l.flatMap (fun r => (self.wire c r.1 r.2).trace)

theorem collectTarget_cons (bt : Option BackendTarget) (name : String) (res t : BackendTarget)
    (l : List (String × Option BackendTarget)) (h : self.wired c name res = .ok t) :
    self.collectTarget c bt ((name, some res) :: l)
      = ⟨(self.wire c name res).trace ++ (self.collectTarget c (some t) l).trace,
          (self.collectTarget c (some t) l).result⟩ := by
  rw [collectTarget]
  exact bind_ok _ _ t h

/-- A loop that is over has wired every target. -/
theorem wired_of_collectTarget (bt bt' : Option BackendTarget)
    (l : List (String × Option BackendTarget))
    (h : (self.collectTarget c bt l).result = .ok bt') :
    ∀ r ∈ returnedTargets l, ∃ t, self.wired c r.1 r.2 = .ok t := by
  induction l generalizing bt with
  | nil => exact fun r hr => absurd hr List.not_mem_nil
  | cons x l ih =>
      rcases x with ⟨name, _ | res⟩
      · exact ih bt h
      · intro r hr
        rw [collectTarget] at h
        rcases bind_result_ok _ _ _ h with ⟨t, ht, hrest⟩
        change r ∈ (name, res) :: returnedTargets l at hr
        rcases List.mem_cons.mp hr with rfl | hr
        · exact ⟨t, ht⟩
        · exact ih (some t) hrest r hr

/-- The last target that was wired is the one that is left. -/
theorem collectTarget_spec (bt : Option BackendTarget) (l : List (String × Option BackendTarget))
    (h : ∀ r ∈ returnedTargets l, ∃ t, self.wired c r.1 r.2 = .ok t) :
    (self.collectTarget c bt l).trace = self.wiring c (returnedTargets l)
      ∧ ∃ bt', (self.collectTarget c bt l).result = .ok bt'
        ∧ ((returnedTargets l = [] ∧ bt' = bt)
          ∨ ∃ front r t, returnedTargets l = front ++ [r] ∧ self.wired c r.1 r.2 = .ok t
            ∧ bt' = some t) := by
  induction l generalizing bt with
  | nil => exact ⟨rfl, bt, rfl, Or.inl ⟨rfl, rfl⟩⟩
  | cons x l ih =>
      rcases x with ⟨name, _ | res⟩
      · exact ih bt h
      · have hcons : returnedTargets ((name, some res) :: l) = (name, res) :: returnedTargets l :=
          rfl
        rw [hcons] at h ⊢
        rcases h (name, res) List.mem_cons_self with ⟨t, ht⟩
        rcases ih (some t) (fun r hr => h r (List.mem_cons_of_mem _ hr)) with
          ⟨htrace, bt', hresult, hlast⟩
        rw [collectTarget_cons self c bt name res t l ht]
        refine ⟨?_, bt', hresult, Or.inr ?_⟩
        · rw [htrace]
          rfl
        · rcases hlast with ⟨hnil, hbt⟩ | ⟨front, r, t', hfront, hr, hbt⟩
          · rw [hnil]
            exact ⟨[], (name, res), t, rfl, ht, hbt⟩
          · rw [hfront]
            exact ⟨(name, res) :: front, r, t', rfl, hr, hbt⟩

end Loop

section Run

/-- What the install of a component comes to. -/
def outcome (g : Group) : Except Exn (Option BackendTarget) :=
  self.components.install g.klass g.nodes self.extraImplParams.params

/-- The configuration of a component. -/
def configuration (g : Group) : Except Exn Unit :=
  self.components.configure g.klass g.nodes
    ((Dict.empty.set "name" (.str g.name)).union self.extraImplParams.params)

/-- Nothing raises: no metrics server, no configuration, no install, and no
    call of a proxy. -/
structure Completes (inst : Installer) (c : Cluster) (groups : Dict String Group) : Prop where
  servers : ∀ env ∈ inst.envs, ∃ ms, initializeServer inst.metrics env.regionConfig = .ok ms
  configures : ∀ env ∈ inst.envs, ∀ g ∈ groups.values, g.env = env.env.name →
    inst.configuration g = .ok ()
  installs : ∀ g ∈ groups.values, ∃ r, inst.outcome g = .ok r
  wirings : ∀ g ∈ groups.values, ∀ res, inst.outcome g = .ok (some res) →
    ∃ t, inst.wired c g.name res = .ok t

/-- What an install that is over returns. -/
def resultOf (g : Group) : String × Option BackendTarget :=
  (g.name, (self.outcome g).toOption.join)

/-- What the installs return. -/
def results (groups : Dict String Group) : List (String × Option BackendTarget) :=
  groups.values.map self.resultOf

variable (groups : Dict String Group) (hgroups : groupNodesByName self.klasses c = .ok groups)

theorem installInstance_result (g : Group) :
    (self.installInstance g).result = (self.outcome g).map (fun r => (g.name, r)) := by
  unfold installInstance
  change (ofExcept (self.outcome g) >>= _).result = _
  cases h : self.outcome g with
  | error e => rfl
  | ok r => rfl

include hgroups

theorem configureEnvs_ok_iff (envs : List EnvironmentComponents) :
    (self.configureEnvs c envs).result = .ok ()
      ↔ ∀ env ∈ envs, (∃ ms, initializeServer self.metrics env.regionConfig = .ok ms)
        ∧ ∀ g ∈ groups.values, g.env = env.env.name → self.configuration g = .ok () := by
  induction envs with
  | nil => exact ⟨fun _ env henv => absurd henv List.not_mem_nil, fun _ => rfl⟩
  | cons env envs ih =>
      have hpool : (∃ l, (parallel (self.configureSchedule env.env)
            ((groups.values.filter (fun g => g.env == env.env.name)).map
              self.configureInstance)).result = .ok l)
          ↔ ∀ g ∈ groups.values, g.env = env.env.name → self.configuration g = .ok () := by
        rw [parallel_isOk_iff, List.forall_mem_map]
        simp only [List.mem_filter, beq_iff_eq, and_imp]
        exact forall₃_congr (fun g _ _ => ⟨fun ⟨_, h⟩ => h, fun h => ⟨(), h⟩⟩)
      rw [configureEnvs, List.forall_mem_cons, ← ih, ← hpool]
      constructor
      · intro h
        rcases bind_result_ok _ _ _ h with ⟨ms, hms, h⟩
        rcases bind_result_ok _ _ _ h with ⟨groups', hgroups', h⟩
        rcases bind_result_ok _ _ _ h with ⟨l, hl, h⟩
        have heq : groups = groups' := Except.ok.inj (hgroups.symm.trans hgroups')
        exact ⟨⟨⟨ms, hms⟩, l, heq ▸ hl⟩, h⟩
      · rintro ⟨⟨⟨ms, hms⟩, l, hl⟩, hrest⟩
        rw [hms, bind_ok _ _ ms rfl, hgroups, bind_ok _ _ groups rfl, bind_ok _ _ l hl]
        exact hrest

omit hgroups in
/-- The first phase only configures. -/
theorem configureEnvs_trace (envs : List EnvironmentComponents) :
    Triple (fun e => ∃ klass nodes, e = Event.configureComponent klass nodes) (fun _ => True)
      (self.configureEnvs c envs) := by
  induction envs with
  | nil => exact triple_pure _ _ () trivial
  | cons env envs ih =>
      refine triple_step _ _ _ _ (fun _ _ => triple_step _ _ _ _ (fun groups _ => ?_))
      refine triple_bind _ (fun _ => True) _ _ _ ?_ (fun _ _ => ih)
      refine triple_mono _ _ _ _ _ (fun _ he => he) (fun _ _ => trivial)
        (triple_parallel _ _ (fun _ => True) _ (fun t ht => ?_))
      rcases List.mem_map.mp ht with ⟨g, _, rfl⟩
      exact triple_tell_bind _ _ _ _ ⟨g.klass, g.nodes, rfl⟩
        (triple_ofExcept _ _ _ (fun _ _ => trivial))

omit hgroups in
theorem map_result_installs (h : ∀ g ∈ groups.values, ∃ r, self.outcome g = .ok r) :
    (groups.values.map self.installInstance).map Effect.result
      = (self.results groups).map Except.ok := by
  rw [results, List.map_map, List.map_map]
  refine List.map_congr_left (fun g hg => ?_)
  rcases h g hg with ⟨r, hr⟩
  rw [Function.comp_apply, installInstance_result, Function.comp_apply, resultOf, hr]
  rfl

omit hgroups in
/-- The order in which the installs are over. -/
theorem pool_ok (σ : Schedule Event) (h : ∀ g ∈ groups.values, ∃ r, self.outcome g = .ok r) :
    ∃ order, (parallel σ (groups.values.map self.installInstance)).result = .ok order
      ∧ order.Perm (self.results groups)
      ∧ σ.complete ((self.results groups).map (Except.ok : _ → Except Exn _))
        = order.map Except.ok := by
  have hall : ∀ t ∈ groups.values.map self.installInstance, ∃ a, t.result = .ok a := by
    intro t ht
    rcases List.mem_map.mp ht with ⟨g, hg, rfl⟩
    rcases h g hg with ⟨r, hr⟩
    exact ⟨(g.name, r), by rw [installInstance_result, hr]; rfl⟩
  rcases (parallel_isOk_iff σ _).mpr hall with ⟨order, horder⟩
  have hcollect := (collect_ok_iff _ order).mp horder
  rw [map_result_installs self groups h] at hcollect
  refine ⟨order, horder, ?_, hcollect⟩
  have hperm := σ.complete_perm ((self.results groups).map (Except.ok : _ → Except Exn _))
  rw [hcollect] at hperm
  exact (List.map_perm_map_iff (fun _ _ => Except.ok.inj)).mp hperm

omit hgroups in
/-- A target that is among the results is one that a component returned. -/
theorem mem_returnedTargets_results (r : String × BackendTarget) :
    r ∈ returnedTargets (self.results groups)
      ↔ ∃ g ∈ groups.values, self.outcome g = .ok (some r.2) ∧ g.name = r.1 := by
  rw [returnedTargets, results, List.filterMap_map, List.mem_filterMap]
  refine exists_congr (fun g => and_congr_right (fun _ => ?_))
  rw [Function.comp_apply, resultOf]
  rcases r with ⟨name, res⟩
  rcases self.outcome g with e | _ | t
  · exact ⟨fun h => (nomatch h), fun h => (nomatch h.1)⟩
  · exact ⟨fun h => (nomatch h), fun h => (nomatch h.1)⟩
  · constructor
    · intro h
      rcases Prod.mk.inj (Option.some.inj h) with ⟨hname, hres⟩
      exact ⟨congrArg (fun t => Except.ok (some t)) hres, hname⟩
    · rintro ⟨hres, hname⟩
      exact congrArg some (Prod.ext hname (Option.some.inj (Except.ok.inj hres)))

/-- What a run does before it saves, when nothing raises. -/
structure Runs (inst : Installer) (c : Cluster) (groups : Dict String Group) (σ : Schedule Event)
    (order : List (String × Option BackendTarget)) (bt : Option BackendTarget) : Prop where
  result : (inst.collected c σ).result = .ok bt
  trace : (inst.collected c σ).trace = (inst.configureEnvs c inst.envs).trace
    ++ (parallel σ (groups.values.map inst.installInstance)).trace
    ++ inst.wiring c (returnedTargets order)
  perm : order.Perm (inst.results groups)
  completes : σ.complete ((inst.results groups).map (Except.ok : _ → Except Exn _))
    = order.map Except.ok
  last : (returnedTargets order = [] ∧ bt = none)
    ∨ ∃ front r t, returnedTargets order = front ++ [r] ∧ inst.wired c r.1 r.2 = .ok t
      ∧ bt = some t

omit hgroups in
/-- The pool chooses one order. -/
theorem runs_order (σ : Schedule Event) (order order' : List (String × Option BackendTarget))
    (bt bt' : Option BackendTarget) (h : self.Runs c groups σ order bt)
    (h' : self.Runs c groups σ order' bt') : order = order' :=
  List.map_injective_iff.mpr (fun _ _ => Except.ok.inj) (h.completes.symm.trans h'.completes)

theorem runs_of_completes (σ : Schedule Event) (h : self.Completes c groups) :
    ∃ order bt, self.Runs c groups σ order bt := by
  have hconf := (configureEnvs_ok_iff self c groups hgroups self.envs).mpr
    (fun env henv => ⟨h.servers env henv, h.configures env henv⟩)
  rcases pool_ok self groups σ h.installs with ⟨order, hpool, hperm, hcomplete⟩
  have hwired : ∀ r ∈ returnedTargets order, ∃ t, self.wired c r.1 r.2 = .ok t := by
    intro r hr
    rcases (mem_returnedTargets_results self groups r).mp ((hperm.filterMap _).mem_iff.mp hr) with
      ⟨g, hg, hres, hname⟩
    rw [← hname]
    exact h.wirings g hg r.2 hres
  rcases collectTarget_spec self c none order hwired with ⟨htrace, bt, hresult, hlast⟩
  have hrun : self.collected c σ = ⟨(self.configureEnvs c self.envs).trace
      ++ ((parallel σ (groups.values.map self.installInstance)).trace
        ++ (self.collectTarget c none order).trace), (self.collectTarget c none order).result⟩ := by
    rw [collected, bind_ok _ _ () hconf, hgroups, bind_ok _ _ groups rfl, bind_ok _ _ order hpool]
    rfl
  refine ⟨order, bt, ?_, ?_, hperm, hcomplete, hlast⟩
  · rw [hrun]
    exact hresult
  · rw [hrun, htrace, List.append_assoc]

/-- A run that comes to a target is one in which nothing raises. -/
theorem completes_of_collected (σ : Schedule Event) (bt : Option BackendTarget)
    (h : (self.collected c σ).result = .ok bt) : self.Completes c groups := by
  rw [collected] at h
  rcases bind_result_ok _ _ _ h with ⟨u, hconf, h⟩
  rcases bind_result_ok _ _ _ h with ⟨groups', hgroups', h⟩
  rcases bind_result_ok _ _ _ h with ⟨order, hpool, hloop⟩
  have heq : groups = groups' := Except.ok.inj (hgroups.symm.trans hgroups')
  subst heq
  have hfirst := (configureEnvs_ok_iff self c groups hgroups self.envs).mp hconf
  have hinstalls : ∀ g ∈ groups.values, ∃ r, self.outcome g = .ok r := by
    intro g hg
    rcases (parallel_isOk_iff σ _).mp ⟨order, hpool⟩ _ (List.mem_map.mpr ⟨g, hg, rfl⟩) with ⟨a, ha⟩
    rw [installInstance_result] at ha
    rcases except_map_eq_ok _ _ _ ha with ⟨r, hr, _⟩
    exact ⟨r, hr⟩
  refine ⟨fun env henv => (hfirst env henv).1, fun env henv => (hfirst env henv).2, hinstalls,
    fun g hg res hres => ?_⟩
  rcases pool_ok self groups σ hinstalls with ⟨order', hpool', hperm, _⟩
  have horder : order = order' := Except.ok.inj (hpool.symm.trans hpool')
  have hmem : (g.name, res) ∈ returnedTargets (self.results groups) :=
    (mem_returnedTargets_results self groups (g.name, res)).mpr ⟨g, hg, hres, rfl⟩
  rw [← horder] at hperm
  exact wired_of_collectTarget self c none bt order hloop _
    ((hperm.filterMap _).mem_iff.mpr hmem)

end Run

section Timing

/-- The events of a run before it saves write no cluster file. -/
theorem collected_unwritten (σ : Schedule Event) :
    Triple (fun e => e.writesFile = false) (fun _ => True) (self.collected c σ) := by
  -- a target is looked up and asked, which writes nothing
  have hwire : ∀ name res,
      Triple (fun e => e.writesFile = false) (fun _ => True) (self.wire c name res) := by
    intro name res
    refine triple_step _ _ _ _ (fun myNode _ => triple_step _ _ _ _ (fun groups _ => ?_))
    generalize groups.values = gs
    induction gs generalizing res with
    | nil => exact triple_pure _ _ _ trivial
    | cons g gs ih =>
        rw [List.foldlM_cons]
        refine triple_bind _ (fun _ => True) _ _ _ ?_ (fun bt _ => ih bt)
        unfold wireGroup
        cases myNode.1 with
        | none => exact triple_raise _ _ _
        | some parent =>
            dsimp only
            split
            · exact triple_tell_bind _ _ _ _ rfl (triple_ofExcept _ _ _ (fun _ _ => trivial))
            · exact triple_pure _ _ _ trivial
  have hloop : ∀ bt l,
      Triple (fun e => e.writesFile = false) (fun _ => True) (self.collectTarget c bt l) := by
    intro bt l
    induction l generalizing bt with
    | nil => exact triple_pure _ _ _ trivial
    | cons x l ih =>
        rcases x with ⟨name, _ | res⟩
        · exact ih bt
        · rw [collectTarget]
          exact triple_bind _ (fun _ => True) _ _ _ (hwire name res) (fun t _ => ih (some t))
  -- configuring, grouping and installing, then the loop over what came back
  refine triple_bind _ (fun _ => True) _ _ _ ?_ (fun _ _ => triple_step _ _ _ _ (fun groups _ =>
    triple_bind _ (fun _ => True) _ _ _ ?_ (fun l _ => hloop none l)))
  · refine triple_mono _ _ _ _ _ ?_ (fun _ _ => trivial) (configureEnvs_trace self c self.envs)
    rintro e ⟨klass, nodes, rfl⟩
    rfl
  · refine triple_mono _ _ _ _ _ (fun _ he => he) (fun _ _ => trivial)
      (triple_parallel _ _ (fun _ => True) _ (fun t ht => ?_))
    rcases List.mem_map.mp ht with ⟨g, _, rfl⟩
    exact triple_tell_bind _ _ _ _ rfl
      (triple_step _ _ _ _ (fun r _ => triple_pure _ _ _ trivial))

theorem savedTarget?_of_unwritten (e : Event) (h : e.writesFile = false) :
    e.savedTarget? = none := by
  cases e with
  | saveCluster c => exact nomatch h
  | _ => rfl

theorem savedTargets_collected (σ : Schedule Event) :
    savedTargets (self.collected c σ).trace = [] :=
  List.filterMap_eq_nil_iff.mpr
    (fun e he => savedTarget?_of_unwritten e ((collected_unwritten self c σ).trace e he))

variable (opens : Cluster → Except Exn Unit) (dir : ClustersDir)

/-- `install` of a cluster that loads. -/
theorem install_loaded (hload : loadCluster opens dir self.clusterName = .ok c)
    (σ : Schedule Event) :
    self.install opens dir σ
      = attempt (self.installCluster c σ) (fun e => raise (installError e)) := by
  have hbody : (do
      let c ← ofExcept (loadCluster opens dir self.clusterName)
      self.installCluster c σ : Command Unit) = self.installCluster c σ := by
    rw [hload, bind_ok _ _ c rfl]
    rfl
  rw [install, hbody]

theorem install_trace (hload : loadCluster opens dir self.clusterName = .ok c)
    (σ : Schedule Event) : (self.install opens dir σ).trace = (self.installCluster c σ).trace := by
  rw [install_loaded self c opens dir hload, attempt_raise]

/-- A run saves a target when it comes to one, and only then. -/
theorem savedTargets_install (hload : loadCluster opens dir self.clusterName = .ok c)
    (σ : Schedule Event) :
    savedTargets (self.install opens dir σ).trace
      = match (self.collected c σ).result with
        | .ok bt => [bt.getD noTarget]
        | .error _ => [] := by
  rw [install_trace self c opens dir hload, installCluster]
  cases hres : (self.collected c σ).result with
  | ok bt =>
      rw [bind_ok _ _ bt hres]
      change savedTargets (_ ++ [_]) = _
      rw [savedTargets, List.filterMap_append]
      exact congrArg (· ++ _) (savedTargets_collected self c σ)
  | error e =>
      rw [bind_error _ _ e hres]
      exact savedTargets_collected self c σ

/-- When nothing raises, all components that return a target end up with the
    same one. -/
def Agrees (inst : Installer) (c : Cluster) : Prop :=
  ∀ groups, groupNodesByName inst.klasses c = .ok groups → inst.Completes c groups →
    ∀ g ∈ groups.values, ∀ g' ∈ groups.values, ∀ res res' t t',
      inst.outcome g = .ok (some res) → inst.outcome g' = .ok (some res') →
      inst.wired c g.name res = .ok t → inst.wired c g'.name res' = .ok t' → t = t'

/-- The first installs are over last. -/
def lateSchedule (k : Nat) : Schedule Event where
  interleave := List.flatten
  complete := fun l => l.rotate k
  interleave_spec := interleaving_flatten
  complete_perm := fun l => List.rotate_perm l k

/-- Every component that returns a target may be the last to do so. -/
theorem runs_late (groups : Dict String Group)
    (hgroups : groupNodesByName self.klasses c = .ok groups) (h : self.Completes c groups)
    (g : Group) (hg : g ∈ groups.values) (res : BackendTarget)
    (hres : self.outcome g = .ok (some res)) :
    ∃ σ order bt front, self.Runs c groups σ order bt
      ∧ returnedTargets order = front ++ [(g.name, res)] := by
  rcases List.append_of_mem hg with ⟨pre, post, hsplit⟩
  have hresults : self.results groups
      = (pre ++ [g]).map self.resultOf ++ post.map self.resultOf := by
    rw [results, hsplit, ← List.map_append, List.append_assoc]
    rfl
  -- the installs up to `g` are over after all others, `g` last of all
  rcases runs_of_completes self c groups hgroups (lateSchedule (pre.length + 1)) h with
    ⟨order, bt, hruns⟩
  have horder : order = post.map self.resultOf ++ (pre ++ [g]).map self.resultOf := by
    have hlength : ((pre ++ [g]).map self.resultOf).length = pre.length + 1 := by
      rw [List.length_map, List.length_append, List.length_singleton]
    have hcomplete : ((self.results groups).map (Except.ok : _ → Except Exn _)).rotate
      (pre.length + 1) = order.map Except.ok := hruns.completes
    rw [← List.map_rotate, hresults, ← hlength, List.rotate_append_length_eq] at hcomplete
    exact (List.map_injective_iff.mpr (fun _ _ => Except.ok.inj) hcomplete).symm
  refine ⟨_, order, bt,
    returnedTargets (post.map self.resultOf) ++ returnedTargets (pre.map self.resultOf), hruns, ?_⟩
  have hg' : self.resultOf g = (g.name, some res) := by
    rw [resultOf, hres]
    rfl
  rw [horder, List.map_append, List.map_singleton, hg', returnedTargets, List.filterMap_append,
    List.filterMap_append, List.append_assoc]
  rfl

theorem savedTargets_late (hload : loadCluster opens dir self.clusterName = .ok c)
    (groups : Dict String Group) (hgroups : groupNodesByName self.klasses c = .ok groups)
    (h : self.Completes c groups) (g : Group) (hg : g ∈ groups.values) (res t : BackendTarget)
    (hres : self.outcome g = .ok (some res)) (ht : self.wired c g.name res = .ok t) :
    ∃ σ, savedTargets (self.install opens dir σ).trace = [t] := by
  rcases runs_late self c groups hgroups h g hg res hres with
    ⟨σ, order, bt, front, hruns, hreturned⟩
  refine ⟨σ, ?_⟩
  rw [savedTargets_install self c opens dir hload, hruns.result]
  rcases hruns.last with ⟨hnil, _⟩ | ⟨front', r, t', hlast, ht', hbt⟩
  · rw [hreturned] at hnil
    exact absurd hnil (List.append_ne_nil_of_right_ne_nil _ (List.cons_ne_nil _ _))
  · have hr := (List.cons.inj (List.append_inj_right' (hreturned.symm.trans hlast) rfl)).1
    rw [← hr, ht] at ht'
    rw [hbt, Except.ok.inj ht']
    rfl

/-- Two runs that agree on all targets are left with the same one. -/
theorem target_of_agrees (groups : Dict String Group)
    (hgroups : groupNodesByName self.klasses c = .ok groups) (h : self.Agrees c)
    (hcompletes : self.Completes c groups) (σ σ' : Schedule Event)
    (order order' : List (String × Option BackendTarget)) (bt bt' : Option BackendTarget)
    (hruns : self.Runs c groups σ order bt) (hruns' : self.Runs c groups σ' order' bt') :
    bt = bt' := by
  have hperm : (returnedTargets order).Perm (returnedTargets order') :=
    (hruns.perm.trans hruns'.perm.symm).filterMap _
  have hreturned : ∀ r, r ∈ returnedTargets order →
      ∃ g ∈ groups.values, self.outcome g = .ok (some r.2) ∧ g.name = r.1 := fun r hr =>
    (mem_returnedTargets_results self groups r).mp ((hruns.perm.filterMap _).mem_iff.mp hr)
  -- no group returned a target in either order, or the last ones agree
  rcases hruns.last with ⟨hnil, hbt⟩ | ⟨front, r, t, hlast, ht, hbt⟩
  · rw [hnil] at hperm
    rcases hruns'.last with ⟨_, hbt'⟩ | ⟨front', r', t', hlast', _, _⟩
    · rw [hbt, hbt']
    · rw [List.nil_perm.mp hperm] at hlast'
      exact absurd hlast'.symm (List.append_ne_nil_of_right_ne_nil _ (List.cons_ne_nil _ _))
  · rcases hruns'.last with ⟨hnil', _⟩ | ⟨front', r', t', hlast', ht', hbt'⟩
    · rw [hnil', List.perm_nil] at hperm
      rw [hlast] at hperm
      exact absurd hperm (List.append_ne_nil_of_right_ne_nil _ (List.cons_ne_nil _ _))
    · have hr : r ∈ returnedTargets order := by
        rw [hlast]
        exact List.mem_append_right _ List.mem_cons_self
      have hr' : r' ∈ returnedTargets order := by
        rw [hperm.mem_iff, hlast']
        exact List.mem_append_right _ List.mem_cons_self
      rcases hreturned r hr with ⟨g, hg, hres, hname⟩
      rcases hreturned r' hr' with ⟨g', hg', hres', hname'⟩
      rw [hbt, hbt', h groups hgroups hcompletes g hg g' hg' r.2 r'.2 t t' hres hres'
        (hname ▸ ht) (hname' ▸ ht')]

/-- Where something raises, no run comes to a target. -/
theorem collected_error (h : ¬ ∃ groups, groupNodesByName self.klasses c = .ok groups
    ∧ self.Completes c groups) (σ : Schedule Event) :
    ∃ e, (self.collected c σ).result = .error e := by
  cases hres : (self.collected c σ).result with
  | error e => exact ⟨e, rfl⟩
  | ok bt =>
      have hgroups : ∃ groups, groupNodesByName self.klasses c = .ok groups := by
        rw [collected] at hres
        rcases bind_result_ok _ _ _ hres with ⟨_, _, hrest⟩
        rcases bind_result_ok _ _ _ hrest with ⟨groups, hgroups, _⟩
        exact ⟨groups, hgroups⟩
      rcases hgroups with ⟨groups, hgroups⟩
      exact absurd ⟨groups, hgroups, completes_of_collected self c groups hgroups σ bt hres⟩ h

/-- The saved target depends on timing exactly when two components end up
    with different ones. -/
theorem timing_iff :
    (∀ σ σ', savedTargets (self.install opens dir σ).trace
        = savedTargets (self.install opens dir σ').trace)
      ↔ ∀ c, loadCluster opens dir self.clusterName = .ok c → self.Agrees c := by
  constructor
  · intro h c hload groups hgroups hcompletes g hg g' hg' res res' t t' hres hres' ht ht'
    -- one order in which either group is the last
    rcases savedTargets_late self c opens dir hload groups hgroups hcompletes g hg res t hres ht
      with ⟨σ, hσ⟩
    rcases savedTargets_late self c opens dir hload groups hgroups hcompletes g' hg' res' t' hres'
      ht' with ⟨σ', hσ'⟩
    have heq := h σ σ'
    rw [hσ, hσ'] at heq
    exact (List.cons.inj heq).1
  · intro h σ σ'
    cases hload : loadCluster opens dir self.clusterName with
    | error e =>
        have hnone : ∀ σ, (self.install opens dir σ).trace = [] := by
          intro σ
          rw [install, hload]
          rfl
        rw [hnone σ, hnone σ']
    | ok c =>
        rw [savedTargets_install self c opens dir hload σ,
          savedTargets_install self c opens dir hload σ']
        -- a run that does not complete saves nothing in any order
        by_cases hrun : ∃ groups, groupNodesByName self.klasses c = .ok groups
          ∧ self.Completes c groups
        · rcases hrun with ⟨groups, hgroups, hcompletes⟩
          rcases runs_of_completes self c groups hgroups σ hcompletes with ⟨order, bt, hruns⟩
          rcases runs_of_completes self c groups hgroups σ' hcompletes with ⟨order', bt', hruns'⟩
          rw [hruns.result, hruns'.result,
            target_of_agrees self c groups hgroups (h c hload) hcompletes σ σ' _ _ _ _ hruns hruns']
        · rcases collected_error self c hrun σ with ⟨e, he⟩
          rcases collected_error self c hrun σ' with ⟨e', he'⟩
          rw [he, he']

end Timing

end Installer

section Examples

/-- A metrics server that is never there. -/
def noMetrics : MetricsApi where
  sshClient := fun _ => .ok ()
  run := fun _ _ => ⟨true, .ok (), fun _ => rfl⟩

/-- What connects to the nodes of a class. -/
def targetOf (nodes : GroupNodes) : BackendTarget :=
  .new (Text.join ',' (nodes.list.map (fun n => n.vm.name))) "xbench" "xbench" "sysbench" 3306

/-- Backends return a target, and a proxy puts itself in its place. -/
def shippedComponents : Components where
  isProxy := fun klass => klass.name == "Maxscale"
  configure := fun _ _ _ => .ok ()
  install := fun klass nodes _ => .ok (if klass.isBackend then some (targetOf nodes) else none)
  postInstall := fun _ nodes _ bt => .ok { bt with host := (targetOf nodes).host }

def shippedInstaller : Installer where
  clusterName := "c1"
  envs := [⟨⟨"env_0", "aws", "aws.AWS", "us-west-2"⟩, Dict.empty, Dict.empty, []⟩]
  extraImplParams := ⟨Dict.empty, plain_empty⟩
  klasses := shippedKlasses
  components := shippedComponents
  metrics := noMetrics
  configureSchedule := fun _ => .sequential Event

/-- A driver with two servers of one node each. -/
def cross : Cluster :=
  clusterOfNodes [.node "driver-0" [.node "backend1-0" [], .node "backend2-0" []]]
    [componentNode "driver-0" "driver" "driver.BaseDriver",
      componentNode "backend1-0" "backend" "backend.MySQLServer",
      componentNode "backend2-0" "backend" "backend.MySQLServer"]

/-- The server whose install is over last is the target. -/
theorem cross_timing :
    ¬ ∀ σ σ', savedTargets (shippedInstaller.install (fun _ => .ok ()) (dirOf cross) σ).trace
      = savedTargets (shippedInstaller.install (fun _ => .ok ()) (dirOf cross) σ').trace := by
  intro h
  have hfirst : savedTargets (shippedInstaller.install (fun _ => .ok ()) (dirOf cross)
      (.sequential Event)).trace
    = [.new "backend2-0" "xbench" "xbench" "sysbench" 3306] := rfl
  have hsecond : savedTargets (shippedInstaller.install (fun _ => .ok ()) (dirOf cross)
      (Installer.lateSchedule 2)).trace
    = [.new "backend1-0" "xbench" "xbench" "sysbench" 3306] := rfl
  have heq := h (.sequential Event) (Installer.lateSchedule 2)
  rw [hfirst, hsecond] at heq
  have hhost := congrArg BackendTarget.host (List.cons.inj heq).1
  exact absurd (Value.str.inj hhost) (by decide)

end Examples

end Xbench
