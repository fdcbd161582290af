import Xbench.Lib.Triple
import Xbench.Cloud.Clouds

/-!
# What Launching Returns

What can be said of `launch_instances` whatever the providers answer: every
instance that comes into being and every node that comes back belongs to the
environment of the requests, and when no node is missing the nodes carry the
requested names, each once.

The second part needs a proviso. The clouds that launch a single instance
return one node for any number of requests, so `singleInstance` names them and
the statement asks them for one request.

Both are triples: `LaunchEvent` is what a command may leave behind, and the
promise about the value is about its environment and its name. A machine that
is built from parameters has theirs; creating it, giving it storage and
wrapping it into a node changes neither. The pool returns the nodes in the
order of completion, so the names come back as a permutation.

## Main definitions

* `LaunchEvent`: What launching does in an environment.
* `Requested`: Parameters that say their environment and their name.
* `requestName`: The name they say.
* `nodeNames`: The names of the nodes that are there.
* `Returns`: What is promised of the nodes that come back.
* `singleInstance`: The clouds that launch a single instance.
* `returnedNames`: The names that come back from a cloud.

## Theorems

* `processStorage_spec`: Storage changes no name.
* `launchInstance_spec`: One generic launch.
* `launchInstances_spec`: Launches on the pool.
* `coloLaunchInstances_spec`: The same on locked hosts.
* `namedCopies_spec`: Copies have the requested names.
* `launchInstancesOf_spec`: Launching on any cloud.
* `returnedNames_all`: A cloud asked for what it can launch returns all names.
-/

namespace Xbench

open Effect

/-- What launching does: instances of the environment, volumes, and the lines
    of the lock file. -/
def LaunchEvent (env : String) : Event → Prop
  | .createInstance env' _ => env' = env
  | .createVolume _ => True
  | .writeLockFile _ => True
  | _ => False

section Catching

variable {α : Type} (E : Event → Prop)

theorem triple_catching (Q : α → Prop) (c : ExnClass) (x : Command α) (v : α)
    (hx : Triple E Q x) (hv : Q v) : Triple E Q (catching c x v) := by
  refine triple_attempt E Q x _ hx (fun e _ => ?_)
  by_cases hc : e.isA c = true
  · rw [if_pos hc]
    exact triple_pure E Q v hv
  · rw [if_neg hc]
    exact triple_raise E Q e

end Catching

section Storage

variable (self : AbstractCloud) (env : String)

theorem createVolume_spec (o : StorageObject) (s : VirtualStorage) :
    Triple (LaunchEvent env) (fun _ => True) (createVolume self o s) := by
  unfold createVolume
  cases (self.api.createVolume o s).made with
  | none => exact triple_ofExcept _ _ _ (fun _ _ => trivial)
  | some id =>
      refine triple_bind _ _ _ _ _ (triple_tell _ _ trivial) (fun _ _ => ?_)
      exact triple_ofExcept _ _ _ (fun _ _ => trivial)

theorem newStorage_spec (s : VirtualStorage) :
    Triple (LaunchEvent env) (fun _ => True) (newStorage self s) := by
  unfold newStorage
  refine triple_step _ _ _ _ (fun o _ => triple_step _ _ _ _ (fun _ _ => ?_))
  exact triple_pure _ _ _ trivial

theorem launchStorage_spec (attachToVm : Option VirtualMachine) (s : VirtualStorage) :
    Triple (LaunchEvent env) (fun _ => True) (launchStorage self attachToVm s) := by
  unfold launchStorage
  refine triple_catching _ _ _ _ _ ?_ trivial
  refine triple_bind _ _ _ _ _ (newStorage_spec self env _) (fun gs _ => ?_)
  refine triple_bind _ _ _ _ _ (createVolume_spec self env _ _) (fun created _ => ?_)
  cases attachToVm with
  | none => exact triple_pure _ _ _ trivial
  | some vm => exact triple_step _ _ _ _ (fun _ _ => triple_pure _ _ _ trivial)

variable (E : Event → Prop) (fn : VirtualStorage → Command (Option VirtualStorage))

theorem processStorageInstances_spec
    (hfn : ∀ s, Triple E (fun _ => True) (fn s)) (ss : List VirtualStorage) :
    Triple E (fun _ => True) (processStorageInstances fn ss) := by
  induction ss with
  | nil => exact triple_pure _ _ _ trivial
  | cons s ss ih =>
      unfold processStorageInstances
      refine triple_bind _ _ _ _ _ (hfn s) (fun _ _ => ?_)
      exact triple_bind _ _ _ _ _ ih (fun _ _ => triple_pure _ _ _ trivial)

/-- Storage changes neither the environment nor the name. -/
theorem processStorage_spec
    (hfn : ∀ s, Triple E (fun _ => True) (fn s)) (vm : VirtualMachine) :
    Triple E (fun v => v.env = vm.env ∧ v.name = vm.name)
      (processStorage fn vm) := by
  unfold processStorage
  have hone : Triple E (fun _ => True) (vm.storage.elim (pure none) fn) := by
    cases vm.storage with
    | none => exact triple_pure _ _ _ trivial
    | some s => exact hfn s
  refine triple_bind _ _ _ _ _ hone (fun _ _ => ?_)
  refine triple_bind _ _ _ _ _ (processStorageInstances_spec E fn hfn vm.storageList)
    (fun _ _ => ?_)
  exact triple_pure _ _ _ ⟨rfl, rfl⟩

end Storage

section Requests

variable (env : String)

/-- Parameters that say their environment and their name. -/
def Requested (params : Params) : Prop :=
  params.get? "env" = some (.str env) ∧ ∃ name, params.get? "name" = some (.str name)

/-- The name they say. -/
def requestName (params : Params) : String :=
  (params.read "name").text

theorem requestName_eq (params : Params) (name : String)
    (h : params.get? "name" = some (.str name)) : requestName params = name := by
  rw [requestName, Dict.read, h]
  rfl

theorem requested_env (params : Params) (h : Requested env params) :
    (params.read "env").text = env := by
  rw [Dict.read, h.1]
  rfl

/-- Only the environment and the name matter. -/
theorem requested_congr (p q : Params) (henv : q.get? "env" = p.get? "env")
    (hname : q.get? "name" = p.get? "name") (h : Requested env p) :
    Requested env q ∧ requestName q = requestName p := by
  unfold Requested requestName Dict.read
  rw [henv, hname]
  exact ⟨h, rfl⟩

theorem requested_set (params : Params) (key : String) (v : Value) (henv : "env" ≠ key)
    (hname : "name" ≠ key) (h : Requested env params) :
    Requested env (params.set key v) ∧ requestName (params.set key v) = requestName params :=
  requested_congr env params _ (Dict.get?_set_other _ _ _ _ henv)
    (Dict.get?_set_other _ _ _ _ hname) h

/-- A machine that is built has the environment and the name requested. -/
theorem fromDict_requested (params : Params) (vm : VirtualMachine)
    (hreq : Requested env params) (h : VirtualMachine.fromDict params = .ok vm) :
    vm.env = env ∧ vm.name = requestName params := by
  rcases hreq with ⟨henv, name, hname⟩
  rcases fromDict_env_name params vm h with ⟨hvenv, hvname⟩
  rw [henv, Option.some.injEq, Value.str.injEq] at hvenv
  rw [hname, Option.some.injEq, Value.str.injEq] at hvname
  exact ⟨hvenv.symm, by rw [requestName_eq params name hname, hvname]⟩

/-- The cloud's last word concerns neither. -/
theorem computeVm_requested (self : AbstractCloud) (klass : ComputeKlass) (params : Params)
    (vm : VirtualMachine) (hreq : Requested env params)
    (h : computeVm self klass params = .ok vm) :
    vm.env = env ∧ vm.name = requestName params := by
  have hcluster := requested_set env params "cluster_name" (.str self.clusterName)
    (by decide) (by decide) hreq
  have hcloud : ∀ v, Requested env ((params.set "cluster_name" (.str self.clusterName)).set
      "cloud" v) ∧ requestName ((params.set "cluster_name" (.str self.clusterName)).set
      "cloud" v) = requestName params := by
    intro v
    have hset := requested_set env _ "cloud" v (by decide) (by decide) hcluster.1
    exact ⟨hset.1, hset.2.trans hcluster.2⟩
  unfold computeVm at h
  cases klass with
  | awsEc2 =>
      have hgroup := fun v w => requested_set env _ "placement_group" w (by decide) (by decide)
        (hcloud v).1
      have hvm := fromDict_requested env _ vm (hgroup _ _).1 h
      exact ⟨hvm.1, hvm.2.trans ((hgroup _ _).2.trans (hcloud _).2)⟩
  | gcpCompute | gcpAlloyDBCompute | awsRdsCompute | awsAuroraCompute =>
      have hvm := fromDict_requested env _ vm (hcloud _).1 h
      exact ⟨hvm.1, hvm.2.trans (hcloud _).2⟩

end Requests

section One

variable (self : AbstractCloud) (env : String)

/-- A machine of the environment with the name. -/
def IsMachine (name : String) (vm : VirtualMachine) : Prop :=
  vm.env = env ∧ vm.name = name

/-- A missing node, or one of the environment with the name. -/
def MaybeNode (name : String) (o : Option Node) : Prop :=
  ∀ n, o = some n → IsMachine env name n.vm

theorem ofVm_spec (name : String) (vm : VirtualMachine) (h : IsMachine env name vm) :
    Triple (LaunchEvent env) (fun n => IsMachine env name n.vm)
      (ofExcept (Node.ofVm self.api.sshOptions vm)) := by
  refine triple_ofExcept _ _ _ (fun n hn => ?_)
  rw [ofVm_vm _ _ _ hn]
  exact h

/-- Creating adds one instance of the machine's environment at most, and what
    it returns has the machine's name. -/
theorem createInstance_spec (klass : ComputeKlass) (count : Nat) (name : String)
    (vm : VirtualMachine) (h : IsMachine env name vm) :
    Triple (LaunchEvent env) (IsMachine env name) (createInstance self klass count vm) := by
  have hout : Triple (LaunchEvent env) (IsMachine env name)
      (ofExcept (self.api.create klass count vm).outcome) := by
    refine triple_ofExcept _ _ _ (fun v hv => ?_)
    rcases (self.api.create klass count vm).returned v hv with ⟨_, hname, henv⟩
    exact ⟨henv.trans h.1, hname.trans h.2⟩
  unfold createInstance
  cases (self.api.create klass count vm).made with
  | none => exact hout
  | some id =>
      exact triple_bind _ (fun _ => True) _ _ _ (triple_tell _ _ h.1) (fun _ _ => hout)

theorem launchInstance_spec (params : Params) (hreq : Requested env params) :
    Triple (LaunchEvent env) (MaybeNode env (requestName params)) (launchInstance self params) := by
  unfold launchInstance
  refine triple_catching _ _ _ _ _ ?_ (fun n hn => nomatch hn)
  refine triple_step _ _ _ _ (fun klass _ => triple_step _ _ _ _ (fun vm hvm => ?_))
  have hvm := computeVm_requested env self klass params vm hreq hvm
  refine triple_bind _ _ _ _ _ (createInstance_spec self env klass 1 _ vm hvm)
    (fun created hcreated => ?_)
  refine triple_bind _ _ _ _ _ (processStorage_spec (LaunchEvent env) _
    (launchStorage_spec self env (some created)) (zoned self created))
    (fun stored hstored => ?_)
  have hmachine : IsMachine env (requestName params) stored :=
    ⟨hstored.1.trans hcreated.1, hstored.2.trans hcreated.2⟩
  refine triple_bind _ _ _ _ _ (ofVm_spec self env _ stored hmachine) (fun node hnode => ?_)
  exact triple_pure _ _ _ (fun n hn => Option.some.inj hn ▸ hnode)

theorem awsLaunchInstance_spec (params : Params) (hreq : Requested env params) :
    Triple (LaunchEvent env) (MaybeNode env (requestName params))
      (awsLaunchInstance self params) := by
  unfold awsLaunchInstance
  refine triple_catching _ _ _ _ _ ?_ (fun n hn => nomatch hn)
  exact triple_step _ _ _ _ (fun _ _ => launchInstance_spec self env params hreq)

theorem deployHost_spec (params : Params) (hreq : Requested env params) :
    Triple (LaunchEvent env) (MaybeNode env (requestName params)) (deployHost self params) := by
  unfold deployHost
  refine triple_step _ _ _ _ (fun vm hvm => ?_)
  have hvm := fromDict_requested env params vm hreq hvm
  cases vm.network with
  | none => exact triple_raise _ _ _
  | some network =>
      -- the machine gets an identifier, a zone and addresses
      refine triple_step _ _ _ _ (fun node _ => triple_step _ _ _ _ (fun ips _ => ?_))
      refine triple_pure _ _ _ (fun n hn => ?_)
      rw [← Option.some.inj hn]
      exact hvm

end One

/-- The names of the nodes that are there. -/
def nodeNames (l : List (Option Node)) : List String :=
  l.filterMap (Option.map (fun n => n.vm.name))

/-- The nodes belong to the environment, and when none is missing they have
    the names, each once. -/
structure Returns (env : String) (names : List String) (l : List (Option Node)) : Prop where
  nodes : ∀ n, some n ∈ l → n.vm.env = env
  names : none ∉ l → (nodeNames l).Perm names

theorem returns_one (env name : String) (n : Node) (h : IsMachine env name n.vm) :
    Returns env [name] [some n] where
  nodes := by
    intro m hm
    rw [Option.some.inj (List.mem_singleton.mp hm)]
    exact h.1
  names := fun _ => List.Perm.of_eq (congrArg (fun s => [s]) h.2)

theorem returns_cons (env name : String) (names : List String) (o : Option Node)
    (l : List (Option Node)) (ho : MaybeNode env name o) (hl : Returns env names l) :
    Returns env (name :: names) (o :: l) where
  nodes := by
    intro n hn
    rcases List.mem_cons.mp hn with hn | hn
    · exact (ho n hn.symm).1
    · exact hl.nodes n hn
  names := by
    intro hnone
    rw [List.mem_cons, not_or] at hnone
    cases o with
    | none => exact absurd rfl hnone.1
    | some n =>
        have hname : n.vm.name = name := (ho n rfl).2
        have hcons : nodeNames (some n :: l) = n.vm.name :: nodeNames l := rfl
        rw [hcons, hname]
        exact (hl.names hnone.2).cons name

theorem returns_forall₂ (env : String) (requests : List Params) (l : List (Option Node))
    (h : List.Forall₂ (fun r o => MaybeNode env (requestName r) o) requests l) :
    Returns env (requests.map requestName) l := by
  induction h with
  | nil => exact ⟨fun n hn => absurd hn List.not_mem_nil, fun _ => List.Perm.refl _⟩
  | cons ho _ ih => exact returns_cons env _ _ _ _ ho ih

/-- The order of completion matters to neither. -/
theorem returns_perm (env : String) (names : List String) (l l' : List (Option Node))
    (hperm : l.Perm l') (h : Returns env names l') : Returns env names l where
  nodes := fun n hn => h.nodes n (hperm.mem_iff.mp hn)
  names := fun hnone =>
    (hperm.filterMap _).trans (h.names (fun hm => hnone (hperm.mem_iff.mpr hm)))

section Pool

variable (self : AbstractCloud) (σ : Schedule Event) (env : String)

theorem launchInstances_spec (launch : Params → Command (Option Node)) (requests : List Params)
    (h : ∀ r ∈ requests,
      Triple (LaunchEvent env) (MaybeNode env (requestName r)) (launch r)) :
    Triple (LaunchEvent env) (Returns env (requests.map requestName))
      (launchInstances σ launch requests) := by
  unfold launchInstances
  rw [runParallelReturning_dicts]
  have hpool := triple_parallel_map (LaunchEvent env) σ
    (fun r o => MaybeNode env (requestName r) o) launch requests h
  refine triple_mono _ _ _ _ _ (fun _ he => he) ?_ hpool
  rintro l ⟨l', hperm, hall⟩
  exact returns_perm env _ l l' hperm (returns_forall₂ env requests l' hall)

/-- Locking hosts changes neither the environments nor the names. -/
theorem locked_requested (requests locked : List Params)
    (hlocked : List.Forall₂ (fun p q => ∀ key, key ≠ "colo_host" → q.get? key = p.get? key)
      requests locked) (hreq : ∀ r ∈ requests, Requested env r) :
    (∀ r ∈ locked, Requested env r) ∧ locked.map requestName = requests.map requestName := by
  induction hlocked with
  | nil => exact ⟨fun r hr => absurd hr List.not_mem_nil, rfl⟩
  | @cons p q ps qs hpq _ ih =>
      rcases ih (fun r hr => hreq r (List.mem_cons_of_mem p hr)) with ⟨hrest, hnames⟩
      rcases requested_congr env p q (hpq "env" (by decide)) (hpq "name" (by decide))
        (hreq p List.mem_cons_self) with ⟨hq, hname⟩
      refine ⟨fun r hr => ?_, by rw [List.map_cons, List.map_cons, hname, hnames]⟩
      rcases List.mem_cons.mp hr with rfl | hr
      · exact hq
      · exact hrest r hr

theorem coloLockHosts_spec (requests : List Params) (hreq : ∀ r ∈ requests, Requested env r) :
    Triple (LaunchEvent env)
      (fun locked => (∀ r ∈ locked, Requested env r)
        ∧ locked.map requestName = requests.map requestName)
      (coloLockHosts self requests) := by
  unfold coloLockHosts
  refine triple_bind _ _ _ _ _ (triple_tell _ _ trivial) (fun _ _ => ?_)
  refine triple_bind _ _ _ _ _ (triple_tellAll _ _ (fun e he => ?_)) (fun _ _ => ?_)
  · -- a host is taken for one of the requests
    rcases List.mem_map.mp he with ⟨x, hx, rfl⟩
    exact requested_env env x.1 (hreq x.1 (List.of_mem_zip hx).1)
  · refine triple_ofExcept _ _ _ (fun locked hlocked => ?_)
    exact locked_requested env requests locked
      (Colo.lockHosts_params _ _ requests _ _ locked hlocked) hreq

theorem coloLaunchInstances_spec (requests : List Params)
    (hreq : ∀ r ∈ requests, Requested env r) :
    Triple (LaunchEvent env) (Returns env (requests.map requestName))
      (coloLaunchInstances self σ requests) := by
  unfold coloLaunchInstances
  by_cases hpid : self.api.colo.pidLocked = true
  · rw [if_pos hpid]
    exact triple_raise _ _ _
  · rw [if_neg hpid]
    refine triple_bind _ _ _ _ _ (coloLockHosts_spec self env requests hreq)
      (fun locked hlocked => ?_)
    rw [← hlocked.2]
    exact launchInstances_spec σ env _ locked
      (fun r hr => deployHost_spec self env r (hlocked.1 r hr))

end Pool

section Overrides

variable (self : AbstractCloud) (env : String)

/-- Copies have the requested names, in order. -/
theorem namedCopies_spec (vm : VirtualMachine) (requests : List Params) (l : List (Option Node))
    (henv : vm.env = env) (h : namedCopies self vm requests = .ok l) :
    Returns env (requests.map requestName) l := by
  refine returns_forall₂ env requests l ?_
  induction requests generalizing l with
  | nil =>
      rw [← Except.ok.inj h]
      exact List.Forall₂.nil
  | cons r requests ih =>
      rw [namedCopies] at h
      rcases except_bind_eq_ok _ _ _ h with ⟨node, hnode, h⟩
      rcases except_bind_eq_ok _ _ _ h with ⟨nodes, hnodes, h⟩
      rw [← Except.ok.inj h]
      refine List.Forall₂.cons (fun n hn => ?_) (ih nodes hnodes)
      rw [← Option.some.inj hn, ofVm_vm _ _ _ hnode]
      exact ⟨henv, rfl⟩

theorem createService_spec (params : Params) (hreq : Requested env params) :
    Triple (LaunchEvent env) (fun _ => True) (createService self params) := by
  unfold createService
  cases (self.api.service params).made with
  | none => exact triple_ofExcept _ _ _ (fun _ _ => trivial)
  | some id =>
      exact triple_bind _ (fun _ => True) _ _ _
        (triple_tell _ _ (requested_env env params hreq))
        (fun _ _ => triple_ofExcept _ _ _ (fun _ _ => trivial))

theorem serviceNode_spec (instanceType : Service → VirtualMachine → String) (params : Params)
    (hreq : Requested env params) :
    Triple (LaunchEvent env) (fun n => IsMachine env (requestName params) n.vm)
      (serviceNode self instanceType params) := by
  unfold serviceNode
  refine triple_step _ _ _ _ (fun _ _ => ?_)
  refine triple_bind _ _ _ _ _ (createService_spec self env params hreq) (fun service _ => ?_)
  refine triple_step _ _ _ _ (fun _ _ => triple_step _ _ _ _ (fun vm hvm => ?_))
  have hvm := fromDict_requested env params vm hreq hvm
  refine triple_bind _ _ _ _ _ (ofVm_spec self env _ (serviceVm self service _ vm) hvm)
    (fun node hnode => triple_step _ _ _ _ (fun _ _ => ?_))
  exact triple_pure _ _ _ hnode

/-- Returning the one node there is. -/
theorem ofVm_one_spec (name : String) (vm : VirtualMachine) (h : IsMachine env name vm) :
    Triple (LaunchEvent env) (Returns env [name]) (do
      let node ← ofExcept (Node.ofVm self.api.sshOptions vm)
      pure [some node]) := by
  refine triple_bind _ _ _ _ _ (ofVm_spec self env name vm h) (fun node hnode => ?_)
  exact triple_pure _ _ _ (returns_one env name node hnode)

theorem skySqlLaunchInstances_spec (params : Params) (rest : List Params)
    (hreq : Requested env params) :
    Triple (LaunchEvent env) (Returns env [requestName params])
      (skySqlLaunchInstances self (params :: rest)) := by
  unfold skySqlLaunchInstances
  refine triple_bind _ _ _ _ _ (serviceNode_spec self env _ params hreq) (fun node hnode => ?_)
  exact triple_pure _ _ _ (returns_one env _ node hnode)

theorem rdsLaunchInstances_spec (params : Params) (rest : List Params)
    (hreq : Requested env params) :
    Triple (LaunchEvent env) (Returns env [requestName params])
      (rdsLaunchInstances self (params :: rest)) := by
  unfold rdsLaunchInstances
  refine triple_step _ _ _ _ (fun vm hvm => ?_)
  have hvm := computeVm_requested env self .awsRdsCompute params vm hreq hvm
  refine triple_bind _ _ _ _ _ (ofVm_spec self env _ vm hvm) (fun wrapped hwrapped => ?_)
  refine triple_bind _ _ _ _ _ (createInstance_spec self env _ 1 (requestName params) _ hwrapped)
    (fun created hcreated => ?_)
  exact ofVm_one_spec self env _ created hcreated

theorem auroraLaunchInstances_spec (params : Params) (rest : List Params)
    (hreq : Requested env params) :
    Triple (LaunchEvent env) (Returns env [requestName params])
      (auroraLaunchInstances self (params :: rest)) := by
  unfold auroraLaunchInstances
  refine triple_step _ _ _ _ (fun vm hvm => triple_step _ _ _ _ (fun _ _ => ?_))
  have hvm := computeVm_requested env self .awsAuroraCompute params vm hreq hvm
  refine triple_bind _ _ _ _ _ (ofVm_spec self env _ vm hvm) (fun wrapped hwrapped => ?_)
  refine triple_bind _ _ _ _ _ (createInstance_spec self env _ 1 (requestName params) _ hwrapped)
    (fun created hcreated => ?_)
  exact ofVm_one_spec self env _ created hcreated

/-- The last step of the clouds that copy a node for each name. -/
theorem copies_spec (vm : VirtualMachine) (params : Params) (rest : List Params)
    (h : IsMachine env (requestName params) vm) :
    Triple (LaunchEvent env) (Returns env ((params :: rest).map requestName))
      (if rest.isEmpty then do
        let node ← ofExcept (Node.ofVm self.api.sshOptions vm)
        pure [some node]
      else ofExcept (namedCopies self vm (params :: rest))) := by
  by_cases hrest : rest.isEmpty = true
  · rw [if_pos hrest, List.isEmpty_iff.mp hrest]
    exact ofVm_one_spec self env _ vm h
  · rw [if_neg hrest]
    exact triple_ofExcept _ _ _ (fun l hl => namedCopies_spec self env vm _ l h.1 hl)

theorem skySql2LaunchInstances_spec (params : Params) (rest : List Params)
    (hreq : Requested env params) :
    Triple (LaunchEvent env) (Returns env ((params :: rest).map requestName))
      (skySql2LaunchInstances self (params :: rest)) := by
  unfold skySql2LaunchInstances
  refine triple_bind _ _ _ _ _ (serviceNode_spec self env _ params hreq) (fun node hnode => ?_)
  exact copies_spec self env node.vm params rest hnode

theorem alloyDBLaunchInstances_spec (params : Params) (rest : List Params)
    (hreq : Requested env params) :
    Triple (LaunchEvent env) (Returns env ((params :: rest).map requestName))
      (alloyDBLaunchInstances self (params :: rest)) := by
  unfold alloyDBLaunchInstances
  refine triple_step _ _ _ _ (fun vm hvm => ?_)
  have hvm := computeVm_requested env self .gcpAlloyDBCompute params vm hreq hvm
  refine triple_bind _ _ _ _ _ (createInstance_spec self env _ (rest.length + 1) _ vm hvm)
    (fun created hcreated => ?_)
  exact copies_spec self env created params rest hcreated

theorem ephemeralLaunchInstances_spec (requests : List Params)
    (hreq : ∀ r ∈ requests, Requested env r) (l : List (Option Node))
    (h : ephemeralLaunchInstances self requests = .ok l) :
    Returns env (requests.map requestName) l := by
  refine returns_forall₂ env requests l ?_
  induction requests generalizing l with
  | nil =>
      rw [← Except.ok.inj h]
      exact List.Forall₂.nil
  | cons r requests ih =>
      rw [ephemeralLaunchInstances] at h
      rcases except_bind_eq_ok _ _ _ h with ⟨vm, hvm, h⟩
      rcases except_bind_eq_ok _ _ _ h with ⟨node, hnode, h⟩
      rcases except_bind_eq_ok _ _ _ h with ⟨nodes, hnodes, h⟩
      rw [← Except.ok.inj h]
      -- the request overrides the defaults
      rcases hreq r List.mem_cons_self with ⟨henv, name, hname⟩
      have hunion := requested_congr env r ((ephemeralDefaults self).union r)
        (by rw [Dict.get?_union, henv, Option.some_or])
        (by rw [Dict.get?_union, hname, Option.some_or]) ⟨henv, name, hname⟩
      have hmachine := fromDict_requested env _ vm hunion.1 hvm
      refine List.Forall₂.cons (fun n hn => ?_)
        (ih (fun p hp => hreq p (List.mem_cons_of_mem r hp)) nodes hnodes)
      rw [← Option.some.inj hn, ofVm_vm _ _ _ hnode]
      exact ⟨hmachine.1, hmachine.2.trans hunion.2⟩

end Overrides

/-- The clouds that launch a single instance. -/
def singleInstance : CloudType → Bool
  | .skySql => true
  | .rds => true
  | .aurora => true
  | _ => false

/-- The names that come back from a cloud. -/
def returnedNames (t : CloudType) (requests : List Params) : List String :=
  if singleInstance t then (requests.take 1).map requestName else requests.map requestName

/-- Launching on any cloud. -/
theorem launchInstancesOf_spec (self : AbstractCloud) (σ : Schedule Event) (env : String)
    (requests : List Params) (hreq : ∀ r ∈ requests, Requested env r) :
    Triple (LaunchEvent env) (Returns env (returnedNames self.cloudType requests))
      (launchInstancesOf self σ requests) := by
  unfold launchInstancesOf
  -- each cloud by its own lemma, and those with one service need a request
  cases htype : self.cloudType with
  | aws =>
      exact launchInstances_spec σ env _ requests
        (fun r hr => awsLaunchInstance_spec self env r (hreq r hr))
  | gcp =>
      exact launchInstances_spec σ env _ requests
        (fun r hr => launchInstance_spec self env r (hreq r hr))
  | colo => exact coloLaunchInstances_spec self σ env requests hreq
  | ephemeral =>
      exact triple_ofExcept _ _ _ (ephemeralLaunchInstances_spec self env requests hreq)
  | skySql =>
      cases requests with
      | nil => exact triple_raise _ _ _
      | cons r rest => exact skySqlLaunchInstances_spec self env r rest (hreq r List.mem_cons_self)
  | skySql2 =>
      cases requests with
      | nil => exact triple_raise _ _ _
      | cons r rest => exact skySql2LaunchInstances_spec self env r rest (hreq r List.mem_cons_self)
  | rds =>
      cases requests with
      | nil => exact triple_raise _ _ _
      | cons r rest => exact rdsLaunchInstances_spec self env r rest (hreq r List.mem_cons_self)
  | aurora =>
      cases requests with
      | nil => exact triple_raise _ _ _
      | cons r rest => exact auroraLaunchInstances_spec self env r rest (hreq r List.mem_cons_self)
  | alloyDB =>
      cases requests with
      | nil => exact triple_raise _ _ _
      | cons r rest => exact alloyDBLaunchInstances_spec self env r rest (hreq r List.mem_cons_self)

/-- A cloud that is asked for what it can launch returns all the names. -/
theorem returnedNames_all (t : CloudType) (requests : List Params)
    (h : singleInstance t = true → requests.length ≤ 1) :
    returnedNames t requests = requests.map requestName := by
  unfold returnedNames
  by_cases hsingle : singleInstance t = true
  · rw [if_pos hsingle, List.take_of_length_le (h hsingle)]
  · rw [if_neg hsingle]

end Xbench
