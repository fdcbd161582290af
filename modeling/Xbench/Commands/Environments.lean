import Xbench.Cloud.Types
import Xbench.Compute.Cluster
import Xbench.Config.YamlConfig

/-!
# Building the Environments

`build_envs` makes an environment of each implementation in a comma-separated
list, with the parameters of its components: the simple entries of the
implementation, the entries of the component over the defaults, the name of
the cluster, and what the command line adds to the component.

The file is read anew for each implementation, so implementations share no
object. The components of one do. Their parameters are new dictionaries, but
what is nested in them is of the file, and the command line parameters of a
component are merged into it before the next component is built.

The loop goes over the dictionary that `get_key` gave. Without defaults that is
a mapping of the file itself, which a merge may change under the loop.

## Main definitions

* `EnvBuilder`: What the environments are built from.
* `EnvBuilder.loadImpl`: The entries of an implementation.
* `simpleDictItems`: The entries that are no mappings.
* `extraFor`: The command line parameters of a component.
* `ImplRun`: One implementation in the making.
* `ImplRun.componentParams`: The parameters of a component in the file.
* `ImplRun.addComponents`: The loop over the components.
* `BuiltEnv`: An environment, its components and the file behind them.
* `EnvBuilder.buildEnv`: One environment.
* `EnvBuilder.buildEnvs`: All of them.
-/

namespace Xbench

open Text

/-- What the environments are built from: the file of implementations, the
    bound on recursions, the clouds, whether the copy of an implementation can
    be written, and what `shared_storage` is read as. -/
structure EnvBuilder where
  clusterName : String
  document : Document
  depth : Nat
  implFile : String
  loadCloud : String → Except Exn Params
  saveImpl : Nat → Except Exn Unit
  sharedStorage : Option Entry → Except Exn (List VirtualStorage)

/-- Text of a scalar. -/
def Scalar.text : Scalar → String
  | .none => "None"
  | .bool b => if b then "True" else "False"
  | .int n => toString n
  | .str s => s

/-- `common_impl_keys.get(key, "")`, as the name of something. -/
def nameIn (common : Object) (key : String) : Except Exn String :=
  match common.get? key with
  | none => .ok ""
  | some (.scalar a) => .ok a.text
  | some _ => .error ⟨.typeError, "unhashable type: 'list'"⟩

/-- `simple_dict_items`. -/
def simpleDictItems (d : Object) : Object :=
  Dict.ofList (d.entries.filter (fun e => !e.2.isMapping))

/-- The keys and values that `extender` takes from what the command line has
    for a component. -/
def extraFor (extras : Dict String Value) (component : String) :
    Except Exn (List (String × Value)) :=
  match extras.get? component with
  | none => .ok []
  | some (.dict entries) => .ok entries
  | some (.str "") => .ok []
  | some (.list []) => .ok []
  | some _ => .error ⟨.typeError, "indices must be integers"⟩

/-- One implementation in the making: its name, the file with its defaults,
    the dictionary of its entries, and those that are common to its
    components. -/
structure ImplRun where
  clusterName : String
  impl : String
  config : YamlConfig
  found : Found
  common : Object

namespace ImplRun

variable (run : ImplRun)

/-- The dictionary the loop goes over, as it is now. -/
def implParams (s : Objects) : Object :=
  (run.found.read s).getD Dict.empty

/-- The parameters of a component before the command line. -/
def componentParams (s : Objects) (component : String) : Except Exn Object := do
  let found ← run.config.getKey s (some run.impl) (some component) true
  match found.read s with
  | some m => .ok ((run.common.union m).set "cluster_name" (.scalar (.str run.clusterName)))
  | none => .error ⟨.typeError, "unsupported operand type(s) for |"⟩

/-- The parameters of a component, and the file after the merge. -/
def addComponent (extras : Dict String Value) (s : Objects) (component : String) :
    Except Exn (Objects × Object) := do
  let params ← run.componentParams s component
  let extra ← extraFor extras component
  .ok (extend s params extra)

def changedSize : Exn :=
  ⟨.other, "dictionary changed size during iteration"⟩

/-- Going on to the next entry of a dictionary. -/
def checkSize (size : Nat) (s : Objects) : Except Exn Unit :=
  if (run.implParams s).keys.length = size then .ok () else .error changedSize

/-- Is the entry a component? -/
def isComponent (s : Objects) (key : String) : Bool :=
  ((run.implParams s).get? key).any Cell.isMapping

/-- The loop over the keys of the implementation. -/
def addComponents (extras : Dict String Value) (size : Nat) :
    List String → Objects → Except Exn (Objects × List (String × Object))
  | [], s => do
      run.checkSize size s
      .ok (s, [])
  | key :: keys, s => do
      run.checkSize size s
      if run.isComponent s key then do
        let (s, params) ← run.addComponent extras s key
        let (s, rest) ← addComponents extras size keys s
        .ok (s, (key, params) :: rest)
      else addComponents extras size keys s

/-- The components of an implementation. -/
def components (extras : Dict String Value) (s : Objects) :
    Except Exn (Objects × List (String × Object)) :=
  run.addComponents extras (run.implParams s).keys.length (run.implParams s).keys s

/-- The file when the turn of a component comes. -/
def before (extras : Dict String Value) (s : Objects) (component : String) : Except Exn Objects :=
  (run.addComponents extras (run.implParams s).keys.length
    ((run.implParams s).keys.takeWhile (fun key => key != component)) s).map Prod.fst

/-- The parameters of a component, entry by entry. -/
theorem componentParams_ok (s : Objects) (component : String) (params : Object)
    (h : run.componentParams s component = .ok params) :
    ∃ c own, run.config.lookup s (some run.impl) (some component) = .ok (some c)
      ∧ mappingOf s c = some own
      ∧ ∀ key, params.get? key
          = if key = "cluster_name" then some (.scalar (.str run.clusterName))
            else ((own.get? key).or (run.config.defaultFor s key)).or (run.common.get? key) := by
  unfold componentParams at h
  rcases except_bind_eq_ok _ _ _ h with ⟨found, hfound, h⟩
  rcases getKey_ok s run.config _ _ found hfound with ⟨c, hc, hdefaults⟩
  cases hread : found.read s with
  | none =>
      rw [hread] at h
      exact nomatch h
  | some m =>
      simp only [hread] at h
      rcases withDefaults_read s run.config c found m hdefaults hread with ⟨own, hown, hm⟩
      refine ⟨c, own, hc, hown, fun key => ?_⟩
      rw [← Except.ok.inj h, Dict.get?_set, Dict.get?_union, hm key]

/-- One round of the loop. -/
theorem addComponents_cons (extras : Dict String Value) (size : Nat) (key : String)
    (keys : List String) (s s' : Objects) (made : List (String × Object))
    (h : run.addComponents extras size (key :: keys) s = .ok (s', made)) :
    run.checkSize size s = .ok ()
      ∧ ((run.isComponent s key = false ∧ run.addComponents extras size keys s = .ok (s', made))
        ∨ ∃ t params rest, run.isComponent s key = true
            ∧ run.addComponent extras s key = .ok (t, params)
            ∧ run.addComponents extras size keys t = .ok (s', rest)
            ∧ made = (key, params) :: rest) := by
  rw [addComponents] at h
  rcases except_bind_eq_ok _ _ _ h with ⟨_, hsize, h⟩
  refine ⟨hsize, ?_⟩
  cases hcomponent : run.isComponent s key with
  | false =>
      rw [hcomponent] at h
      exact Or.inl ⟨rfl, h⟩
  | true =>
      rw [hcomponent] at h
      rcases except_bind_eq_ok _ _ _ h with ⟨⟨t, params⟩, hadd, h⟩
      rcases except_bind_eq_ok _ _ _ h with ⟨⟨t', rest⟩, hrest, h⟩
      have hpair := Prod.mk.inj (Except.ok.inj h)
      rw [hpair.1] at hrest
      exact Or.inr ⟨t, params, rest, rfl, hadd, hrest, hpair.2.symm⟩

theorem checkSize_of_addComponents (extras : Dict String Value) (size : Nat) (keys : List String)
    (s s' : Objects) (made : List (String × Object))
    (h : run.addComponents extras size keys s = .ok (s', made)) :
    run.checkSize size s = .ok () := by
  cases keys with
  | nil =>
      rw [addComponents] at h
      rcases except_bind_eq_ok _ _ _ h with ⟨_, hsize, _⟩
      exact hsize
  | cons key keys => exact (run.addComponents_cons extras size key keys s s' made h).1

/-- Only keys of the loop are made components. -/
theorem addComponents_keys (extras : Dict String Value) (size : Nat) (keys : List String)
    (s s' : Objects) (made : List (String × Object))
    (h : run.addComponents extras size keys s = .ok (s', made)) :
    ∀ component params, (component, params) ∈ made → component ∈ keys := by
  induction keys generalizing s made with
  | nil =>
      intro component params hmem
      rw [addComponents] at h
      rcases except_bind_eq_ok _ _ _ h with ⟨_, _, h⟩
      rw [← (Prod.mk.inj (Except.ok.inj h)).2] at hmem
      exact absurd hmem List.not_mem_nil
  | cons key keys ih =>
      intro component params hmem
      rcases run.addComponents_cons extras size key keys s s' made h with
        ⟨_, ⟨_, hrest⟩ | ⟨t, params₁, rest, _, _, hrest, rfl⟩⟩
      · exact List.mem_cons_of_mem _ (ih s made hrest component params hmem)
      · rcases List.mem_cons.mp hmem with heq | hmem
        · rw [(Prod.mk.inj heq).1]
          exact List.mem_cons_self
        · exact List.mem_cons_of_mem _ (ih t rest hrest component params hmem)

/-- Without parameters from the command line the file stays as it is. -/
theorem addComponents_quiet (extras : Dict String Value) (size : Nat) (keys : List String)
    (s s' : Objects) (made : List (String × Object))
    (h : run.addComponents extras size keys s = .ok (s', made))
    (hquiet : ∀ key ∈ keys, extras.get? key = none) : s' = s := by
  induction keys generalizing s made with
  | nil =>
      rw [addComponents] at h
      rcases except_bind_eq_ok _ _ _ h with ⟨_, _, h⟩
      exact (Prod.mk.inj (Except.ok.inj h)).1.symm
  | cons key keys ih =>
      have hrest : ∀ k ∈ keys, extras.get? k = none :=
        fun k hk => hquiet k (List.mem_cons_of_mem key hk)
      rcases run.addComponents_cons extras size key keys s s' made h with
        ⟨_, ⟨_, hlater⟩ | ⟨t, params, rest, _, hadd, hlater, _⟩⟩
      · exact ih s made hlater hrest
      · rcases except_bind_eq_ok _ _ _ hadd with ⟨params₀, _, hadd⟩
        have hnone : extraFor extras key = .ok [] := by
          rw [extraFor, hquiet key List.mem_cons_self]
        rw [hnone] at hadd
        have hsame := (Prod.mk.inj (Except.ok.inj hadd)).1
        rw [hsame]
        exact ih t rest hlater hrest

/-- A component is made of the file as the rounds before it left it. -/
theorem addComponents_turn (extras : Dict String Value) (size : Nat) (keys : List String)
    (hkeys : keys.Nodup) (s s' : Objects) (made : List (String × Object))
    (h : run.addComponents extras size keys s = .ok (s', made)) (component : String)
    (params : Object) (hmem : (component, params) ∈ made) :
    ∃ t made' t',
      run.addComponents extras size (keys.takeWhile (fun key => key != component)) s
          = .ok (t, made')
        ∧ run.addComponent extras t component = .ok (t', params) := by
  induction keys generalizing s made with
  | nil => exact absurd (run.addComponents_keys _ _ _ _ _ _ h _ _ hmem) List.not_mem_nil
  | cons key keys ih =>
      rcases List.nodup_cons.mp hkeys with ⟨hnew, hrest⟩
      rcases run.addComponents_cons extras size key keys s s' made h with ⟨hsize, hround⟩
      -- its turn is now, or comes with the later keys
      by_cases hkey : key = component
      · subst hkey
        have hdone : (key :: keys).takeWhile (fun k => k != key) = [] := by
          simp
        have hstart : run.addComponents extras size [] s = .ok (s, []) := by
          rw [addComponents, hsize]
          rfl
        rw [hdone]
        rcases hround with ⟨_, hlater⟩ | ⟨t, params₁, rest, _, hadd, hlater, rfl⟩
        · exact absurd (run.addComponents_keys _ _ _ _ _ _ hlater _ _ hmem) hnew
        · rcases List.mem_cons.mp hmem with heq | hmem
          · rw [(Prod.mk.inj heq).2]
            exact ⟨s, [], t, hstart, hadd⟩
          · exact absurd (run.addComponents_keys _ _ _ _ _ _ hlater _ _ hmem) hnew
      · have hgo : (key :: keys).takeWhile (fun k => k != component)
            = key :: keys.takeWhile (fun k => k != component) := by
          simp [hkey]
        rw [hgo]
        -- the key in front is passed over, or is made first
        rcases hround with ⟨hno, hlater⟩ | ⟨t, params₁, rest, hyes, hadd, hlater, rfl⟩
        · rcases ih hrest s made hlater hmem with ⟨t, made', t', hbefore, hturn⟩
          refine ⟨t, made', t', ?_, hturn⟩
          rw [addComponents, hsize]
          simp only [bind, Except.bind, hno, hbefore, Bool.false_eq_true, if_false]
        · rcases List.mem_cons.mp hmem with heq | hmem
          · exact absurd (Prod.mk.inj heq).1.symm hkey
          · rcases ih hrest t rest hlater hmem with ⟨t₁, made', t', hbefore, hturn⟩
            refine ⟨t₁, (key, params₁) :: made', t', ?_, hturn⟩
            rw [addComponents, hsize]
            simp only [bind, Except.bind, hyes, hadd, hbefore, if_true]

/-- What a component is made of. -/
theorem mem_components (extras : Dict String Value) (s s' : Objects)
    (made : List (String × Object)) (h : run.components extras s = .ok (s', made))
    (component : String) (params : Object) (hmem : (component, params) ∈ made) :
    ∃ t t', run.before extras s component = .ok t
      ∧ run.addComponent extras t component = .ok (t', params) := by
  rcases run.addComponents_turn extras _ _ (run.implParams s).keys_nodup s s' made h component
    params hmem with ⟨t, made', t', hbefore, hturn⟩
  exact ⟨t, t', by rw [before, hbefore]; rfl, hturn⟩

end ImplRun

/-- An environment, its components and the file behind them. -/
structure BuiltEnv where
  env : Environment
  regionConfig : Value
  sharedStorage : List VirtualStorage
  objects : Objects
  components : List (String × Object)

namespace EnvBuilder

variable (self : EnvBuilder)

/-- `YamlConfig(impl_yaml_file)`. -/
def config : YamlConfig :=
  self.document.config self.depth self.implFile

/-- `load_impl`. -/
def loadImpl (impl : String) : Except Exn Found :=
  match self.config.getKey self.document.objects (some impl) none true with
  | .ok found => .ok found
  | .error e => .error (if e.isA .yamlConfig then ⟨.xbench, e.message⟩ else e)

/-- An implementation that is loaded and has entries. -/
def start (impl : String) : Except Exn ImplRun := do
  let found ← self.loadImpl impl
  match found.read self.document.objects with
  | none => .error ⟨.attributeError, "object has no attribute 'items'"⟩
  | some implParams =>
      .ok ⟨self.clusterName, impl, self.config, found, simpleDictItems implParams⟩

/-- One environment. -/
def buildEnv (extras : Dict String Value) (i : Nat) (impl : String) : Except Exn BuiltEnv := do
  let run ← self.start impl
  self.saveImpl i
  let cloud ← nameIn run.common "cloud"
  let region ← nameIn run.common "region"
  let cloudConfig ← self.loadCloud cloud
  match cloudConfig.get? region with
  | none | some .none =>
      .error ⟨.xbench, "There is a configuration issue with " ++ region ++ " for cloud: " ++ cloud⟩
  | some regionConfig => do
      let klass := ((cloudConfig.get? "klass").getD (.str "")).text
      let sharedStorage ← self.sharedStorage
        ((run.implParams self.document.objects).get? "shared_storage")
      let (objects, components) ← run.components extras self.document.objects
      .ok
        { env := ⟨"env_" ++ toString i, cloud, klass, region⟩
          regionConfig := regionConfig
          sharedStorage := sharedStorage
          objects := objects
          components := components }

/-- What an environment is made of. The command line makes a difference in its
    components only. -/
theorem buildEnv_ok (extras : Dict String Value) (i : Nat) (impl : String) (env : BuiltEnv)
    (h : self.buildEnv extras i impl = .ok env) :
    ∃ run, self.start impl = .ok run
      ∧ run.components extras self.document.objects = .ok (env.objects, env.components)
      ∧ ∀ extras', self.buildEnv extras' i impl
          = (run.components extras' self.document.objects).map
              (fun made => { env with objects := made.1, components := made.2 }) := by
  rcases except_bind_eq_ok _ _ _ h with ⟨run, hrun, h⟩
  rcases except_bind_eq_ok _ _ _ h with ⟨_, hsave, h⟩
  rcases except_bind_eq_ok _ _ _ h with ⟨cloud, hcloud, h⟩
  rcases except_bind_eq_ok _ _ _ h with ⟨region, hregion, h⟩
  rcases except_bind_eq_ok _ _ _ h with ⟨cloudConfig, hconfig, h⟩
  refine ⟨run, hrun, ?_⟩
  split at h
  · exact nomatch h
  · exact nomatch h
  · rename_i regionConfig hnone hget
    rcases except_bind_eq_ok _ _ _ h with ⟨storage, hstorage, h⟩
    rcases except_bind_eq_ok _ _ _ h with ⟨⟨objects, components⟩, hcomponents, h⟩
    rw [← Except.ok.inj h]
    refine ⟨hcomponents, fun extras' => ?_⟩
    unfold buildEnv
    simp only [bind, Except.bind, hrun, hsave, hcloud, hregion, hconfig, hget, hstorage]
    cases run.components extras' self.document.objects <;> rfl

/-- An environment is called after its number. -/
theorem buildEnv_name (extras : Dict String Value) (i : Nat) (impl : String) (env : BuiltEnv)
    (h : self.buildEnv extras i impl = .ok env) : env.env.name = "env_" ++ toString i := by
  rcases except_bind_eq_ok _ _ _ h with ⟨run, _, h⟩
  rcases except_bind_eq_ok _ _ _ h with ⟨_, _, h⟩
  rcases except_bind_eq_ok _ _ _ h with ⟨cloud, _, h⟩
  rcases except_bind_eq_ok _ _ _ h with ⟨region, _, h⟩
  rcases except_bind_eq_ok _ _ _ h with ⟨cloudConfig, _, h⟩
  split at h
  · exact nomatch h
  · exact nomatch h
  · rcases except_bind_eq_ok _ _ _ h with ⟨storage, _, h⟩
    rcases except_bind_eq_ok _ _ _ h with ⟨made, _, h⟩
    rw [← Except.ok.inj h]

/-- The environments from the `i`-th on. -/
def buildEnvsFrom (extras : Dict String Value) : Nat → List String →
    Except Exn (List BuiltEnv)
  | _, [] => .ok []
  | i, impl :: rest => do
      let env ← self.buildEnv extras i impl
      let envs ← buildEnvsFrom extras (i + 1) rest
      .ok (env :: envs)

theorem buildEnvsFrom_getElem? (extras : Dict String Value) (i : Nat) (impls : List String)
    (envs : List BuiltEnv) (h : self.buildEnvsFrom extras i impls = .ok envs) (j : Nat)
    (impl : String) (env : BuiltEnv) (himpl : impls[j]? = some impl) (henv : envs[j]? = some env) :
    self.buildEnv extras (i + j) impl = .ok env := by
  induction impls generalizing i j envs with
  | nil => exact nomatch himpl
  | cons impl' impls ih =>
      rcases except_bind_eq_ok _ _ _ h with ⟨env', henv', h⟩
      rcases except_bind_eq_ok _ _ _ h with ⟨envs', henvs', h⟩
      rw [← Except.ok.inj h] at henv
      cases j with
      | zero =>
          rw [← Option.some.inj himpl, ← Option.some.inj henv]
          exact henv'
      | succ j =>
          have hrest := ih (i + 1) envs' henvs' j himpl henv
          rw [Nat.add_assoc, Nat.add_comm 1 j] at hrest
          exact hrest

/-- `build_envs`. -/
def buildEnvs (extras : Dict String Value) (impl : String) : Except Exn (List BuiltEnv) :=
  self.buildEnvsFrom extras 0 (split ',' impl)

end EnvBuilder

end Xbench
