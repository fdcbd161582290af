import Mathlib.Data.List.TakeWhile
import Xbench.Commands.Environments

/-!
# Precedence of the Configuration

Which level of the configuration the value of a key comes from.

A key of a component can be given on the command line, in the mapping of the
component, directly under the implementation, and in the defaults. The levels
are listed from the most specific one.

`build_envs` goes through the defaults twice: they are under the entries of the
implementation, and again under those of the component, which go over the
implementation. So the defaults win over what is written under the
implementation, and this is the only place where the order is another one.

## Main definitions

* `Levels`: What each level gives for a key.
* `Levels.mostSpecific`: The first level that gives something.
* `commandLine`: What the command line gives.
* `EnvBuilder.levels`: The levels of a key of a component.

## Theorems

* `get?_extend`: What the command line makes of a key.
* `keeps_extender`: A merge removes no entry.
* `effective`: The levels in the order of the code.
* `precedence_iff`: When the two orders agree.
-/

namespace Xbench

open Text

/-- What each level of the configuration gives for a key. -/
structure Levels where
  commandLine : Option Entry
  component : Option Entry
  implementation : Option Entry
  defaults : Option Entry

/-- The most specific level that gives something. -/
def Levels.mostSpecific (l : Levels) : Option Entry :=
  l.commandLine.or (l.component.or (l.implementation.or l.defaults))

/-- The levels of the file give the same value when they are read, at a later
    time and the defaults before the implementation. A value of the component
    or of the defaults has to be found still, and no other one may be found
    before one of the implementation. -/
def Levels.Lasts (l read : Levels) : Prop :=
  l.commandLine = none →
    match l.component, l.implementation with
    | some c, i => (read.component.or read.defaults).or i = some c
    | none, some c => ∀ d, read.component.or read.defaults = some d → d = c
    | none, none => ∀ d, l.defaults = some d → read.component.or read.defaults = some d

theorem Levels.follows_iff (l read : Levels) (hline : read.commandLine = l.commandLine)
    (himplementation : read.implementation = l.implementation) :
    (∀ c, l.mostSpecific = some c →
        read.commandLine.or (read.component.or (read.defaults.or read.implementation)) = some c)
      ↔ l.Lasts read := by
  unfold Levels.mostSpecific Levels.Lasts
  have hassoc : read.component.or (read.defaults.or l.implementation)
      = (read.component.or read.defaults).or l.implementation := Option.or_assoc.symm
  rw [hline, himplementation, hassoc]
  generalize read.component.or read.defaults = found
  cases l.commandLine with
  | some v => simp
  | none =>
      cases l.component with
      | some c => simp
      | none =>
          cases l.implementation with
          | some c => cases found <;> simp
          | none => cases l.defaults <;> simp

/-- Read from the file as it was loaded, only a key of both the implementation
    and the defaults is in question. -/
theorem Levels.lasts_self_iff (l : Levels) :
    l.Lasts l ↔ (l.commandLine = none → l.component = none →
      ∀ c d, l.implementation = some c → l.defaults = some d → d = c) := by
  unfold Levels.Lasts
  cases l.commandLine with
  | some v => simp
  | none => cases l.component <;> cases l.implementation <;> cases l.defaults <;> simp

/-- The value of an override `--component.key=v`. -/
def overrideOf (extras : Dict String Value) (component key : String) : Option Value :=
  match extras.get? component with
  | some (.dict entries) => (Dict.ofList entries).get? key
  | _ => none

/-- What the command line gives for a key: an override, or the name of the
    cluster, which is an argument of its own. -/
def commandLine (clusterName : String) (extras : Dict String Value) (component key : String) :
    Option Entry :=
  ((overrideOf extras component key).map cellOf).or
    (if key = "cluster_name" then some (.scalar (.str clusterName)) else none)

section CommandLine

theorem get?_extendKey_other (s : Objects) (params : Object) (k key : String) (v : Value)
    (h : key ≠ k) : (extendKey s params k v).2.get? key = params.get? key := by
  unfold extendKey
  split
  · rfl
  · exact Dict.get?_set_other params k key _ h
  · exact Dict.get?_set_other params k key _ h

theorem get?_extendKey_self (s : Objects) (params : Object) (key : String) (v : Value)
    (h : v.isDict = false) : (extendKey s params key v).2.get? key = some (cellOf v) := by
  unfold extendKey
  split
  · cases h
  · cases h
  · exact Dict.get?_set_self params key _

/-- What the command line makes of a key: the last value that is given for it
    is the one that stays. -/
theorem get?_extend (s : Objects) (params : Object) (entries : List (String × Value))
    (key : String) (hleaf : ∀ v, (Dict.ofList entries).get? key = some v → v.isDict = false) :
    (extend s params entries).2.get? key
      = (((Dict.ofList entries).get? key).map cellOf).or (params.get? key) := by
  induction entries generalizing s params with
  | nil => rfl
  | cons e rest ih =>
      have hstep : extend s params (e :: rest)
          = extend (extendKey s params e.1 e.2).1 (extendKey s params e.1 e.2).2 rest := rfl
      rw [Dict.get?_ofList_cons] at hleaf ⊢
      rw [hstep]
      cases hrest : (Dict.ofList rest).get? key with
      | some v =>
          -- a later one replaces what this one gives
          have hv : ∀ v', (Dict.ofList rest).get? key = some v' → v'.isDict = false := by
            intro v' hv'
            exact hleaf v' (by rw [hv', Option.some_or])
          rw [ih _ _ hv, hrest, Option.some_or, Option.map_some, Option.some_or, Option.some_or]
      | none =>
          have hv : ∀ v', (Dict.ofList rest).get? key = some v' → v'.isDict = false := by
            intro v' hv'
            rw [hrest] at hv'
            exact nomatch hv'
          rw [hrest, Option.none_or] at hleaf
          rw [ih _ _ hv, hrest, Option.map_none, Option.none_or, Option.none_or]
          by_cases hkey : key = e.1
          · rw [if_pos hkey] at hleaf ⊢
            rw [hkey, get?_extendKey_self s params e.1 e.2 (hleaf e.2 rfl), Option.map_some,
              Option.some_or]
          · rw [if_neg hkey, get?_extendKey_other s params e.1 key e.2 hkey, Option.map_none,
              Option.none_or]

/-- The command line over the parameters of a component. -/
theorem get?_extend_extraFor (s : Objects) (params : Object) (extras : Dict String Value)
    (component key : String) (entries : List (String × Value))
    (hentries : extraFor extras component = .ok entries)
    (hleaf : ∀ v, overrideOf extras component key = some v → v.isDict = false) :
    (extend s params entries).2.get? key
      = ((overrideOf extras component key).map cellOf).or (params.get? key) := by
  have hsame : overrideOf extras component key = (Dict.ofList entries).get? key := by
    unfold extraFor at hentries
    unfold overrideOf
    split at hentries
    all_goals simp_all [Dict.ofList]
  rw [hsame] at hleaf ⊢
  exact get?_extend s params entries key hleaf

end CommandLine

section Merge

/-- Every entry that is there is still there. -/
def Keeps (s s' : Objects) : Prop :=
  ∀ n key, ((s n).get? key).isSome = true → ((s' n).get? key).isSome = true

theorem Keeps.trans (s s' s'' : Objects) (h : Keeps s s') (h' : Keeps s' s'') : Keeps s s'' :=
  fun n key hsome => h' n key (h n key hsome)

theorem keeps_write (s : Objects) (r : Nat) (k : String) (w : Entry) :
    Keeps s (s.write r k w) := by
  intro n key hsome
  rw [Store.get?_write]
  by_cases hslot : n = r ∧ key = k
  · rw [if_pos hslot]
    rfl
  · rw [if_neg hslot]
    exact hsome

mutual

/-- A merge removes no entry. -/
theorem keeps_extender : ∀ (s : Objects) (r : Nat) (entries : List (String × Value)),
    Keeps s (extender s r entries)
  | _, _, [] => fun _ _ hsome => hsome
  | s, r, (key, v) :: rest =>
      Keeps.trans _ _ _ (keeps_extenderKey s r key v)
        (keeps_extender (extenderKey s r key v) r rest)

theorem keeps_extenderKey : ∀ (s : Objects) (r : Nat) (key : String) (v : Value),
    Keeps s (extenderKey s r key v)
  | s, r, key, .dict entries => by
      rw [extenderKey]
      split
      · exact keeps_extender s _ entries
      · exact keeps_write s r key _
      · exact keeps_write s r key _
  | s, r, key, .none => keeps_write s r key _
  | s, r, key, .bool _ => keeps_write s r key _
  | s, r, key, .int _ => keeps_write s r key _
  | s, r, key, .str _ => keeps_write s r key _
  | s, r, key, .list _ => keeps_write s r key _

end

theorem keeps_extend (s : Objects) (params : Object) (entries : List (String × Value)) :
    Keeps s (extend s params entries).1 := by
  induction entries generalizing s params with
  | nil => exact fun _ _ hsome => hsome
  | cons e rest ih =>
      have hkey : Keeps s (extendKey s params e.1 e.2).1 := by
        unfold extendKey
        split
        · exact keeps_extender s _ _
        · exact fun _ _ hsome => hsome
        · exact fun _ _ hsome => hsome
      exact Keeps.trans _ _ _ hkey (ih _ _)

/-- Neither does a round of the loop. -/
theorem keeps_addComponents (run : ImplRun) (extras : Dict String Value) (size : Nat)
    (keys : List String) (s s' : Objects) (made : List (String × Object))
    (h : run.addComponents extras size keys s = .ok (s', made)) : Keeps s s' := by
  induction keys generalizing s made with
  | nil =>
      rw [ImplRun.addComponents] at h
      rcases except_bind_eq_ok _ _ _ h with ⟨_, _, h⟩
      rw [(Prod.mk.inj (Except.ok.inj h)).1]
      exact fun _ _ hsome => hsome
  | cons key keys ih =>
      rcases run.addComponents_cons extras size key keys s s' made h with
        ⟨_, ⟨_, hlater⟩ | ⟨t, params, rest, _, hadd, hlater, _⟩⟩
      · exact ih s made hlater
      · refine Keeps.trans _ _ _ ?_ (ih t rest hlater)
        rcases except_bind_eq_ok _ _ _ hadd with ⟨_, _, hadd⟩
        rcases except_bind_eq_ok _ _ _ hadd with ⟨_, _, hadd⟩
        rw [← (Prod.mk.inj (Except.ok.inj hadd)).1]
        exact keeps_extend _ _ _

theorem keeps_before (run : ImplRun) (extras : Dict String Value) (s t : Objects)
    (component : String) (h : run.before extras s component = .ok t) : Keeps s t := by
  unfold ImplRun.before at h
  cases hloop : run.addComponents extras (run.implParams s).keys.length
      ((run.implParams s).keys.takeWhile (fun key => key != component)) s with
  | error e =>
      rw [hloop] at h
      exact nomatch h
  | ok pair =>
      rw [hloop] at h
      rw [← Except.ok.inj h]
      exact keeps_addComponents run extras _ _ s pair.1 pair.2 hloop

/-- What the defaults have they have after a merge. -/
theorem defaultFor_none_of_keeps (y : YamlConfig) (s s' : Objects) (h : Keeps s s') (key : String)
    (hnone : y.defaultFor s' key = none) : y.defaultFor s key = none := by
  unfold YamlConfig.defaultFor at hnone ⊢
  cases hdefaults : y.defaults with
  | none => rfl
  | some c =>
      rw [hdefaults] at hnone
      cases c with
      | scalar a => rfl
      | list items => rfl
      | own entries => exact hnone
      | ref n =>
          have hkept := h n key
          have hgone : (s' n).get? key = none := hnone
          rw [hgone] at hkept
          have hhere : (s n).get? key = none :=
            Option.not_isSome_iff_eq_none.mp (fun hsome => nomatch hkept hsome)
          exact hhere

end Merge

section Implementation

/-- The entries of a list that pass a test, as a dictionary. -/
theorem get?_ofList_filter (p : Entry → Bool) (es : List (String × Entry))
    (hkeys : (es.map Prod.fst).Nodup) (key : String) :
    (Dict.ofList (es.filter (fun e => p e.2))).get? key = (es.lookup key).filter p := by
  induction es with
  | nil => rfl
  | cons e es ih =>
      rcases e with ⟨k, c⟩
      rw [List.map_cons, List.nodup_cons] at hkeys
      have hrest := ih hkeys.2
      have hfilter : ((k, c) :: es).filter (fun e => p e.2)
          = if p c then (k, c) :: es.filter (fun e => p e.2) else es.filter (fun e => p e.2) :=
        List.filter_cons
      rw [hfilter]
      by_cases hkey : key = k
      · subst hkey
        -- the key occurs once, so the rest gives nothing for it
        have hgone : es.lookup key = none := by
          rw [List.lookup_eq_none_iff]
          intro e he
          rw [bne_iff_ne]
          exact fun heq => hkeys.1 (List.mem_map.mpr ⟨e, he, heq.symm⟩)
        rw [hgone] at hrest
        rw [List.lookup_cons_self]
        by_cases hp : p c = true
        · rw [if_pos hp, Dict.get?_ofList_cons, hrest, if_pos rfl, Option.filter_some, if_pos hp]
          rfl
        · rw [if_neg hp, hrest, Option.filter_some, if_neg hp]
          rfl
      · have hlookup : List.lookup key ((k, c) :: es) = es.lookup key := by
          rw [List.lookup_cons, beq_eq_false_iff_ne.mpr hkey]
        rw [hlookup, ← hrest]
        by_cases hp : p c = true
        · rw [if_pos hp, Dict.get?_ofList_cons, if_neg hkey, Option.or_none]
        · rw [if_neg hp]

/-- `simple_dict_items`, key by key. -/
theorem get?_simpleDictItems (d : Object) (key : String) :
    (simpleDictItems d).get? key = (d.get? key).filter (fun c => !c.isMapping) :=
  get?_ofList_filter (fun c => !c.isMapping) d.entries d.nodup key

end Implementation

namespace EnvBuilder

variable (self : EnvBuilder)

/-- The mapping that is written under a root and a leaf. -/
def written (s : Objects) (root leaf : Option String) : Option Object :=
  match self.config.lookup s root leaf with
  | .ok (some c) => mappingOf s c
  | _ => none

/-- The levels of a key of a component, in the file as it is when the turn of
    the component comes. -/
def levels (extras : Dict String Value) (impl component key : String) (s : Objects) : Levels :=
  { commandLine := commandLine self.clusterName extras component key
    component := (self.written s (some impl) (some component)).bind (fun d => d.get? key)
    implementation :=
      ((self.written self.document.objects (some impl) none).bind (fun d => d.get? key)).filter
        (fun c => !c.isMapping)
    defaults := self.config.defaultFor s key }

/-- The file when the turn of a component of an implementation comes. -/
def turn (extras : Dict String Value) (impl component : String) : Except Exn Objects := do
  let run ← self.start impl
  run.before extras self.document.objects component

/-- What an implementation starts with. -/
theorem start_ok (impl : String) (run : ImplRun) (h : self.start impl = .ok run) :
    run.clusterName = self.clusterName ∧ run.impl = impl ∧ run.config = self.config
      ∧ ∃ own, self.written self.document.objects (some impl) none = some own
        ∧ ∀ key, run.common.get? key
            = ((own.get? key).or (self.config.defaultFor self.document.objects key)).filter
                (fun c => !c.isMapping) := by
  rcases except_bind_eq_ok _ _ _ h with ⟨found, hfound, h⟩
  cases hread : found.read self.document.objects with
  | none =>
      rw [hread] at h
      exact nomatch h
  | some implParams =>
      rw [hread] at h
      have hrun := Except.ok.inj h
      -- an exception of the lookup is raised again as another
      have hget : self.config.getKey self.document.objects (some impl) none true = .ok found := by
        unfold loadImpl at hfound
        split at hfound
        · rename_i found' hfound'
          rw [hfound', Except.ok.inj hfound]
        · exact nomatch hfound
      rcases getKey_ok _ self.config _ _ found hget with ⟨c, hc, hdefaults⟩
      rcases withDefaults_read _ self.config c found implParams hdefaults hread with
        ⟨own, hown, hentries⟩
      rw [← hrun]
      refine ⟨rfl, rfl, rfl, own, ?_, fun key => ?_⟩
      · rw [written, hc]
        exact hown
      · rw [get?_simpleDictItems, hentries]

/-- The levels in the order of the code: the defaults are looked at before what
    is written under the implementation. -/
theorem effective (extras : Dict String Value) (i : Nat) (impl : String) (env : BuiltEnv)
    (h : self.buildEnv extras i impl = .ok env) (component : String) (params : Object)
    (hmem : (component, params) ∈ env.components) (key : String)
    (hscalar : ∀ v, overrideOf extras component key = some v → v.isDict = false) :
    ∃ s, self.turn extras impl component = .ok s
      ∧ params.get? key
          = (self.levels extras impl component key s).commandLine.or
              ((self.levels extras impl component key s).component.or
                ((self.levels extras impl component key s).defaults.or
                  (self.levels extras impl component key s).implementation)) := by
  rcases self.buildEnv_ok extras i impl env h with ⟨run, hrun, hcomponents, _⟩
  rcases run.mem_components extras _ _ _ hcomponents component params hmem with
    ⟨s, t, hbefore, hturn⟩
  rcases self.start_ok impl run hrun with ⟨hname, himpl, hconfig, ownImpl, hwritten, hcommon⟩
  refine ⟨s, by rw [turn, hrun]; exact hbefore, ?_⟩
  rcases except_bind_eq_ok _ _ _ hturn with ⟨params₀, hparams₀, hturn⟩
  rcases except_bind_eq_ok _ _ _ hturn with ⟨entries, hentries, hturn⟩
  rcases run.componentParams_ok s component params₀ hparams₀ with ⟨c, own, hc, hown, hkeys⟩
  have hlast : params = (extend s params₀ entries).2 := by
    rw [Except.ok.inj hturn]
  rw [hconfig, himpl] at hc
  have hcomponent : self.written s (some impl) (some component) = some own := by
    rw [written, hc]
    exact hown
  rw [hlast, get?_extend_extraFor s params₀ extras component key entries hentries hscalar,
    hkeys key, hcommon key, hname, hconfig]
  unfold levels commandLine
  simp only [hcomponent, hwritten, Option.bind_some]
  cases hgiven : (overrideOf extras component key).map cellOf with
  | some v => rw [Option.some_or, Option.some_or, Option.some_or]
  | none =>
      rw [Option.none_or, Option.none_or]
      by_cases hkey : key = "cluster_name"
      · rw [if_pos hkey, if_pos hkey, Option.some_or]
      · rw [if_neg hkey, if_neg hkey, Option.none_or, Option.or_assoc]
        cases hdefault : self.config.defaultFor s key with
        | some d => rw [Option.some_or, Option.some_or]
        | none =>
            -- defaults without the key now were without it from the start
            rw [defaultFor_none_of_keeps _ _ _ (keeps_before run extras _ s component hbefore) key
              hdefault, Option.none_or, Option.none_or, Option.or_none]

/-- With parameters for one component only, its turn comes with the file as it
    was loaded. -/
theorem turn_alone (extras : Dict String Value) (impl component : String) (s : Objects)
    (h : self.turn extras impl component = .ok s)
    (halone : ∀ other, other ≠ component → extras.get? other = none) :
    s = self.document.objects := by
  rcases except_bind_eq_ok _ _ _ h with ⟨run, _, hbefore⟩
  unfold ImplRun.before at hbefore
  cases hloop : run.addComponents extras (run.implParams self.document.objects).keys.length
      ((run.implParams self.document.objects).keys.takeWhile (fun key => key != component))
      self.document.objects with
  | error e =>
      rw [hloop] at hbefore
      exact nomatch hbefore
  | ok pair =>
      rw [hloop] at hbefore
      rw [← Except.ok.inj hbefore]
      refine run.addComponents_quiet extras _ _ _ pair.1 pair.2 hloop (fun key hkey => ?_)
      exact halone key (by simpa using List.mem_takeWhile_imp hkey)

/-- The value of a key is the one of the most specific level exactly when what
    the turn of the component finds gives it before the implementation does. -/
theorem precedence_iff (extras : Dict String Value) (impls : String) (envs : List BuiltEnv)
    (h : self.buildEnvs extras impls = .ok envs) (i : Nat) (impl : String) (env : BuiltEnv)
    (himpl : (split ',' impls)[i]? = some impl) (henv : envs[i]? = some env)
    (component : String) (params : Object) (hmem : (component, params) ∈ env.components)
    (key : String) (hscalar : ∀ v, overrideOf extras component key = some v → v.isDict = false) :
    ∃ s, self.turn extras impl component = .ok s
      ∧ ((∀ other, other ≠ component → extras.get? other = none) → s = self.document.objects)
      ∧ ((∀ c, (self.levels extras impl component key self.document.objects).mostSpecific = some c →
            params.get? key = some c)
        ↔ (self.levels extras impl component key self.document.objects).Lasts
            (self.levels extras impl component key s)) := by
  have hbuild := self.buildEnvsFrom_getElem? extras 0 (split ',' impls) envs h i impl env himpl henv
  rcases self.effective extras (0 + i) impl env hbuild component params hmem key hscalar with
    ⟨s, hturn, heffective⟩
  refine ⟨s, hturn, self.turn_alone extras impl component s hturn, ?_⟩
  rw [heffective]
  exact Levels.follows_iff _ _ rfl rfl

end EnvBuilder

section Small

/-- A file with an operating system in the defaults and another one for the
    implementation. -/
def smallObjects : Objects
  | 0 => ⟨[("defaults", .ref 1), ("small", .ref 2)], by decide⟩
  | 1 => ⟨[("os_type", .scalar (.str "CentOS7"))], by decide⟩
  | 2 => ⟨[("cloud", .scalar (.str "aws")), ("region", .scalar (.str "us-west-2")),
        ("os_type", .scalar (.str "Rocky8")), ("backend", .ref 3)], by decide⟩
  | 3 => ⟨[("klass", .scalar (.str "backend.Xpand"))], by decide⟩
  | _ => Dict.empty

theorem smallObjects_loaded (n : Nat) : ∀ e ∈ (smallObjects n).entries, Loaded e.2 := by
  match n with
  | 0 | 1 | 2 | 3 => simp [smallObjects]
  | _ + 4 => exact fun e he => absurd he List.not_mem_nil

/-- The environments of that file, in a cloud with one region. -/
def small : EnvBuilder :=
  { clusterName := "dev"
    document := .ofObjects smallObjects smallObjects_loaded
    depth := 10
    implFile := "impl.yaml"
    loadCloud := fun _ => .ok (Dict.ofList [("us-west-2", .dict []), ("klass", .str "aws")])
    saveImpl := fun _ => .ok ()
    sharedStorage := fun _ => .ok [] }

theorem precedence_small :
    ∃ env params s, small.buildEnvs Dict.empty "small" = .ok [env]
      ∧ ("backend", params) ∈ env.components
      ∧ small.turn Dict.empty "small" "backend" = .ok s
      ∧ ((∀ c, (small.levels Dict.empty "small" "backend" "klass"
              small.document.objects).mostSpecific = some c → params.get? "klass" = some c)
        ↔ (small.levels Dict.empty "small" "backend" "klass" small.document.objects).Lasts
            (small.levels Dict.empty "small" "backend" "klass" s)) := by
  rcases small.precedence_iff Dict.empty "small" [_] rfl 0 "small" _ rfl rfl "backend" _
    List.mem_cons_self "klass" (fun v h => nomatch h) with ⟨s, hturn, _, hiff⟩
  exact ⟨_, _, s, rfl, List.mem_cons_self, hturn, hiff⟩

/-- The component gets the operating system of the defaults, and not the one of
    its implementation. -/
theorem defaults_hide_implementation :
    ∃ env params, small.buildEnvs Dict.empty "small" = .ok [env]
      ∧ ("backend", params) ∈ env.components
      ∧ (small.levels Dict.empty "small" "backend" "os_type" small.document.objects).mostSpecific
          = some (.scalar (.str "Rocky8"))
      ∧ params.get? "os_type" = some (.scalar (.str "CentOS7")) :=
  ⟨_, _, rfl, List.mem_cons_self, rfl, rfl⟩

end Small

end Xbench
