import Xbench.Commands.Overrides
import Xbench.Commands.WorkloadRunning

/-!
# The Configuration of a Workload

What `WorkloadRunning` computes from the workload file.

The loader of the file is used twice with its defaults replaced: the defaults
of the benchmark are first put over its workloads, and then over the workload
that is found there. So a name that only the defaults have is found among the
workloads too, and an empty name finds all of them. Each lookup looks at the
first simple entry of what it gives, and refuses it when that is empty.

The parameters of the command line come last, in a union. A union does not go
into mappings: of an entry that is a mapping in the file, a parameter inside of
it leaves nothing but itself.

## Main definitions

* `WorkloadSection`: What the file has for a benchmark.
* `WorkloadOverrides`: The parameters for the workload.
* `initWorkloadConf`: What the constructor computes.
* `Overridden`: Every parameter is set at its path, and nothing else is changed.
* `Effective`: The configuration is the one that is meant.
* `Accepts`: When it is for a workload of the file.
* `Refuses`: When a name that is none is rejected.

## Theorems

* `workloadRunning_conf`: The constructor goes on with the configuration.
* `overridden_iff`: When a union sets every parameter at its path only.
* `loadWorkload_eq`: The two lookups as three checks.
* `effective_iff`: When the configuration is the one that is meant.
-/

namespace Xbench

open Text

section Sections

variable (s : Objects) (y : YamlConfig)

/-- What the file has for a benchmark, where `get_key` looks for it. -/
structure WorkloadSection (benchmarkName : String) where
  defaults : Object
  workloads : Object
  readsDefaults : ∃ c, y.lookup s (some benchmarkName) (some "defaults") = .ok (some c)
    ∧ mappingOf s c = some defaults
  readsWorkloads : ∃ c, y.lookup s (some benchmarkName) (some "workloads") = .ok (some c)
    ∧ mappingOf s c = some workloads

/-- The parameters for the workload: a value under every path of names. -/
structure WorkloadOverrides where
  tree : Dict String (Nested String Value)
  filled : ∀ k t, tree.get? k = some t → t.Filled

/-- A path that is neither on the way to a value nor behind one. -/
def ApartFrom (t : Nested String Value) (q : List Step) : Prop :=
  ∀ p v, t.leadsTo p = some (.leaf v) → ¬ p.map Step.key <+: q ∧ ¬ q <+: p.map Step.key

namespace WorkloadOverrides

variable (o : WorkloadOverrides)

/-- The dictionary that the command line has for the workload. -/
def given : Value :=
  .dict (nestedEntries o.tree.entries)

/-- `--workload.p=v` is among them. -/
def Sets (p : List String) (v : Value) : Prop :=
  (Nested.node o.tree.entries).leadsTo p = some (.leaf v)

/-- A path that is neither on the way to a parameter nor behind one. -/
def Apart (q : List Step) : Prop :=
  ApartFrom (.node o.tree.entries) q

end WorkloadOverrides

/-- What a runner is given, as a cell. -/
def Passed.cell {β : Type} : Passed β → Option Entry
  | .entry c => some c
  | .value v => some (cellOf v)
  | .backend _ => none

/-- What is seen of a configuration at the end of a path. -/
def lookConf {β : Type} (conf : Dict String (Passed β)) : List Step → Option (Shape Scalar)
  | [] => some .mapping
  | .key k :: q => ((conf.get? k).bind Passed.cell).bind (fun c => look s c q)
  | .item _ :: _ => none

/-- Every parameter is set at its path, and nothing else is changed. -/
structure Overridden {β : Type} (base : Object) (o : WorkloadOverrides)
    (conf : Dict String (Passed β)) : Prop where
  here : ∀ p v, o.Sets p v → ∀ q, lookConf s conf (p.map Step.key ++ q) = look s (cellOf v) q
  elsewhere : ∀ q, o.Apart q → lookConf s conf q = look s (cellOfParams base) q

/-- What the constructor computes as `workload_conf`. -/
def initWorkloadConf {β : Type} (benchmarkName workloadName : String)
    (extras : Dict String Value) : Except Exn (Dict String (Passed β)) := do
  let found ← loadWorkload s y benchmarkName workloadName
  workloadConfOf s found extras

/-- A lookup is rejected by the loader. -/
def Rejected {α : Type} (result : Except Exn α) : Prop :=
  ∃ e : Exn, result = .error e ∧ e.isA .yamlConfig = true

/-- The configuration is the one that is meant: for a workload of the file the
    defaults under its own entries, with every parameter at its path, and for
    any other name an exception. -/
structure Effective {β : Type} {benchmarkName : String} (sec : WorkloadSection s y benchmarkName)
    (workloadName : String) (o : WorkloadOverrides)
    (result : Except Exn (Dict String (Passed β))) : Prop where
  computed : ∀ c own, sec.workloads.get? workloadName = some c → mappingOf s c = some own →
    ∃ conf, result = .ok conf ∧ Overridden s (sec.defaults.union own) o conf
  rejected : sec.workloads.get? workloadName = none → Rejected result

/-- The check of the first simple entry of a dictionary. -/
def endsEmpty (m : Object) : Except Exn Bool :=
  isEmpty s y.depth (.copy m)

/-- What the second lookup goes over the defaults with. -/
def WorkloadSection.taken {benchmarkName : String} (sec : WorkloadSection s y benchmarkName)
    (workloadName : String) (own : Object) : Object :=
  if workloadName = "" then sec.defaults.union sec.workloads else own

/-- The entry that is found under a name. -/
def WorkloadSection.found {benchmarkName : String} (sec : WorkloadSection s y benchmarkName)
    (workloadName : String) : Option Entry :=
  if workloadName = "" then some (.own (sec.defaults.union sec.workloads).entries)
  else (sec.defaults.union sec.workloads).get? workloadName

/-- A workload of the file is computed as it is meant: no check fails, the name
    is not empty or it makes no difference, and where a parameter is set inside
    of an entry, the entry has nothing else. -/
structure Accepts {benchmarkName : String} (sec : WorkloadSection s y benchmarkName)
    (workloadName : String) (own : Object) (o : WorkloadOverrides) : Prop where
  defaults : endsEmpty s y sec.defaults = .ok false
  workloads : endsEmpty s y (sec.defaults.union sec.workloads) = .ok false
  merged : endsEmpty s y (sec.defaults.union (sec.taken s y workloadName own)) = .ok false
  named : ∀ k, o.tree.get? k = none → ∀ q,
    look s (cellOfParams (sec.defaults.union (sec.taken s y workloadName own))) (.key k :: q)
      = look s (cellOfParams (sec.defaults.union own)) (.key k :: q)
  alone : ∀ k t q, o.tree.get? k = some t → o.Apart (.key k :: q) →
    look s (cellOfParams (sec.defaults.union own)) (.key k :: q) = none

/-- An entry that the last lookup rejects: none, an empty one, or a mapping
    that ends up empty over the defaults. -/
def Unusable (defaults : Object) : Option Entry → Prop
  | none => True
  | some c =>
      match mappingOf s c with
      | some m => endsEmpty s y (defaults.union m) = .ok true
      | none => isEmptySimpleKey c = true

/-- A name that is none of a workload is rejected: a check fails before it is
    looked up, or what is found is not usable. -/
def Refuses {benchmarkName : String} (sec : WorkloadSection s y benchmarkName)
    (workloadName : String) : Prop :=
  endsEmpty s y sec.defaults = .ok true
    ∨ endsEmpty s y sec.defaults = .ok false
      ∧ (endsEmpty s y (sec.defaults.union sec.workloads) = .ok true
        ∨ endsEmpty s y (sec.defaults.union sec.workloads) = .ok false
          ∧ Unusable s y sec.defaults (sec.found s y workloadName))

end Sections

section Tree

variable (s : Objects)

theorem nestedEntries_eq (entries : Mapping Value) :
    nestedEntries entries = entries.map (fun e => (e.1, nestedValue e.2)) := by
  induction entries with
  | nil => rfl
  | cons e entries ih => rw [nestedEntries, ih, List.map_cons]

theorem entriesOf_eq (entries : List (String × Value)) :
    entriesOf entries = entries.map (fun e => (e.1, cellOf e.2)) := by
  induction entries with
  | nil => rfl
  | cons e entries ih => rw [entriesOf, ih, List.map_cons]

/-- What is seen behind a name of the parameters. -/
theorem look_node_key (entries : Mapping Value) (k : String) (q : List Step) :
    look s (cellOf (nestedValue (.node entries))) (.key k :: q)
      = (entries.lookup k).bind (fun t => look s (cellOf (nestedValue t)) q) := by
  have hchild : child s (cellOf (nestedValue (.node entries))) (.key k)
      = (entries.lookup k).map (fun t => cellOf (nestedValue t)) := by
    rw [nestedValue, cellOf, child, entriesOf_eq, nestedEntries_eq, Dict.lookup_mapValues,
      Dict.lookup_mapValues, Option.map_map]
    rfl
  cases hk : entries.lookup k with
  | none =>
      rw [hk] at hchild
      rw [look, follow_cons_none s _ _ _ hchild]
      rfl
  | some t =>
      rw [hk] at hchild
      rw [look, follow_cons s _ _ _ _ hchild]
      rfl

/-- Behind the path of a value the value is seen. -/
theorem look_leaf (t : Nested String Value) (p : List String) (v : Value)
    (h : t.leadsTo p = some (.leaf v)) (q : List Step) :
    look s (cellOf (nestedValue t)) (p.map Step.key ++ q) = look s (cellOf v) q := by
  induction p generalizing t with
  | nil =>
      rw [Nested.leadsTo_nil, Option.some.injEq] at h
      rw [h, nestedValue, List.map_nil, List.nil_append]
  | cons k p ih =>
      cases t with
      | leaf a => cases h
      | node entries =>
          rw [Nested.leadsTo_cons, Option.bind_eq_some_iff] at h
          rcases h with ⟨t, hk, ht⟩
          rw [List.map_cons, List.cons_append, look_node_key, hk, Option.bind_some]
          exact ih t ht

theorem apartFrom_key (entries : Mapping Value) (k : String) (q : List Step) :
    ApartFrom (.node entries) (.key k :: q) ↔ ∀ t, entries.lookup k = some t → ApartFrom t q := by
  constructor
  · intro h t hk p v hp
    have hcons : (Nested.node entries).leadsTo (k :: p) = some (.leaf v) := by
      rw [Nested.leadsTo_cons, hk]
      exact hp
    rcases h (k :: p) v hcons with ⟨hbehind, hway⟩
    rw [List.map_cons, List.cons_prefix_cons, not_and] at hbehind hway
    exact ⟨hbehind rfl, hway rfl⟩
  · intro h p v hp
    cases p with
    | nil => cases hp
    | cons j p =>
        rw [Nested.leadsTo_cons, Option.bind_eq_some_iff] at hp
        rcases hp with ⟨t, hj, ht⟩
        rw [List.map_cons, List.cons_prefix_cons, List.cons_prefix_cons]
        by_cases hkj : j = k
        · rw [hkj] at hj
          rcases h t hj p v ht with ⟨hbehind, hway⟩
          exact ⟨fun hpre => hbehind hpre.2, fun hpre => hway hpre.2⟩
        · exact ⟨fun hpre => hkj (Step.key.inj hpre.1),
            fun hpre => hkj (Step.key.inj hpre.1).symm⟩

/-- Apart from the values nothing is seen. -/
theorem look_apart (t : Nested String Value) (hfilled : t.Filled) (q : List Step)
    (h : ApartFrom t q) : look s (cellOf (nestedValue t)) q = none := by
  induction q generalizing t with
  | nil =>
      -- the whole is on the way to every value, and there is one
      rcases Nested.exists_leaf t hfilled with ⟨p, v, hp⟩
      exact absurd List.nil_prefix (h p v hp).2
  | cons st q ih =>
      cases t with
      | leaf v => exact absurd List.nil_prefix (h [] v (Nested.leadsTo_nil _)).1
      | node entries =>
          cases st with
          | item i => rfl
          | key k =>
              rw [look_node_key]
              rw [apartFrom_key] at h
              cases hk : entries.lookup k with
              | none => rfl
              | some t => exact ih t (hfilled.under entries k t hk) (h t hk)

end Tree

section Union

variable {β : Type} (s : Objects) (o : WorkloadOverrides)

/-- The union with the parameters. -/
def unionConf (base : Object) : Dict String (Passed β) :=
  (base.mapValues Passed.entry).union
    ((Dict.ofList (nestedEntries o.tree.entries)).mapValues Passed.value)

/-- A name of the parameters takes the place of the entry. -/
theorem lookConf_unionConf (base : Object) (k : String) (q : List Step) :
    lookConf s (unionConf (β := β) o base) (.key k :: q)
      = match o.tree.get? k with
        | some t => look s (cellOf (nestedValue t)) q
        | none => look s (cellOfParams base) (.key k :: q) := by
  have hkeys : ((nestedEntries o.tree.entries).map Prod.fst).Nodup := by
    rw [nestedEntries_eq, List.map_map]
    exact o.tree.keys_nodup
  have hget : (Dict.ofList (nestedEntries o.tree.entries)).get? k
      = (o.tree.get? k).map nestedValue := by
    rw [Dict.get?_ofList_of_nodup _ hkeys, nestedEntries_eq, Dict.lookup_mapValues]
    rfl
  rw [lookConf, unionConf, Dict.get?_union, Dict.get?_mapValues, Dict.get?_mapValues, hget,
    look_params_key]
  cases o.tree.get? k with
  | some t => rfl
  | none => cases base.get? k <;> rfl

/-- A union sets every parameter at its path only when the entries without
    parameters are the same, and the others have nothing besides. -/
theorem overridden_iff (base taken : Object) :
    Overridden s base o (unionConf (β := β) o taken)
      ↔ (∀ k, o.tree.get? k = none → ∀ q,
          look s (cellOfParams taken) (.key k :: q) = look s (cellOfParams base) (.key k :: q))
        ∧ ∀ k t q, o.tree.get? k = some t → o.Apart (.key k :: q) →
          look s (cellOfParams base) (.key k :: q) = none := by
  constructor
  · intro h
    refine ⟨fun k hk q => ?_, fun k t q hk happart => ?_⟩
    · have happart : o.Apart (.key k :: q) := by
        -- no name of an override leads there, so it is apart from all of them
        rw [WorkloadOverrides.Apart, apartFrom_key]
        intro t ht
        rw [Dict.get?, ht] at hk
        cases hk
      have hsame := h.elsewhere _ happart
      rw [lookConf_unionConf, hk] at hsame
      exact hsame
    · have hsame := h.elsewhere _ happart
      rw [lookConf_unionConf, hk] at hsame
      rw [WorkloadOverrides.Apart, apartFrom_key] at happart
      rw [← hsame]
      exact look_apart s t (o.filled k t hk) q (happart t hk)
  · rintro ⟨hsame, halone⟩
    refine ⟨fun p v hp q => ?_, fun q happart => ?_⟩
    · cases p with
      | nil => cases hp
      | cons k p =>
          rw [WorkloadOverrides.Sets, Nested.leadsTo_cons, Option.bind_eq_some_iff] at hp
          rcases hp with ⟨t, hk, ht⟩
          have hget : o.tree.get? k = some t := hk
          rw [List.map_cons, List.cons_append, lookConf_unionConf, hget]
          exact look_leaf s t p v ht q
    · cases q with
      | nil => rfl
      | cons st q =>
          cases st with
          | item i => rfl
          -- what is under the key is of the taken mapping, or of an override
          | key k =>
              rw [lookConf_unionConf]
              cases hk : o.tree.get? k with
              | none => exact hsame k hk q
              | some t =>
                  have hnone := halone k t q hk happart
                  rw [WorkloadOverrides.Apart, apartFrom_key] at happart
                  rw [hnone]
                  exact look_apart s t (o.filled k t hk) q (happart t hk)

end Union

section Loading

variable (s : Objects) (y : YamlConfig)

theorem isEmpty_of_read (depth : Nat) (found : Found) (m : Object)
    (h : found.read s = some m) : isEmpty s depth found = isEmpty s depth (.copy m) := by
  unfold isEmpty
  rw [h]
  rfl

/-- A mapping is checked after it was put over the defaults. -/
theorem taken_checked (root leaf : Option String) (useDefaults : Bool) (c : Entry) (found : Found)
    (m merged : Object) (hc : mappingOf s c = some m)
    (hfound : y.withDefaults s useDefaults c = .ok found)
    (hread : found.read s = some merged) :
    y.taken s root leaf useDefaults (some c)
      = (endsEmpty s y merged >>= fun e =>
          if e then .error (YamlConfig.endsUpEmpty root leaf) else .ok found) := by
  have hempty : isEmpty s y.depth found = endsEmpty s y merged :=
    isEmpty_of_read s y.depth found merged hread
  have hrest : y.taken s root leaf useDefaults (some c)
      = (y.withDefaults s useDefaults c >>= fun found => isEmpty s y.depth found >>= fun e =>
          if e then .error (YamlConfig.endsUpEmpty root leaf) else .ok found) := by
    cases c with
    | scalar a => cases hc
    | _ => rfl
  rw [hrest, hfound]
  change (isEmpty s y.depth found >>= _) = _
  rw [hempty]

/-- A mapping goes over the defaults. -/
theorem withDefaults_union (d c : Entry) (dm m : Object) (hd : y.defaults = some d)
    (hdm : mappingOf s d = some dm) (hc : mappingOf s c = some m) :
    ∃ found, y.withDefaults s true c = .ok found ∧ found.read s = some (dm.union m) := by
  unfold YamlConfig.withDefaults YamlConfig.usedDefaults
  rw [if_pos rfl, hd, Option.filter_some, hc]
  by_cases htruthy : truthy s d = true
  · rw [if_pos htruthy]
    dsimp only
    rw [hdm]
    exact ⟨_, rfl, rfl⟩
  · -- empty defaults leave the mapping as it is
    rw [if_neg htruthy]
    refine ⟨_, rfl, ?_⟩
    have hnone : dm.entries = [] := by
      cases hentries : dm.entries with
      | nil => rfl
      | cons e rest =>
          rw [Bool.not_eq_true] at htruthy
          have hget := get?_of_falsy s d dm hdm htruthy e.1
          rw [Dict.get?, hentries, List.lookup_cons_self] at hget
          cases hget
    have hunion : dm.union m = m := by
      refine (Dict.ext_of_entries _ _ ?_).trans (Dict.ofList_entries m)
      rw [Dict.union, Dict.ofList]
      refine congrArg (fun d => (Dict.setAll d m.entries).entries) ?_
      exact Dict.ext_of_entries _ _ hnone
    rw [Found.read, hc, hunion]

/-- Under an empty name a lookup finds the whole. -/
theorem lookupIn_read (config : Found) (m : Object) (h : config.read s = some m)
    (root : String) :
    ∃ c, lookupIn s config root = .ok c
      ∧ (root = "" → ∃ whole, c = some whole ∧ mappingOf s whole = some m)
      ∧ (root ≠ "" → c = m.get? root) := by
  have hgiven : YamlConfig.given (some root) = if root != "" then some root else none := rfl
  unfold lookupIn
  rw [hgiven]
  by_cases hroot : root = ""
  · rw [hroot]
    refine ⟨some config.entry, rfl, fun _ => ⟨config.entry, rfl, ?_⟩, fun hne => absurd rfl hne⟩
    rw [← h]
    cases config with
    | copy m => exact congrArg some (Dict.ofList_entries m)
    | same c => rfl
  · rw [if_pos (bne_iff_ne.mpr hroot)]
    dsimp only
    rw [h]
    exact ⟨m.get? root, rfl, fun heq => absurd heq hroot, fun _ => rfl⟩

/-- The two lookups are three checks; the last is made on the entry that is
    found. -/
theorem loadWorkload_eq {benchmarkName : String} (sec : WorkloadSection s y benchmarkName)
    (workloadName : String) :
    ∃ d c, mappingOf s d = some sec.defaults
      ∧ (workloadName = "" → ∃ whole, c = some whole
        ∧ mappingOf s whole = some (sec.defaults.union sec.workloads))
      ∧ (workloadName ≠ "" → c = (sec.defaults.union sec.workloads).get? workloadName)
      ∧ loadWorkload s y benchmarkName workloadName
        = (endsEmpty s y sec.defaults >>= fun e =>
            if e then .error (YamlConfig.endsUpEmpty (some benchmarkName) (some "defaults"))
            else endsEmpty s y (sec.defaults.union sec.workloads) >>= fun e =>
              if e then .error (YamlConfig.endsUpEmpty (some benchmarkName) (some "workloads"))
              else YamlConfig.taken { y with defaults := some d } s (some workloadName) none true
                c) := by
  -- the first lookup takes the defaults, the second the workloads over them
  rcases sec.readsDefaults with ⟨d, hd, hdm⟩
  rcases sec.readsWorkloads with ⟨w, hw, hwm⟩
  rcases withDefaults_union s { y with defaults := some d } d w _ _ rfl hdm hwm with
    ⟨workloads, hmerge, hread⟩
  rcases lookupIn_read s workloads _ hread workloadName with ⟨c, hc, hwhole, hnamed⟩
  refine ⟨d, c, hdm, hwhole, hnamed, ?_⟩
  have hdefaults : y.getKey s (some benchmarkName) (some "defaults") false
      = (endsEmpty s y sec.defaults >>= fun e =>
          if e then .error (YamlConfig.endsUpEmpty (some benchmarkName) (some "defaults"))
          else .ok (.same d)) := by
    rw [YamlConfig.getKey_eq, hd]
    exact taken_checked s y _ _ false d (.same d) _ _ hdm rfl hdm
  have hworkloads : YamlConfig.getKey { y with defaults := some d } s (some benchmarkName)
      (some "workloads") true
      = (endsEmpty s y (sec.defaults.union sec.workloads) >>= fun e =>
          if e then .error (YamlConfig.endsUpEmpty (some benchmarkName) (some "workloads"))
          else .ok workloads) := by
    rw [YamlConfig.getKey_eq]
    change (y.lookup s (some benchmarkName) (some "workloads") >>= _) = _
    rw [hw]
    exact taken_checked s { y with defaults := some d } _ _ true w workloads _ _ hwm hmerge hread
  -- each lookup may find what it takes empty
  unfold loadWorkload
  rw [hdefaults]
  cases hfirst : endsEmpty s y sec.defaults with
  | error e => rfl
  | ok e =>
      cases e with
      | true => rfl
      | false =>
          change (YamlConfig.getKey { y with defaults := some d } s (some benchmarkName)
            (some "workloads") true >>= _) = _
          rw [hworkloads]
          cases hsecond : endsEmpty s y (sec.defaults.union sec.workloads) with
          | error e => rfl
          | ok e =>
              cases e with
              | true => rfl
              | false =>
                  change (lookupIn s workloads workloadName >>= _) = _
                  rw [hc]
                  rfl

end Loading

section Checks

variable (s : Objects) (y : YamlConfig)

theorem firstOf_error (f : Entry → Except Exn (Option Entry)) (e : Exn)
    (hf : ∀ c x, f c = .error x → x = e) (entries : List (String × Entry)) (x : Exn)
    (h : firstOf f entries = .error x) : x = e := by
  induction entries with
  | nil => cases h
  | cons entry entries ih =>
      rw [firstOf] at h
      cases hentry : f entry.2 with
      | error x' =>
          rw [hentry] at h
          rw [← Except.error.inj h]
          exact hf _ _ hentry
      | ok first =>
          rw [hentry] at h
          cases first with
          | none => exact ih h
          | some c => cases h

/-- The search for an entry fails on too deep a file only. -/
theorem firstItem_error (depth : Nat) (entries : List (String × Entry)) (x : Exn)
    (h : firstItem s depth entries = .error x) : x = tooDeep := by
  induction depth generalizing entries x with
  | zero => exact (Except.error.inj h).symm
  | succ depth ih =>
      refine firstOf_error _ tooDeep (fun c x hc => ?_) entries x h
      cases hm : mappingOf s c with
      | none =>
          rw [hm] at hc
          cases hc
      | some m =>
          rw [hm] at hc
          exact ih m.entries x hc

theorem endsEmpty_error (m : Object) (x : Exn) (h : endsEmpty s y m = .error x) :
    x.isA .yamlConfig = false := by
  have hread : endsEmpty s y m
      = (firstItem s y.depth m.entries).map (fun first => first.any isEmptySimpleKey) := rfl
  rw [hread] at h
  cases hfirst : firstItem s y.depth m.entries with
  | ok first =>
      rw [hfirst] at h
      cases h
  | error x' =>
      rw [hfirst] at h
      rw [← Except.error.inj h, firstItem_error s y.depth m.entries x' hfirst]
      rfl

variable {α : Type} (m : Object) (root leaf : Option String) (rest : Except Exn α)

/-- What comes after a check is computed when it does not fail. -/
theorem check_ok_iff (a : α) :
    (endsEmpty s y m >>= fun e =>
        if e then .error (YamlConfig.endsUpEmpty root leaf) else rest) = .ok a
      ↔ endsEmpty s y m = .ok false ∧ rest = .ok a := by
  cases hcheck : endsEmpty s y m with
  | error x => exact ⟨fun h => (by cases h), fun h => (by cases h.1)⟩
  | ok e =>
      cases e with
      | true => exact ⟨fun h => (by cases h), fun h => (by cases h.1)⟩
      | false => exact ⟨fun h => ⟨rfl, h⟩, fun h => h.2⟩

/-- A check rejects, or what comes after it. -/
theorem check_rejected_iff :
    Rejected (endsEmpty s y m >>= fun e =>
        if e then .error (YamlConfig.endsUpEmpty root leaf) else rest)
      ↔ endsEmpty s y m = .ok true ∨ endsEmpty s y m = .ok false ∧ Rejected rest := by
  cases hcheck : endsEmpty s y m with
  | error x =>
      have hx := endsEmpty_error s y m x hcheck
      constructor
      · rintro ⟨e, he, hyaml⟩
        rw [← Except.error.inj he, hx] at hyaml
        cases hyaml
      · rintro (h | h)
        · cases h
        · cases h.1
  | ok e =>
      cases e with
      | true => exact ⟨fun _ => .inl rfl, fun _ => ⟨_, rfl, rfl⟩⟩
      | false =>
          constructor
          · exact fun h => .inr ⟨rfl, h⟩
          · rintro (h | h)
            · cases h
            · exact h.2

end Checks

section Configuration

variable {β : Type} (s : Objects) (y : YamlConfig) (o : WorkloadOverrides)
  (extras : Dict String Value)

/-- What was found goes under the parameters. -/
theorem workloadConfOf_read (hextras : (extras.get? "workload").getD (.dict []) = o.given)
    (found : Found) (m : Object) (h : found.read s = some m) :
    workloadConfOf (β := β) s found extras = .ok (unionConf o m) := by
  have hsection : sectionOf extras "workload" noUnion = .ok (nestedEntries o.tree.entries) := by
    unfold sectionOf
    cases hget : extras.get? "workload" with
    | none =>
        rw [hget] at hextras
        exact congrArg Except.ok (Value.dict.inj hextras)
    | some v =>
        rw [hget] at hextras
        change v = o.given at hextras
        rw [hextras]
        rfl
  unfold workloadConfOf
  rw [h]
  dsimp only
  rw [hsection]
  rfl

/-- The configuration from a mapping that is found. -/
theorem taken_conf (hextras : (extras.get? "workload").getD (.dict []) = o.given)
    (d c : Entry) (dm m : Object) (hd : mappingOf s d = some dm) (hc : mappingOf s c = some m)
    (root leaf : Option String) :
    (YamlConfig.taken { y with defaults := some d } s root leaf true (some c) >>= fun found =>
        workloadConfOf (β := β) s found extras)
      = (endsEmpty s y (dm.union m) >>= fun e =>
          if e then .error (YamlConfig.endsUpEmpty root leaf)
          else .ok (unionConf o (dm.union m))) := by
  rcases withDefaults_union s { y with defaults := some d } d c dm m rfl hd hc with
    ⟨found, hfound, hread⟩
  rw [taken_checked s { y with defaults := some d } root leaf true c found m _ hc hfound hread]
  change (endsEmpty s y (dm.union m) >>= _) >>= _ = _
  cases endsEmpty s y (dm.union m) with
  | error x => rfl
  | ok e =>
      cases e with
      | true => rfl
      | false => exact workloadConfOf_read s o extras hextras found _ hread

/-- What is no mapping is left as it is. -/
theorem taken_plain (c : Entry) (hc : mappingOf s c = none) (hnone : c ≠ .scalar .none)
    (root leaf : Option String) :
    y.taken s root leaf true (some c)
      = if isEmptySimpleKey c then .error (YamlConfig.endsUpEmpty root leaf)
        else .ok (.same c) := by
  have hsame : y.withDefaults s true c = .ok (.same c) := by
    unfold YamlConfig.withDefaults
    rw [hc]
    cases y.usedDefaults s true <;> rfl
  have hempty : isEmpty s y.depth (.same c) = .ok (isEmptySimpleKey c) := by
    unfold isEmpty
    rw [Found.read, hc]
  have hrest : y.taken s root leaf true (some c)
      = (y.withDefaults s true c >>= fun found => isEmpty s y.depth found >>= fun e =>
          if e then .error (YamlConfig.endsUpEmpty root leaf) else .ok found) := by
    cases c with
    | scalar a =>
        cases a with
        | none => exact absurd rfl hnone
        | _ => rfl
    | _ => rfl
  rw [hrest, hsame]
  change (isEmpty s y.depth (.same c) >>= _) = _
  rw [hempty]
  rfl

/-- What the last lookup rejects. -/
theorem taken_rejected_iff (hextras : (extras.get? "workload").getD (.dict []) = o.given)
    (d : Entry) (dm : Object) (hd : mappingOf s d = some dm) (c : Option Entry)
    (root leaf : Option String) :
    Rejected (YamlConfig.taken { y with defaults := some d } s root leaf true c >>= fun found =>
        workloadConfOf (β := β) s found extras)
      ↔ Unusable s y dm c := by
  cases c with
  | none => exact ⟨fun _ => trivial, fun _ => ⟨_, rfl, rfl⟩⟩
  | some c =>
      cases hc : mappingOf s c with
      | some m =>
          rw [taken_conf s y o extras hextras d c dm m hd hc, check_rejected_iff, Unusable, hc]
          constructor
          · rintro (h | ⟨_, _, h, _⟩)
            · exact h
            · cases h
          · exact .inl
      | none =>
          have hunusable : Unusable s y dm (some c) ↔ isEmptySimpleKey c = true := by
            rw [Unusable, hc]
          rw [hunusable]
          by_cases hnone : c = .scalar .none
          · rw [hnone]
            exact ⟨fun _ => rfl, fun _ => ⟨_, rfl, rfl⟩⟩
          · rw [taken_plain s { y with defaults := some d } c hc hnone]
            by_cases hsimple : isEmptySimpleKey c = true
            · rw [if_pos hsimple]
              exact ⟨fun _ => hsimple, fun _ => ⟨_, rfl, rfl⟩⟩
            · -- a union needs a mapping
              rw [if_neg hsimple]
              change Rejected (workloadConfOf (β := β) s (.same c) extras) ↔ _
              unfold workloadConfOf
              rw [Found.read, hc]
              refine ⟨?_, fun h => absurd h hsimple⟩
              rintro ⟨e, he, hyaml⟩
              rw [← Except.error.inj he] at hyaml
              cases hyaml

variable {benchmarkName : String} (sec : WorkloadSection s y benchmarkName)
  (workloadName : String)

/-- The configuration is computed in three checks. -/
theorem initWorkloadConf_eq :
    ∃ d c, mappingOf s d = some sec.defaults
      ∧ (workloadName = "" → ∃ whole, c = some whole
        ∧ mappingOf s whole = some (sec.defaults.union sec.workloads))
      ∧ (workloadName ≠ "" → c = (sec.defaults.union sec.workloads).get? workloadName)
      ∧ initWorkloadConf (β := β) s y benchmarkName workloadName extras
        = (endsEmpty s y sec.defaults >>= fun e =>
            if e then .error (YamlConfig.endsUpEmpty (some benchmarkName) (some "defaults"))
            else endsEmpty s y (sec.defaults.union sec.workloads) >>= fun e =>
              if e then .error (YamlConfig.endsUpEmpty (some benchmarkName) (some "workloads"))
              else YamlConfig.taken { y with defaults := some d } s (some workloadName) none true
                c >>= fun found => workloadConfOf s found extras) := by
  rcases loadWorkload_eq s y sec workloadName with ⟨d, c, hd, hwhole, hnamed, hload⟩
  refine ⟨d, c, hd, hwhole, hnamed, ?_⟩
  unfold initWorkloadConf
  rw [hload]
  cases endsEmpty s y sec.defaults with
  | error x => rfl
  | ok e =>
      cases e with
      | true => rfl
      | false =>
          change ((endsEmpty s y (sec.defaults.union sec.workloads) >>= _) >>= _)
            = (endsEmpty s y (sec.defaults.union sec.workloads) >>= _)
          cases endsEmpty s y (sec.defaults.union sec.workloads) with
          | error x => rfl
          | ok e => cases e <;> rfl

/-- When a workload of the file is computed as it is meant. -/
theorem accepted_iff (hextras : (extras.get? "workload").getD (.dict []) = o.given)
    (own : Object) (c : Entry) (hc : sec.workloads.get? workloadName = some c)
    (hown : mappingOf s c = some own) :
    (∃ conf, initWorkloadConf (β := β) s y benchmarkName workloadName extras = .ok conf
        ∧ Overridden s (sec.defaults.union own) o conf)
      ↔ Accepts s y sec workloadName own o := by
  rcases initWorkloadConf_eq (β := β) s y extras sec workloadName with
    ⟨d, picked, hd, hwhole, hnamed, hconf⟩
  -- without a name the workloads are taken whole
  have hpicked : ∃ c', picked = some c'
      ∧ mappingOf s c' = some (sec.taken s y workloadName own) := by
    unfold WorkloadSection.taken
    by_cases hname : workloadName = ""
    · rw [if_pos hname]
      exact hwhole hname
    · rw [if_neg hname]
      refine ⟨c, ?_, hown⟩
      rw [hnamed hname, Dict.get?_union, hc, Option.some_or]
  rcases hpicked with ⟨c', rfl, hc'⟩
  have hiff := overridden_iff (β := β) s o (sec.defaults.union own)
    (sec.defaults.union (sec.taken s y workloadName own))
  rw [hconf]
  simp only [check_ok_iff, taken_conf s y o extras hextras d c' _ _ hd hc']
  constructor
  · rintro ⟨conf, ⟨hdefaults, hworkloads, hmerged, hok⟩, hoverridden⟩
    rw [← Except.ok.inj hok, hiff] at hoverridden
    exact ⟨hdefaults, hworkloads, hmerged, hoverridden.1, hoverridden.2⟩
  · intro h
    exact ⟨_, ⟨h.defaults, h.workloads, h.merged, rfl⟩, hiff.mpr ⟨h.named, h.alone⟩⟩

/-- When a name that is none of a workload is rejected. -/
theorem refused_iff (hextras : (extras.get? "workload").getD (.dict []) = o.given) :
    Rejected (initWorkloadConf (β := β) s y benchmarkName workloadName extras)
      ↔ Refuses s y sec workloadName := by
  rcases initWorkloadConf_eq (β := β) s y extras sec workloadName with
    ⟨d, picked, hd, hwhole, hnamed, hconf⟩
  have hpicked : Unusable s y sec.defaults picked
      ↔ Unusable s y sec.defaults (sec.found s y workloadName) := by
    unfold WorkloadSection.found
    by_cases hname : workloadName = ""
    · rcases hwhole hname with ⟨whole, hsome, hmapping⟩
      have hentries : mappingOf s (.own (sec.defaults.union sec.workloads).entries)
          = some (sec.defaults.union sec.workloads) :=
        congrArg some (Dict.ofList_entries _)
      rw [if_pos hname, hsome, Unusable, Unusable, hmapping, hentries]
    · rw [if_neg hname, hnamed hname]
  rw [hconf, check_rejected_iff, check_rejected_iff,
    taken_rejected_iff s y o extras hextras d _ hd, hpicked, Refuses]

/-- When the configuration of a workload is the one that is meant. -/
theorem effective_iff (hextras : (extras.get? "workload").getD (.dict []) = o.given) :
    Effective s y sec workloadName o
        (initWorkloadConf (β := β) s y benchmarkName workloadName extras)
      ↔ (∀ c own, sec.workloads.get? workloadName = some c → mappingOf s c = some own →
          Accepts s y sec workloadName own o)
        ∧ (sec.workloads.get? workloadName = none → Refuses s y sec workloadName) := by
  constructor
  · intro h
    refine ⟨fun c own hc hown => ?_, fun hnone => ?_⟩
    · exact (accepted_iff s y o extras sec workloadName hextras own c hc hown).mp
        (h.computed c own hc hown)
    · exact (refused_iff s y o extras sec workloadName hextras).mp (h.rejected hnone)
  · rintro ⟨haccepts, hrefuses⟩
    refine ⟨fun c own hc hown => ?_, fun hnone => ?_⟩
    · exact (accepted_iff s y o extras sec workloadName hextras own c hc hown).mpr
        (haccepts c own hc hown)
    · exact (refused_iff s y o extras sec workloadName hextras).mpr (hrefuses hnone)

end Configuration

section Constructor

variable {β : Type} (setup : WorkloadSetup β)

/-- The rest of the constructor. -/
def constructWith (benchmarkName workloadName artifactDir : String)
    (extras : Dict String Value) (tag : Option String) (cluster : Cluster)
    (workloadConf : Dict String (Passed β)) : Except Exn (WorkloadRunning β) := do
  let bt ← updatedTarget cluster.bt extras
  let allBackends ← cluster.getBackendNodes
  let first ← firstBackend allBackends
  let klass ← setup.getClassFromKlass first.vm.klass
  let backend ← klass.make (if klass.clustered then .all allBackends else .first first)
    ((extras.get? "bt").getD (.dict []))
  setup.grafana cluster.envs
  .ok
    { cluster := cluster
      bt := bt
      benchmarkName := benchmarkName
      workloadName := workloadName
      artifactDir := artifactDir
      extraImplParams := extras
      tag := tag
      workloadConf := workloadConf
      allBackends := allBackends
      backend := backend }

/-- The constructor goes on with the configuration. -/
theorem workloadRunning_conf (benchmarkName workloadName artifactDir : String)
    (extras : Dict String Value) (tag : Option String) :
    workloadRunning setup benchmarkName workloadName artifactDir extras tag
      = (setup.loadCluster >>= fun cluster =>
          initWorkloadConf setup.objects setup.workloadYaml benchmarkName workloadName extras
            >>= constructWith setup benchmarkName workloadName artifactDir extras tag cluster) := by
  unfold workloadRunning initWorkloadConf
  refine congrArg (setup.loadCluster >>= ·) (funext fun cluster => ?_)
  cases loadWorkload setup.objects setup.workloadYaml benchmarkName workloadName <;> rfl

end Constructor

section Lost

theorem get?_one {ν : Type} (k j : String) (v : ν) :
    (Dict.ofList [(k, v)]).get? j = if j = k then some v else none :=
  Dict.get?_set Dict.empty k j v

theorem filled_one (ks : List String) (v : Value) (k j : String) (t : Nested String Value)
    (h : (Dict.ofList [(k, Nested.single ks v)]).get? j = some t) : t.Filled := by
  rw [get?_one] at h
  by_cases hj : j = k
  · rw [if_pos hj] at h
    rw [← Option.some.inj h]
    exact Nested.filled_single ks v
  · rw [if_neg hj] at h
    cases h

/-- A single parameter. -/
def WorkloadOverrides.one (k : String) (ks : List String) (v : Value) : WorkloadOverrides :=
  ⟨Dict.ofList [(k, Nested.single ks v)], filled_one ks v k⟩

/-- `--workload.k..=v`, as it is parsed. -/
theorem one_parsed (p : ParameterPath) (k : String) (ks : List String) (v : String)
    (hp : p.names = "workload" :: k :: ks) (hplain : ∀ name ∈ p.names, '-' ∉ name.toList)
    (hv : '=' ∉ v.toList) :
    (parseUnknown asText [p.argument v]).map extraImplParams
      = .ok (Dict.ofList [("workload", (WorkloadOverrides.one k ks (.str v)).given)]) := by
  have hnames : p.names.map (without '-') = p.names :=
    (List.map_congr_left (fun name hname => without_of_notMem '-' name (hplain name hname))).trans
      (List.map_id _)
  rw [hp] at hnames
  have hfirst : p.first = "workload" := (List.cons.inj hp).1
  have hrest : p.rest = k :: ks := (List.cons.inj hp).2
  rw [parse_argument p v hv, hfirst, hrest]
  rw [List.map_cons, List.cons.injEq] at hnames
  rw [hnames.1, hnames.2, Nested.put_eq]
  rfl

/-- A workload file with a mapping in its workload. -/
def optionsObjects : Objects
  | 0 => Dict.ofList [("sysbench", .ref 1)]
  | 1 => Dict.ofList [("defaults", .ref 2), ("workloads", .ref 3)]
  | 2 => Dict.ofList [("klass", .scalar (.str "benchmark.Sysbench"))]
  | 3 => Dict.ofList [("sysbench_2K", .ref 4)]
  | 4 => Dict.ofList [("options", .ref 5)]
  | 5 => Dict.ofList [("level", .scalar (.int 1)), ("mode", .scalar (.str "fast"))]
  | _ => Dict.empty

def optionsYaml : YamlConfig :=
  ⟨0, none, 10, "workload.yaml"⟩

def optionsSection : WorkloadSection optionsObjects optionsYaml "sysbench" where
  defaults := optionsObjects 2
  workloads := optionsObjects 3
  readsDefaults := ⟨.ref 2, rfl, rfl⟩
  readsWorkloads := ⟨.ref 3, rfl, rfl⟩

/-- The path of a level in the options, and in the hints. -/
def optionsLevel : ParameterPath :=
  ⟨"workload", ["options", "level"], by decide⟩

def hintsLevel : ParameterPath :=
  ⟨"workload", ["hints", "level"], by decide⟩

/-- The configuration of a workload of the file with one parameter. -/
def optionsConf (workloadName : String) (o : WorkloadOverrides) :
    Except Exn (Dict String (Passed String)) :=
  initWorkloadConf optionsObjects optionsYaml "sysbench" workloadName
    (Dict.ofList [("workload", o.given)])

/-- `--workload.hints.level=2` for a workload without hints, and a name that is
    none of a workload. -/
theorem hints_effective :
    Effective optionsObjects optionsYaml optionsSection "sysbench_2K"
        (.one "hints" ["level"] (.str "2"))
        (optionsConf "sysbench_2K" (.one "hints" ["level"] (.str "2")))
      ∧ Effective optionsObjects optionsYaml optionsSection "sysbench_3K"
        (.one "hints" ["level"] (.str "2"))
        (optionsConf "sysbench_3K" (.one "hints" ["level"] (.str "2"))) := by
  refine ⟨(effective_iff optionsObjects optionsYaml (.one "hints" ["level"] (.str "2")) _
      optionsSection "sysbench_2K" rfl).mpr ⟨fun c own hc hown => ?_, fun hnone => ?_⟩,
    (effective_iff optionsObjects optionsYaml (.one "hints" ["level"] (.str "2")) _
      optionsSection "sysbench_3K" rfl).mpr ⟨fun c own hc hown => ?_, fun hnone => ?_⟩⟩
  · have hsome : c = .ref 4 := (Option.some.inj hc).symm
    rw [hsome] at hown
    rw [← Option.some.inj hown]
    refine ⟨rfl, rfl, rfl, fun k hk q => rfl, fun k t q hk happart => ?_⟩
    by_cases hk' : k = "hints"
    · rw [hk']
      rfl
    · rw [WorkloadOverrides.one, get?_one, if_neg hk'] at hk
      cases hk
  · cases hnone
  · cases hc
  · exact .inr ⟨rfl, .inr ⟨rfl, trivial⟩⟩

/-- `--workload.options.level=2` loses the mode of the options, and the name of
    a default is looked up like that of a workload. -/
theorem options_lost :
    optionsLevel.argument "2" = "--workload.options.level=2"
      ∧ (parseUnknown asText ["--workload.options.level=2"]).map extraImplParams
        = .ok (Dict.ofList
            [("workload", (WorkloadOverrides.one "options" ["level"] (.str "2")).given)])
      ∧ ¬ Effective optionsObjects optionsYaml optionsSection "sysbench_2K"
        (.one "options" ["level"] (.str "2"))
        (optionsConf "sysbench_2K" (.one "options" ["level"] (.str "2")))
      ∧ optionsConf "klass" (.one "options" ["level"] (.str "2")) = .error noUnion
      ∧ ¬ Effective optionsObjects optionsYaml optionsSection "klass"
        (.one "options" ["level"] (.str "2"))
        (optionsConf "klass" (.one "options" ["level"] (.str "2"))) := by
  refine ⟨rfl, ?_, fun h => ?_, rfl, fun h => ?_⟩
  · have hparsed := one_parsed optionsLevel "options" ["level"] "2" rfl (by decide) (by decide)
    have harg : optionsLevel.argument "2" = "--workload.options.level=2" := rfl
    rw [← harg]
    exact hparsed
  · rcases h.computed (.ref 4) (optionsObjects 4) rfl rfl with ⟨conf, hconf, hoverridden⟩
    -- the mode is apart from the level
    have happart : (WorkloadOverrides.one "options" ["level"] (.str "2")).Apart
        [.key "options", .key "mode"] := by
      rw [WorkloadOverrides.Apart, apartFrom_key]
      intro t ht
      rw [← Option.some.inj ht, Nested.single, apartFrom_key]
      intro t' ht'
      cases ht'
    have hmode := hoverridden.elsewhere _ happart
    rw [← Except.ok.inj hconf] at hmode
    cases hmode
  · rcases h.rejected rfl with ⟨e, he, hyaml⟩
    rw [← Except.error.inj he] at hyaml
    cases hyaml

end Lost

end Xbench
