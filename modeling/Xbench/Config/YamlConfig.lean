import Xbench.Config.Value
import Xbench.Lib.Effect
import Xbench.Lib.Objects

/-!
# YAML Files

A loaded file as a store of mapping objects, in which an anchor and its
aliases are one object, and the lookup that merges defaults into it.

A merge is shallow: the dictionary that comes out is new, and what is nested in
it is shared with the file. `get_key` merges into a copy when there are
defaults, and gives the object of the file itself when there are none.

`extender` is the merge that command line parameters go through. It descends
into nested mappings and sets the entry it arrives at, in the object that holds
it.

## Main definitions

* `Scalar`: A scalar of a file.
* `Object`: A mapping.
* `cellOf`: A value of the command line as a cell.
* `Loaded`: A cell of a loaded file.
* `Document`: A loaded file.
* `mappingOf`: The mapping that a cell is or refers to.
* `YamlConfig`: A file with its defaults.
* `YamlConfig.lookup`: The entry under a root and a leaf.
* `YamlConfig.getKey`: The same with the defaults.
* `YamlConfig.taken`: The same from the entry.
* `isEmpty`: The check of the first simple entry.
* `extender`: Merging parameters into a mapping of the file.
* `extend`: Merging parameters into a new mapping.
-/

namespace Xbench

/-- A scalar of a file. -/
inductive Scalar where
  | none
  | bool (b : Bool)
  | int (n : Int)
  | str (s : String)
deriving DecidableEq

/-- What an entry holds; the mappings of a file are numbered. -/
abbrev Entry := Cell Nat Scalar

/-- A mapping. -/
abbrev Object := Dict String Entry

/-- The mappings of a file. -/
abbrev Objects := Store Nat Scalar

mutual

/-- A value of the command line as a cell. Its mappings belong to it alone. -/
def cellOf : Value → Entry
  | .none => .scalar .none
  | .bool b => .scalar (.bool b)
  | .int n => .scalar (.int n)
  | .str s => .scalar (.str s)
  | .list items => .list (itemsOf items)
  | .dict entries => .own (entriesOf entries)

def itemsOf : List Value → List Entry
  | [] => []
  | v :: vs => cellOf v :: itemsOf vs

def entriesOf : List (String × Value) → List (String × Entry)
  | [] => []
  | (k, v) :: es => (k, cellOf v) :: entriesOf es

end

/-- A cell of a loaded file: every mapping is an object of the file. -/
inductive Loaded : Entry → Prop where
  | scalar (a : Scalar) : Loaded (.scalar a)
  | list (items : List Entry) (h : ∀ c ∈ items, Loaded c) : Loaded (.list items)
  | ref (n : Nat) : Loaded (.ref n)

attribute [simp] Loaded.scalar Loaded.ref

/-- A loaded file: its mappings, and which of them is the whole. -/
structure Document where
  objects : Objects
  root : Nat
  loaded : ∀ n k c, (objects n).get? k = some c → Loaded c

/-- A file with these mappings, of which the first is the whole. -/
def Document.ofObjects (objects : Objects)
    (h : ∀ n, ∀ e ∈ (objects n).entries, Loaded e.2) : Document :=
  ⟨objects, 0, fun n k c hget => h n (k, c) (Dict.mem_of_lookup _ k c hget)⟩

/-- The mapping that a cell is or refers to. -/
def mappingOf (s : Objects) : Entry → Option Object
  | .ref r => some (s r)
  | .own entries => some (Dict.ofList entries)
  | _ => none

/-- Python's truth test. -/
def truthy (s : Objects) : Entry → Bool
  | .scalar .none => false
  | .scalar (.bool b) => b
  | .scalar (.int n) => n != 0
  | .scalar (.str t) => t != ""
  | .list items => !items.isEmpty
  | .own entries => !entries.isEmpty
  | .ref r => !(s r).entries.isEmpty

section Empty

/-- `is_empty_simple_key`. -/
def isEmptySimpleKey : Entry → Bool
  | .scalar .none => true
  | .scalar (.str t) => t == ""
  | _ => false

/-- The first of some entries for which there is something. -/
def firstOf (f : Entry → Except Exn (Option Entry)) :
    List (String × Entry) → Except Exn (Option Entry)
  | [] => .ok none
  | e :: rest =>
      match f e.2 with
      | .error x => .error x
      | .ok (some c) => .ok (some c)
      | .ok none => firstOf f rest

def tooDeep : Exn :=
  ⟨.recursionError, "maximum recursion depth exceeded"⟩

/-- The first of `recursive_items`; `depth` is Python's bound on a recursion. -/
def firstItem (s : Objects) : Nat → List (String × Entry) → Except Exn (Option Entry)
  | 0, _ => .error tooDeep
  | depth + 1, entries =>
      firstOf
        (fun c =>
          match mappingOf s c with
          | some m => firstItem s depth m.entries
          | none => .ok (some c))
        entries

end Empty

/-- What a lookup gives: a new dictionary, or what is in the file. -/
inductive Found where
  | copy (m : Object)
  | same (c : Entry)

/-- What was found, as a dictionary. -/
def Found.read (s : Objects) : Found → Option Object
  | .copy m => some m
  | .same c => mappingOf s c

/-- `is_empty`: only the first simple entry is looked at. -/
def isEmpty (s : Objects) (depth : Nat) (found : Found) : Except Exn Bool :=
  match found.read s with
  | some m => (firstItem s depth m.entries).map (fun first => first.any isEmptySimpleKey)
  | none =>
      match found with
      | .same c => .ok (isEmptySimpleKey c)
      | .copy _ => .ok false

/-- A file with its defaults, which are taken from it once. -/
structure YamlConfig where
  root : Nat
  defaults : Option Entry
  depth : Nat
  yamlConfigFile : String

/-- `YamlConfig(yaml_config_file)`. -/
def Document.config (doc : Document) (depth : Nat) (yamlConfigFile : String) : YamlConfig :=
  ⟨doc.root, (doc.objects doc.root).get? "defaults", depth, yamlConfigFile⟩

namespace YamlConfig

variable (y : YamlConfig)

/-- A key that is given and not empty. -/
def given (key : Option String) : Option String :=
  key.filter (fun k => k != "")

/-- `config[root].get(leaf, None)`, with either left out. -/
def lookup (s : Objects) (root leaf : Option String) : Except Exn (Option Entry) :=
  match given root, given leaf with
  | some r, some l =>
      match (s y.root).get? r with
      | none => .error ⟨.keyError, r⟩
      | some c =>
          match mappingOf s c with
          | none => .error ⟨.attributeError, "object has no attribute 'get'"⟩
          | some m => .ok (m.get? l)
  | some r, none => .ok ((s y.root).get? r)
  | none, some l => .ok ((s y.root).get? l)
  | none, none => .ok (some (.ref y.root))

def notDefined (root leaf : Option String) : Exn :=
  ⟨.yamlConfig, "One of the [" ++ leaf.getD "None" ++ "] or [" ++ root.getD "None"
    ++ "] are not defined in config file " ++ y.yamlConfigFile ++ " "⟩

def endsUpEmpty (root leaf : Option String) : Exn :=
  ⟨.yamlConfig, "[" ++ leaf.getD "None" ++ "] or [" ++ root.getD "None"
    ++ "] end up with empty values"⟩

/-- The defaults, when there are any and they are to be used. -/
def usedDefaults (s : Objects) (useDefaults : Bool) : Option Entry :=
  if useDefaults then y.defaults.filter (truthy s) else none

/-- Defaults that are no dictionary fail, in one way or the other. -/
def noMerge (m : Object) : Exn :=
  if m.values.any Cell.isMapping then ⟨.typeError, "unsupported operand type(s) for |"⟩
  else ⟨.attributeError, "object has no attribute 'update'"⟩

/-- A mapping goes over a copy of the defaults. What it has nested picks one of
    two ways to write the same merge. -/
def withDefaults (s : Objects) (useDefaults : Bool) (c : Entry) : Except Exn Found :=
  match y.usedDefaults s useDefaults, mappingOf s c with
  | some d, some m =>
      match mappingOf s d with
      | some dm => .ok (.copy (dm.union m))
      | none => .error (noMerge m)
  | _, _ => .ok (.same c)

/-- `get_key`. -/
def getKey (s : Objects) (root leaf : Option String) (useDefaults : Bool) : Except Exn Found := do
  match ← y.lookup s root leaf with
  | none => .error (y.notDefined root leaf)
  | some (.scalar .none) => .error (y.notDefined root leaf)
  | some c => do
      let found ← y.withDefaults s useDefaults c
      if ← isEmpty s y.depth found then .error (endsUpEmpty root leaf)
      else .ok found

/-- `get_key` from the entry it finds. -/
def taken (s : Objects) (root leaf : Option String) (useDefaults : Bool) :
    Option Entry → Except Exn Found
  | none => .error (y.notDefined root leaf)
  | some (.scalar .none) => .error (y.notDefined root leaf)
  | some c => do
      let found ← y.withDefaults s useDefaults c
      if ← isEmpty s y.depth found then .error (endsUpEmpty root leaf)
      else .ok found

theorem getKey_eq (s : Objects) (root leaf : Option String) (useDefaults : Bool) :
    y.getKey s root leaf useDefaults
      = y.lookup s root leaf >>= y.taken s root leaf useDefaults := by
  unfold getKey
  refine congrArg (y.lookup s root leaf >>= ·) (funext fun c => ?_)
  cases c with
  | none => rfl
  | some c =>
      cases c with
      | scalar a => cases a <;> rfl
      | _ => rfl

end YamlConfig

section Reading

variable (s : Objects)

/-- The entry of the defaults, when these are a mapping. -/
def YamlConfig.defaultFor (y : YamlConfig) (key : String) : Option Entry :=
  (y.defaults.bind (mappingOf s)).bind (fun d => d.get? key)

theorem get?_of_falsy (d : Entry) (m : Object) (hm : mappingOf s d = some m)
    (h : truthy s d = false) (key : String) : m.get? key = none := by
  cases d with
  | ref r =>
      rw [mappingOf, Option.some.injEq] at hm
      rw [truthy, Bool.not_eq_false', List.isEmpty_iff] at h
      rw [← hm, Dict.get?, h]
      rfl
  | own entries =>
      rw [mappingOf, Option.some.injEq] at hm
      rw [truthy, Bool.not_eq_false', List.isEmpty_iff] at h
      rw [← hm, h]
      rfl
  | scalar a => cases hm
  | list items => cases hm

/-- What `get_key` gives for a mapping: its entries over the defaults. -/
theorem withDefaults_read (y : YamlConfig) (c : Entry) (found : Found) (m : Object)
    (h : y.withDefaults s true c = .ok found) (hread : found.read s = some m) :
    ∃ own, mappingOf s c = some own
      ∧ ∀ key, m.get? key = (own.get? key).or (y.defaultFor s key) := by
  unfold YamlConfig.withDefaults at h
  have hused : y.usedDefaults s true = y.defaults.filter (truthy s) := rfl
  rw [hused] at h
  cases hc : mappingOf s c with
  | none =>
      rw [hc] at h
      have hsame : Found.same c = found := by
        cases hd : y.defaults.filter (truthy s) <;> rw [hd] at h <;> exact Except.ok.inj h
      rw [← hsame, Found.read, hc] at hread
      exact nomatch hread
  | some own =>
      rw [hc] at h
      refine ⟨own, rfl, fun key => ?_⟩
      unfold YamlConfig.defaultFor
      cases hd : y.defaults with
      | none =>
          rw [hd] at h
          have hsame : Found.same c = found := Except.ok.inj h
          rw [← hsame, Found.read, hc, Option.some.injEq] at hread
          rw [hread]
          exact (Option.or_none).symm
      | some d =>
          rw [hd, Option.filter_some] at h
          cases htruthy : truthy s d with
          | false =>
              -- defaults that are empty have no entry
              rw [htruthy] at h
              have hsame : Found.same c = found := Except.ok.inj h
              rw [← hsame, Found.read, hc, Option.some.injEq] at hread
              rw [hread, Option.bind_some]
              cases hm : mappingOf s d with
              | none => exact (Option.or_none).symm
              | some dm =>
                  rw [Option.bind_some, get?_of_falsy s d dm hm htruthy key]
                  exact (Option.or_none).symm
          | true =>
              rw [htruthy] at h
              simp only [if_true] at h
              rw [Option.bind_some]
              cases hm : mappingOf s d with
              | none =>
                  rw [hm] at h
                  exact nomatch h
              | some dm =>
                  rw [hm] at h
                  have hcopy : Found.copy (dm.union own) = found := Except.ok.inj h
                  rw [← hcopy, Found.read, Option.some.injEq] at hread
                  rw [← hread, Dict.get?_union, Option.bind_some]

/-- `get_key` looks up an entry and puts it over the defaults. -/
theorem getKey_ok (y : YamlConfig) (root leaf : Option String) (found : Found)
    (h : y.getKey s root leaf true = .ok found) :
    ∃ c, y.lookup s root leaf = .ok (some c) ∧ y.withDefaults s true c = .ok found := by
  unfold YamlConfig.getKey at h
  rcases except_bind_eq_ok _ _ _ h with ⟨ret, hret, h⟩
  -- the test for emptiness changes nothing of what it lets through
  have hfrom : ∀ c, (do
      let found ← y.withDefaults s true c
      if ← isEmpty s y.depth found then .error (YamlConfig.endsUpEmpty root leaf)
      else .ok found) = .ok found → y.withDefaults s true c = .ok found := by
    intro c hc
    rcases except_bind_eq_ok _ _ _ hc with ⟨found', hfound', hc⟩
    rcases except_bind_eq_ok _ _ _ hc with ⟨empty, _, hc⟩
    cases empty with
    | true => exact nomatch hc
    | false =>
        have hsame : found' = found := Except.ok.inj hc
        rw [← hsame]
        exact hfound'
  cases ret with
  | none => exact nomatch h
  | some c =>
      refine ⟨c, hret, ?_⟩
      cases c with
      | scalar a =>
          cases a with
          | none => exact nomatch h
          | _ => exact hfrom _ h
      | _ => exact hfrom _ h

end Reading

section Extender

mutual

/-- `extender` on a mapping that nothing else refers to. -/
def extendOwn (base : List (String × Entry)) : List (String × Value) → List (String × Entry)
  | [] => base
  | (key, v) :: rest => extendOwn (extendOwnKey base key v) rest

def extendOwnKey (base : List (String × Entry)) (key : String) : Value → List (String × Entry)
  | .dict es =>
      match base.lookup key with
      | some (.own inner) => Dict.setEntries key (.own (extendOwn inner es)) base
      | _ => Dict.setEntries key (cellOf (.dict es)) base
  | v => Dict.setEntries key (cellOf v) base

end

mutual

/-- `extender` on a mapping of the file, which changes where it is. -/
def extender (s : Objects) (r : Nat) : List (String × Value) → Objects
  | [] => s
  | (key, v) :: rest => extender (extenderKey s r key v) r rest

def extenderKey (s : Objects) (r : Nat) (key : String) : Value → Objects
  | .dict es =>
      match (s r).get? key with
      | some (.ref inner) => extender s inner es
      | some (.own inner) => s.write r key (.own (extendOwn inner es))
      | _ => s.write r key (cellOf (.dict es))
  | v => s.write r key (cellOf v)

end

/-- One key of `extender` on a new dictionary. -/
def extendKey (s : Objects) (params : Object) (key : String) (v : Value) : Objects × Object :=
  match params.get? key, v with
  | some (.ref inner), .dict es => (extender s inner es, params)
  | some (.own inner), .dict es => (s, params.set key (.own (extendOwn inner es)))
  | _, _ => (s, params.set key (cellOf v))

/-- `extender` on a new dictionary, whose nested mappings are of the file. -/
def extend (s : Objects) (params : Object) : List (String × Value) → Objects × Object
  | [] => (s, params)
  | (key, v) :: rest =>
      let (s, params) := extendKey s params key v
      extend s params rest

end Extender

end Xbench
