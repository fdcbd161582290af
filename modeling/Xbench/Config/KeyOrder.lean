import Xbench.Config.YamlConfig
import Xbench.Lib.Reordering

/-!
# The Order of Keys

Looking up a key of a configuration, in one order of the keys of its mappings and
in another. A configuration is taken by value here: a mapping that is there twice
is two mappings, each with an order of its own, but for the defaults, which are
one with their entry.

What is found is rejected if the first leaf in it is empty, whatever the others
are. So the order of the keys decides, unless the leaves that may come first are
all empty or all not. The keys of the defaults come before the others, and keep
their places when the mapping has a value of its own for them.

The defaults may be merged into the whole configuration, in which they are found
again. Their keys are in one order in both places then, so that of their leaves
in the second place not all may come first.

## Main definitions

* `verdicts`: What the check would make of each leaf.
* `Configuration`: A configuration by value.
* `Query`: The arguments of `get_key`.
* `Agree`: Two outcomes are the same.
* `OrderFree`: The order of the keys does not matter.
* `InItself`: The leaves of the defaults, found in themselves.
* `Relevant`: The leaves that some order puts first.
* `Uniform`: They are all empty or all not.
* `Achieved`: An order puts a leaf first.

## Theorems

* `isEmpty_verdicts`: The check of a mapping is that of its first leaf.
* `exists_leading`: Each leaf is the first when its path is put in front.
* `head_relevant`: The first leaf is one that some order puts first.
* `relevant_same`: Which leaves these are does not depend on the order.
* `getKey_mapping`: The outcome for a mapping.
* `achieved_of_relevant`: There is such an order for each of them.
* `orderFree_iff`: When the order of the keys does not matter.
-/

namespace Xbench

namespace KeyOrder

/-- What the check of the first entry makes of each leaf, in order. -/
def verdicts : Nat → List (String × Entry) → List (Except Exn Bool)
  | 0, _ => [.error tooDeep]
  | depth + 1, entries =>
      entries.flatMap (fun e =>
        match e.2 with
        | .own inner => verdicts depth inner
        | c => [.ok (isEmptySimpleKey c)])

/-- The same for an entry. -/
def verdictsOf (depth : Nat) : Entry → List (Except Exn Bool)
  | .own inner => verdicts depth inner
  | c => [.ok (isEmptySimpleKey c)]

section Verdicts

variable (depth : Nat)

theorem verdicts_succ (entries : List (String × Entry)) :
    verdicts (depth + 1) entries = entries.flatMap (fun e => verdictsOf depth e.2) := by
  rw [verdicts]
  refine List.flatMap_congr (fun e _ => ?_)
  cases e.2 <;> rfl

theorem mem_verdicts_iff (entries : List (String × Entry)) (h : Tidy (.own entries : Entry))
    (v : Except Exn Bool) :
    v ∈ verdicts (depth + 1) entries
      ↔ ∃ k x, entries.lookup k = some x ∧ v ∈ verdictsOf depth x := by
  rw [verdicts_succ, List.mem_flatMap]
  constructor
  · rintro ⟨e, he, hv⟩
    exact ⟨e.1, e.2, Dict.lookup_of_mem entries (nodup_of_tidy entries h) e.1 e.2 he, hv⟩
  · rintro ⟨k, x, hk, hv⟩
    exact ⟨(k, x), Dict.mem_of_lookup entries k x hk, hv⟩

/-- The same mappings have the same verdicts, in some order. -/
theorem mem_verdictsOf_same (c c' : Entry) (hc : Tidy c) (hc' : Tidy c') (h : Same c c')
    (v : Except Exn Bool) (hv : v ∈ verdictsOf depth c) : v ∈ verdictsOf depth c' := by
  induction depth generalizing c c' with
  | zero =>
      cases hc with
      | own es keys under =>
          rcases same_own es c' hc' h with ⟨es', rfl⟩
          exact hv
      | scalar a =>
          rw [same_scalar a c' h]
          exact hv
      | list items under =>
          rcases same_list items c' h with ⟨items', rfl, _⟩
          exact hv
  | succ depth ih =>
      cases hc with
      | own es keys under =>
          rcases same_own es c' hc' h with ⟨es', rfl⟩
          -- the verdict is of some key, which the other mapping has too
          rw [verdictsOf, mem_verdicts_iff depth es (.own es keys under)] at hv
          rcases hv with ⟨k, x, hk, hv⟩
          have hrel := lookups_of_same es es' h k
          rw [hk] at hrel
          rcases rel_some _ x _ hrel with ⟨x', hk', hsame⟩
          rw [verdictsOf, mem_verdicts_iff depth es' hc']
          exact ⟨k, x', hk', ih x x' (under (k, x) (Dict.mem_of_lookup es k x hk))
            (tidy_of_lookup es' hc' k x' hk') hsame hv⟩
      | scalar a =>
          rw [same_scalar a c' h]
          exact hv
      | list items under =>
          rcases same_list items c' h with ⟨items', rfl, _⟩
          exact hv

theorem verdictsOf_same_nil (c c' : Entry) (hc : Tidy c) (hc' : Tidy c') (h : Same c c')
    (hnil : verdictsOf depth c = []) : verdictsOf depth c' = [] := by
  rw [List.eq_nil_iff_forall_not_mem] at hnil ⊢
  exact fun v hv => hnil v (mem_verdictsOf_same depth c' c hc' hc (same_symm c c' h) v hv)

/-- Each verdict is the first one, when the path to its leaf is put in front. -/
theorem exists_leading (c : Entry) (v : Except Exn Bool) (hv : v ∈ verdictsOf depth c)
    (hc : Tidy c) : ∃ p, (verdictsOf depth (leading p c)).head? = some v := by
  -- with one verdict alone there is nothing to bring to the front
  have hhere : ∀ (depth : Nat) (c : Entry), verdictsOf depth c = [v] →
      ∃ p, (verdictsOf depth (leading p c)).head? = some v := by
    intro depth c h
    refine ⟨[], ?_⟩
    rw [leading_nil, h]
    rfl
  induction depth generalizing c with
  | zero =>
      apply hhere
      cases hc with
      | own es keys under => rw [List.mem_singleton.mp hv]; rfl
      | scalar a => rw [List.mem_singleton.mp hv]; rfl
      | list items under => rw [List.mem_singleton.mp hv]; rfl
  | succ depth ih =>
      cases hc with
      | own es keys under =>
          -- the key of the verdict goes to the front, over what is done under it
          rw [verdictsOf, mem_verdicts_iff depth es (.own es keys under)] at hv
          rcases hv with ⟨k, x, hk, hv⟩
          rcases ih x hv (under (k, x) (Dict.mem_of_lookup es k x hk)) with ⟨p, hp⟩
          refine ⟨k :: p, ?_⟩
          rw [lookup_leading k p es x hk, verdictsOf, putFirst, verdicts_succ, List.flatMap_cons,
            List.head?_append, hp, Option.some_or]
      | scalar a =>
          apply hhere
          rw [List.mem_singleton.mp hv]
          rfl
      | list items under =>
          apply hhere
          rw [List.mem_singleton.mp hv]
          rfl

/-- What the first item is, by the verdicts. -/
def Tells (vs : List (Except Exn Bool)) : Except Exn (Option Entry) → Prop
  | .error e => vs.head? = some (.error e)
  | .ok (some c) => vs.head? = some (.ok (isEmptySimpleKey c))
  | .ok none => vs = []

theorem firstOf_tells (f : Entry → Except Exn (Option Entry)) (entries : List (String × Entry))
    (h : ∀ e ∈ entries, Tells (verdictsOf depth e.2) (f e.2)) :
    Tells (verdicts (depth + 1) entries) (firstOf f entries) := by
  rw [verdicts_succ]
  induction entries with
  | nil => rfl
  | cons e entries ih =>
      have hfirst := h e List.mem_cons_self
      have hrest := ih (fun e' he' => h e' (List.mem_cons_of_mem e he'))
      rw [List.flatMap_cons, firstOf]
      cases hf : f e.2 with
      | error x =>
          rw [hf, Tells] at hfirst
          rw [Tells, List.head?_append, hfirst, Option.some_or]
      | ok first =>
          cases first with
          | some c =>
              rw [hf, Tells] at hfirst
              rw [Tells, List.head?_append, hfirst, Option.some_or]
          | none =>
              rw [hf, Tells] at hfirst
              rw [hfirst, List.nil_append]
              exact hrest

theorem firstItem_tells (s : Objects) (entries : List (String × Entry))
    (h : Tidy (.own entries : Entry)) :
    Tells (verdicts depth entries) (firstItem s depth entries) := by
  induction depth generalizing entries with
  | zero => rfl
  | succ depth ih =>
      rw [firstItem]
      refine firstOf_tells depth _ entries (fun e he => ?_)
      have htidy := tidy_of_mem entries h e he
      cases hx : e.2 with
      | own inner =>
          rw [hx] at htidy
          have hentries : (Dict.ofList inner).entries = inner :=
            congrArg Dict.entries (Dict.ofList_entries ⟨inner, nodup_of_tidy inner htidy⟩)
          rw [verdictsOf, mappingOf]
          dsimp only
          rw [hentries]
          exact ih inner htidy
      | scalar a => rfl
      | list items => rfl
      | ref r =>
          rw [hx] at htidy
          cases htidy

/-- The check of a mapping is the first verdict. -/
theorem isEmpty_verdicts (s : Objects) (found : Found) (m : Object)
    (hread : found.read s = some m) (h : Tidy (.own m.entries : Entry)) :
    isEmpty s depth found = ((verdicts depth m.entries).head?).getD (.ok false) := by
  have htells := firstItem_tells depth s m.entries h
  unfold isEmpty
  rw [hread]
  dsimp only
  cases hfirst : firstItem s depth m.entries with
  | error e =>
      rw [hfirst, Tells] at htells
      rw [htells]
      rfl
  | ok first =>
      cases first with
      | some c =>
          rw [hfirst, Tells] at htells
          rw [htells]
          rfl
      | none =>
          rw [hfirst, Tells] at htells
          rw [htells]
          rfl

end Verdicts

/-- A configuration, with its mappings kept by value. -/
structure Configuration where
  entries : List (String × Entry)
  tidy : Tidy (.own entries : Entry)

namespace Configuration

variable (c : Configuration)

def cell : Entry :=
  .own c.entries

def object : Object :=
  ⟨c.entries, nodup_of_tidy c.entries c.tidy⟩

/-- The whole configuration is the one object that is referred to. -/
def objects : Objects :=
  fun _ => c.object

end Configuration

/-- The arguments of `get_key`, with the name of the file, and Python's bound on a
    recursion. -/
structure Query where
  root : Option String
  leaf : Option String
  useDefaults : Bool
  yamlConfigFile : String
  depth : Nat

/-- The keys that are asked for. -/
def Query.names (q : Query) : List String :=
  (YamlConfig.given q.root).toList ++ (YamlConfig.given q.leaf).toList

namespace Configuration

variable (c : Configuration) (q : Query)

def yaml : YamlConfig :=
  ⟨0, c.object.get? "defaults", q.depth, q.yamlConfigFile⟩

def getKey : Except Exn Found :=
  (c.yaml q).getKey c.objects q.root q.leaf q.useDefaults

/-- What is found, by value. -/
def foundCell : Found → Entry
  | .copy m => .own m.entries
  | .same (.ref _) => c.cell
  | .same x => x

/-- The defaults that are used; none for defaults that are no mapping. -/
def defaultsOf : Option Object :=
  if q.useDefaults then
    match c.object.get? "defaults" with
    | some x => if truthy c.objects x then mappingOf c.objects x else some Dict.empty
    | none => some Dict.empty
  else some Dict.empty

end Configuration

/-- The exception is one of the configuration. -/
def Rejected (result : Except Exn Found) : Prop :=
  ∃ e : Exn, result = .error e ∧ e.isA .yamlConfig = true

/-- Both give the same, or both are rejected. -/
def Agree (c₁ c₂ : Configuration) (r₁ r₂ : Except Exn Found) : Prop :=
  (∃ f₁ f₂, r₁ = .ok f₁ ∧ r₂ = .ok f₂ ∧ Same (c₁.foundCell f₁) (c₂.foundCell f₂))
    ∨ (Rejected r₁ ∧ Rejected r₂)

/-- It does not matter in which order the keys are. -/
def OrderFree (c : Configuration) (q : Query) : Prop :=
  ∀ c₁ c₂ : Configuration, Same c.cell c₁.cell → Same c.cell c₂.cell →
    Agree c₁ c₂ (c₁.getKey q) (c₂.getKey q)

/-- The verdicts under a key. -/
def under (depth : Nat) (m : Object) (k : String) : List (Except Exn Bool) :=
  match m.get? k with
  | some x => verdictsOf depth x
  | none => []

/-- A verdict under the key `defaults`, where the defaults `d` are found in
    themselves: the keys are in one order in both places. -/
def InItself (d u : Object) : Nat → Except Exn Bool → Prop
  | 0, v => v = .error tooDeep
  | depth + 1, v =>
      ∃ k, v ∈ under depth d k
        ∧ (k = "defaults" ∨ under depth d "defaults" = [] ∨ under (depth + 1) u k = [])

/-- A verdict under a key of the defaults, of which `u` is the merge. -/
def Early (whole : Prop) (depth : Nat) (d u : Object) (v : Except Exn Bool) : Prop :=
  ∃ k ∈ d.keys,
    (¬ (whole ∧ k = "defaults") ∧ v ∈ under depth u k)
      ∨ ((whole ∧ k = "defaults") ∧ InItself d u depth v)

/-- A verdict that some order puts first. The keys of the defaults come before
    the others. -/
def Relevant (whole : Prop) (depth : Nat) (d u : Object) (v : Except Exn Bool) : Prop :=
  Early whole depth d u v ∨ ((∀ v', ¬ Early whole depth d u v') ∧ ∃ k, v ∈ under depth u k)

/-- The lookup does not fail on its way; what it finds, if it is a mapping, can be
    merged with the defaults; and the leaves that some order puts first are all
    empty or all not, and not too deep. -/
structure Uniform (c : Configuration) (q : Query) : Prop where
  reaches : ∀ a b, q.names = [a, b] → ∃ es, c.entries.lookup a = some (.own es)
  mapping : ∀ es, reach q.names c.cell = some (.own es) →
    ∃ d, c.defaultsOf q = some d ∧ ∃ n, q.depth = n + 1
      ∧ ∃ b, ∀ v, Relevant (q.names = []) n d (d.setAll es) v → v = .ok b

section Under

variable (depth : Nat)

theorem under_eq (m : Object) (k : String) (x : Entry) (h : m.get? k = some x) :
    under depth m k = verdictsOf depth x := by
  rw [under, h]

/-- The verdicts of a mapping, key by key. -/
theorem verdicts_keys (m : Object) :
    verdicts (depth + 1) m.entries = m.keys.flatMap (under depth m) := by
  rw [verdicts_succ, Dict.keys, List.flatMap_map]
  refine List.flatMap_congr (fun e he => ?_)
  exact (under_eq depth m e.1 e.2 ((Dict.mem_entries_iff m e.1 e.2).mp he)).symm

theorem keys_of_under (m : Object) (k : String) (v : Except Exn Bool) (h : v ∈ under depth m k) :
    ∃ x, m.get? k = some x ∧ v ∈ verdictsOf depth x := by
  unfold under at h
  cases hx : m.get? k with
  | none =>
      rw [hx] at h
      cases h
  | some x =>
      rw [hx] at h
      exact ⟨x, rfl, h⟩

/-- The same mappings have the same verdicts under a key. -/
theorem mem_under_same (m m' : Object) (hm : Tidy (.own m.entries : Entry))
    (hm' : Tidy (.own m'.entries : Entry))
    (h : Same (.own m.entries : Entry) (.own m'.entries)) (k : String) (v : Except Exn Bool)
    (hv : v ∈ under depth m k) : v ∈ under depth m' k := by
  rcases keys_of_under depth m k v hv with ⟨x, hx, hv⟩
  have hrel := lookups_of_same m.entries m'.entries h k
  rw [Dict.get?] at hx
  rw [hx] at hrel
  rcases rel_some _ x _ hrel with ⟨x', hx', hsame⟩
  rw [under_eq depth m' k x' hx']
  exact mem_verdictsOf_same depth x x' (tidy_of_lookup m.entries hm k x hx)
    (tidy_of_lookup m'.entries hm' k x' hx') hsame v hv

theorem under_same_nil (m m' : Object) (hm : Tidy (.own m.entries : Entry))
    (hm' : Tidy (.own m'.entries : Entry))
    (h : Same (.own m.entries : Entry) (.own m'.entries)) (k : String)
    (hnil : under depth m k = []) : under depth m' k = [] := by
  rw [List.eq_nil_iff_forall_not_mem] at hnil ⊢
  exact fun v hv => hnil v (mem_under_same depth m' m hm' hm (same_symm _ _ h) k v hv)

theorem mem_keys_same (m m' : Object) (h : Same (.own m.entries : Entry) (.own m'.entries))
    (k : String) (hk : k ∈ m.keys) : k ∈ m'.keys := by
  have hrel := lookups_of_same m.entries m'.entries h k
  rw [Dict.mem_keys_iff, Option.isSome_iff_exists] at hk ⊢
  rcases hk with ⟨x, hx⟩
  rw [Dict.get?] at hx
  rw [hx] at hrel
  rcases rel_some _ x _ hrel with ⟨x', hx', _⟩
  exact ⟨x', hx'⟩

end Under

section Merge

theorem tidy_union (d m : Object) (hd : Tidy (.own d.entries : Entry))
    (hm : Tidy (.own m.entries : Entry)) : Tidy (.own (d.union m).entries : Entry) := by
  refine .own _ (d.union m).nodup (fun e he => ?_)
  have hget := (Dict.mem_entries_iff (d.union m) e.1 e.2).mp he
  rw [Dict.get?_union] at hget
  cases hx : m.get? e.1 with
  | some x =>
      rw [hx, Option.some_or] at hget
      rw [← Option.some.inj hget]
      exact tidy_of_lookup m.entries hm e.1 x hx
  | none =>
      rw [hx, Option.none_or] at hget
      exact tidy_of_lookup d.entries hd e.1 e.2 hget

theorem same_union (d d' m m' : Object)
    (hd : Same (.own d.entries : Entry) (.own d'.entries))
    (hm : Same (.own m.entries : Entry) (.own m'.entries)) :
    Same (.own (d.union m).entries : Entry) (.own (d'.union m').entries) := by
  refine same_of_lookups _ _ (fun k => ?_)
  have hleft : (d.union m).entries.lookup k = (m.entries.lookup k).or (d.entries.lookup k) :=
    Dict.get?_union d m k
  have hright : (d'.union m').entries.lookup k = (m'.entries.lookup k).or (d'.entries.lookup k) :=
    Dict.get?_union d' m' k
  have hrel := lookups_of_same m.entries m'.entries hm k
  rw [hleft, hright]
  cases hx : m.entries.lookup k with
  | some x =>
      rw [hx] at hrel
      rcases rel_some _ x _ hrel with ⟨x', hx', hsame⟩
      rw [hx', Option.some_or, Option.some_or]
      exact .some hsame
  | none =>
      rw [hx] at hrel
      rw [rel_none _ _ hrel, Option.none_or, Option.none_or]
      exact lookups_of_same d.entries d'.entries hd k

variable (whole : Prop) (n : Nat) (d m : Object)

/-- The defaults that are found in themselves. -/
theorem under_itself (u : Object) (hself : u.get? "defaults" = some (.own d.entries)) :
    under n u "defaults" = verdicts n d.entries :=
  under_eq n u "defaults" _ hself

/-- With no verdict that comes early, there is none under the keys of the defaults. -/
theorem under_nil_of_not_early (u : Object)
    (hself : whole → "defaults" ∈ d.keys → u.get? "defaults" = some (.own d.entries))
    (h : ∀ v, ¬ Early whole n d u v) (k : String) (hk : k ∈ d.keys) : under n u k = [] := by
  rw [List.eq_nil_iff_forall_not_mem]
  intro v hv
  by_cases hcorner : whole ∧ k = "defaults"
  · rw [hcorner.2] at hk hv
    rw [under_itself n d u (hself hcorner.1 hk)] at hv
    have hin : ∀ w, ¬ InItself d u n w := fun w hw =>
      h w ⟨"defaults", hk, Or.inr ⟨⟨hcorner.1, rfl⟩, hw⟩⟩
    cases n with
    | zero => exact hin _ rfl
    | succ n =>
        rw [verdicts_keys, List.mem_flatMap] at hv
        rcases hv with ⟨j, _, hj⟩
        -- one that is under the key itself would do, and without one this does
        cases hnil : under n d "defaults" with
        | nil => exact hin v ⟨j, hj, Or.inr (Or.inl hnil)⟩
        | cons w ws =>
            refine hin w ⟨"defaults", ?_, Or.inl rfl⟩
            rw [hnil]
            exact List.mem_cons_self
  · exact h v ⟨k, hk, Or.inl ⟨hcorner, hv⟩⟩

/-- The first verdict of a merge is one that some order puts first. -/
theorem head_relevant (v : Except Exn Bool)
    (hself : whole → "defaults" ∈ d.keys → (d.union m).get? "defaults" = some (.own d.entries))
    (h : (verdicts (n + 1) (d.union m).entries).head? = some v) :
    Relevant whole n d (d.union m) v := by
  rw [verdicts_keys, Dict.keys_union, List.flatMap_append, List.head?_append] at h
  -- the keys of the defaults come first, unless there is no leaf under them
  cases hfirst : (d.keys.flatMap (under n (d.union m))).head? with
  | some w =>
      rw [hfirst, Option.some_or, Option.some.injEq] at h
      rw [h] at hfirst
      left
      rcases head?_flatMap_split _ _ v hfirst with ⟨front, k, back, hkeys, hfront, hk⟩
      have hmem : k ∈ d.keys := by
        rw [hkeys]
        exact List.mem_append_right front List.mem_cons_self
      -- the whole configuration is found again under its defaults
      by_cases hcorner : whole ∧ k = "defaults"
      · refine ⟨k, hmem, Or.inr ⟨hcorner, ?_⟩⟩
        rw [hcorner.2] at hkeys hk hmem
        rw [under_itself n d _ (hself hcorner.1 hmem)] at hk
        cases n with
        | zero => exact (Option.some.inj hk).symm
        | succ n =>
            rw [verdicts_keys] at hk
            rcases head?_flatMap_split _ _ v hk with ⟨front', j, back', hkeys', hfront', hj⟩
            refine ⟨j, List.mem_of_head? hj, ?_⟩
            -- the two splits are of the same list of keys
            rw [hkeys] at hkeys'
            rcases split_cases front front' back back' _ j hkeys' with heq | hin | hin
            · exact Or.inl heq.symm
            · exact Or.inr (Or.inr (hfront j hin))
            · exact Or.inr (Or.inl (hfront' _ hin))
      · exact ⟨k, hmem, Or.inl ⟨hcorner, List.mem_of_head? hk⟩⟩
  | none =>
      rw [hfirst, Option.none_or] at h
      rw [List.head?_eq_none_iff, List.flatMap_eq_nil_iff] at hfirst
      right
      refine ⟨fun w hw => ?_, ?_⟩
      · rcases hw with ⟨k, hk, ⟨_, hin⟩ | ⟨hcorner, hin⟩⟩
        · rw [hfirst k hk] at hin
          cases hin
        · rw [hcorner.2] at hk
          have hnil := hfirst _ hk
          rw [under_itself n d _ (hself hcorner.1 hk)] at hnil
          cases n with
          | zero => cases hnil
          | succ n =>
              rcases hin with ⟨j, hj, _⟩
              rcases keys_of_under n d j w hj with ⟨x, hx, _⟩
              have hjkey : j ∈ d.keys := by
                rw [Dict.mem_keys_iff, hx]
                rfl
              rw [verdicts_keys, List.flatMap_eq_nil_iff] at hnil
              rw [hnil j hjkey] at hj
              cases hj
      · rcases head?_flatMap_split _ _ v h with ⟨_, k, _, _, _, hk⟩
        exact ⟨k, List.mem_of_head? hk⟩

end Merge

section Invariant

variable (whole : Prop) (n : Nat) (d d' u u' : Object)

theorem inItself_same (hd : Tidy (.own d.entries : Entry)) (hd' : Tidy (.own d'.entries : Entry))
    (hu : Tidy (.own u.entries : Entry)) (hu' : Tidy (.own u'.entries : Entry))
    (hsame : Same (.own d.entries : Entry) (.own d'.entries))
    (hsame' : Same (.own u.entries : Entry) (.own u'.entries)) (v : Except Exn Bool)
    (h : InItself d u n v) : InItself d' u' n v := by
  cases n with
  | zero => exact h
  | succ n =>
      rcases h with ⟨k, hk, hfirst⟩
      refine ⟨k, mem_under_same n d d' hd hd' hsame k v hk, ?_⟩
      rcases hfirst with heq | hnil | hnil
      · exact Or.inl heq
      · exact Or.inr (Or.inl (under_same_nil n d d' hd hd' hsame _ hnil))
      · exact Or.inr (Or.inr (under_same_nil (n + 1) u u' hu hu' hsame' _ hnil))

theorem early_same (hd : Tidy (.own d.entries : Entry)) (hd' : Tidy (.own d'.entries : Entry))
    (hu : Tidy (.own u.entries : Entry)) (hu' : Tidy (.own u'.entries : Entry))
    (hsame : Same (.own d.entries : Entry) (.own d'.entries))
    (hsame' : Same (.own u.entries : Entry) (.own u'.entries)) (v : Except Exn Bool)
    (h : Early whole n d u v) : Early whole n d' u' v := by
  rcases h with ⟨k, hk, ⟨hcorner, hv⟩ | ⟨hcorner, hv⟩⟩
  · exact ⟨k, mem_keys_same d d' hsame k hk,
      Or.inl ⟨hcorner, mem_under_same n u u' hu hu' hsame' k v hv⟩⟩
  · exact ⟨k, mem_keys_same d d' hsame k hk,
      Or.inr ⟨hcorner, inItself_same n d d' u u' hd hd' hu hu' hsame hsame' v hv⟩⟩

/-- What some order puts first does not depend on the order. -/
theorem relevant_same (hd : Tidy (.own d.entries : Entry)) (hd' : Tidy (.own d'.entries : Entry))
    (hu : Tidy (.own u.entries : Entry)) (hu' : Tidy (.own u'.entries : Entry))
    (hsame : Same (.own d.entries : Entry) (.own d'.entries))
    (hsame' : Same (.own u.entries : Entry) (.own u'.entries)) (v : Except Exn Bool)
    (h : Relevant whole n d u v) : Relevant whole n d' u' v := by
  rcases h with hearly | ⟨hno, k, hk⟩
  · exact Or.inl (early_same whole n d d' u u' hd hd' hu hu' hsame hsame' v hearly)
  · refine Or.inr ⟨fun w hw => hno w ?_, k, mem_under_same n u u' hu hu' hsame' k v hk⟩
    exact early_same whole n d' d u' u hd' hd hu' hu (same_symm _ _ hsame)
      (same_symm _ _ hsame') w hw

end Invariant

section Lookup

variable (c : Configuration) (q : Query)

/-- The entry, as the lookup gives it. -/
def asFound (x : Entry) : Entry :=
  if q.names = [] then .ref 0 else x

theorem mappingOf_own (s : Objects) (m : Object) : mappingOf s (.own m.entries) = some m := by
  rw [mappingOf, Dict.ofList_entries]

/-- A lookup that does not fail on its way gives what the keys lead to. -/
theorem lookup_reaches
    (h : ∀ a b, q.names = [a, b] → ∃ es, c.entries.lookup a = some (.own es)) :
    (c.yaml q).lookup c.objects q.root q.leaf = .ok ((reach q.names c.cell).map (asFound q)) := by
  unfold YamlConfig.lookup asFound
  unfold Query.names at h ⊢
  -- root and leaf may each be left out
  cases hroot : YamlConfig.given q.root with
  | none =>
      cases hleaf : YamlConfig.given q.leaf with
      | none => rfl
      | some l =>
          have hget : (c.objects 0).get? l = c.entries.lookup l := rfl
          have hreach : reach [l] c.cell = c.entries.lookup l := by
            rw [Configuration.cell, reach]
            cases c.entries.lookup l <;> rfl
          simp only [Option.toList_none, Option.toList_some, List.nil_append, List.cons_ne_nil,
            if_false, hreach, Option.map_id']
          rfl
  | some r =>
      have hget : (c.objects 0).get? r = c.entries.lookup r := rfl
      cases hleaf : YamlConfig.given q.leaf with
      | none =>
          have hreach : reach [r] c.cell = c.entries.lookup r := by
            rw [Configuration.cell, reach]
            cases c.entries.lookup r <;> rfl
          simp only [Option.toList_none, Option.toList_some, List.append_nil, List.cons_ne_nil,
            if_false, hreach, Option.map_id']
          rfl
      | some l =>
          rw [hroot, hleaf] at h
          -- with both, what is under the root is a mapping
          rcases h r l rfl with ⟨es, hes⟩
          have htidy := tidy_of_lookup c.entries c.tidy r _ hes
          have hmapping : mappingOf c.objects (.own es)
              = some (⟨es, nodup_of_tidy es htidy⟩ : Object) :=
            mappingOf_own c.objects ⟨es, nodup_of_tidy es htidy⟩
          have hreach : reach [r, l] c.cell = es.lookup l := by
            rw [Configuration.cell, reach, hes, Option.bind_some, reach]
            cases es.lookup l <;> rfl
          have hyaml : (c.yaml q).root = 0 := rfl
          simp only [Option.toList_some, List.singleton_append, List.cons_ne_nil, if_false,
            hreach, Option.map_id', hyaml, hget, hes, hmapping]
          rfl

/-- A lookup that fails on its way does not fail for the configuration. -/
theorem lookup_fails (a b : String) (hnames : q.names = [a, b])
    (h : ∀ es, c.entries.lookup a ≠ some (.own es)) :
    ∃ e : Exn, (c.yaml q).lookup c.objects q.root q.leaf = .error e
      ∧ e.isA .yamlConfig = false := by
  unfold Query.names at hnames
  unfold YamlConfig.lookup
  -- only with both is there something to look up in
  cases hroot : YamlConfig.given q.root with
  | none =>
      rw [hroot] at hnames
      cases hleaf : YamlConfig.given q.leaf with
      | none =>
          rw [hleaf] at hnames
          cases hnames
      | some l =>
          rw [hleaf] at hnames
          cases hnames
  | some r =>
      rw [hroot] at hnames
      cases hleaf : YamlConfig.given q.leaf with
      | none =>
          rw [hleaf] at hnames
          cases hnames
      | some l =>
          rw [hleaf] at hnames
          cases hnames
          have hget : (c.objects (c.yaml q).root).get? a = c.entries.lookup a := rfl
          dsimp only
          rw [hget]
          cases hx : c.entries.lookup a with
          | none => exact ⟨_, rfl, rfl⟩
          | some x =>
              have htidy := tidy_of_lookup c.entries c.tidy a x hx
              cases x with
              | own es => exact absurd hx (h es)
              | scalar s => exact ⟨_, rfl, rfl⟩
              | list items => exact ⟨_, rfl, rfl⟩
              | ref m => cases htidy

end Lookup

section Outcome

variable (c : Configuration) (q : Query)

theorem getKey_taken (x : Option Entry)
    (h : (c.yaml q).lookup c.objects q.root q.leaf = .ok x) :
    c.getKey q = (c.yaml q).taken c.objects q.root q.leaf q.useDefaults x := by
  rw [Configuration.getKey, YamlConfig.getKey_eq, h]
  rfl

theorem getKey_fails (a b : String) (hnames : q.names = [a, b])
    (h : ∀ es, c.entries.lookup a ≠ some (.own es)) :
    ∃ e : Exn, c.getKey q = .error e ∧ e.isA .yamlConfig = false := by
  rcases lookup_fails c q a b hnames h with ⟨e, he, hisA⟩
  refine ⟨e, ?_, hisA⟩
  rw [Configuration.getKey, YamlConfig.getKey_eq, he]
  rfl

variable (h : ∀ a b, q.names = [a, b] → ∃ es, c.entries.lookup a = some (.own es))

include h

theorem getKey_none (hreach : reach q.names c.cell = none) : Rejected (c.getKey q) := by
  have hlookup := lookup_reaches c q h
  rw [hreach, Option.map_none] at hlookup
  rw [getKey_taken c q _ hlookup, YamlConfig.taken]
  exact ⟨_, rfl, rfl⟩

/-- What is no mapping is checked itself. -/
theorem getKey_plain (x : Entry) (hreach : reach q.names c.cell = some x)
    (hx : ∀ s, mappingOf s x = none) :
    (isEmptySimpleKey x = true → Rejected (c.getKey q))
      ∧ (isEmptySimpleKey x = false → c.getKey q = .ok (.same x)) := by
  -- the whole configuration is a mapping, so it is not this
  have hfound : asFound q x = x := by
    rw [asFound, if_neg]
    intro hnames
    rw [hnames, reach, Option.some.injEq] at hreach
    have hmapping := hx c.objects
    rw [← hreach, Configuration.cell, mappingOf] at hmapping
    cases hmapping
  have hlookup := lookup_reaches c q h
  rw [hreach, Option.map_some, hfound] at hlookup
  rw [getKey_taken c q _ hlookup]
  have hdefaults : (c.yaml q).withDefaults c.objects q.useDefaults x = .ok (.same x) := by
    unfold YamlConfig.withDefaults
    rw [hx]
    cases (c.yaml q).usedDefaults c.objects q.useDefaults <;> rfl
  have hempty : isEmpty c.objects (c.yaml q).depth (.same x) = .ok (isEmptySimpleKey x) := by
    unfold isEmpty
    rw [Found.read, hx]
  have htaken : x ≠ .scalar .none →
      (c.yaml q).taken c.objects q.root q.leaf q.useDefaults (some x)
        = if isEmptySimpleKey x = true then .error (YamlConfig.endsUpEmpty q.root q.leaf)
          else .ok (.same x) := by
    intro hne
    rw [YamlConfig.taken]
    · rw [hdefaults]
      change (isEmpty c.objects (c.yaml q).depth (.same x) >>= _) = _
      rw [hempty]
      rfl
    · exact hne
  -- null is refused before the test for emptiness
  by_cases hne : x = .scalar .none
  · rw [hne]
    refine ⟨fun _ => ⟨_, rfl, rfl⟩, fun hno => ?_⟩
    cases hno
  · rw [htaken hne]
    refine ⟨fun hyes => ?_, fun hno => ?_⟩
    · rw [if_pos hyes]
      exact ⟨_, rfl, rfl⟩
    · rw [hno, if_neg Bool.false_ne_true]

omit h

theorem defaultsOf_eq :
    c.defaultsOf q
      = match (c.yaml q).usedDefaults c.objects q.useDefaults with
        | some y => mappingOf c.objects y
        | none => some Dict.empty := by
  have hdefaults : (c.yaml q).defaults = c.object.get? "defaults" := rfl
  unfold Configuration.defaultsOf YamlConfig.usedDefaults
  rw [hdefaults]
  cases q.useDefaults with
  | false => rfl
  | true =>
      cases c.object.get? "defaults" with
      | none => rfl
      | some y =>
          by_cases htruthy : truthy c.objects y = true
          · simp only [if_true, Option.filter_some, htruthy]
          · simp only [if_true, Option.filter_some, htruthy, Bool.false_eq_true, if_false]

/-- A mapping goes over the defaults, if these are a mapping. -/
theorem withDefaults_used (x : Entry) (m : Object) (hm : mappingOf c.objects x = some m)
    (hcell : c.foundCell (.same x) = .own m.entries) :
    (c.defaultsOf q = none ∧ ∃ e : Exn, (c.yaml q).withDefaults c.objects q.useDefaults x = .error e
        ∧ e.isA .yamlConfig = false)
      ∨ ∃ d found, c.defaultsOf q = some d
        ∧ (c.yaml q).withDefaults c.objects q.useDefaults x = .ok found
        ∧ found.read c.objects = some (d.union m)
        ∧ c.foundCell found = .own (d.union m).entries := by
  unfold YamlConfig.withDefaults
  rw [defaultsOf_eq, hm]
  cases (c.yaml q).usedDefaults c.objects q.useDefaults with
  | none =>
      have hunion : Dict.empty.union m = m := Dict.ofList_entries m
      refine Or.inr ⟨Dict.empty, .same x, rfl, rfl, ?_, ?_⟩
      · rw [hunion, Found.read, hm]
      · rw [hunion, hcell]
  | some y =>
      dsimp only
      cases mappingOf c.objects y with
      | none =>
          refine Or.inl ⟨rfl, _, rfl, ?_⟩
          unfold YamlConfig.noMerge
          split <;> rfl
      | some d => exact Or.inr ⟨d, _, rfl, rfl, rfl, rfl⟩

include h

/-- The outcome for a mapping is that of its first verdict. -/
theorem getKey_mapping (es : List (String × Entry))
    (hreach : reach q.names c.cell = some (.own es)) :
    (c.defaultsOf q = none ∧ ∃ e : Exn, c.getKey q = .error e ∧ e.isA .yamlConfig = false)
      ∨ ∃ d found, c.defaultsOf q = some d
        ∧ c.foundCell found = .own (d.setAll es).entries
        ∧ (Tidy (.own (d.setAll es).entries : Entry) →
          c.getKey q
            = (verdicts q.depth (d.setAll es).entries).head?.getD (.ok false) >>= fun empty =>
                if empty = true then .error (YamlConfig.endsUpEmpty q.root q.leaf)
                else .ok found) := by
  have htidy := tidy_reach q.names c.cell (.own es) c.tidy hreach
  let m : Object := ⟨es, nodup_of_tidy es htidy⟩
  -- the whole configuration is referred to, and every other mapping is there by value
  have hfound : mappingOf c.objects (asFound q (.own es)) = some m
      ∧ c.foundCell (.same (asFound q (.own es))) = .own m.entries
      ∧ asFound q (.own es) ≠ .scalar .none := by
    unfold asFound
    by_cases hnames : q.names = []
    · rw [hnames, reach, Option.some.injEq, Configuration.cell, Cell.own.injEq] at hreach
      rw [if_pos hnames]
      refine ⟨?_, ?_, fun hno => ?_⟩
      · have hobject : c.object = m := Dict.ext_of_entries _ _ hreach
        rw [mappingOf, ← hobject]
        rfl
      · rw [Configuration.foundCell, Configuration.cell, hreach]
      · cases hno
    · rw [if_neg hnames]
      refine ⟨mappingOf_own c.objects m, rfl, fun hno => ?_⟩
      cases hno
  rcases hfound with ⟨hm, hcell, hne⟩
  have hlookup := lookup_reaches c q h
  rw [hreach, Option.map_some] at hlookup
  have htaken : c.getKey q
      = (c.yaml q).withDefaults c.objects q.useDefaults (asFound q (.own es)) >>= fun found =>
          isEmpty c.objects (c.yaml q).depth found >>= fun empty =>
            if empty = true then .error (YamlConfig.endsUpEmpty q.root q.leaf) else .ok found := by
    rw [getKey_taken c q _ hlookup, YamlConfig.taken]
    exact hne
  rcases withDefaults_used c q _ m hm hcell with
    ⟨hnone, e, he, hisA⟩ | ⟨d, found, hd, hwith, hread, hfcell⟩
  · refine Or.inl ⟨hnone, e, ?_, hisA⟩
    rw [htaken, he]
    rfl
  · refine Or.inr ⟨d, found, hd, hfcell, fun htidy' => ?_⟩
    have hempty : isEmpty c.objects (c.yaml q).depth found = _ :=
      isEmpty_verdicts q.depth c.objects found (d.union m) hread htidy'
    rw [htaken, hwith]
    change (isEmpty c.objects (c.yaml q).depth found >>= _) = _
    rw [hempty]
    rfl

end Outcome

section Defaults

variable (c c' : Configuration) (q : Query)

theorem defaultsOf_unused (h : q.useDefaults = false) : c.defaultsOf q = some Dict.empty := by
  rw [Configuration.defaultsOf, h, if_neg Bool.false_ne_true]

theorem defaultsOf_none (hu : q.useDefaults = true) (h : c.entries.lookup "defaults" = none) :
    c.defaultsOf q = some Dict.empty := by
  have hget : c.object.get? "defaults" = none := h
  unfold Configuration.defaultsOf
  rw [if_pos hu, hget]

theorem defaultsOf_some (hu : q.useDefaults = true) (x : Entry)
    (h : c.entries.lookup "defaults" = some x) :
    c.defaultsOf q = if truthy c.objects x then mappingOf c.objects x else some Dict.empty := by
  have hget : c.object.get? "defaults" = some x := h
  unfold Configuration.defaultsOf
  rw [if_pos hu, hget]

/-- Defaults that are a mapping are used as they are. -/
theorem defaultsOf_own (hu : q.useDefaults = true) (d : Object)
    (h : c.entries.lookup "defaults" = some (.own d.entries)) : c.defaultsOf q = some d := by
  rw [defaultsOf_some c q hu _ h, truthy]
  by_cases hempty : d.entries = []
  · have hd : Dict.empty = d := Dict.ext_of_entries _ _ hempty.symm
    rw [hempty]
    exact congrArg some hd
  · have hyes : d.entries.isEmpty = false := by simpa using hempty
    rw [hyes, Bool.not_false, if_pos rfl, mappingOf_own]

/-- An entry of the defaults is one of the mapping under their key. -/
theorem defaultsOf_entry (d : Object) (h : c.defaultsOf q = some d) (k : String) (hk : k ∈ d.keys) :
    q.useDefaults = true ∧ c.entries.lookup "defaults" = some (.own d.entries) := by
  -- the defaults have a key, so they are not what an absent section gives
  have hempty : c.defaultsOf q ≠ some Dict.empty := by
    intro hno
    rw [h, Option.some.injEq] at hno
    rw [hno] at hk
    cases hk
  cases hu : q.useDefaults with
  | false => exact absurd (defaultsOf_unused c q hu) hempty
  | true =>
      refine ⟨rfl, ?_⟩
      cases hx : c.entries.lookup "defaults" with
      | none => exact absurd (defaultsOf_none c q hu hx) hempty
      | some x =>
          have hsome := defaultsOf_some c q hu x hx
          have htidy := tidy_of_lookup c.entries c.tidy _ x hx
          rw [h] at hsome
          by_cases htruthy : truthy c.objects x = true
          · rw [if_pos htruthy] at hsome
            cases htidy with
            | own es keys under =>
                have hes := mappingOf_own c.objects ⟨es, keys⟩
                dsimp only at hes
                rw [hes, Option.some.injEq] at hsome
                rw [hsome]
            | scalar a => cases hsome
            | list items under => cases hsome
          · rw [if_neg htruthy, ← h] at hsome
            exact absurd hsome hempty

theorem tidy_empty : Tidy (.own (Dict.empty : Object).entries : Entry) :=
  .own [] List.nodup_nil (fun _ he => absurd he List.not_mem_nil)

theorem tidy_defaultsOf (d : Object) (h : c.defaultsOf q = some d) :
    Tidy (.own d.entries : Entry) := by
  by_cases hempty : d.entries = []
  · rw [hempty]
    exact tidy_empty
  · rcases List.exists_mem_of_ne_nil _ hempty with ⟨e, he⟩
    have hkey : e.1 ∈ d.keys := List.mem_map_of_mem he
    exact tidy_of_lookup c.entries c.tidy _ _ (defaultsOf_entry c q d h e.1 hkey).2

/-- The defaults do not depend on the order. -/
theorem defaultsOf_same (h : Same c.cell c'.cell) :
    (c.defaultsOf q = none ∧ c'.defaultsOf q = none)
      ∨ ∃ d d', c.defaultsOf q = some d ∧ c'.defaultsOf q = some d'
          ∧ Same (.own d.entries : Entry) (.own d'.entries) := by
  cases hu : q.useDefaults with
  | false =>
      exact Or.inr ⟨_, _, defaultsOf_unused c q hu, defaultsOf_unused c' q hu, same_refl _⟩
  | true =>
      -- the same entry is there in both, or in neither
      have hrel := lookups_of_same c.entries c'.entries h "defaults"
      cases hx : c.entries.lookup "defaults" with
      | none =>
          rw [hx] at hrel
          exact Or.inr ⟨_, _, defaultsOf_none c q hu hx,
            defaultsOf_none c' q hu (rel_none _ _ hrel), same_refl _⟩
      | some x =>
          rw [hx] at hrel
          rcases rel_some _ x _ hrel with ⟨x', hx', hsame⟩
          have htidy := tidy_of_lookup c.entries c.tidy _ x hx
          have htidy' := tidy_of_lookup c'.entries c'.tidy _ x' hx'
          -- a mapping goes on under the same keys, and else only its truth counts
          cases htidy with
          | own es keys under =>
              rcases same_own es x' htidy' hsame with ⟨es', rfl⟩
              exact Or.inr ⟨⟨es, keys⟩, ⟨es', nodup_of_tidy es' htidy'⟩,
                defaultsOf_own c q hu ⟨es, keys⟩ hx, defaultsOf_own c' q hu ⟨es', _⟩ hx', hsame⟩
          | scalar a =>
              rw [same_scalar a x' hsame] at hx'
              rw [defaultsOf_some c q hu _ hx, defaultsOf_some c' q hu _ hx']
              have htruthy : truthy c'.objects (.scalar a) = truthy c.objects (.scalar a) := by
                cases a <;> rfl
              rw [htruthy]
              by_cases hyes : truthy c.objects (.scalar a) = true
              · rw [if_pos hyes, if_pos hyes]
                exact Or.inl ⟨rfl, rfl⟩
              · rw [if_neg hyes, if_neg hyes]
                exact Or.inr ⟨_, _, rfl, rfl, same_refl _⟩
          | list items under =>
              rcases same_list items x' hsame with ⟨items', rfl, hnil⟩
              rw [defaultsOf_some c q hu _ hx, defaultsOf_some c' q hu _ hx', truthy, truthy]
              by_cases hempty : items = []
              · rw [hnil.mp hempty, hempty]
                exact Or.inr ⟨_, _, rfl, rfl, same_refl _⟩
              · have hyes : items.isEmpty = false := by simpa using hempty
                have hyes' : items'.isEmpty = false := by
                  simpa using fun heq => hempty (hnil.mpr heq)
                rw [hyes, hyes']
                exact Or.inl ⟨rfl, rfl⟩

/-- The defaults that are merged into the whole configuration are in it. -/
theorem defaults_in_whole (d : Object) (hd : c.defaultsOf q = some d) (es : List (String × Entry))
    (htidy : Tidy (.own es : Entry)) (hreach : reach q.names c.cell = some (.own es))
    (hnames : q.names = []) (hk : "defaults" ∈ d.keys) :
    (d.setAll es).get? "defaults" = some (.own d.entries) := by
  have hentry := (defaultsOf_entry c q d hd _ hk).2
  rw [hnames, reach, Option.some.injEq, Configuration.cell, Cell.own.injEq] at hreach
  have hunion := Dict.get?_union d ⟨es, nodup_of_tidy es htidy⟩ "defaults"
  rw [hreach] at hentry
  have hget : (⟨es, nodup_of_tidy es htidy⟩ : Object).get? "defaults" = some (.own d.entries) :=
    hentry
  rw [hget, Option.some_or] at hunion
  exact hunion

end Defaults

section Enough

variable (c c' : Configuration) (q : Query)

theorem reaches_same (h : Same c.cell c'.cell)
    (hreaches : ∀ a b, q.names = [a, b] → ∃ es, c.entries.lookup a = some (.own es)) :
    ∀ a b, q.names = [a, b] → ∃ es, c'.entries.lookup a = some (.own es) := by
  intro a b hnames
  rcases hreaches a b hnames with ⟨es, hes⟩
  have hrel := lookups_of_same c.entries c'.entries h a
  rw [hes] at hrel
  rcases rel_some _ _ _ hrel with ⟨x', hx', hsame⟩
  rcases same_own es x' (tidy_of_lookup c'.entries c'.tidy a x' hx') hsame with ⟨es', rfl⟩
  exact ⟨es', hx'⟩

/-- What a mapping is merged to, in another order. -/
theorem merged_same (hsame : Same c.cell c'.cell) (es : List (String × Entry))
    (hreach : reach q.names c.cell = some (.own es)) (d : Object) (hd : c.defaultsOf q = some d) :
    ∃ es' d', reach q.names c'.cell = some (.own es') ∧ c'.defaultsOf q = some d'
      ∧ Same (.own d.entries : Entry) (.own d'.entries)
      ∧ Tidy (.own (d.setAll es).entries : Entry) ∧ Tidy (.own (d'.setAll es').entries : Entry)
      ∧ Same (.own (d.setAll es).entries : Entry) (.own (d'.setAll es').entries) := by
  have htidy := tidy_reach q.names c.cell _ c.tidy hreach
  have hrel := reach_same q.names c.cell c'.cell c.tidy c'.tidy hsame
  rw [hreach] at hrel
  rcases rel_some _ _ _ hrel with ⟨x', hx', hfound⟩
  have htidy' := tidy_reach q.names c'.cell x' c'.tidy hx'
  rcases same_own es x' htidy' hfound with ⟨es', rfl⟩
  rcases defaultsOf_same c c' q hsame with ⟨hnone, _⟩ | ⟨d₀, d', hd₀, hd', hdefaults⟩
  · rw [hnone] at hd
    cases hd
  · rw [hd, Option.some.injEq] at hd₀
    rw [← hd₀] at hdefaults
    let m : Object := ⟨es, nodup_of_tidy es htidy⟩
    let m' : Object := ⟨es', nodup_of_tidy es' htidy'⟩
    exact ⟨es', d', hx', hd', hdefaults, tidy_union d m (tidy_defaultsOf c q d hd) htidy,
      tidy_union d' m' (tidy_defaultsOf c' q d' hd') htidy', same_union d d' m m' hdefaults hfound⟩

/-- In every order the first verdict is one that some order puts first. -/
theorem head_relevant_same (hsame : Same c.cell c'.cell) (es es' : List (String × Entry))
    (hreach : reach q.names c.cell = some (.own es))
    (hreach' : reach q.names c'.cell = some (.own es')) (d d' : Object)
    (hd : c.defaultsOf q = some d) (hd' : c'.defaultsOf q = some d') (n : Nat)
    (v : Except Exn Bool) (hv : (verdicts (n + 1) (d'.setAll es').entries).head? = some v) :
    Relevant (q.names = []) n d (d.setAll es) v := by
  rcases merged_same c c' q hsame es hreach d hd with
    ⟨es₁, d₁, hreach₁, hd₁, hdefaults, htidy, htidy', hmerged⟩
  rw [hreach', Option.some.injEq, Cell.own.injEq] at hreach₁
  rw [hd', Option.some.injEq] at hd₁
  rw [← hreach₁, ← hd₁] at htidy' hmerged
  rw [← hd₁] at hdefaults
  have hes' := tidy_reach q.names c'.cell _ c'.tidy hreach'
  have hhere := head_relevant (q.names = []) n d' ⟨es', nodup_of_tidy es' hes'⟩ v
    (fun hnames hk => defaults_in_whole c' q d' hd' es' hes' hreach' hnames hk) hv
  exact relevant_same (q.names = []) n d' d (d'.setAll es') (d.setAll es)
    (tidy_defaultsOf c' q d' hd') (tidy_defaultsOf c q d hd) htidy' htidy
    (same_symm _ _ hdefaults) (same_symm _ _ hmerged) v hhere

/-- What a uniform configuration gives in another order, for a mapping. -/
theorem uniform_outcome (h : Uniform c q) (hsame : Same c.cell c'.cell)
    (es : List (String × Entry)) (hreach : reach q.names c.cell = some (.own es)) (d : Object)
    (hd : c.defaultsOf q = some d) (b : Bool) (n : Nat) (hn : q.depth = n + 1)
    (hb : ∀ v, Relevant (q.names = []) n d (d.setAll es) v → v = .ok b) :
    ∃ (u' : Object) (found : Found), c'.foundCell found = .own u'.entries
      ∧ Tidy (.own u'.entries : Entry)
      ∧ Same (.own (d.setAll es).entries : Entry) (.own u'.entries)
      ∧ c'.getKey q = (verdicts (n + 1) u'.entries).head?.getD (.ok false) >>= (fun empty =>
          if empty = true then .error (YamlConfig.endsUpEmpty q.root q.leaf) else .ok found)
      ∧ ∀ v, (verdicts (n + 1) u'.entries).head? = some v → v = .ok b := by
  rcases merged_same c c' q hsame es hreach d hd with
    ⟨es', d', hreach', hd', _, _, htidy', hmerged⟩
  rcases getKey_mapping c' q (reaches_same c c' q hsame h.reaches) es' hreach' with
    ⟨hnone, _⟩ | ⟨d₁, found, hd₁, hcell, hgetKey⟩
  · rw [hnone] at hd'
    cases hd'
  · rw [hd', Option.some.injEq] at hd₁
    rw [← hd₁] at hcell hgetKey
    refine ⟨d'.setAll es', found, hcell, htidy', hmerged, ?_, fun v hv => hb v ?_⟩
    · rw [hgetKey htidy', hn]
    · exact head_relevant_same c c' q hsame es es' hreach hreach' d d' hd hd' n v hv

theorem orderFree_of_uniform (h : Uniform c q) : OrderFree c q := by
  intro c₁ c₂ h₁ h₂
  have hreaches₁ := reaches_same c c₁ q h₁ h.reaches
  have hreaches₂ := reaches_same c c₂ q h₂ h.reaches
  have hrel₁ := reach_same q.names c.cell c₁.cell c.tidy c₁.tidy h₁
  have hrel₂ := reach_same q.names c.cell c₂.cell c.tidy c₂.tidy h₂
  cases hreach : reach q.names c.cell with
  | none =>
      rw [hreach] at hrel₁ hrel₂
      exact Or.inr ⟨getKey_none c₁ q hreaches₁ (rel_none _ _ hrel₁),
        getKey_none c₂ q hreaches₂ (rel_none _ _ hrel₂)⟩
  | some x =>
      rw [hreach] at hrel₁ hrel₂
      rcases rel_some _ x _ hrel₁ with ⟨x₁, hx₁, hsame₁⟩
      rcases rel_some _ x _ hrel₂ with ⟨x₂, hx₂, hsame₂⟩
      have hplain : (∀ s, mappingOf s x₁ = none) → (∀ s, mappingOf s x₂ = none) →
          isEmptySimpleKey x₁ = isEmptySimpleKey x₂ →
          Agree c₁ c₂ (c₁.getKey q) (c₂.getKey q) := by
        intro hno₁ hno₂ hempty
        have hout₁ := getKey_plain c₁ q hreaches₁ x₁ hx₁ hno₁
        have hout₂ := getKey_plain c₂ q hreaches₂ x₂ hx₂ hno₂
        rw [← hempty] at hout₂
        cases hsimple : isEmptySimpleKey x₁ with
        | true => exact Or.inr ⟨hout₁.1 hsimple, hout₂.1 hsimple⟩
        | false =>
            have hcell : ∀ (c : Configuration) (x : Entry), (∀ s, mappingOf s x = none) →
                c.foundCell (.same x) = x := by
              intro c x hx
              cases x with
              | ref r => cases hx c.objects
              | _ => rfl
            refine Or.inl ⟨_, _, hout₁.2 hsimple, hout₂.2 hsimple, ?_⟩
            rw [hcell c₁ x₁ hno₁, hcell c₂ x₂ hno₂]
            exact same_trans _ _ _ (same_symm _ _ hsame₁) hsame₂
      have htidy := tidy_reach q.names c.cell x c.tidy hreach
      cases htidy with
      | scalar a =>
          rw [same_scalar a x₁ hsame₁, same_scalar a x₂ hsame₂] at hplain
          exact hplain (fun _ => rfl) (fun _ => rfl) rfl
      | list items under =>
          rcases same_list items x₁ hsame₁ with ⟨items₁, rfl, _⟩
          rcases same_list items x₂ hsame₂ with ⟨items₂, rfl, _⟩
          exact hplain (fun _ => rfl) (fun _ => rfl) rfl
      | own es keys under =>
          rcases h.mapping es hreach with ⟨d, hd, n, hn, b, hb⟩
          rcases uniform_outcome c c₁ q h h₁ es hreach d hd b n hn hb with
            ⟨u₁, found₁, hcell₁, htidy₁, hmerged₁, hgetKey₁, hhead₁⟩
          rcases uniform_outcome c c₂ q h h₂ es hreach d hd b n hn hb with
            ⟨u₂, found₂, hcell₂, htidy₂, hmerged₂, hgetKey₂, hhead₂⟩
          have hsame : Same (.own u₁.entries : Entry) (.own u₂.entries) :=
            same_trans _ _ _ (same_symm _ _ hmerged₁) hmerged₂
          -- both have a first verdict, or neither has one
          have hfirst : (verdicts (n + 1) u₁.entries).head?
              = (verdicts (n + 1) u₂.entries).head? := by
            cases hv₁ : (verdicts (n + 1) u₁.entries).head? with
            | none =>
                rw [List.head?_eq_none_iff] at hv₁
                have hnil := verdictsOf_same_nil (n + 1) _ _ htidy₁ htidy₂ hsame hv₁
                rw [eq_comm, List.head?_eq_none_iff]
                exact hnil
            | some v₁ =>
                cases hv₂ : (verdicts (n + 1) u₂.entries).head? with
                | none =>
                    rw [List.head?_eq_none_iff] at hv₂
                    have hnil := verdictsOf_same_nil (n + 1) _ _ htidy₂ htidy₁
                      (same_symm _ _ hsame) hv₂
                    rw [verdictsOf] at hnil
                    rw [hnil] at hv₁
                    cases hv₁
                | some v₂ => rw [hhead₁ v₁ hv₁, hhead₂ v₂ hv₂]
          have hverdict : (verdicts (n + 1) u₁.entries).head?.getD (.ok false) = .ok b
              ∨ (verdicts (n + 1) u₁.entries).head?.getD (.ok false) = .ok false := by
            cases hv₁ : (verdicts (n + 1) u₁.entries).head? with
            | none => exact Or.inr rfl
            | some v₁ => exact Or.inl (hhead₁ v₁ hv₁)
          have hend : ∀ b', (verdicts (n + 1) u₁.entries).head?.getD (.ok false) = .ok b' →
              Agree c₁ c₂ (c₁.getKey q) (c₂.getKey q) := by
            intro b' hb'
            rw [hgetKey₁, hgetKey₂, ← hfirst, hb']
            cases b' with
            | true => exact Or.inr ⟨⟨_, rfl, rfl⟩, _, rfl, rfl⟩
            | false =>
                refine Or.inl ⟨found₁, found₂, rfl, rfl, ?_⟩
                rw [hcell₁, hcell₂]
                exact hsame
          rcases hverdict with hb' | hb'
          · exact hend b hb'
          · exact hend false hb'

end Enough

section Achieved

variable (c : Configuration) (q : Query)

/-- Some order puts the verdict first. -/
def Achieved (n : Nat) (v : Except Exn Bool) : Prop :=
  ∃ c' : Configuration, Same c.cell c'.cell ∧ ∃ es' d', reach q.names c'.cell = some (.own es')
    ∧ c'.defaultsOf q = some d' ∧ (verdicts (n + 1) (d'.setAll es').entries).head? = some v

theorem exists_configuration (p : List String) :
    ∃ c' : Configuration, c'.cell = leading p c.cell ∧ Same c.cell c'.cell := by
  have hsame := same_leading p c.cell
  have htidy := tidy_leading p c.cell c.tidy
  rcases leading_own p c.entries with ⟨es', hes'⟩
  rw [Configuration.cell, hes'] at hsame htidy
  refine ⟨⟨es', htidy⟩, ?_, hsame⟩
  rw [Configuration.cell, Configuration.cell, hes']

theorem lookup_of_leading (c' : Configuration) (k : String) (p : List String) (x : Entry)
    (h : c'.cell = leading (k :: p) c.cell) (hx : c.entries.lookup k = some x) :
    c'.entries.lookup k = some (leading p x) := by
  rw [Configuration.cell, Configuration.cell, lookup_leading k p c.entries x hx,
    Cell.own.injEq] at h
  rw [h, lookup_putFirst, if_pos rfl]

/-- The first verdict is under the first key that has one. -/
theorem head_of_keys (n : Nat) (u : Object) (front back : List String) (k : String)
    (v : Except Exn Bool) (hkeys : u.keys = front ++ k :: back)
    (hfront : ∀ j ∈ front, under n u j = []) (hk : (under n u k).head? = some v) :
    (verdicts (n + 1) u.entries).head? = some v := by
  rw [verdicts_keys, hkeys, List.flatMap_append, List.flatMap_eq_nil_iff.mpr hfront,
    List.nil_append, List.flatMap_cons, List.head?_append, hk, Option.some_or]

/-- The keys of the defaults come first in a merge. -/
theorem keys_merge (d : Object) (es : List (String × Entry)) (htidy : Tidy (.own es : Entry)) :
    ∃ rest, (d.setAll es).keys = d.keys ++ rest :=
  ⟨_, Dict.keys_union d ⟨es, nodup_of_tidy es htidy⟩⟩

theorem under_merge (n : Nat) (d : Object) (es : List (String × Entry))
    (htidy : Tidy (.own es : Entry)) (k : String) (x : Entry)
    (h : (es.lookup k).or (d.get? k) = some x) : under n (d.setAll es) k = verdictsOf n x := by
  have hunion := Dict.get?_union d ⟨es, nodup_of_tidy es htidy⟩ k
  exact under_eq n _ k x (hunion.trans h)

variable (es : List (String × Entry)) (hreach : reach q.names c.cell = some (.own es))
  (d : Object) (hd : c.defaultsOf q = some d)

include hreach hd

/-- A verdict under a key of the defaults is first when the key is the first of
    the defaults, and the path to the leaf is in front. -/
theorem achieved_early (n : Nat) (k : String) (hk : k ∈ d.keys)
    (hcorner : ¬ (q.names = [] ∧ k = "defaults")) (v : Except Exn Bool)
    (hv : v ∈ under n (d.setAll es) k) : Achieved c q n v := by
  have htidy := tidy_reach q.names c.cell _ c.tidy hreach
  rcases defaultsOf_entry c q d hd k hk with ⟨hu, hentry⟩
  rcases keys_of_under n _ k v hv with ⟨x, hx, hv⟩
  have hunion : (d.setAll es).get? k = (es.lookup k).or (d.get? k) :=
    Dict.get?_union d ⟨es, nodup_of_tidy es htidy⟩ k
  rw [hunion] at hx
  cases hown : es.lookup k with
  | some y =>
      -- the leaf is in the mapping itself
      rw [hown, Option.some_or, Option.some.injEq] at hx
      rw [hx] at hown
      rcases exists_leading n x v hv (tidy_of_lookup es htidy k x hown) with ⟨p, hp⟩
      rcases exists_configuration c (q.names ++ k :: p) with ⟨c₁, hc₁, hsame₁⟩
      have hreach₁ := reach_leading q.names (k :: p) c.cell _ hreach
      rw [← hc₁, lookup_leading k p es x hown] at hreach₁
      have hdefaults := lookups_of_same c.entries c₁.entries hsame₁ "defaults"
      rw [hentry] at hdefaults
      rcases rel_some _ _ _ hdefaults with ⟨x₁, hx₁, hsame⟩
      have htidy₁ := tidy_of_lookup c₁.entries c₁.tidy _ x₁ hx₁
      rcases same_own d.entries x₁ htidy₁ hsame with ⟨ds, rfl⟩
      have hkeys := mem_keys_same d ⟨ds, nodup_of_tidy ds htidy₁⟩ hsame k hk
      rw [Dict.mem_keys_iff, Option.isSome_iff_exists] at hkeys
      rcases hkeys with ⟨y₁, hy₁⟩
      rcases exists_configuration c₁ ["defaults", k] with ⟨c₂, hc₂, hsame₂⟩
      have hentry₂ := lookup_of_leading c₁ c₂ "defaults" [k] _ hc₂ hx₁
      rw [lookup_leading k [] ds y₁ hy₁, leading_nil] at hentry₂
      have htidy₂ := tidy_of_lookup c₂.entries c₂.tidy _ _ hentry₂
      let d₂ : Object := ⟨putFirst k y₁ ds, nodup_of_tidy _ htidy₂⟩
      rcases reach_leading_two q.names "defaults" k c₁.entries _ hreach₁ hcorner with
        ⟨es₂, hreach₂, hlookup⟩
      rw [lookup_putFirst, if_pos rfl] at hlookup
      have hcell₂ : c₂.cell = leading ["defaults", k] (.own c₁.entries) := hc₂
      rw [← hcell₂] at hreach₂
      have hes₂ := tidy_reach q.names c₂.cell _ c₂.tidy hreach₂
      refine ⟨c₂, same_trans _ _ _ hsame₁ hsame₂, es₂, d₂, hreach₂,
        defaultsOf_own c₂ q hu d₂ hentry₂, ?_⟩
      rcases keys_merge d₂ es₂ hes₂ with ⟨rest, hrest⟩
      refine head_of_keys n _ [] _ k v hrest (fun j hj => absurd hj List.not_mem_nil) ?_
      rw [under_merge n d₂ es₂ hes₂ k (leading p x) (by rw [hlookup, Option.some_or])]
      exact hp
  | none =>
      -- the leaf is in the defaults
      rw [hown, Option.none_or] at hx
      rcases exists_leading n x v hv
        (tidy_of_lookup d.entries (tidy_defaultsOf c q d hd) k x hx) with ⟨p, hp⟩
      rcases exists_configuration c ("defaults" :: k :: p) with ⟨c₁, hc₁, hsame₁⟩
      have hentry₁ := lookup_of_leading c c₁ "defaults" (k :: p) _ hc₁ hentry
      rw [lookup_leading k p d.entries x hx] at hentry₁
      have htidy₁ := tidy_of_lookup c₁.entries c₁.tidy _ _ hentry₁
      let d₁ : Object := ⟨putFirst k (leading p x) d.entries, nodup_of_tidy _ htidy₁⟩
      have hrel := reach_same q.names c.cell c₁.cell c.tidy c₁.tidy hsame₁
      rw [hreach] at hrel
      rcases rel_some _ _ _ hrel with ⟨x₁, hreach₁, hfound⟩
      have hes₁ := tidy_reach q.names c₁.cell x₁ c₁.tidy hreach₁
      rcases same_own es x₁ hes₁ hfound with ⟨es₁, rfl⟩
      have hlookup := lookups_of_same es es₁ hfound k
      rw [hown] at hlookup
      refine ⟨c₁, hsame₁, es₁, d₁, hreach₁, defaultsOf_own c₁ q hu d₁ hentry₁, ?_⟩
      rcases keys_merge d₁ es₁ hes₁ with ⟨rest, hrest⟩
      refine head_of_keys n _ [] _ k v hrest (fun j hj => absurd hj List.not_mem_nil) ?_
      have hget : d₁.get? k = some (leading p x) := by
        have hput : d₁.get? k = _ := lookup_putFirst k (leading p x) d.entries k
        rw [hput, if_pos rfl]
      rw [under_merge n d₁ es₁ hes₁ k (leading p x)
        (by rw [rel_none _ _ hlookup, Option.none_or, hget])]
      exact hp

/-- A verdict behind those of the defaults, where these have none, is first when
    the path to the leaf is in front. -/
theorem achieved_late (n : Nat)
    (hno : ∀ v', ¬ Early (q.names = []) n d (d.setAll es) v') (k : String)
    (v : Except Exn Bool) (hv : v ∈ under n (d.setAll es) k) : Achieved c q n v := by
  have htidy := tidy_reach q.names c.cell _ c.tidy hreach
  have hnil := under_nil_of_not_early (q.names = []) n d (d.setAll es)
    (fun hnames hk => defaults_in_whole c q d hd es htidy hreach hnames hk) hno
  -- there is no leaf under the keys of the defaults, so the key is another
  have hk : k ∉ d.keys := by
    intro hk
    rw [hnil k hk] at hv
    cases hv
  rcases keys_of_under n _ k v hv with ⟨x, hx, hv⟩
  have hunion : (d.setAll es).get? k = (es.lookup k).or (d.get? k) :=
    Dict.get?_union d ⟨es, nodup_of_tidy es htidy⟩ k
  have hnone : d.get? k = none := by
    rw [Dict.mem_keys_iff, Bool.not_eq_true, Option.isSome_eq_false_iff,
      Option.isNone_iff_eq_none] at hk
    exact hk
  rw [hunion, hnone, Option.or_none] at hx
  -- an order that brings the leaf to the front under its key, and the key to the front
  rcases exists_leading n x v hv (tidy_of_lookup es htidy k x hx) with ⟨p, hp⟩
  rcases exists_configuration c (q.names ++ k :: p) with ⟨c₁, hc₁, hsame₁⟩
  have hreach₁ := reach_leading q.names (k :: p) c.cell _ hreach
  rw [← hc₁, lookup_leading k p es x hx] at hreach₁
  rcases merged_same c c₁ q hsame₁ es hreach d hd with
    ⟨es₁, d₁, hfound₁, hd₁, hdefaults, hmtidy, hmtidy₁, hmerged⟩
  rw [hreach₁, Option.some.injEq, Cell.own.injEq] at hfound₁
  rw [← hfound₁] at hmtidy₁ hmerged
  refine ⟨c₁, hsame₁, _, d₁, hreach₁, hd₁, ?_⟩
  have hes₁ := tidy_reach q.names c₁.cell _ c₁.tidy hreach₁
  -- the defaults have the same keys in the new order
  have hmem : ∀ j ∈ d₁.keys, j ∈ d.keys := mem_keys_same d₁ d (same_symm _ _ hdefaults)
  have hkeys : (d₁.setAll (putFirst k (leading p x) es)).keys = _ :=
    Dict.keys_union d₁ ⟨_, nodup_of_tidy _ hes₁⟩
  have hfirst : (⟨_, nodup_of_tidy _ hes₁⟩ : Object).keys
      = k :: (es.filter (fun e => e.1 ≠ k)).map Prod.fst := rfl
  have hnew : k ∉ d₁.keys := fun hin => hk (hmem k hin)
  rw [hfirst, List.filter_cons, if_pos (by simpa using hnew)] at hkeys
  refine head_of_keys n _ d₁.keys _ k v hkeys (fun j hj => ?_) ?_
  · exact under_same_nil n _ _ hmtidy hmtidy₁ hmerged j (hnil j (hmem j hj))
  · rw [under_merge n d₁ _ hes₁ k (leading p x)
      (by rw [lookup_putFirst, if_pos rfl, Option.some_or])]
    exact hp

/-- A verdict in the defaults that are merged into themselves is first when the
    two places of their keys fit. -/
theorem achieved_in_itself (n : Nat) (hnames : q.names = []) (hk : "defaults" ∈ d.keys)
    (v : Except Exn Bool) (hv : InItself d (d.setAll es) n v) : Achieved c q n v := by
  rcases defaultsOf_entry c q d hd _ hk with ⟨hu, hentry⟩
  have hwhole : ∀ c' : Configuration, reach q.names c'.cell = some (.own c'.entries) := by
    intro c'
    rw [hnames, reach, Configuration.cell]
  rw [Dict.mem_keys_iff, Option.isSome_iff_exists] at hk
  rcases hk with ⟨y, hy⟩
  -- with the defaults first among themselves, their first verdict is the first of all
  have hfirst : ∀ (c' : Configuration) (ds : List (String × Entry)) (y' : Entry)
      (back : List (String × Entry)), Same c.cell c'.cell →
      c'.entries.lookup "defaults" = some (.own ds) → ds = ("defaults", y') :: back →
      (verdicts n ds).head? = some v → Achieved c q n v := by
    intro c' ds y' back hsame hds hback hhead
    have htidy' := tidy_of_lookup c'.entries c'.tidy _ _ hds
    let d' : Object := ⟨ds, nodup_of_tidy ds htidy'⟩
    refine ⟨c', hsame, c'.entries, d', hwhole c', defaultsOf_own c' q hu d' hds, ?_⟩
    rcases keys_merge d' c'.entries c'.tidy with ⟨rest, hrest⟩
    have hkeys : d'.keys = "defaults" :: back.map Prod.fst := by
      change ds.map Prod.fst = _
      rw [hback, List.map_cons]
    rw [hkeys] at hrest
    refine head_of_keys n _ [] _ "defaults" v hrest (fun j hj => absurd hj List.not_mem_nil) ?_
    rw [under_merge n d' c'.entries c'.tidy _ (.own ds) (by rw [hds, Option.some_or])]
    exact hhead
  cases n with
  | zero =>
      rcases exists_configuration c ["defaults", "defaults"] with ⟨c₁, hc₁, hsame₁⟩
      have hentry₁ := lookup_of_leading c c₁ "defaults" ["defaults"] _ hc₁ hentry
      rw [lookup_leading "defaults" [] d.entries y hy] at hentry₁
      refine hfirst c₁ _ _ _ hsame₁ hentry₁ rfl ?_
      rw [hv]
      rfl
  | succ n =>
      rcases hv with ⟨k, hv, hplace⟩
      rcases keys_of_under n d k v hv with ⟨x, hx, hv⟩
      rcases exists_leading n x v hv
        (tidy_of_lookup d.entries (tidy_defaultsOf c q d hd) k x hx) with ⟨p, hp⟩
      by_cases hkd : k = "defaults"
      · rw [hkd] at hx
        rcases exists_configuration c ("defaults" :: "defaults" :: p) with ⟨c₁, hc₁, hsame₁⟩
        have hentry₁ := lookup_of_leading c c₁ "defaults" ("defaults" :: p) _ hc₁ hentry
        rw [lookup_leading "defaults" p d.entries x hx] at hentry₁
        refine hfirst c₁ _ _ _ hsame₁ hentry₁ rfl ?_
        rw [putFirst, verdicts_succ, List.flatMap_cons, List.head?_append, hp, Option.some_or]
      · rcases hplace with heq | hnil | hnil
        · exact absurd heq hkd
        · -- the key comes second among the defaults, behind one without verdicts
          rcases exists_configuration c ("defaults" :: k :: p) with ⟨c₁, hc₁, hsame₁⟩
          have hentry₁ := lookup_of_leading c c₁ "defaults" (k :: p) _ hc₁ hentry
          rw [lookup_leading k p d.entries x hx] at hentry₁
          rcases exists_configuration c₁ ["defaults", "defaults"] with ⟨c₂, hc₂, hsame₂⟩
          have hentry₂ := lookup_of_leading c₁ c₂ "defaults" ["defaults"] _ hc₂ hentry₁
          have hy₁ : (putFirst k (leading p x) d.entries).lookup "defaults" = some y := by
            rw [lookup_putFirst, if_neg (Ne.symm hkd)]
            exact hy
          rw [lookup_leading "defaults" [] _ y hy₁, leading_nil] at hentry₂
          refine hfirst c₂ _ _ _ (same_trans _ _ _ hsame₁ hsame₂) hentry₂ rfl ?_
          rw [under_eq n d "defaults" y hy] at hnil
          rw [putFirst, putFirst, List.filter_cons, if_pos (by simpa using hkd), verdicts_succ,
            List.flatMap_cons, List.flatMap_cons, hnil, List.nil_append, List.head?_append, hp,
            Option.some_or]
        · -- the key comes first among the defaults, and has no verdict in the merge
          rcases exists_configuration c ["defaults", "defaults"] with ⟨c₁, hc₁, hsame₁⟩
          have hentry₁ := lookup_of_leading c c₁ "defaults" ["defaults"] _ hc₁ hentry
          rw [lookup_leading "defaults" [] d.entries y hy, leading_nil] at hentry₁
          rcases exists_configuration c₁ ("defaults" :: k :: p) with ⟨c₂, hc₂, hsame₂⟩
          have hentry₂ := lookup_of_leading c₁ c₂ "defaults" (k :: p) _ hc₂ hentry₁
          have hx₁ : (putFirst "defaults" y d.entries).lookup k = some x := by
            rw [lookup_putFirst, if_neg hkd]
            exact hx
          rw [lookup_leading k p _ x hx₁] at hentry₂
          have hsame := same_trans _ _ _ hsame₁ hsame₂
          have htidy₂ := tidy_of_lookup c₂.entries c₂.tidy _ _ hentry₂
          let d₂ : Object := ⟨_, nodup_of_tidy _ htidy₂⟩
          have hd₂ : c₂.defaultsOf q = some d₂ := defaultsOf_own c₂ q hu d₂ hentry₂
          rcases merged_same c c₂ q hsame es hreach d hd with
            ⟨es₂, d₂', hfound₂, hd₂', _, hmtidy, hmtidy₂, hmerged⟩
          rw [hwhole c₂, Option.some.injEq, Cell.own.injEq] at hfound₂
          rw [hd₂, Option.some.injEq] at hd₂'
          rw [← hfound₂, ← hd₂'] at hmtidy₂ hmerged
          refine ⟨c₂, hsame, c₂.entries, d₂, hwhole c₂, hd₂, ?_⟩
          rcases keys_merge d₂ c₂.entries c₂.tidy with ⟨rest, hrest⟩
          have hkeys : d₂.keys = k :: "defaults"
              :: ((d.entries.filter (fun e => e.1 ≠ "defaults")).filter (fun e => e.1 ≠ k)).map
                Prod.fst := by
            change (putFirst k (leading p x) (putFirst "defaults" y d.entries)).map Prod.fst = _
            rw [putFirst, putFirst, List.filter_cons, if_pos (by simpa using Ne.symm hkd),
              List.map_cons, List.map_cons]
          rw [hkeys] at hrest
          refine head_of_keys (n + 1) _ [k] _ "defaults" v hrest (fun j hj => ?_) ?_
          · rw [List.mem_singleton.mp hj]
            exact under_same_nil (n + 1) _ _ hmtidy hmtidy₂ hmerged k hnil
          · rw [under_merge (n + 1) d₂ c₂.entries c₂.tidy _ _ (by rw [hentry₂, Option.some_or]),
              verdictsOf, putFirst, verdicts_succ, List.flatMap_cons, List.head?_append, hp,
              Option.some_or]

/-- Some order puts each relevant verdict first. -/
theorem achieved_of_relevant (n : Nat) (v : Except Exn Bool)
    (h : Relevant (q.names = []) n d (d.setAll es) v) : Achieved c q n v := by
  rcases h with ⟨k, hk, ⟨hcorner, hv⟩ | ⟨⟨hnames, hkd⟩, hv⟩⟩ | ⟨hno, k, hv⟩
  · exact achieved_early c q es hreach d hd n k hk hcorner v hv
  · rw [hkd] at hk
    exact achieved_in_itself c q es hreach d hd n hnames hk v hv
  · exact achieved_late c q es hreach d hd n hno k v hv

end Achieved

section Exact

variable (c : Configuration) (q : Query)

/-- Where the order does not matter, every exception is one of the configuration. -/
theorem isA_of_orderFree (h : OrderFree c q) (c' : Configuration) (hsame : Same c.cell c'.cell)
    (e : Exn) (he : c'.getKey q = .error e) : e.isA .yamlConfig = true := by
  rcases h c' c' hsame hsame with ⟨f, _, hf, _⟩ | ⟨⟨e', he', hisA⟩, _⟩
  · rw [he] at hf
    cases hf
  · rw [he, Except.error.injEq] at he'
    rw [he']
    exact hisA

theorem verdict_error (depth : Nat) (x : Entry) (e : Exn) (h : .error e ∈ verdictsOf depth x)
    (hx : Tidy x) : e = tooDeep := by
  induction depth generalizing x with
  | zero =>
      cases hx with
      | own es keys under => exact Except.error.inj (List.mem_singleton.mp h)
      | scalar a => cases List.mem_singleton.mp h
      | list items under => cases List.mem_singleton.mp h
  | succ depth ih =>
      cases hx with
      | own es keys under =>
          rw [verdictsOf, mem_verdicts_iff depth es (.own es keys under)] at h
          rcases h with ⟨k, y, hy, h⟩
          exact ih y h (under (k, y) (Dict.mem_of_lookup es k y hy))
      | scalar a => cases List.mem_singleton.mp h
      | list items under => cases List.mem_singleton.mp h

/-- Where the order does not matter, a verdict that some order puts first is that
    of all orders. -/
theorem achieved_outcome (h : OrderFree c q)
    (hreaches : ∀ a b, q.names = [a, b] → ∃ es, c.entries.lookup a = some (.own es))
    (n : Nat) (hn : q.depth = n + 1) (v : Except Exn Bool) (hv : Achieved c q n v) :
    ∃ b, v = .ok b ∧ ∃ c' : Configuration, Same c.cell c'.cell ∧
      ((b = true ∧ Rejected (c'.getKey q)) ∨ (b = false ∧ ∃ f, c'.getKey q = .ok f)) := by
  rcases hv with ⟨c', hsame, es', d', hreach', hd', hhead⟩
  have htidy := tidy_reach q.names c'.cell _ c'.tidy hreach'
  have htidy' : Tidy (.own (d'.setAll es').entries : Entry) :=
    tidy_union d' ⟨es', nodup_of_tidy es' htidy⟩ (tidy_defaultsOf c' q d' hd') htidy
  rcases getKey_mapping c' q (reaches_same c c' q hsame hreaches) es' hreach' with
    ⟨hnone, _⟩ | ⟨d₁, found, hd₁, _, hgetKey⟩
  · rw [hnone] at hd'
    cases hd'
  · rw [hd', Option.some.injEq] at hd₁
    rw [← hd₁] at hgetKey
    have hresult := hgetKey htidy'
    rw [hn, hhead, Option.getD_some] at hresult
    cases v with
    | error e =>
        -- a verdict that is an exception would show itself in this order of the keys
        have hmem : .error e ∈ verdictsOf (n + 1) (.own (d'.setAll es').entries) :=
          List.mem_of_head? hhead
        have htoo := verdict_error (n + 1) _ e hmem htidy'
        have hisA := isA_of_orderFree c q h c' hsame e hresult
        rw [htoo] at hisA
        cases hisA
    | ok b =>
        refine ⟨b, rfl, c', hsame, ?_⟩
        cases b with
        | true => exact Or.inl ⟨rfl, _, hresult, rfl⟩
        | false => exact Or.inr ⟨rfl, found, hresult⟩

theorem uniform_of_orderFree (h : OrderFree c q) : Uniform c q := by
  have hno : ∀ e : Exn, c.getKey q = .error e → e.isA .yamlConfig ≠ false := by
    intro e he hisA
    rw [isA_of_orderFree c q h c (same_refl _) e he] at hisA
    cases hisA
  have hreaches : ∀ a b, q.names = [a, b] → ∃ es, c.entries.lookup a = some (.own es) := by
    intro a b hnames
    by_contra hnone
    rw [not_exists] at hnone
    rcases getKey_fails c q a b hnames hnone with ⟨e, he, hisA⟩
    exact hno e he hisA
  refine ⟨hreaches, fun es hreach => ?_⟩
  have htidy := tidy_reach q.names c.cell _ c.tidy hreach
  rcases getKey_mapping c q hreaches es hreach with ⟨_, e, he, hisA⟩ | ⟨d, found, hd, _, hgetKey⟩
  · exact absurd hisA (hno e he)
  · refine ⟨d, hd, ?_⟩
    cases hn : q.depth with
    | zero =>
        have htidy' := tidy_union d ⟨es, nodup_of_tidy es htidy⟩ (tidy_defaultsOf c q d hd) htidy
        have hresult := hgetKey htidy'
        rw [hn] at hresult
        exact absurd rfl (hno tooDeep hresult)
    | succ n =>
        refine ⟨n, rfl, ?_⟩
        by_cases hsome : ∃ v, Relevant (q.names = []) n d (d.setAll es) v
        · rcases hsome with ⟨v, hv⟩
          rcases achieved_outcome c q h hreaches n hn v
            (achieved_of_relevant c q es hreach d hd n v hv) with ⟨b, _, c₁, hsame₁, hout₁⟩
          refine ⟨b, fun v' hv' => ?_⟩
          rcases achieved_outcome c q h hreaches n hn v'
            (achieved_of_relevant c q es hreach d hd n v' hv') with ⟨b', rfl, c₂, hsame₂, hout₂⟩
          -- one order cannot be rejected and the other not
          rcases hout₁ with ⟨rfl, e₁, he₁, _⟩ | ⟨rfl, f₁, hf₁⟩
          · rcases hout₂ with ⟨rfl, _⟩ | ⟨rfl, f₂, hf₂⟩
            · rfl
            · rcases h c₁ c₂ hsame₁ hsame₂ with ⟨f, _, hf, _⟩ | ⟨_, e, he, _⟩
              · rw [he₁] at hf
                cases hf
              · rw [hf₂] at he
                cases he
          · rcases hout₂ with ⟨rfl, e₂, he₂, _⟩ | ⟨rfl, _⟩
            · rcases h c₁ c₂ hsame₁ hsame₂ with ⟨_, f, _, hf, _⟩ | ⟨⟨e, he, _⟩, _⟩
              · rw [he₂] at hf
                cases hf
              · rw [hf₁] at he
                cases he
            · rfl
        · rw [not_exists] at hsome
          exact ⟨false, fun v hv => absurd hv (hsome v)⟩

/-- The order of the keys does not matter just if the leaves that some order puts
    first are all empty or all not. -/
theorem orderFree_iff : OrderFree c q ↔ Uniform c q :=
  ⟨uniform_of_orderFree c q, orderFree_of_uniform c q⟩

end Exact

/-- A component with a parameter that is null. -/
def nullEntries : List (String × Entry) :=
  [("db", .own [("password", .scalar .none), ("port", .scalar (.int 3306))])]

theorem tidy_nullEntries : Tidy (.own nullEntries : Entry) := by
  refine .own _ (List.nodup_singleton _) (fun e he => ?_)
  rw [List.mem_singleton.mp he]
  refine .own _ (by decide) (fun e he => ?_)
  rcases List.mem_cons.mp he with rfl | he
  · exact .scalar _
  · rw [List.mem_singleton.mp he]
    exact .scalar _

def nullFirst : Configuration :=
  ⟨nullEntries, tidy_nullEntries⟩

/-- The check looks at the null in one order, and does not in the other. -/
theorem order_matters : ¬ ∀ (c : Configuration) (q : Query), OrderFree c q := by
  intro hall
  let q : Query := ⟨some "db", none, false, "impl.yaml", 9⟩
  rcases exists_configuration nullFirst ["db", "port"] with ⟨c', hcell, hsame⟩
  have hnull : nullFirst.getKey q = .error (YamlConfig.endsUpEmpty (some "db") none) := rfl
  have hport : ∃ f, c'.getKey q = .ok f := by
    rcases c' with ⟨entries, htidy⟩
    have hentries : entries
        = [("db", .own [("port", .scalar (.int 3306)), ("password", .scalar .none)])] :=
      Cell.own.inj hcell
    subst hentries
    exact ⟨_, rfl⟩
  rcases hport with ⟨f, hf⟩
  rcases hall nullFirst q nullFirst c' (same_refl _) hsame with ⟨f₁, _, hf₁, _⟩ | ⟨_, e, he, _⟩
  · rw [hnull] at hf₁
    cases hf₁
  · rw [hf] at he
    cases he

end KeyOrder

end Xbench
