import Xbench.Lib.Dict

/-!
# Nested Mappings

Mappings in mappings, with something else at the leaves, and the merge of one
into another.

A merge descends where both sides have a mapping, and lets the new side win
everywhere else. Merging in the mapping that has one leaf under one path is
therefore an overwrite of that path. `Overwritten` says what an overwrite is
without saying how it is done: the leaf is there, and a path that is no part of
the way to it, and that does not lead through it, leads where it did before.

## Main definitions

* `Nested`: A leaf, or a mapping.
* `Nested.leadsTo`: What a path leads to.
* `Nested.single`: The mapping with one leaf.
* `Nested.merge`: Merging a mapping into another.
* `Nested.put`: Merging in one leaf.
* `Nested.Overwritten`: A path leads to a leaf, and the others are as before.
* `Nested.Keyed`: Every key of a path passes a test.
* `Nested.Filled`: No mapping is empty.

## Theorems

* `Nested.leadsTo_append`: A path goes on from where its first part leads.
* `Nested.overwritten_put`: Merging in one leaf is an overwrite.
* `Nested.keyed_of_overwritten`: The keys after an overwrite.
* `Nested.exists_leaf`: Without empty mappings there is a leaf.
-/

namespace Xbench

/-- A leaf, or a mapping. -/
inductive Nested (κ σ : Type) where
  | leaf (a : σ)
  | node (entries : List (κ × Nested κ σ))

namespace Nested

variable {κ σ : Type} [DecidableEq κ]

/-- What a path leads to. -/
def leadsTo : Nested κ σ → List κ → Option (Nested κ σ)
  | t, [] => some t
  | .leaf _, _ :: _ => none
  | .node es, k :: ks => (es.lookup k).bind (fun t => t.leadsTo ks)

/-- The mapping with one leaf under one path. -/
def single : List κ → σ → Nested κ σ
  | [], a => .leaf a
  | k :: ks, a => .node [(k, single ks a)]

mutual

/-- Merging a mapping into another: it descends where both have a mapping, and
    sets the entry everywhere else. -/
def merge (base : List (κ × Nested κ σ)) : List (κ × Nested κ σ) → List (κ × Nested κ σ)
  | [] => base
  | (k, t) :: rest => merge (mergeKey base k t) rest

def mergeKey (base : List (κ × Nested κ σ)) (k : κ) : Nested κ σ → List (κ × Nested κ σ)
  | .leaf a => Dict.setEntries k (.leaf a) base
  | .node es =>
      match base.lookup k with
      | some (.node inner) => Dict.setEntries k (.node (merge inner es)) base
      | _ => Dict.setEntries k (.node es) base

end

/-- Merging in one leaf. -/
def put (base : List (κ × Nested κ σ)) (k : κ) (ks : List κ) (a : σ) :
    List (κ × Nested κ σ) :=
  merge base [(k, single ks a)]

/-- A path leads to a leaf, and every path that is neither a part of it nor goes
    through it leads where it did before. -/
structure Overwritten (before after : Nested κ σ) (path : List κ) (a : σ) : Prop where
  here : after.leadsTo path = some (.leaf a)
  elsewhere : ∀ q, ¬ q <+: path → ¬ path <+: q → after.leadsTo q = before.leadsTo q

/-- Every key of a path that leads anywhere passes a test. -/
def Keyed (P : κ → Prop) (t : Nested κ σ) : Prop :=
  ∀ q x, t.leadsTo q = some x → ∀ k ∈ q, P k

/-- No mapping is empty. -/
def Filled (t : Nested κ σ) : Prop :=
  ∀ q, t.leadsTo q ≠ some (.node [])

section Lookup

@[simp] theorem leadsTo_nil (t : Nested κ σ) : t.leadsTo [] = some t := by
  cases t <;> rfl

theorem leadsTo_cons (es : List (κ × Nested κ σ)) (k : κ) (ks : List κ) :
    (node es).leadsTo (k :: ks) = (es.lookup k).bind (fun t => t.leadsTo ks) := by
  rw [leadsTo]

/-- A path goes on from where its first part leads. -/
theorem leadsTo_append (t : Nested κ σ) (q r : List κ) :
    t.leadsTo (q ++ r) = (t.leadsTo q).bind (fun x => x.leadsTo r) := by
  induction q generalizing t with
  | nil => rw [leadsTo_nil, List.nil_append, Option.bind_some]
  | cons k q ih =>
      cases t with
      | leaf a => rfl
      | node es =>
          rw [List.cons_append, leadsTo_cons, leadsTo_cons]
          cases es.lookup k with
          | none => rfl
          | some x => exact ih x

theorem leadsTo_leaf (a : σ) (q : List κ) (x : Nested κ σ)
    (h : (leaf a : Nested κ σ).leadsTo q = some x) : q = [] := by
  cases q with
  | nil => rfl
  | cons k q => exact nomatch h

end Lookup

section Filled

/-- What a key leads to has no empty mapping either. -/
theorem Filled.under (es : List (κ × Nested κ σ)) (k : κ) (t : Nested κ σ)
    (h : (node es).Filled) (hk : es.lookup k = some t) : t.Filled := by
  intro q hq
  apply h (k :: q)
  rw [leadsTo_cons, hk]
  exact hq

/-- Without empty mappings there is a leaf. -/
theorem exists_leaf : ∀ t : Nested κ σ, t.Filled → ∃ q a, t.leadsTo q = some (leaf a)
  | .leaf a, _ => ⟨[], a, leadsTo_nil _⟩
  | .node [], h => absurd (leadsTo_nil _) (h [])
  | .node ((k, t) :: es), h => by
      have hk : ((k, t) :: es).lookup k = some t := List.lookup_cons_self
      rcases exists_leaf t (h.under _ k t hk) with ⟨q, a, hq⟩
      refine ⟨k :: q, a, ?_⟩
      rw [leadsTo_cons, hk]
      exact hq

theorem filled_single (ks : List κ) (a : σ) : (single ks a).Filled := by
  induction ks with
  | nil =>
      intro q hq
      cases q with
      | nil => cases hq
      | cons k q => cases hq
  | cons k ks ih =>
      intro q hq
      cases q with
      | nil => cases hq
      | cons j q =>
          rw [single, leadsTo_cons, List.lookup_cons] at hq
          by_cases hj : j = k
          · rw [beq_iff_eq.mpr hj] at hq
            exact ih q hq
          · rw [beq_eq_false_iff_ne.mpr hj] at hq
            cases hq

end Filled

section Put

/-- The mapping under a key; an empty one when there is none. -/
def inner (base : List (κ × Nested κ σ)) (k : κ) : List (κ × Nested κ σ) :=
  match base.lookup k with
  | some (.node es) => es
  | _ => []

theorem put_eq (base : List (κ × Nested κ σ)) (k : κ) (ks : List κ) (a : σ) :
    put base k ks a = mergeKey base k (single ks a) := by
  rw [put, merge, merge]

theorem put_nil (base : List (κ × Nested κ σ)) (k : κ) (a : σ) :
    put base k [] a = Dict.setEntries k (.leaf a) base := by
  rw [put_eq, single, mergeKey]

/-- One step of an overwrite goes into the mapping under the key. -/
theorem put_cons (base : List (κ × Nested κ σ)) (k j : κ) (ks : List κ) (a : σ) :
    put base k (j :: ks) a = Dict.setEntries k (.node (put (inner base k) j ks a)) base := by
  have hempty : put [] j ks a = [(j, single ks a)] := by
    rw [put_eq]
    cases ks with
    | nil => rw [single, mergeKey, Dict.setEntries]
    | cons i ks =>
        rw [single, mergeKey]
        rfl
  rw [put_eq, single, mergeKey, inner]
  -- without a mapping there the new one is taken as it is
  cases hlookup : base.lookup k with
  | none =>
      dsimp only
      rw [hempty]
  | some t =>
      cases t with
      | leaf b =>
          dsimp only
          rw [hempty]
      | node es => rfl

theorem leadsTo_put_other (base : List (κ × Nested κ σ)) (k j : κ) (ks q : List κ) (a : σ)
    (h : j ≠ k) : (node (put base k ks a)).leadsTo (j :: q) = (node base).leadsTo (j :: q) := by
  have hlookup : (put base k ks a).lookup j = base.lookup j := by
    cases ks with
    | nil => rw [put_nil, Dict.lookup_setEntries, if_neg h]
    | cons i ks => rw [put_cons, Dict.lookup_setEntries, if_neg h]
  rw [leadsTo_cons, leadsTo_cons, hlookup]

theorem leadsTo_put_self (base : List (κ × Nested κ σ)) (k j : κ) (ks q : List κ) (a : σ) :
    (node (put base k (j :: ks) a)).leadsTo (k :: q)
      = (node (put (inner base k) j ks a)).leadsTo q := by
  rw [leadsTo_cons, put_cons, Dict.lookup_setEntries, if_pos rfl, Option.bind_some]

/-- Off the path there is what there was under the key. -/
theorem leadsTo_inner (base : List (κ × Nested κ σ)) (k j : κ) (q : List κ) :
    (node (inner base k)).leadsTo (j :: q) = (node base).leadsTo (k :: j :: q) := by
  rw [leadsTo_cons base, inner]
  cases base.lookup k with
  | none => rfl
  | some t =>
      cases t with
      | leaf b => rfl
      | node es => rfl

/-- Merging in one leaf is an overwrite of its path. -/
theorem overwritten_put (base : List (κ × Nested κ σ)) (k : κ) (ks : List κ) (a : σ) :
    Overwritten (node base) (node (put base k ks a)) (k :: ks) a := by
  induction ks generalizing base k with
  | nil =>
      refine ⟨?_, fun q hq hpath => ?_⟩
      · rw [leadsTo_cons, put_nil, Dict.lookup_setEntries, if_pos rfl, Option.bind_some,
          leadsTo_nil]
      · cases q with
        | nil => exact absurd List.nil_prefix hq
        | cons j q =>
            refine leadsTo_put_other base k j [] q a (fun h => hpath ?_)
            rw [h]
            exact List.cons_prefix_cons.mpr ⟨rfl, List.nil_prefix⟩
  | cons j ks ih =>
      have hinner := ih (inner base k) j
      refine ⟨?_, fun q hq hpath => ?_⟩
      · rw [leadsTo_put_self]
        exact hinner.here
      · cases q with
        | nil => exact absurd List.nil_prefix hq
        | cons i q =>
            by_cases hi : i = k
            · -- the path has a part in common with the way to the leaf
              subst hi
              rw [List.cons_prefix_cons, not_and] at hq hpath
              rw [leadsTo_put_self, hinner.elsewhere q (hq rfl) (hpath rfl)]
              cases q with
              | nil => exact absurd List.nil_prefix (hq rfl)
              | cons m q => exact leadsTo_inner base i m q
            · exact leadsTo_put_other base k i (j :: ks) q a hi

/-- After an overwrite the keys are those of before and those of the path. -/
theorem keyed_of_overwritten (P : κ → Prop) (before after : Nested κ σ) (path : List κ) (a : σ)
    (h : Overwritten before after path a) (hbefore : before.Keyed P) (hpath : ∀ k ∈ path, P k) :
    after.Keyed P := by
  intro q x hx k hk
  by_cases hq : q <+: path
  · exact hpath k (hq.subset hk)
  · by_cases hthrough : path <+: q
    · -- nothing comes after the leaf
      rcases hthrough with ⟨r, rfl⟩
      rw [leadsTo_append, h.here, Option.bind_some] at hx
      rw [leadsTo_leaf a r x hx, List.append_nil] at hk
      exact hpath k hk
    · rw [h.elsewhere q hq hthrough] at hx
      exact hbefore q x hx k hk

end Put

end Nested

end Xbench
