import Xbench.Lib.Merging
import Xbench.Lib.Objects

/-!
# Unshared Mappings

Mapping objects none of which is referred to twice, and the tree that is shown
from one of them.

Changing the objects under one key leaves what is under the others, as nothing
is under both. So what a change makes of the tree is found out key by key:
`changed_write` for an entry that is set, `changed_under` for a change further
down.

## Main definitions

* `ShowsTree`: A cell shows a tree, with other cells at the leaves.
* `Reaches`: Keys lead from an object to another.
* `Unshared`: By one path at most.
* `OwnByValue`: A mapping that belongs to one place refers to no object.
* `Changed`: A change of the objects that are reached, and what is shown then.

## Theorems

* `showsTree_node_iff`: A mapping shows a tree, key by key.
* `showsTree_frame`: What is not changed shows the same tree.
* `changed_write`: Setting an entry.
* `changed_under`: A change under a key.
* `changed_trans`: Two changes.
-/

namespace Xbench

variable {ρ σ : Type}

/-- What is at the end of a path of a tree. -/
inductive Fits : Option (Cell ρ σ) → Option (Nested String (Cell ρ σ)) → Prop where
  | none : Fits none none
  | leaf (c : Cell ρ σ) (h : c.isMapping = false) : Fits (some c) (some (.leaf c))
  | node (c : Cell ρ σ) (es : List (String × Nested String (Cell ρ σ)))
      (h : c.isMapping = true) : Fits (some c) (some (.node es))

/-- A cell shows a tree: along every path of keys they go together. -/
def ShowsTree (s : Store ρ σ) (c : Cell ρ σ) (t : Nested String (Cell ρ σ)) : Prop :=
  ∀ q : List String, Fits (follow s c (q.map Step.key)) (t.leadsTo q)

/-- Keys lead from an object to another. -/
def Reaches (s : Store ρ σ) (r : ρ) (q : List String) (n : ρ) : Prop :=
  follow s (.ref r) (q.map Step.key) = some (.ref n)

/-- No object is reached by two paths. -/
def Unshared (s : Store ρ σ) (r : ρ) : Prop :=
  ∀ q q' n, Reaches s r q n → Reaches s r q' n → q = q'

/-- A mapping that belongs to one place refers to no object. -/
def OwnByValue (s : Store ρ σ) : Prop :=
  ∀ n k es, (s n).get? k = some (.own es) → ByValue (.own es : Cell ρ σ)

/-- A change of objects that are reached from one: no others are reached then,
    and a tree is shown. -/
structure Changed (s s' : Store ρ σ) (r : ρ) (t : Nested String (Cell ρ σ)) : Prop where
  frame : ∀ n, (∀ q, ¬ Reaches s r q n) → s' n = s n
  reached : ∀ q n, Reaches s' r q n → Reaches s r q n
  own : OwnByValue s'
  shows : ShowsTree s' (.ref r) t

section Shows

variable (s s' : Store ρ σ)

theorem follow_key (c : Cell ρ σ) (k : String) (q : List String) :
    follow s c ((k :: q).map Step.key)
      = (child s c (.key k)).bind (fun x => follow s x (q.map Step.key)) := by
  rw [List.map_cons, follow]
  cases child s c (.key k) <;> rfl

theorem showsTree_leaf (c : Cell ρ σ) (h : c.isMapping = false) : ShowsTree s c (.leaf c) := by
  intro q
  cases q with
  | nil =>
      rw [Nested.leadsTo_nil]
      exact .leaf c h
  | cons k q =>
      have hchild : child s c (.key k) = none := by
        cases c with
        | scalar a => rfl
        | list items => rfl
        | own es => cases h
        | ref n => cases h
      rw [follow_key, hchild]
      exact .none

/-- A mapping shows a tree just if it does under every key. -/
theorem showsTree_node_iff (c : Cell ρ σ) (es : List (String × Nested String (Cell ρ σ))) :
    ShowsTree s c (.node es)
      ↔ c.isMapping = true
        ∧ ∀ k, Option.Rel (ShowsTree s) (child s c (.key k)) (es.lookup k) := by
  constructor
  · intro h
    have hhere := h []
    rw [Nested.leadsTo_nil] at hhere
    refine ⟨by cases hhere; assumption, fun k => ?_⟩
    -- what holds along a path under the key is what holds along the path
    have hunder : ∀ q, Fits ((child s c (.key k)).bind (fun x => follow s x (q.map Step.key)))
        ((es.lookup k).bind (fun t => t.leadsTo q)) := by
      intro q
      have hq := h (k :: q)
      rw [follow_key, Nested.leadsTo_cons] at hq
      exact hq
    cases hc : child s c (.key k) with
    | none =>
        cases ht : es.lookup k with
        | none => exact .none
        | some t =>
            have hnil := hunder []
            rw [hc, ht, Option.bind_some, Nested.leadsTo_nil] at hnil
            cases hnil
    | some x =>
        cases ht : es.lookup k with
        | none =>
            have hnil := hunder []
            rw [hc, ht] at hnil
            cases hnil
        | some t =>
            rw [hc, ht] at hunder
            exact .some hunder
  · rintro ⟨hmapping, hunder⟩ q
    cases q with
    | nil =>
        rw [Nested.leadsTo_nil]
        exact .node c es hmapping
    | cons k q =>
        rw [follow_key, Nested.leadsTo_cons]
        -- the path goes on from what is under its first key
        have hrel := hunder k
        cases hc : child s c (.key k) with
        | none =>
            rw [hc] at hrel
            cases ht : es.lookup k with
            | none => exact .none
            | some t =>
                rw [ht] at hrel
                cases hrel
        | some x =>
            rw [hc] at hrel
            cases ht : es.lookup k with
            | none =>
                rw [ht] at hrel
                cases hrel
            | some t =>
                rw [ht] at hrel
                cases hrel with
                | some hshows => exact hshows q

theorem mapping_of_showsTree (c : Cell ρ σ) (t : Nested String (Cell ρ σ)) (h : ShowsTree s c t) :
    (c.isMapping = true ∧ ∃ es, t = .node es) ∨ (c.isMapping = false ∧ t = .leaf c) := by
  have hhere := h []
  rw [Nested.leadsTo_nil] at hhere
  cases hhere with
  | leaf _ hleaf => exact Or.inr ⟨hleaf, rfl⟩
  | node _ es hnode => exact Or.inl ⟨hnode, es, rfl⟩

/-- A path over objects that are not changed leads where it did. -/
theorem follow_frame (x : Cell ρ σ)
    (h : ∀ (q : List String) (n : ρ), follow s x (q.map Step.key) = some (.ref n) → s' n = s n)
    (q : List String) :
    follow s' x (q.map Step.key) = follow s x (q.map Step.key) := by
  induction q generalizing x with
  | nil => rfl
  | cons k q ih =>
      have hchild : child s' x (.key k) = child s x (.key k) := by
        cases x with
        | ref n =>
            have hn := h [] n rfl
            rw [child, child, hn]
        | scalar a => rfl
        | list items => rfl
        | own es => rfl
      rw [follow_key, follow_key, hchild]
      cases hc : child s x (.key k) with
      | none => rfl
      | some y =>
          refine ih y (fun q' n hq' => h (k :: q') n ?_)
          rw [follow_key, hc]
          exact hq'

/-- What is not changed shows the same tree. -/
theorem showsTree_frame (x : Cell ρ σ) (t : Nested String (Cell ρ σ))
    (h : ∀ (q : List String) (n : ρ), follow s x (q.map Step.key) = some (.ref n) → s' n = s n)
    (hx : ShowsTree s x t) : ShowsTree s' x t := by
  intro q
  rw [follow_frame s s' x h q]
  exact hx q

theorem rel_frame (o : Option (Cell ρ σ)) (u : Option (Nested String (Cell ρ σ)))
    (h : Option.Rel (ShowsTree s) o u)
    (hx : ∀ x t, o = some x → ShowsTree s x t → ShowsTree s' x t) :
    Option.Rel (ShowsTree s') o u := by
  cases h with
  | none => exact .none
  | some hshows => exact .some (hx _ _ rfl hshows)

/-- A cell by value leads to no object. -/
theorem follow_byValue_ne (x : Cell ρ σ) (hx : ByValue x) (q : List Step) (n : ρ) :
    follow s x q ≠ some (.ref n) := by
  induction q generalizing x with
  | nil =>
      intro h
      rw [follow, Option.some.injEq] at h
      rw [h] at hx
      cases hx
  | cons st q ih =>
      cases hc : child s x st with
      | none =>
          rw [follow_cons_none s x st q hc]
          intro h
          cases h
      | some y =>
          rw [follow_cons s x y st q hc]
          exact ih y (child_byValue s x y st hx hc)

end Shows

section Reach

variable (s : Store ρ σ) (r : ρ)

theorem reaches_cons (k : String) (q : List String) (n : ρ) (x : Cell ρ σ)
    (hx : (s r).get? k = some x) :
    Reaches s r (k :: q) n ↔ follow s x (q.map Step.key) = some (.ref n) := by
  have hchild : child s (.ref r) (.key k) = some x := hx
  rw [Reaches, follow_key, hchild, Option.bind_some]

theorem reaches_self : Reaches s r [] r := rfl

theorem reaches_get (k : String) (q : List String) (n : ρ) (h : Reaches s r (k :: q) n) :
    ∃ x, (s r).get? k = some x ∧ follow s x (q.map Step.key) = some (.ref n) := by
  rw [Reaches, follow_key] at h
  exact Option.bind_eq_some_iff.mp h

/-- What is reached from an unshared object is unshared. -/
theorem unshared_under (h : Unshared s r) (k : String) (inner : ρ)
    (hk : (s r).get? k = some (.ref inner)) : Unshared s inner := by
  intro q q' n hq hq'
  have heq := h (k :: q) (k :: q') n ((reaches_cons s r k q n _ hk).mpr hq)
    ((reaches_cons s r k q' n _ hk).mpr hq')
  exact (List.cons.inj heq).2

/-- An unshared object is not reached from what is under it. -/
theorem not_reached_from (h : Unshared s r) (k : String) (x : Cell ρ σ)
    (hk : (s r).get? k = some x) (q : List String) :
    follow s x (q.map Step.key) ≠ some (.ref r) := by
  intro hq
  have heq := h [] (k :: q) r (reaches_self s r) ((reaches_cons s r k q r x hk).mpr hq)
  cases heq

end Reach

section Change

variable (s s' s'' : Store ρ σ) (r : ρ)

theorem unshared_of_changed (t : Nested String (Cell ρ σ)) (hs : Unshared s r)
    (h : Changed s s' r t) : Unshared s' r :=
  fun q q' n hq hq' => hs q q' n (h.reached q n hq) (h.reached q' n hq')

theorem changed_refl (t : Nested String (Cell ρ σ)) (hown : OwnByValue s)
    (h : ShowsTree s (.ref r) t) : Changed s s r t :=
  ⟨fun _ _ => rfl, fun _ _ hq => hq, hown, h⟩

/-- Two changes. -/
theorem changed_trans (t t' : Nested String (Cell ρ σ)) (h : Changed s s' r t)
    (h' : Changed s' s'' r t') : Changed s s'' r t' := by
  refine ⟨fun n hn => ?_, fun q n hq => h.reached q n (h'.reached q n hq), h'.own, h'.shows⟩
  rw [h'.frame n (fun q hq => hn q (h.reached q n hq)), h.frame n hn]

/-- A change under a key. -/
theorem changed_under (es : List (String × Nested String (Cell ρ σ)))
    (hs : Unshared s r) (hshows : ShowsTree s (.ref r) (.node es)) (k : String) (inner : ρ)
    (hk : (s r).get? k = some (.ref inner)) (t : Nested String (Cell ρ σ))
    (h : Changed s s' inner t) : Changed s s' r (.node (Dict.setEntries k t es)) := by
  have hunder : ∀ q n, Reaches s inner q n → Reaches s r (k :: q) n := fun q n hq =>
    (reaches_cons s r k q n _ hk).mpr hq
  have hr : s' r = s r :=
    h.frame r (fun q hq => not_reached_from s r hs k _ hk q hq)
  -- what is under another key is not reached from here
  have hother : ∀ j x, j ≠ k → (s r).get? j = some x →
      ∀ (q : List String) (n : ρ), follow s x (q.map Step.key) = some (.ref n) → s' n = s n := by
    intro j x hj hx q n hq
    refine h.frame n (fun q' hq' => hj ?_)
    have heq := hs (j :: q) (k :: q') n ((reaches_cons s r j q n x hx).mpr hq) (hunder q' n hq')
    exact (List.cons.inj heq).1
  refine ⟨fun n hn => h.frame n (fun q hq => hn (k :: q) (hunder q n hq)), ?_, h.own, ?_⟩
  · intro q n hq
    cases q with
    | nil => exact hq
    | cons j q =>
        rcases reaches_get s' r j q n hq with ⟨x, hx, hq⟩
        rw [hr] at hx
        rw [reaches_cons s r j q n x hx]
        by_cases hj : j = k
        · rw [hj, hk, Option.some.injEq] at hx
          rw [← hx] at hq ⊢
          exact h.reached q n hq
        · rw [← follow_frame s s' x (hother j x hj hx) q]
          exact hq
  · rw [showsTree_node_iff] at hshows ⊢
    refine ⟨rfl, fun j => ?_⟩
    have hchild : child s' (.ref r) (.key j) = (s r).get? j := by rw [child, hr]
    rw [hchild, Dict.lookup_setEntries]
    by_cases hj : j = k
    · rw [if_pos hj, hj, hk]
      exact .some h.shows
    · rw [if_neg hj]
      have hrel := hshows.2 j
      have hchild' : child s (.ref r) (.key j) = (s r).get? j := rfl
      rw [hchild'] at hrel
      exact rel_frame s s' _ _ hrel
        (fun x u hx hu => showsTree_frame s s' x u (hother j x hj hx) hu)

/-- Setting an entry, to a cell by value. -/
theorem changed_write [DecidableEq ρ] (es : List (String × Nested String (Cell ρ σ)))
    (hs : Unshared s r) (hown : OwnByValue s) (hshows : ShowsTree s (.ref r) (.node es))
    (k : String) (w : Cell ρ σ) (hw : ByValue w) (t : Nested String (Cell ρ σ))
    (hwt : ∀ s : Store ρ σ, ShowsTree s w t) :
    Changed s (s.write r k w) r (.node (Dict.setEntries k t es)) := by
  have hget : ∀ n j, (s.write r k w n).get? j = if n = r ∧ j = k then some w else (s n).get? j :=
    fun n j => Store.get?_write s r n k j w
  have hframe : ∀ n, n ≠ r → s.write r k w n = s n := by
    intro n hn
    rw [Store.write, if_neg hn]
  -- the object itself is not reached from what is under it
  have hother : ∀ j x, (s r).get? j = some x →
      ∀ (q : List String) (n : ρ), follow s x (q.map Step.key) = some (.ref n) →
        s.write r k w n = s n := by
    intro j x hx q n hq
    refine hframe n (fun hn => not_reached_from s r hs j x hx q ?_)
    rw [hq, hn]
  refine ⟨fun n hn => hframe n (fun heq => hn [] (heq ▸ reaches_self s r)), ?_, ?_, ?_⟩
  · intro q n hq
    cases q with
    | nil => exact hq
    | cons j q =>
        rcases reaches_get _ r j q n hq with ⟨x, hx, hq⟩
        rw [hget] at hx
        by_cases hj : j = k
        · rw [if_pos ⟨rfl, hj⟩, Option.some.injEq] at hx
          rw [← hx] at hq
          exact absurd hq (follow_byValue_ne _ w hw _ n)
        · rw [if_neg (fun h => hj h.2)] at hx
          rw [reaches_cons s r j q n x hx, ← follow_frame s _ x (hother j x hx) q]
          exact hq
  · intro n j es' hes'
    rw [hget] at hes'
    by_cases hslot : n = r ∧ j = k
    · rw [if_pos hslot, Option.some.injEq] at hes'
      rw [← hes']
      exact hw
    · rw [if_neg hslot] at hes'
      exact hown n j es' hes'
  · rw [showsTree_node_iff] at hshows ⊢
    refine ⟨rfl, fun j => ?_⟩
    have hchild : child (s.write r k w) (.ref r) (.key j) = (s.write r k w r).get? j := rfl
    rw [hchild, hget, Dict.lookup_setEntries]
    by_cases hj : j = k
    · rw [if_pos ⟨rfl, hj⟩, if_pos hj]
      exact .some (hwt _)
    · rw [if_neg (fun h => hj h.2), if_neg hj]
      have hrel := hshows.2 j
      have hchild' : child s (.ref r) (.key j) = (s r).get? j := rfl
      rw [hchild'] at hrel
      exact rel_frame s _ _ _ hrel (fun x u hx hu => showsTree_frame s _ x u (hother j x hx) hu)

end Change

end Xbench
