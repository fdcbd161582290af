import Xbench.Lib.Nested

/-!
# Merging One by One

Merging mappings into another one after the other, against merging in what they
are merged to.

The two agree where no later mapping goes where an earlier one has a leaf. The
leaf would be overwritten by the mapping alone if they are merged first, and
what it hides of the base comes back to light if they are not.

## Main definitions

* `Nested.Distinct`: No mapping has a key twice.
* `Nested.placed`: What a merge puts under a key.
* `Nested.Hidden`: A leaf of the first is where the second has a mapping.
* `Nested.Reached`: A path to something, or through a leaf.

## Theorems

* `Nested.lookup_merge`: What is under a key after a merge.
* `Nested.distinct_merge`: A merge gives no key twice.
* `Nested.leaf_of_merge`: A leaf of a merge is a leaf of one side.
* `Nested.leadsTo_merge_of_not_reached`: A merge changes nothing that it does not reach.
* `Nested.merge_assoc`: When merging is associative.
-/

namespace Xbench

namespace Nested

variable {κ σ : Type}

/-- No mapping has a key twice. -/
inductive Distinct : Nested κ σ → Prop where
  | leaf (a : σ) : Distinct (.leaf a)
  | node (entries : List (κ × Nested κ σ)) (keys : (entries.map Prod.fst).Nodup)
      (under : ∀ e ∈ entries, Distinct e.2) : Distinct (.node entries)

theorem nodup_of_distinct (entries : List (κ × Nested κ σ)) (h : (node entries).Distinct) :
    (entries.map Prod.fst).Nodup := by
  cases h with
  | node _ keys _ => exact keys

variable [DecidableEq κ]

theorem distinct_of_lookup (entries : List (κ × Nested κ σ)) (h : (node entries).Distinct) (k : κ)
    (t : Nested κ σ) (hk : entries.lookup k = some t) : t.Distinct := by
  cases h with
  | node _ _ under => exact under (k, t) (Dict.mem_of_lookup entries k t hk)

/-- What a merge puts under a key, over what was there. -/
def placed : Option (Nested κ σ) → Nested κ σ → Nested κ σ
  | some (.node inner), .node es => .node (merge inner es)
  | _, t => t

/-- A leaf of the first mapping is where the second has a mapping. -/
def Hidden (t u : Nested κ σ) : Prop :=
  ∃ q a es, t.leadsTo q = some (.leaf a) ∧ u.leadsTo q = some (.node es)

/-- A path that leads to something, or goes through a leaf. -/
def Reached (t : Nested κ σ) (q : List κ) : Prop :=
  (∃ x, t.leadsTo q = some x) ∨ ∃ p a, p <+: q ∧ t.leadsTo p = some (.leaf a)

section Merge

/-- A leaf wins over everything. -/
theorem placed_leaf (old : Option (Nested κ σ)) (a : σ) : placed old (.leaf a) = .leaf a := by
  cases old with
  | none => rfl
  | some u => cases u <;> rfl

theorem mergeKey_eq (base : List (κ × Nested κ σ)) (k : κ) (t : Nested κ σ) :
    mergeKey base k t = Dict.setEntries k (placed (base.lookup k) t) base := by
  cases t with
  | leaf a => rw [mergeKey, placed_leaf]
  | node es =>
      rw [mergeKey]
      cases base.lookup k with
      | none => rfl
      | some u => cases u <;> rfl

/-- What is under a key after a merge. -/
theorem lookup_merge (base extra : List (κ × Nested κ σ)) (h : (extra.map Prod.fst).Nodup)
    (k : κ) :
    (merge base extra).lookup k
      = match extra.lookup k with
        | some t => some (placed (base.lookup k) t)
        | none => base.lookup k := by
  induction extra generalizing base with
  | nil => rw [merge, List.lookup_nil]
  | cons e extra ih =>
      rcases e with ⟨j, t⟩
      rw [List.map_cons, List.nodup_cons] at h
      rw [merge, ih _ h.2, mergeKey_eq, Dict.lookup_setEntries, List.lookup_cons]
      by_cases hj : k = j
      · -- the key is not there a second time
        have hnone : extra.lookup j = none := by
          cases hlookup : extra.lookup j with
          | none => rfl
          | some u =>
              have hmem := Dict.mem_of_lookup extra j u hlookup
              exact absurd (List.mem_map_of_mem hmem) h.1
        rw [hj, hnone, if_pos rfl, beq_self_eq_true]
      · rw [if_neg hj, beq_eq_false_iff_ne.mpr hj]

/-- The keys after a merge are those of a union. -/
theorem keys_merge (base extra : List (κ × Nested κ σ)) (h : (base.map Prod.fst).Nodup) :
    (merge base extra).map Prod.fst = ((⟨base, h⟩ : Dict κ (Nested κ σ)).setAll extra).keys := by
  induction extra generalizing base with
  | nil => rw [merge, Dict.setAll_nil, Dict.keys]
  | cons e extra ih =>
      rcases e with ⟨k, t⟩
      have hset := Dict.nodup_setEntries k (placed (base.lookup k) t) base h
      rw [merge, mergeKey_eq, ih _ hset, Dict.setAll_cons]
      refine Dict.keys_setAll_congr _ _ _ _ ?_ rfl
      have hkeys := Dict.keys_set (⟨base, h⟩ : Dict κ (Nested κ σ)) k
      exact (hkeys (placed (base.lookup k) t)).trans (hkeys t).symm

theorem nodup_merge (base extra : List (κ × Nested κ σ)) (h : (base.map Prod.fst).Nodup) :
    ((merge base extra).map Prod.fst).Nodup := by
  rw [keys_merge base extra h]
  exact Dict.keys_nodup _

/-- Merging three mappings leaves the keys in one order. -/
theorem keys_merge_assoc (a b c : List (κ × Nested κ σ)) (ha : (a.map Prod.fst).Nodup)
    (hb : (b.map Prod.fst).Nodup) :
    (merge (merge a b) c).map Prod.fst = (merge a (merge b c)).map Prod.fst := by
  let da : Dict κ (Nested κ σ) := ⟨a, ha⟩
  let db : Dict κ (Nested κ σ) := ⟨b, hb⟩
  have hab := nodup_merge a b ha
  calc (merge (merge a b) c).map Prod.fst
      = ((⟨merge a b, hab⟩ : Dict κ (Nested κ σ)).setAll c).keys := keys_merge _ c hab
    _ = ((da.union db).setAll c).keys :=
        Dict.keys_setAll_congr _ _ _ _ (keys_merge a b ha) rfl
    _ = (da.union (db.setAll c)).keys := by rw [Dict.union_setAll]
    _ = (merge a (merge b c)).map Prod.fst := by
        refine ((keys_merge a _ ha).trans (Dict.keys_setAll_congr _ _ _ _ rfl ?_)).symm
        exact keys_merge b c hb

/-- A merge gives no key twice. -/
theorem distinct_merge (base extra : List (κ × Nested κ σ)) (hbase : (node base).Distinct)
    (hextra : (node extra).Distinct) : (node (merge base extra)).Distinct := by
  -- the induction is on the new side, which the merge goes down
  have hplaced : ∀ t : Nested κ σ, t.Distinct → ∀ es, t = node es →
      ∀ inner, (node inner).Distinct → (node (merge inner es)).Distinct := by
    intro t ht
    induction ht with
    | leaf a =>
        intro es heq
        cases heq
    | node entries keys under ih =>
        intro es heq inner hinner
        cases heq
        have hkeys := nodup_merge inner entries (nodup_of_distinct inner hinner)
        refine .node _ hkeys (fun e he => ?_)
        have hlookup := Dict.lookup_of_mem _ hkeys e.1 e.2 he
        rw [lookup_merge inner entries keys] at hlookup
        split at hlookup
        · rename_i u hu
          have hmem := Dict.mem_of_lookup entries e.1 u hu
          rw [← Option.some.inj hlookup]
          cases hold : inner.lookup e.1 with
          | none => exact under (e.1, u) hmem
          | some v =>
              cases v with
              | leaf b => exact under (e.1, u) hmem
              | node old =>
                  cases u with
                  | leaf a => exact .leaf a
                  | node fs =>
                      exact ih (e.1, node fs) hmem fs rfl old
                        (distinct_of_lookup inner hinner e.1 _ hold)
        · exact distinct_of_lookup inner hinner e.1 e.2 hlookup
  exact hplaced (node extra) hextra extra rfl base hbase

end Merge

section Paths

variable (base extra : List (κ × Nested κ σ))

theorem leadsTo_merge_cons (h : (extra.map Prod.fst).Nodup) (k : κ) (q : List κ) :
    (node (merge base extra)).leadsTo (k :: q)
      = match extra.lookup k with
        | some t => (placed (base.lookup k) t).leadsTo q
        | none => (node base).leadsTo (k :: q) := by
  rw [leadsTo_cons, leadsTo_cons, lookup_merge base extra h]
  cases extra.lookup k <;> rfl

/-- A leaf of a merge is a leaf of one side. -/
theorem leaf_of_merge (h : (node extra).Distinct) (q : List κ) (a : σ)
    (hq : (node (merge base extra)).leadsTo q = some (.leaf a)) :
    (node base).leadsTo q = some (.leaf a) ∨ (node extra).leadsTo q = some (.leaf a) := by
  induction q generalizing base extra with
  | nil =>
      rw [leadsTo_nil] at hq
      cases hq
  | cons k q ih =>
      rw [leadsTo_merge_cons base extra (nodup_of_distinct extra h)] at hq
      rw [leadsTo_cons base, leadsTo_cons extra]
      -- under the key is what the extra has, unless both have mappings there
      cases ht : extra.lookup k with
      | none =>
          rw [ht] at hq
          exact Or.inl hq
      | some t =>
          rw [ht] at hq
          cases hold : base.lookup k with
          | none =>
              rw [hold] at hq
              exact Or.inr hq
          | some u =>
              rw [hold] at hq
              cases u with
              | leaf b => exact Or.inr hq
              | node inner =>
                  cases t with
                  | leaf b => exact Or.inr hq
                  | node es => exact ih inner es (distinct_of_lookup extra h k _ ht) hq

/-- A merge changes nothing that it does not reach. -/
theorem leadsTo_merge_of_not_reached (h : (node extra).Distinct) (q : List κ)
    (hq : ¬ (node extra).Reached q) :
    (node (merge base extra)).leadsTo q = (node base).leadsTo q := by
  induction q generalizing base extra with
  | nil => exact absurd (Or.inl ⟨_, leadsTo_nil _⟩) hq
  | cons k q ih =>
      rw [leadsTo_merge_cons base extra (nodup_of_distinct extra h)]
      cases ht : extra.lookup k with
      | none => rfl
      | some t =>
          have hunder : ¬ t.Reached q := by
            rintro (⟨x, hx⟩ | ⟨p, a, hp, ha⟩)
            · refine hq (Or.inl ⟨x, ?_⟩)
              rw [leadsTo_cons, ht]
              exact hx
            · refine hq (Or.inr ⟨k :: p, a, List.cons_prefix_cons.mpr ⟨rfl, hp⟩, ?_⟩)
              rw [leadsTo_cons, ht]
              exact ha
          have hnone : t.leadsTo q = none := by
            cases hx : t.leadsTo q with
            | none => rfl
            | some x => exact absurd (Or.inl ⟨x, hx⟩) hunder
          cases t with
          | leaf a => exact absurd (Or.inr ⟨[], a, List.nil_prefix, leadsTo_nil _⟩) hunder
          | node es =>
              rw [leadsTo_cons]
              cases hold : base.lookup k with
              | none => exact hnone
              | some u =>
                  cases u with
                  | node inner => exact ih inner es (distinct_of_lookup extra h k _ ht) hunder
                  | leaf b =>
                      -- nothing is under a leaf, and nothing came under it
                      cases q with
                      | nil =>
                          rw [leadsTo_nil] at hnone
                          cases hnone
                      | cons j q => exact hnone

end Paths

section Associative

theorem hidden_under (b c : List (κ × Nested κ σ)) (k : κ) (t u : Nested κ σ)
    (ht : b.lookup k = some t) (hu : c.lookup k = some u) (h : Hidden t u) :
    Hidden (node b) (node c) := by
  rcases h with ⟨q, a, es, ha, hes⟩
  refine ⟨k :: q, a, es, ?_, ?_⟩
  · rw [leadsTo_cons, ht]
    exact ha
  · rw [leadsTo_cons, hu]
    exact hes

/-- Merging is associative, if no leaf of the second is where the third has a
    mapping. -/
theorem merge_assoc (a b c : List (κ × Nested κ σ)) (ha : (node a).Distinct)
    (hb : (node b).Distinct) (hc : (node c).Distinct) (h : ¬ Hidden (node b) (node c)) :
    merge (merge a b) c = merge a (merge b c) := by
  -- the induction is on the last mapping
  have hall : ∀ t : Nested κ σ, t.Distinct → ∀ c, t = node c → ∀ a b,
      (node a).Distinct → (node b).Distinct → ¬ Hidden (node b) t →
      merge (merge a b) c = merge a (merge b c) := by
    intro t ht
    induction ht with
    | leaf v =>
        intro c heq
        cases heq
    | node entries keys under ih =>
        intro c heq a b ha hb hhidden
        cases heq
        have hab := nodup_merge a b (nodup_of_distinct a ha)
        have hbc := nodup_merge b entries (nodup_of_distinct b hb)
        let left : Dict κ (Nested κ σ) := ⟨merge (merge a b) entries, nodup_merge _ entries hab⟩
        let right : Dict κ (Nested κ σ) :=
          ⟨merge a (merge b entries), nodup_merge a _ (nodup_of_distinct a ha)⟩
        have hkeys : left.keys = right.keys :=
          keys_merge_assoc a b entries (nodup_of_distinct a ha) (nodup_of_distinct b hb)
        have hget : ∀ k, left.get? k = right.get? k := by
          intro k
          have hleft : left.get? k = _ := lookup_merge (merge a b) entries keys k
          have hright : right.get? k = _ := lookup_merge a (merge b entries) hbc k
          rw [hleft, hright, lookup_merge b entries keys, lookup_merge a b (nodup_of_distinct b hb)]
          cases hck : entries.lookup k with
          | none => rfl
          | some u =>
              have hmem := Dict.mem_of_lookup entries k u hck
              cases u with
              | leaf v =>
                  dsimp only
                  rw [placed_leaf, placed_leaf, placed_leaf]
              | node fs =>
                  cases hbk : b.lookup k with
                  | none => rfl
                  | some v =>
                      cases v with
                      | leaf w =>
                          refine absurd (hidden_under b entries k _ _ hbk hck ?_) hhidden
                          exact ⟨[], w, fs, leadsTo_nil _, leadsTo_nil _⟩
                      | node es =>
                          have hstep : ∀ inner, (node inner).Distinct →
                              merge (merge inner es) fs = merge inner (merge es fs) :=
                            fun inner hinner => ih (k, node fs) hmem fs rfl inner es hinner
                              (distinct_of_lookup b hb k _ hbk)
                              (fun hsub => hhidden (hidden_under b entries k _ _ hbk hck hsub))
                          cases hak : a.lookup k with
                          | none => rfl
                          | some x =>
                              cases x with
                              | leaf y => rfl
                              | node inner =>
                                  dsimp only [placed]
                                  rw [hstep inner (distinct_of_lookup a ha k _ hak)]
        exact congrArg Dict.entries (Dict.ext_of_keys left right hkeys hget)
  exact hall (node c) hc c rfl a b ha hb h

end Associative

end Nested

end Xbench
