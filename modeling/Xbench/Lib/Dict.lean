import Mathlib.Data.List.Basic
import Mathlib.Data.List.Nodup

/-!
# Ordered Dictionaries

A finite map that remembers insertion order and overwrites in place, as a
Python `dict` does. Distinct keys are part of the type, so a lookup needs no
side condition and an entry list with a repeated key cannot be built.

Iteration order is the list order. Overwriting a key keeps its place; a new
key goes to the end. That is what makes `dict` iteration deterministic in the
code this models, and why neither a function nor a sorted map stands in for
it.

`setAll` writes a list of entries in order, so the last entry for a key wins;
`get?_setAll` is the form the callers use, and `union` is `setAll` of another
dictionary's entries.

## Main definitions

* `Dict`: Entries with distinct keys.
* `get?`: Looking a key up.
* `set`: Writing a key.
* `setAll`: Writing a list of entries in order.
* `union`: Python's `a | b`.
* `erase`: Removing a key.
* `mapValues`: A function on each value.
* `LastWith`: The last element of a list with its key.
* `setAllBy`: Writing values under their own keys.
* `keys`: The keys in order.
* `values`: The values in order.

## Theorems

* `get?_empty`: Nothing is found in the empty dictionary.
* `get?_set_self`: A written key reads back.
* `get?_set_other`: Other keys are untouched by a write.
* `mem_keys_set`: Writing adds exactly its key.
* `mem_keys_iff`: A key is present when its lookup succeeds.
* `mem_entries_iff`: Entries are the successful lookups.
* `get?_erase`: What is left after removing a key.
* `get?_setAll_of_notMem`: Keys outside a list of entries keep their value.
* `get?_setAll_of_nodup`: With distinct keys, every written entry reads back.
* `mem_keys_setAll`: Writing a list adds exactly its keys.
* `get?_union`: The right operand of a union wins.
* `get?_mapValues`: A function on each value goes through a lookup.
* `get?_setAllBy`: A key reads back the last value written under it.
* `mem_values_iff`: The values are those that are found.
* `ext_of_keys`: The order of the keys and the lookups determine a dictionary.
* `keys_union`: The keys of a union.
* `union_assoc`: Unions of dictionaries are associative.
-/

namespace Xbench

/-- A finite map in insertion order. -/
structure Dict (κ ν : Type) where
  entries : List (κ × ν)
  nodup : (entries.map Prod.fst).Nodup

namespace Dict

variable {κ ν : Type}

instance [DecidableEq κ] [DecidableEq ν] : DecidableEq (Dict κ ν) := fun a b =>
  decidable_of_iff (a.entries = b.entries) (by cases a; cases b; simp only [mk.injEq])

def empty : Dict κ ν :=
  ⟨[], List.nodup_nil⟩

instance : Inhabited (Dict κ ν) := ⟨empty⟩

def keys (d : Dict κ ν) : List κ :=
  d.entries.map Prod.fst

def values (d : Dict κ ν) : List ν :=
  d.entries.map Prod.snd

theorem keys_nodup (d : Dict κ ν) : d.keys.Nodup := d.nodup

@[simp] theorem keys_empty : (empty : Dict κ ν).keys = [] := rfl

variable [DecidableEq κ]

def get? (d : Dict κ ν) (k : κ) : Option ν :=
  d.entries.lookup k

/-- Overwrite in place, or append. -/
def setEntries (k : κ) (v : ν) : List (κ × ν) → List (κ × ν)
  | [] => [(k, v)]
  | e :: es => if e.1 = k then (k, v) :: es else e :: setEntries k v es

theorem map_fst_setEntries (k : κ) (v : ν) (es : List (κ × ν)) :
    (setEntries k v es).map Prod.fst
      = if k ∈ es.map Prod.fst then es.map Prod.fst else es.map Prod.fst ++ [k] := by
  induction es with
  | nil => simp only [setEntries, List.map_cons, List.map_nil, List.not_mem_nil, if_false,
      List.nil_append]
  | cons e es ih =>
      rw [setEntries]
      by_cases he : e.1 = k
      · rw [if_pos he, if_pos (by rw [List.map_cons, he]; exact List.mem_cons_self),
          List.map_cons, List.map_cons, he]
      · rw [if_neg he, List.map_cons, ih, List.map_cons]
        by_cases hk : k ∈ es.map Prod.fst
        · rw [if_pos hk, if_pos (List.mem_cons_of_mem _ hk)]
        · rw [if_neg hk, if_neg, List.cons_append]
          intro hmem
          rcases List.mem_cons.mp hmem with h | h
          · exact he h.symm
          · exact hk h

theorem nodup_setEntries (k : κ) (v : ν) (es : List (κ × ν))
    (h : (es.map Prod.fst).Nodup) : ((setEntries k v es).map Prod.fst).Nodup := by
  rw [map_fst_setEntries]
  by_cases hk : k ∈ es.map Prod.fst
  · rw [if_pos hk]
    exact h
  · rw [if_neg hk]
    exact List.nodup_append.mpr ⟨h, List.nodup_singleton k,
      fun a ha b hb => by rw [List.mem_singleton.mp hb]; exact fun hab => hk (hab ▸ ha)⟩

def set (d : Dict κ ν) (k : κ) (v : ν) : Dict κ ν :=
  ⟨setEntries k v d.entries, nodup_setEntries k v d.entries d.nodup⟩

/-- Write the entries in order. -/
def setAll (d : Dict κ ν) (es : List (κ × ν)) : Dict κ ν :=
  es.foldl (fun d e => d.set e.1 e.2) d

def ofList (es : List (κ × ν)) : Dict κ ν :=
  empty.setAll es

/-- Python's `a | b`: a new dictionary in which `b` wins. -/
def union (a b : Dict κ ν) : Dict κ ν :=
  a.setAll b.entries

@[simp] theorem get?_empty (k : κ) : (empty : Dict κ ν).get? k = none := rfl

theorem lookup_setEntries (k : κ) (v : ν) (j : κ) (es : List (κ × ν)) :
    (setEntries k v es).lookup j = if j = k then some v else es.lookup j := by
  induction es with
  | nil =>
      rw [setEntries, List.lookup_cons]
      by_cases hj : j = k
      · rw [if_pos hj, hj, beq_self_eq_true]
      · rw [if_neg hj, beq_eq_false_iff_ne.mpr hj]
  | cons e es ih =>
      rcases e with ⟨a, b⟩
      rw [setEntries]
      by_cases ha : a = k
      · rw [if_pos ha, List.lookup_cons, List.lookup_cons, ha]
        by_cases hj : j = k
        · rw [if_pos hj, hj, beq_self_eq_true]
        · rw [if_neg hj, beq_eq_false_iff_ne.mpr hj]
      · rw [if_neg ha, List.lookup_cons, List.lookup_cons, ih]
        by_cases hj : j = k
        · have hja : (j == a) = false := beq_eq_false_iff_ne.mpr (fun h => ha (h ▸ hj))
          rw [if_pos hj, if_pos hj, hja]
        · rw [if_neg hj, if_neg hj]

theorem get?_set (d : Dict κ ν) (k j : κ) (v : ν) :
    (d.set k v).get? j = if j = k then some v else d.get? j :=
  lookup_setEntries k v j d.entries

@[simp] theorem get?_set_self (d : Dict κ ν) (k : κ) (v : ν) : (d.set k v).get? k = some v := by
  rw [get?_set, if_pos rfl]

theorem get?_set_other (d : Dict κ ν) (k j : κ) (v : ν) (h : j ≠ k) :
    (d.set k v).get? j = d.get? j := by
  rw [get?_set, if_neg h]

theorem keys_set (d : Dict κ ν) (k : κ) (v : ν) :
    (d.set k v).keys = if k ∈ d.keys then d.keys else d.keys ++ [k] :=
  map_fst_setEntries k v d.entries

theorem mem_keys_set (d : Dict κ ν) (k j : κ) (v : ν) :
    j ∈ (d.set k v).keys ↔ j = k ∨ j ∈ d.keys := by
  rw [keys_set]
  by_cases hk : k ∈ d.keys
  · rw [if_pos hk]
    exact ⟨Or.inr, fun h => h.elim (fun hj => hj ▸ hk) id⟩
  · rw [if_neg hk, List.mem_append, List.mem_singleton, or_comm]

/-- Python's `del d[k]`, doing nothing for a missing key. -/
def erase (d : Dict κ ν) (k : κ) : Dict κ ν :=
  ⟨d.entries.filter (fun e => decide (e.1 ≠ k)),
    d.nodup.sublist (List.filter_sublist.map Prod.fst)⟩

theorem mem_keys_iff (d : Dict κ ν) (k : κ) : k ∈ d.keys ↔ (d.get? k).isSome = true := by
  rw [keys, get?, Option.isSome_iff_ne_none, ne_eq, List.lookup_eq_none_iff]
  constructor
  · intro hk hall
    rcases List.mem_map.mp hk with ⟨e, he, hek⟩
    have hne := hall e he
    rw [hek] at hne
    exact bne_iff_ne.mp hne rfl
  · intro hall
    by_contra hk
    refine hall (fun e he => ?_)
    exact bne_iff_ne.mpr (fun hke => hk (List.mem_map.mpr ⟨e, he, hke.symm⟩))

theorem lookup_of_mem (es : List (κ × ν)) (h : (es.map Prod.fst).Nodup) (k : κ) (v : ν)
    (hm : (k, v) ∈ es) : es.lookup k = some v := by
  induction es with
  | nil => exact absurd hm List.not_mem_nil
  | cons e es ih =>
      rcases e with ⟨a, b⟩
      rw [List.map_cons, List.nodup_cons] at h
      rw [List.lookup_cons]
      rcases List.mem_cons.mp hm with he | he
      · rcases Prod.mk.inj he with ⟨hka, hvb⟩
        rw [hka, beq_self_eq_true, hvb]
      · have hne : k ≠ a := fun hka => h.1 (List.mem_map.mpr ⟨(k, v), he, hka⟩)
        rw [beq_eq_false_iff_ne.mpr hne]
        exact ih h.2 he

theorem mem_of_lookup (es : List (κ × ν)) (k : κ) (v : ν) (h : es.lookup k = some v) :
    (k, v) ∈ es := by
  induction es with
  | nil => exact absurd h (by simp only [List.lookup_nil, reduceCtorEq, not_false_eq_true])
  | cons e es ih =>
      rcases e with ⟨a, b⟩
      rw [List.lookup_cons] at h
      by_cases hka : k = a
      · rw [hka, beq_self_eq_true] at h
        rw [hka, ← Option.some.inj h]
        exact List.mem_cons_self
      · rw [beq_eq_false_iff_ne.mpr hka] at h
        exact List.mem_cons_of_mem _ (ih h)

theorem mem_entries_iff (d : Dict κ ν) (k : κ) (v : ν) :
    (k, v) ∈ d.entries ↔ d.get? k = some v :=
  ⟨lookup_of_mem d.entries d.nodup k v, mem_of_lookup d.entries k v⟩

theorem get?_erase (d : Dict κ ν) (k j : κ) (v : ν) :
    (d.erase k).get? j = some v ↔ j ≠ k ∧ d.get? j = some v := by
  rw [← mem_entries_iff, ← mem_entries_iff, erase, List.mem_filter, decide_eq_true_iff, and_comm]

@[simp] theorem setAll_nil (d : Dict κ ν) : d.setAll [] = d := rfl

theorem setAll_cons (d : Dict κ ν) (e : κ × ν) (es : List (κ × ν)) :
    d.setAll (e :: es) = (d.set e.1 e.2).setAll es := rfl

theorem setAll_append (d : Dict κ ν) (es es' : List (κ × ν)) :
    d.setAll (es ++ es') = (d.setAll es).setAll es' :=
  List.foldl_append

theorem get?_setAll_of_notMem (d : Dict κ ν) (es : List (κ × ν)) (k : κ)
    (h : k ∉ es.map Prod.fst) : (d.setAll es).get? k = d.get? k := by
  induction es generalizing d with
  | nil => rfl
  | cons e es ih =>
      rw [List.map_cons, List.mem_cons, not_or] at h
      rw [setAll_cons, ih _ h.2, get?_set_other _ _ _ _ h.1]

/-- The last entry written under a key is the one that reads back. -/
theorem get?_setAll_last (d : Dict κ ν) (pre post : List (κ × ν)) (k : κ) (v : ν)
    (h : k ∉ post.map Prod.fst) : (d.setAll (pre ++ (k, v) :: post)).get? k = some v := by
  rw [setAll_append, setAll_cons, get?_setAll_of_notMem _ _ _ h, get?_set_self]

theorem get?_setAll_of_nodup (d : Dict κ ν) (es : List (κ × ν)) (h : (es.map Prod.fst).Nodup)
    (k : κ) (v : ν) (hm : (k, v) ∈ es) : (d.setAll es).get? k = some v := by
  rcases List.mem_iff_append.mp hm with ⟨pre, post, rfl⟩
  rw [List.map_append, List.map_cons, List.nodup_append] at h
  exact get?_setAll_last d pre post k v (List.nodup_cons.mp h.2.1).1

/-- What is written later reads over what was there. -/
theorem get?_setAll (d : Dict κ ν) (es : List (κ × ν)) (k : κ) :
    (d.setAll es).get? k = ((ofList es).get? k).or (d.get? k) := by
  induction es generalizing d with
  | nil => rfl
  | cons e es ih =>
      rw [ofList, setAll_cons, setAll_cons, ih, ih (empty.set e.1 e.2), get?_set, get?_set,
        get?_empty]
      by_cases hk : k = e.1
      · rw [if_pos hk, if_pos hk, Option.or_assoc, Option.some_or]
      · rw [if_neg hk, if_neg hk, Option.or_none]

theorem get?_ofList_cons (e : κ × ν) (es : List (κ × ν)) (k : κ) :
    (ofList (e :: es)).get? k
      = ((ofList es).get? k).or (if k = e.1 then some e.2 else none) := by
  rw [ofList, setAll_cons, get?_setAll, get?_set, get?_empty]

theorem get?_ofList_of_nodup (es : List (κ × ν)) (h : (es.map Prod.fst).Nodup) (k : κ) :
    (ofList es).get? k = es.lookup k := by
  induction es with
  | nil => rfl
  | cons e es ih =>
      rcases e with ⟨j, v⟩
      rw [List.map_cons, List.nodup_cons] at h
      rw [get?_ofList_cons, ih h.2]
      by_cases hk : k = j
      · subst hk
        have hgone : es.lookup k = none := by
          rw [List.lookup_eq_none_iff]
          intro e he
          rw [bne_iff_ne]
          exact fun heq => h.1 (List.mem_map.mpr ⟨e, he, heq.symm⟩)
        rw [hgone, Option.none_or, if_pos rfl, List.lookup_cons_self]
      · rw [if_neg hk, Option.or_none, List.lookup_cons, beq_eq_false_iff_ne.mpr hk]

theorem setEntries_of_notMem (k : κ) (v : ν) (es : List (κ × ν)) (h : k ∉ es.map Prod.fst) :
    setEntries k v es = es ++ [(k, v)] := by
  induction es with
  | nil => rfl
  | cons e es ih =>
      rw [List.map_cons, List.mem_cons, not_or] at h
      rw [setEntries, if_neg (Ne.symm h.1), ih h.2, List.cons_append]

/-- New entries are appended in their order. -/
theorem entries_setAll (d : Dict κ ν) (es : List (κ × ν))
    (h : ((d.entries ++ es).map Prod.fst).Nodup) : (d.setAll es).entries = d.entries ++ es := by
  induction es generalizing d with
  | nil => rw [setAll_nil, List.append_nil]
  | cons e es ih =>
      have hnew : e.1 ∉ d.entries.map Prod.fst := by
        rw [List.map_append, List.nodup_append, List.map_cons] at h
        exact fun hmem => h.2.2 _ hmem _ List.mem_cons_self rfl
      have hset : (d.set e.1 e.2).entries = d.entries ++ [e] :=
        setEntries_of_notMem e.1 e.2 d.entries hnew
      have happend : (d.set e.1 e.2).entries ++ es = d.entries ++ e :: es := by
        rw [hset, List.append_assoc, List.singleton_append]
      rw [setAll_cons, ih (d.set e.1 e.2) (by rw [happend]; exact h), happend]

omit [DecidableEq κ] in
theorem ext_of_entries (d d' : Dict κ ν) (h : d.entries = d'.entries) : d = d' := by
  cases d
  cases d'
  rw [mk.injEq]
  exact h

/-- A dictionary is what its entries make. -/
theorem ofList_entries (d : Dict κ ν) : ofList d.entries = d := by
  refine ext_of_entries _ _ ?_
  exact entries_setAll empty d.entries d.nodup

theorem mem_keys_setAll (d : Dict κ ν) (es : List (κ × ν)) (k : κ) :
    k ∈ (d.setAll es).keys ↔ k ∈ es.map Prod.fst ∨ k ∈ d.keys := by
  induction es generalizing d with
  | nil => simp only [setAll_nil, List.map_nil, List.not_mem_nil, false_or]
  | cons e es ih =>
      rw [setAll_cons, ih, mem_keys_set, List.map_cons, List.mem_cons]
      tauto

theorem get?_union (a b : Dict κ ν) (k : κ) :
    (a.union b).get? k = (b.get? k).or (a.get? k) := by
  cases hb : b.get? k with
  | none =>
      have hk : k ∉ b.entries.map Prod.fst := by
        intro hm
        have := (mem_keys_iff b k).mp hm
        rw [hb] at this
        exact nomatch this
      rw [union, get?_setAll_of_notMem a b.entries k hk, Option.none_or]
  | some v =>
      rw [union, get?_setAll_of_nodup a b.entries b.nodup k v ((mem_entries_iff b k v).mpr hb),
        Option.some_or]

/-- A function on each value. -/
def mapValues {ξ : Type} (f : ν → ξ) (d : Dict κ ν) : Dict κ ξ :=
  ⟨d.entries.map (fun e => (e.1, f e.2)), by
    rw [List.map_map]
    exact d.nodup⟩

omit [DecidableEq κ] in
theorem keys_mapValues {ξ : Type} (f : ν → ξ) (d : Dict κ ν) :
    (d.mapValues f).keys = d.keys := by
  rw [keys, keys, mapValues, List.map_map]
  rfl

theorem lookup_mapValues {ξ : Type} (f : ν → ξ) (es : List (κ × ν)) (k : κ) :
    (es.map (fun e => (e.1, f e.2))).lookup k = (es.lookup k).map f := by
  induction es with
  | nil => rfl
  | cons e es ih =>
      rw [List.map_cons, List.lookup_cons, List.lookup_cons]
      by_cases hk : k = e.1
      · rw [beq_iff_eq.mpr hk]
        rfl
      · rw [beq_eq_false_iff_ne.mpr hk, ih]

theorem get?_mapValues {ξ : Type} (f : ν → ξ) (d : Dict κ ν) (k : κ) :
    (d.mapValues f).get? k = (d.get? k).map f :=
  lookup_mapValues f d.entries k

theorem setEntries_map {ξ : Type} (f : ν → ξ) (k : κ) (v : ν) (es : List (κ × ν)) :
    setEntries k (f v) (es.map (fun e => (e.1, f e.2)))
      = (setEntries k v es).map (fun e => (e.1, f e.2)) := by
  induction es with
  | nil => rfl
  | cons e es ih =>
      rw [List.map_cons, setEntries, setEntries, ih]
      by_cases hk : e.1 = k
      · rw [if_pos hk, if_pos hk]
        rfl
      · rw [if_neg hk, if_neg hk]
        rfl

omit [DecidableEq κ] in
theorem mapValues_mapValues {ξ ζ : Type} (f : ν → ξ) (g : ξ → ζ) (d : Dict κ ν) :
    (d.mapValues f).mapValues g = d.mapValues (fun v => g (f v)) := by
  apply ext_of_entries
  change (d.entries.map _).map _ = d.entries.map _
  rw [List.map_map]
  rfl

theorem mapValues_set {ξ : Type} (f : ν → ξ) (d : Dict κ ν) (k : κ) (v : ν) :
    (d.set k v).mapValues f = (d.mapValues f).set k (f v) :=
  ext_of_entries _ _ (setEntries_map f k v d.entries).symm

omit [DecidableEq κ] in
theorem mapValues_eq_self_iff (f : ν → ν) (d : Dict κ ν) :
    d.mapValues f = d ↔ ∀ e ∈ d.entries, f e.2 = e.2 := by
  have hentries : d.mapValues f = d ↔ d.entries.map (fun e => (e.1, f e.2)) = d.entries.map id := by
    rw [List.map_id]
    exact ⟨fun h => congrArg entries h, fun h => ext_of_entries _ _ h⟩
  rw [hentries, List.map_inj_left]
  exact forall₂_congr (fun e _ => by rw [id, Prod.ext_iff]; exact ⟨And.right, fun h => ⟨rfl, h⟩⟩)

/-- The last element of the list with its key. -/
def LastWith (key : ν → κ) (v : ν) (vs : List ν) : Prop :=
  ∃ pre post, vs = pre ++ v :: post ∧ ∀ w ∈ post, key w ≠ key v

omit [DecidableEq κ] in
theorem lastWith_cons (key : ν → κ) (v a : ν) (vs : List ν) :
    LastWith key v (a :: vs) ↔ (v = a ∧ ∀ w ∈ vs, key w ≠ key v) ∨ LastWith key v vs := by
  constructor
  · rintro ⟨pre, post, hvs, hpost⟩
    cases pre with
    | nil =>
        rcases List.cons.inj hvs with ⟨rfl, rfl⟩
        exact Or.inl ⟨rfl, hpost⟩
    | cons b pre => exact Or.inr ⟨pre, post, (List.cons.inj hvs).2, hpost⟩
  · rintro (⟨rfl, hvs⟩ | ⟨pre, post, rfl, hpost⟩)
    · exact ⟨[], vs, rfl, hvs⟩
    · exact ⟨a :: pre, post, rfl, hpost⟩

omit [DecidableEq κ] in
theorem LastWith.mem (key : ν → κ) (v : ν) (vs : List ν) (h : LastWith key v vs) : v ∈ vs := by
  rcases h with ⟨pre, post, rfl, _⟩
  exact List.mem_append_right pre List.mem_cons_self

omit [DecidableEq κ] in
/-- The only element with its key is the last with it. -/
theorem lastWith_of_unique (key : ν → κ) (v : ν) (vs : List ν) (hv : v ∈ vs)
    (h : ∀ w ∈ vs, key w = key v → w = v) : LastWith key v vs := by
  induction vs with
  | nil => exact absurd hv List.not_mem_nil
  | cons a vs ih =>
      rw [lastWith_cons]
      by_cases hmem : v ∈ vs
      · exact Or.inr (ih hmem (fun w hw => h w (List.mem_cons_of_mem a hw)))
      · have hva : v = a := (List.mem_cons.mp hv).resolve_right hmem
        refine Or.inl ⟨hva, fun w hw hkey => hmem ?_⟩
        rw [← h w (List.mem_cons_of_mem a hw) hkey]
        exact hw

/-- Write values under their own keys, in order. -/
def setAllBy (key : ν → κ) (d : Dict κ ν) (vs : List ν) : Dict κ ν :=
  d.setAll (vs.map (fun v => (key v, v)))

theorem setAllBy_cons (key : ν → κ) (d : Dict κ ν) (v : ν) (vs : List ν) :
    d.setAllBy key (v :: vs) = (d.set (key v) v).setAllBy key vs := rfl

theorem setAllBy_append (key : ν → κ) (d : Dict κ ν) (vs vs' : List ν) :
    d.setAllBy key (vs ++ vs') = (d.setAllBy key vs).setAllBy key vs' := by
  rw [setAllBy, List.map_append, setAll_append]
  rfl

/-- A key reads back the last value written under it, or what was there. -/
theorem get?_setAllBy (key : ν → κ) (d : Dict κ ν) (vs : List ν) (k : κ) (v : ν) :
    (d.setAllBy key vs).get? k = some v
      ↔ (key v = k ∧ LastWith key v vs) ∨ ((∀ w ∈ vs, key w ≠ k) ∧ d.get? k = some v) := by
  induction vs generalizing d with
  | nil =>
      constructor
      · exact fun h => Or.inr ⟨fun w hw => absurd hw List.not_mem_nil, h⟩
      · rintro (⟨_, hlast⟩ | ⟨_, h⟩)
        · exact absurd (hlast.mem) List.not_mem_nil
        · exact h
  | cons a vs ih =>
      rw [setAllBy_cons, ih, lastWith_cons, get?_set]
      -- the first value goes under the key, where a later one may go over it
      by_cases hk : k = key a
      · rw [if_pos hk]
        constructor
        · rintro (⟨hkey, hlast⟩ | ⟨hvs, hav⟩)
          · exact Or.inl ⟨hkey, Or.inr hlast⟩
          · have hva : v = a := (Option.some.inj hav).symm
            refine Or.inl ⟨by rw [hva, hk], Or.inl ⟨hva, ?_⟩⟩
            rw [hva, ← hk]
            exact hvs
        · rintro (⟨hkey, ⟨hva, hvs⟩ | hlast⟩ | ⟨hvs, _⟩)
          · exact Or.inr ⟨fun w hw => hkey ▸ hvs w hw, by rw [hva]⟩
          · exact Or.inl ⟨hkey, hlast⟩
          · exact absurd hk.symm (hvs a List.mem_cons_self)
      · rw [if_neg hk]
        constructor
        · rintro (⟨hkey, hlast⟩ | ⟨hvs, hget⟩)
          · exact Or.inl ⟨hkey, Or.inr hlast⟩
          · refine Or.inr ⟨fun w hw => ?_, hget⟩
            rcases List.mem_cons.mp hw with rfl | hw
            · exact fun h => hk h.symm
            · exact hvs w hw
        · rintro (⟨hkey, ⟨hva, _⟩ | hlast⟩ | ⟨hvs, hget⟩)
          · exact absurd (hva ▸ hkey).symm hk
          · exact Or.inl ⟨hkey, hlast⟩
          · exact Or.inr ⟨fun w hw => hvs w (List.mem_cons_of_mem a hw), hget⟩

theorem mem_keys_setAllBy (key : ν → κ) (d : Dict κ ν) (vs : List ν) (k : κ) :
    k ∈ (d.setAllBy key vs).keys ↔ (∃ v ∈ vs, key v = k) ∨ k ∈ d.keys := by
  rw [setAllBy, mem_keys_setAll, List.map_map, List.mem_map]
  rfl

theorem mem_values_iff (d : Dict κ ν) (v : ν) : v ∈ d.values ↔ ∃ k, d.get? k = some v := by
  rw [values, List.mem_map]
  constructor
  · rintro ⟨e, he, rfl⟩
    exact ⟨e.1, (mem_entries_iff d e.1 e.2).mp he⟩
  · rintro ⟨k, hk⟩
    exact ⟨(k, v), (mem_entries_iff d k v).mpr hk, rfl⟩

/-- The entries are what the keys read back. -/
theorem entries_eq (d : Dict κ ν) :
    d.entries = d.keys.filterMap (fun k => (d.get? k).map (fun v => (k, v))) := by
  have hread : ∀ e ∈ d.entries,
      ((fun k => (d.get? k).map (fun v => (k, v))) ∘ Prod.fst) e = some e := by
    intro e he
    rw [Function.comp_apply, (mem_entries_iff d e.1 e.2).mp he, Option.map_some]
  rw [keys, List.filterMap_map, List.filterMap_congr hread, List.filterMap_some]

/-- Keys in the same order and the same lookups make the same dictionary. -/
theorem ext_of_keys (d d' : Dict κ ν) (hkeys : d.keys = d'.keys)
    (hget : ∀ k, d.get? k = d'.get? k) : d = d' := by
  have hentries : d.entries = d'.entries := by
    rw [entries_eq d, entries_eq d', hkeys]
    exact List.filterMap_congr (fun k _ => by rw [hget])
  cases d
  cases d'
  simp only [mk.injEq]
  exact hentries

/-- Writing keys that are there adds none. -/
theorem keys_setAllBy (key : ν → κ) (d : Dict κ ν) (vs : List ν)
    (h : ∀ v ∈ vs, key v ∈ d.keys) : (d.setAllBy key vs).keys = d.keys := by
  induction vs generalizing d with
  | nil => rfl
  | cons v vs ih =>
      have hset : (d.set (key v) v).keys = d.keys := by
        rw [keys_set, if_pos (h v List.mem_cons_self)]
      rw [setAllBy_cons, ih, hset]
      intro w hw
      rw [hset]
      exact h w (List.mem_cons_of_mem v hw)

theorem keys_setAll_congr (d d' : Dict κ ν) (es es' : List (κ × ν)) (hd : d.keys = d'.keys)
    (hes : es.map Prod.fst = es'.map Prod.fst) : (d.setAll es).keys = (d'.setAll es').keys := by
  induction es generalizing d d' es' with
  | nil =>
      rw [List.map_nil, eq_comm, List.map_eq_nil_iff] at hes
      rw [hes]
      exact hd
  | cons e es ih =>
      cases es' with
      | nil => cases hes
      | cons e' es' =>
          rw [List.map_cons, List.map_cons, List.cons.injEq] at hes
          rw [setAll_cons, setAll_cons]
          refine ih _ _ es' ?_ hes.2
          rw [keys_set, keys_set, hd, hes.1]

theorem mem_keys_union (a b : Dict κ ν) (k : κ) :
    k ∈ (a.union b).keys ↔ k ∈ b.keys ∨ k ∈ a.keys :=
  mem_keys_setAll a b.entries k

/-- The keys of a union: those of the left operand, and what the right one adds. -/
theorem keys_union (d m : Dict κ ν) :
    (d.union m).keys = d.keys ++ m.keys.filter (fun k => k ∉ d.keys) := by
  have hrun : ∀ (es : List (κ × ν)) (d : Dict κ ν), (es.map Prod.fst).Nodup →
      (d.setAll es).keys = d.keys ++ (es.map Prod.fst).filter (fun k => k ∉ d.keys) := by
    intro es
    induction es with
    | nil =>
        intro d _
        rw [setAll_nil, List.map_nil, List.filter_nil, List.append_nil]
    | cons e es ih =>
        intro d hnodup
        rw [List.map_cons, List.nodup_cons] at hnodup
        rw [setAll_cons, ih _ hnodup.2, keys_set, List.map_cons, List.filter_cons]
        by_cases hk : e.1 ∈ d.keys
        · rw [if_pos hk, if_neg (by simpa using hk)]
        · rw [if_neg hk, if_pos (by simpa using hk), List.append_assoc, List.singleton_append]
          congr 2
          refine List.filter_congr (fun j hj => ?_)
          have hne : j ≠ e.1 := fun heq => hnodup.1 (heq ▸ hj)
          simp [hne]
  exact hrun m.entries d m.nodup

/-- Writing into the right operand writes into the union. -/
theorem union_set (a b : Dict κ ν) (k : κ) (v : ν) :
    a.union (b.set k v) = (a.union b).set k v := by
  by_cases hk : k ∈ b.keys
  · refine ext_of_keys _ _ ?_ (fun j => ?_)
    · have hkeys : (b.set k v).keys = b.keys := by rw [keys_set, if_pos hk]
      rw [keys_set, if_pos ((mem_keys_union a b k).mpr (Or.inl hk))]
      exact keys_setAll_congr a a _ _ rfl hkeys
    · rw [get?_union, get?_set, get?_set, get?_union]
      by_cases hj : j = k
      · rw [if_pos hj, if_pos hj, Option.some_or]
      · rw [if_neg hj, if_neg hj]
  · have hentries : (b.set k v).entries = b.entries ++ [(k, v)] :=
      setEntries_of_notMem k v b.entries hk
    rw [union, hentries, setAll_append]
    rfl

theorem union_setAll (a b : Dict κ ν) (es : List (κ × ν)) :
    a.union (b.setAll es) = (a.union b).setAll es := by
  induction es generalizing b with
  | nil => rfl
  | cons e es ih => rw [setAll_cons, setAll_cons, ih, union_set]

/-- Unions of dictionaries are associative. -/
theorem union_assoc (a b c : Dict κ ν) : (a.union b).union c = a.union (b.union c) :=
  (union_setAll a b c.entries).symm

end Dict

end Xbench
