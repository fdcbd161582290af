import Xbench.Lib.Objects

/-!
# Mappings up to the Order of Keys

Nested mappings kept by value, and what the order of their keys changes.

Two of them are the same up to the order of keys when they show the same at the
end of every path. A path is put in front by moving its keys to the front of the
mappings on the way, which shows the same.

## Main definitions

* `Tidy`: Mappings by value, in which no key is twice.
* `Same`: Two cells show the same at every path.
* `putFirst`: An entry in front of the others.
* `leading`: A path in front.
* `reach`: The cell that keys lead to.

## Theorems

* `head?_flatMap_split`: Where the first element of some lists is.
* `split_cases`: Two places of a list.
* `lookups_of_same`: The same mappings have the same under every key.
* `same_of_lookups`: And the other way round.
* `same_leading`: Putting a path in front shows the same.
* `reach_leading`: What the path leads to.
* `reach_same`: Keys lead to the same in the same cells.
-/

namespace Xbench

variable {ρ σ : Type}

/-- A cell by value, in whose mappings no key is twice. -/
inductive Tidy : Cell ρ σ → Prop where
  | scalar (a : σ) : Tidy (.scalar a)
  | list (items : List (Cell ρ σ)) (under : ∀ c ∈ items, Tidy c) : Tidy (.list items)
  | own (entries : List (String × Cell ρ σ)) (keys : (entries.map Prod.fst).Nodup)
      (under : ∀ e ∈ entries, Tidy e.2) : Tidy (.own entries)

/-- Two cells show the same at the end of every path. -/
def Same (c c' : Cell ρ σ) : Prop :=
  ∀ (s : Store ρ σ) (q : List Step), look s c q = look s c' q

/-- A store in which no object has an entry. -/
def noObjects : Store ρ σ := fun _ => Dict.empty

/-- An entry in front of the others. -/
def putFirst {ν : Type} (k : String) (x : ν) (es : List (String × ν)) : List (String × ν) :=
  (k, x) :: es.filter (fun e => e.1 ≠ k)

/-- The keys of a path are put in front, each in its mapping. -/
def leading : List String → Cell ρ σ → Cell ρ σ
  | k :: p, .own es =>
      match es.lookup k with
      | some x => .own (putFirst k (leading p x) es)
      | none => .own es
  | _, c => c

/-- The cell that keys lead to. -/
def reach : List String → Cell ρ σ → Option (Cell ρ σ)
  | [], c => some c
  | k :: p, .own es => (es.lookup k).bind (reach p)
  | _ :: _, _ => none

section Tidy

theorem nodup_of_tidy (es : List (String × Cell ρ σ)) (h : Tidy (.own es)) :
    (es.map Prod.fst).Nodup := by
  cases h with
  | own _ keys _ => exact keys

theorem tidy_of_mem (es : List (String × Cell ρ σ)) (h : Tidy (.own es))
    (e : String × Cell ρ σ) (he : e ∈ es) : Tidy e.2 := by
  cases h with
  | own _ _ under => exact under e he

theorem tidy_of_lookup (es : List (String × Cell ρ σ)) (h : Tidy (.own es)) (k : String)
    (x : Cell ρ σ) (hk : es.lookup k = some x) : Tidy x :=
  tidy_of_mem es h (k, x) (Dict.mem_of_lookup es k x hk)

theorem tidy_reach (p : List String) (c x : Cell ρ σ) (hc : Tidy c) (h : reach p c = some x) :
    Tidy x := by
  induction p generalizing c with
  | nil =>
      rw [reach, Option.some.injEq] at h
      rw [← h]
      exact hc
  | cons k p ih =>
      cases c with
      | own es =>
          rw [reach] at h
          rcases Option.bind_eq_some_iff.mp h with ⟨y, hy, h⟩
          exact ih y (tidy_of_lookup es hc k y hy) h
      | scalar a => cases h
      | list items => cases h
      | ref r => cases h

end Tidy

section First

variable {ν : Type} (k : String) (x : ν) (es : List (String × ν))

theorem lookup_putFirst (j : String) :
    (putFirst k x es).lookup j = if j = k then some x else es.lookup j := by
  rw [putFirst, List.lookup_cons]
  by_cases hj : j = k
  · rw [if_pos hj, beq_iff_eq.mpr hj]
  · rw [if_neg hj, beq_eq_false_iff_ne.mpr hj]
    induction es with
    | nil => rfl
    | cons e es ih =>
        rcases e with ⟨i, y⟩
        rw [List.filter_cons, List.lookup_cons]
        by_cases hi : i = k
        · rw [if_neg (by simpa using hi), beq_eq_false_iff_ne.mpr (fun h => hj (h.trans hi))]
          exact ih
        · rw [if_pos (by simpa using hi), List.lookup_cons]
          cases (j == i) with
          | true => rfl
          | false => exact ih

theorem nodup_putFirst (h : (es.map Prod.fst).Nodup) :
    ((putFirst k x es).map Prod.fst).Nodup := by
  rw [putFirst, List.map_cons, List.nodup_cons]
  refine ⟨fun hmem => ?_, h.sublist (List.filter_sublist.map Prod.fst)⟩
  rcases List.mem_map.mp hmem with ⟨e, he, hek⟩
  have hne := (List.mem_filter.mp he).2
  rw [decide_eq_true_eq] at hne
  exact hne hek

end First

section Lists

/-- The first of some lists is the first of one of them, with nothing in those
    before. -/
theorem head?_flatMap_split {α β : Type} (l : List α) (f : α → List β) (v : β)
    (h : (l.flatMap f).head? = some v) :
    ∃ front a back, l = front ++ a :: back ∧ (∀ b ∈ front, f b = []) ∧ (f a).head? = some v := by
  induction l with
  | nil => cases h
  | cons a l ih =>
      cases ha : f a with
      | nil =>
          rw [List.flatMap_cons, ha, List.nil_append] at h
          rcases ih h with ⟨front, b, back, rfl, hfront, hb⟩
          exact ⟨a :: front, b, back, rfl, List.forall_mem_cons.mpr ⟨ha, hfront⟩, hb⟩
      | cons w ws =>
          rw [List.flatMap_cons, ha] at h
          refine ⟨[], a, l, rfl, fun b hb => absurd hb List.not_mem_nil, ?_⟩
          rw [ha]
          exact h

/-- Two places of a list are the same, or one comes before the other. -/
theorem split_cases {α : Type} (front front' back back' : List α) (a b : α)
    (h : front ++ a :: back = front' ++ b :: back') : a = b ∨ b ∈ front ∨ a ∈ front' := by
  induction front generalizing front' with
  | nil =>
      cases front' with
      | nil => exact Or.inl (List.cons.inj h).1
      | cons x front' =>
          rw [(List.cons.inj h).1]
          exact Or.inr (Or.inr List.mem_cons_self)
  | cons x front ih =>
      cases front' with
      | nil =>
          rw [← (List.cons.inj h).1]
          exact Or.inr (Or.inl List.mem_cons_self)
      | cons x' front' =>
          rcases ih front' (List.cons.inj h).2 with heq | hmem | hmem
          · exact Or.inl heq
          · exact Or.inr (Or.inl (List.mem_cons_of_mem x hmem))
          · exact Or.inr (Or.inr (List.mem_cons_of_mem x' hmem))

end Lists

section Same

theorem rel_none {α : Type} (R : α → α → Prop) (o : Option α) (h : Option.Rel R none o) :
    o = none := by
  cases h
  rfl

theorem rel_some {α : Type} (R : α → α → Prop) (x : α) (o : Option α)
    (h : Option.Rel R (some x) o) : ∃ x', o = some x' ∧ R x x' := by
  cases h with
  | some hx => exact ⟨_, rfl, hx⟩

theorem same_refl (c : Cell ρ σ) : Same c c := fun _ _ => rfl

theorem same_symm (c c' : Cell ρ σ) (h : Same c c') : Same c' c := fun s q => (h s q).symm

theorem same_trans (c c' c'' : Cell ρ σ) (h : Same c c') (h' : Same c' c'') : Same c c'' :=
  fun s q => (h s q).trans (h' s q)

theorem look_own_key (s : Store ρ σ) (es : List (String × Cell ρ σ)) (k : String)
    (q : List Step) :
    look s (.own es) (.key k :: q) = (es.lookup k).bind (fun x => look s x q) := by
  have hchild : child s (.own es) (.key k) = es.lookup k := rfl
  cases hk : es.lookup k with
  | none =>
      rw [look, follow_cons_none s _ _ q (hchild.trans hk)]
      rfl
  | some x =>
      rw [look, follow_cons s _ x _ q (hchild.trans hk)]
      rfl

/-- The same mappings have the same under every key. -/
theorem lookups_of_same (es es' : List (String × Cell ρ σ))
    (h : Same (.own es) (.own es')) (k : String) :
    Option.Rel Same (es.lookup k) (es'.lookup k) := by
  have hlook := fun s q => h s (.key k :: q)
  simp only [look_own_key] at hlook
  cases hk : es.lookup k with
  | none =>
      cases hk' : es'.lookup k with
      | none => exact .none
      | some x' =>
          rw [hk, hk'] at hlook
          cases hlook noObjects []
  | some x =>
      cases hk' : es'.lookup k with
      | none =>
          rw [hk, hk'] at hlook
          cases hlook noObjects []
      | some x' =>
          rw [hk, hk'] at hlook
          exact .some hlook

theorem same_of_lookups (es es' : List (String × Cell ρ σ))
    (h : ∀ k, Option.Rel Same (es.lookup k) (es'.lookup k)) : Same (.own es) (.own es') := by
  intro s q
  cases q with
  | nil => rfl
  | cons st q =>
      cases st with
      | item i => rfl
      | key k =>
          rw [look_own_key, look_own_key]
          have hrel := h k
          cases hk : es.lookup k with
          | none =>
              rw [hk] at hrel
              rw [rel_none _ _ hrel]
          | some x =>
              rw [hk] at hrel
              rcases rel_some _ x _ hrel with ⟨x', hx', hsame⟩
              rw [hx']
              exact hsame s q

theorem same_own (es : List (String × Cell ρ σ)) (c' : Cell ρ σ) (hc' : Tidy c')
    (h : Same (.own es) c') : ∃ es', c' = .own es' := by
  cases hc' with
  | own es' _ _ => exact ⟨es', rfl⟩
  | scalar a => cases h noObjects []
  | list items _ => cases h noObjects []

theorem same_scalar (a : σ) (c' : Cell ρ σ) (h : Same (.scalar a) c') : c' = .scalar a := by
  cases c' with
  | scalar b =>
      have hshape := h noObjects []
      cases hshape
      rfl
  | list items => cases h noObjects []
  | own es => cases h noObjects []
  | ref r => cases h noObjects []

theorem same_list (items : List (Cell ρ σ)) (c' : Cell ρ σ) (h : Same (.list items) c') :
    ∃ items', c' = .list items' ∧ (items = [] ↔ items' = []) := by
  cases c' with
  | list items' =>
      refine ⟨items', rfl, ?_⟩
      have hfirst := h noObjects [.item 0]
      cases items with
      | nil =>
          cases items' with
          | nil => exact Iff.rfl
          | cons x' items' => cases hfirst
      | cons x items =>
          cases items' with
          | nil => cases hfirst
          | cons x' items' => simp
  | scalar b => cases h noObjects []
  | own es => cases h noObjects []
  | ref r => cases h noObjects []

/-- Keys lead to the same in the same cells. -/
theorem reach_same (p : List String) (c c' : Cell ρ σ) (hc : Tidy c) (hc' : Tidy c')
    (h : Same c c') : Option.Rel Same (reach p c) (reach p c') := by
  induction p generalizing c c' with
  | nil => exact .some h
  | cons k p ih =>
      cases hc with
      | own es keys under =>
          rcases same_own es c' hc' h with ⟨es', rfl⟩
          rw [reach, reach]
          have hrel := lookups_of_same es es' h k
          cases hk : es.lookup k with
          | none =>
              rw [hk] at hrel
              rw [rel_none _ _ hrel]
              exact .none
          | some x =>
              rw [hk] at hrel
              rcases rel_some _ x _ hrel with ⟨x', hk', hsame⟩
              rw [hk']
              exact ih x x' (under (k, x) (Dict.mem_of_lookup es k x hk))
                (tidy_of_lookup es' hc' k x' hk') hsame
      | scalar a =>
          rw [same_scalar a c' h]
          exact .none
      | list items under =>
          rcases same_list items c' h with ⟨items', rfl, _⟩
          exact .none

end Same

section Leading

theorem leading_nil (c : Cell ρ σ) : leading [] c = c := rfl

theorem lookup_leading (k : String) (p : List String) (es : List (String × Cell ρ σ))
    (x : Cell ρ σ) (hk : es.lookup k = some x) :
    leading (k :: p) (.own es) = .own (putFirst k (leading p x) es) := by
  rw [leading, hk]

/-- Putting a path in front shows the same. -/
theorem same_leading (p : List String) (c : Cell ρ σ) : Same c (leading p c) := by
  induction p generalizing c with
  | nil => exact same_refl c
  | cons k p ih =>
      cases c with
      | own es =>
          cases hk : es.lookup k with
          | none =>
              rw [leading, hk]
              exact same_refl _
          | some x =>
              rw [lookup_leading k p es x hk]
              refine same_of_lookups es _ (fun j => ?_)
              rw [lookup_putFirst]
              by_cases hj : j = k
              · rw [if_pos hj, hj, hk]
                exact .some (ih x)
              · rw [if_neg hj]
                cases es.lookup j with
                | none => exact .none
                | some y => exact .some (same_refl y)
      | scalar a => exact same_refl _
      | list items => exact same_refl _
      | ref r => exact same_refl _

theorem tidy_leading (p : List String) (c : Cell ρ σ) (h : Tidy c) : Tidy (leading p c) := by
  induction p generalizing c with
  | nil => exact h
  | cons k p ih =>
      cases h with
      | own es keys under =>
          cases hk : es.lookup k with
          | none =>
              rw [leading, hk]
              exact .own es keys under
          | some x =>
              rw [lookup_leading k p es x hk]
              refine .own _ (nodup_putFirst k _ es keys) (fun e he => ?_)
              rcases List.mem_cons.mp he with rfl | he
              · exact ih x (under (k, x) (Dict.mem_of_lookup es k x hk))
              · exact under e (List.mem_filter.mp he).1
      | scalar a => exact .scalar a
      | list items under => exact .list items under

/-- What the path leads to has the rest of it in front. -/
theorem reach_leading (r p : List String) (c x : Cell ρ σ) (h : reach r c = some x) :
    reach r (leading (r ++ p) c) = some (leading p x) := by
  induction r generalizing c with
  | nil =>
      rw [reach, Option.some.injEq] at h
      rw [List.nil_append, reach, h]
  | cons k r ih =>
      cases c with
      | own es =>
          rw [reach] at h
          rcases Option.bind_eq_some_iff.mp h with ⟨y, hy, h⟩
          rw [List.cons_append, lookup_leading k (r ++ p) es y hy, reach, lookup_putFirst,
            if_pos rfl, Option.bind_some]
          exact ih y h
      | scalar a => cases h
      | list items => cases h
      | ref m => cases h

/-- Another key leads to what it led to. -/
theorem lookup_leading_other (k j : String) (p : List String) (es es' : List (String × Cell ρ σ))
    (h : leading (k :: p) (.own es) = .own es') (hj : j ≠ k) : es'.lookup j = es.lookup j := by
  cases hk : es.lookup k with
  | none =>
      rw [leading, hk, Cell.own.injEq] at h
      rw [h]
  | some x =>
      rw [lookup_leading k p es x hk, Cell.own.injEq] at h
      rw [← h, lookup_putFirst, if_neg hj]

theorem leading_own (p : List String) (es : List (String × Cell ρ σ)) :
    ∃ es', leading p (.own es) = .own es' := by
  cases p with
  | nil => exact ⟨es, rfl⟩
  | cons k p =>
      cases hk : es.lookup k with
      | none => exact ⟨es, by rw [leading, hk]⟩
      | some x => exact ⟨_, lookup_leading k p es x hk⟩

/-- Only the order changes when one key is put in front. -/
theorem lookup_leading_one (k j : String) (es es' : List (String × Cell ρ σ))
    (h : leading [k] (.own es) = .own es') : es'.lookup j = es.lookup j := by
  by_cases hj : j = k
  · cases hk : es.lookup k with
    | none =>
        rw [leading, hk, Cell.own.injEq] at h
        rw [h]
    | some x =>
        rw [lookup_leading k [] es x hk, leading_nil, Cell.own.injEq] at h
        rw [← h, hj, hk, lookup_putFirst, if_pos rfl]
  · exact lookup_leading_other k j [] es es' h hj

/-- Keys lead to what they led to under `k`, when the order of the keys under `j`
    changes. -/
theorem reach_leading_two (r : List String) (j k : String) (A es : List (String × Cell ρ σ))
    (h : reach r (.own A) = some (.own es)) (hother : ¬ (r = [] ∧ k = j)) :
    ∃ es', reach r (leading [j, k] (.own A)) = some (.own es')
      ∧ es'.lookup k = es.lookup k := by
  rcases leading_own [j, k] A with ⟨A', hA'⟩
  rw [hA']
  -- the mapping itself, or one further down
  cases r with
  | nil =>
      rw [reach, Option.some.injEq, Cell.own.injEq] at h
      refine ⟨A', by rw [reach], ?_⟩
      rw [← h]
      exact lookup_leading_other j k [k] A A' hA' (fun heq => hother ⟨rfl, heq⟩)
  | cons a r =>
      rw [reach] at h
      rw [reach]
      -- the path begins with the key that was brought to the front, or with another
      by_cases ha : a = j
      · rcases Option.bind_eq_some_iff.mp h with ⟨x, hx, h⟩
        rw [ha] at hx
        rw [lookup_leading j [k] A x hx, Cell.own.injEq] at hA'
        rw [← hA', ha, lookup_putFirst, if_pos rfl, Option.bind_some]
        cases r with
        | nil =>
            rw [reach, Option.some.injEq] at h
            rcases leading_own [k] es with ⟨es', hes'⟩
            rw [h, hes']
            exact ⟨es', by rw [reach], lookup_leading_one k k es es' hes'⟩
        | cons b r =>
            cases x with
            | own B =>
                rcases leading_own [k] B with ⟨B', hB'⟩
                rw [reach] at h
                rw [hB', reach, lookup_leading_one k b B B' hB']
                exact ⟨es, h, rfl⟩
            | scalar s => cases h
            | list items => cases h
            | ref m => cases h
      · rw [lookup_leading_other j a [k] A A' hA' ha]
        exact ⟨es, h, rfl⟩

end Leading

end Xbench
