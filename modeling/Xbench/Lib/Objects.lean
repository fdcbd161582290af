import Xbench.Lib.Dict

/-!
# Mapping Objects

A store of mapping objects that refer to each other, and what a reader sees
from a cell of it.

Mappings are objects: two entries that refer to one object show the same
mapping, and writing through one of them is seen through the other. Scalars,
lists and mappings that belong to one place only are kept by value.

What a cell shows is the shape found at the end of every path. Objects may
refer to each other in a circle, so there need not be a tree to compare, but
there is always a shape at the end of a path. `look_ne_passes` is the only way in which
two stores can show different things from one cell: by one path they lead to
one object that has an entry that differs. `look_write_iff` puts it to use: a
write is seen from the cells that lead to the object, unless it writes what is
there.

## Main definitions

* `Cell`: What an entry of a mapping holds.
* `Store`: The mapping objects.
* `Store.write`: Setting an entry of an object.
* `Step`: A key of a mapping or a place in a list.
* `child`: The cell one step further.
* `follow`: The cell at the end of a path.
* `Shape`: What is seen of a cell by itself.
* `look`: What is seen at the end of a path.
* `ByValue`: A cell that refers to no object.
* `Already`: An entry shows what a cell shows.

## Theorems

* `follow_append`: A path in two parts.
* `look_ne_passes`: How two stores differ in what they show.
* `follow_or_passes`: A path leads to the same cell, or passes a difference.
* `look_byValue`: A cell by value shows the same in every store.
* `look_write_iff`: Where a write is not seen.
-/

namespace Xbench

/-- What an entry of a mapping holds: a scalar, a list, a mapping of its own,
    or a reference to a mapping object. -/
inductive Cell (ρ σ : Type) where
  | scalar (a : σ)
  | list (items : List (Cell ρ σ))
  | own (entries : List (String × Cell ρ σ))
  | ref (r : ρ)

namespace Cell

variable {ρ σ : Type}

def isMapping : Cell ρ σ → Bool
  | .own _ => true
  | .ref _ => true
  | _ => false

end Cell

/-- The mapping objects. -/
abbrev Store (ρ σ : Type) := ρ → Dict String (Cell ρ σ)

/-- A key of a mapping or a place in a list. -/
inductive Step where
  | key (k : String)
  | item (i : Nat)
deriving DecidableEq

/-- What is seen of a cell by itself. -/
inductive Shape (σ : Type) where
  | scalar (a : σ)
  | sequence
  | mapping

namespace Store

variable {ρ σ : Type}

/-- Setting an entry of an object. -/
def write [DecidableEq ρ] (s : Store ρ σ) (r : ρ) (k : String) (c : Cell ρ σ) : Store ρ σ :=
  fun r' => if r' = r then (s r).set k c else s r'

theorem get?_write [DecidableEq ρ] (s : Store ρ σ) (r r' : ρ) (k k' : String) (c : Cell ρ σ) :
    (s.write r k c r').get? k' = if r' = r ∧ k' = k then some c else (s r').get? k' := by
  unfold write
  by_cases hr : r' = r
  · rw [if_pos hr, Dict.get?_set]
    by_cases hk : k' = k
    · rw [if_pos hk, if_pos ⟨hr, hk⟩]
    · rw [if_neg hk, if_neg (fun h => hk h.2), hr]
  · rw [if_neg hr, if_neg (fun h => hr h.1)]

end Store

variable {ρ σ : Type}

/-- The cell one step further. -/
def child (s : Store ρ σ) : Cell ρ σ → Step → Option (Cell ρ σ)
  | .list items, .item i => items[i]?
  | .own entries, .key k => entries.lookup k
  | .ref r, .key k => (s r).get? k
  | _, _ => none

/-- The cell at the end of a path. -/
def follow (s : Store ρ σ) (c : Cell ρ σ) : List Step → Option (Cell ρ σ)
  | [] => some c
  | st :: q =>
      match child s c st with
      | some c' => follow s c' q
      | none => none

def shape : Cell ρ σ → Shape σ
  | .scalar a => .scalar a
  | .list _ => .sequence
  | .own _ => .mapping
  | .ref _ => .mapping

theorem isMapping_of_shape (c d : Cell ρ σ) (h : shape c = shape d) :
    c.isMapping = d.isMapping := by
  cases c with
  | scalar a => cases d with
    | scalar b => rfl
    | _ => exact nomatch h
  | list items => cases d with
    | list items' => rfl
    | _ => exact nomatch h
  | own entries => cases d with
    | own entries' => rfl
    | ref r => rfl
    | _ => exact nomatch h
  | ref r => cases d with
    | own entries => rfl
    | ref r' => rfl
    | _ => exact nomatch h

/-- What is seen at the end of a path. -/
def look (s : Store ρ σ) (c : Cell ρ σ) (q : List Step) : Option (Shape σ) :=
  (follow s c q).map shape

variable (s s' : Store ρ σ)

theorem follow_cons (c c' : Cell ρ σ) (st : Step) (q : List Step) (h : child s c st = some c') :
    follow s c (st :: q) = follow s c' q := by
  simp only [follow, h]

theorem follow_cons_none (c : Cell ρ σ) (st : Step) (q : List Step) (h : child s c st = none) :
    follow s c (st :: q) = none := by
  simp only [follow, h]

/-- A path in two parts. -/
theorem follow_append (c : Cell ρ σ) (q q' : List Step) :
    follow s c (q ++ q') = (follow s c q).bind (fun c' => follow s c' q') := by
  induction q generalizing c with
  | nil => rfl
  | cons st q ih =>
      rw [List.cons_append]
      cases hchild : child s c st with
      | none => rw [follow_cons_none s c st _ hchild, follow_cons_none s c st _ hchild]; rfl
      | some c' => rw [follow_cons s c c' st _ hchild, follow_cons s c c' st _ hchild, ih]

theorem look_append (c c' : Cell ρ σ) (q q' : List Step) (h : follow s c q = some c') :
    look s c (q ++ q') = look s c' q' := by
  rw [look, follow_append, h, Option.bind_some, look]

/-- A step reads the same in both stores, except for the entries of an
    object. -/
theorem child_congr (c : Cell ρ σ) (st : Step)
    (h : ∀ r k, c = .ref r → st = .key k → (s r).get? k = (s' r).get? k) :
    child s c st = child s' c st := by
  cases c with
  | ref r =>
      cases st with
      | key k => exact h r k rfl rfl
      | item i => rfl
  | scalar a => cases st <;> rfl
  | list items => cases st <;> rfl
  | own entries => cases st <;> rfl

/-- Where a step reads differently there is an object with an entry that
    differs. -/
theorem child_differs (c : Cell ρ σ) (st : Step) (h : child s c st ≠ child s' c st) :
    ∃ r k, c = .ref r ∧ st = .key k ∧ (s r).get? k ≠ (s' r).get? k := by
  by_contra hno
  refine h (child_congr s s' c st (fun r k hc hst => ?_))
  by_contra hne
  exact hno ⟨r, k, hc, hst, hne⟩

/-- How two stores differ in what they show at the end of a path: on the way
    there is an entry of an object that differs. -/
theorem look_ne_passes (c : Cell ρ σ) (q : List Step) (hq : look s c q ≠ look s' c q) :
    ∃ q₀ r k q', q = q₀ ++ .key k :: q' ∧ follow s c q₀ = some (.ref r)
      ∧ follow s' c q₀ = some (.ref r) ∧ (s r).get? k ≠ (s' r).get? k
      ∧ look s (.ref r) (.key k :: q') ≠ look s' (.ref r) (.key k :: q') := by
  induction q generalizing c with
  | nil => exact absurd rfl hq
  | cons st q ih =>
      by_cases hsame : child s c st = child s' c st
      · -- the step is the same, and the difference is further down
        cases hchild : child s c st with
        | none =>
            rw [look, look, follow_cons_none s c st q hchild,
              follow_cons_none s' c st q (hsame ▸ hchild)] at hq
            exact absurd rfl hq
        | some c' =>
            have hchild' : child s' c st = some c' := hsame ▸ hchild
            rw [look, look, follow_cons s c c' st q hchild, follow_cons s' c c' st q hchild'] at hq
            rcases ih c' hq with ⟨q₀, r, k, q', heq, hs, hs', hdiff⟩
            exact ⟨st :: q₀, r, k, q', by rw [heq, List.cons_append],
              by rw [follow_cons s c c' st q₀ hchild, hs],
              by rw [follow_cons s' c c' st q₀ hchild', hs'], hdiff⟩
      · rcases child_differs s s' c st hsame with ⟨r, k, rfl, rfl, hne⟩
        exact ⟨[], r, k, q, rfl, rfl, rfl, hne, hq⟩

/-- A path in two parts, of which the first leads to one object in both
    stores. -/
theorem look_ne_append (c x : Cell ρ σ) (q q' : List Step) (hs : follow s c q = some x)
    (hs' : follow s' c q = some x) (hq' : look s x q' ≠ look s' x q') :
    look s c (q ++ q') ≠ look s' c (q ++ q') := by
  rw [look_append s c x q q' hs, look_append s' c x q q' hs']
  exact hq'

/-- A path leads to the same cell in the other store, or it passes an entry
    that differs. -/
theorem follow_or_passes (c x : Cell ρ σ) (q : List Step) (h : follow s c q = some x) :
    follow s' c q = some x
      ∨ ∃ q₀ r₀ k₀, q₀ ++ [.key k₀] <+: q ∧ (s r₀).get? k₀ ≠ (s' r₀).get? k₀
          ∧ follow s c q₀ = some (.ref r₀) ∧ follow s' c q₀ = some (.ref r₀) := by
  induction q generalizing c with
  | nil => exact Or.inl h
  | cons st q ih =>
      by_cases hsame : child s c st = child s' c st
      · cases hchild : child s c st with
        | none =>
            rw [follow_cons_none s c st q hchild] at h
            exact nomatch h
        | some c' =>
            have hchild' : child s' c st = some c' := hsame ▸ hchild
            rw [follow_cons s c c' st q hchild] at h
            rw [follow_cons s' c c' st q hchild']
            rcases ih c' h with hleft | ⟨q₀, r₀, k₀, hprefix, hne, hs, hs'⟩
            · exact Or.inl hleft
            · refine Or.inr ⟨st :: q₀, r₀, k₀, ?_, hne, ?_, ?_⟩
              · exact (List.prefix_cons_inj st).mpr hprefix
              · rw [follow_cons s c c' st q₀ hchild, hs]
              · rw [follow_cons s' c c' st q₀ hchild', hs']
      · rcases child_differs s s' c st hsame with ⟨r₀, k₀, rfl, rfl, hne⟩
        have hprefix : [] ++ [Step.key k₀] <+: .key k₀ :: q := ⟨q, rfl⟩
        exact Or.inr ⟨[], r₀, k₀, hprefix, hne, rfl, rfl⟩

/-- A cell that refers to no object. -/
inductive ByValue : Cell ρ σ → Prop where
  | scalar (a : σ) : ByValue (.scalar a)
  | list (items : List (Cell ρ σ)) (h : ∀ c ∈ items, ByValue c) : ByValue (.list items)
  | own (entries : List (String × Cell ρ σ)) (h : ∀ e ∈ entries, ByValue e.2) :
      ByValue (.own entries)

theorem child_byValue (c c' : Cell ρ σ) (st : Step) (hc : ByValue c)
    (h : child s c st = some c') : ByValue c' := by
  cases hc with
  | scalar a => cases st <;> exact nomatch h
  | list items hitems =>
      cases st with
      | key k => exact nomatch h
      | item i => exact hitems c' (List.mem_of_getElem? h)
  | own entries hentries =>
      cases st with
      | item i => exact nomatch h
      | key k => exact hentries (k, c') (Dict.mem_of_lookup entries k c' h)

/-- Such a cell shows the same in every store. -/
theorem look_byValue (c : Cell ρ σ) (hc : ByValue c) (q : List Step) :
    look s c q = look s' c q := by
  induction q generalizing c with
  | nil => rfl
  | cons st q ih =>
      have hsame : child s c st = child s' c st := by
        refine child_congr s s' c st (fun r k href _ => ?_)
        rw [href] at hc
        exact nomatch hc
      cases hchild : child s c st with
      | none =>
          rw [look, look, follow_cons_none s c st q hchild,
            follow_cons_none s' c st q (hsame ▸ hchild)]
      | some c' =>
          rw [look, look, follow_cons s c c' st q hchild,
            follow_cons s' c c' st q (hsame ▸ hchild)]
          exact ih c' (child_byValue s c c' st hc hchild)

section Write

variable [DecidableEq ρ] (r : ρ) (k : String) (w : Cell ρ σ)

/-- The entry shows what the cell shows. -/
def Already : Prop :=
  ∀ q, look s (.ref r) (.key k :: q) = look s w q

/-- An entry that a write changes is the one that was written. -/
theorem written_of_ne (r' : ρ) (k' : String)
    (h : (s r').get? k' ≠ (s.write r k w r').get? k') : r' = r ∧ k' = k := by
  by_contra hother
  rw [Store.get?_write, if_neg hother] at h
  exact h rfl

theorem look_written (q : List Step) :
    look (s.write r k w) (.ref r) (.key k :: q) = look (s.write r k w) w q := by
  have hchild : child (s.write r k w) (.ref r) (.key k) = some w := by
    rw [child, Store.get?_write, if_pos ⟨rfl, rfl⟩]
  rw [look, look, follow_cons _ _ w _ q hchild]

/-- The written entry shows something else unless it showed that already. -/
theorem written_same_iff (hw : ByValue w) (q : List Step) :
    look s (.ref r) (.key k :: q) = look (s.write r k w) (.ref r) (.key k :: q)
      ↔ look s (.ref r) (.key k :: q) = look s w q := by
  rw [look_written, look_byValue (s.write r k w) s w hw]

/-- A path to the object that is written, in the store before, gives one that
    leads there before and after. -/
theorem leads_write (c : Cell ρ σ) (q : List Step) (h : follow s c q = some (.ref r)) :
    ∃ q₁, follow s c q₁ = some (.ref r) ∧ follow (s.write r k w) c q₁ = some (.ref r)
      ∧ (q₁ = q ∨ q₁ ++ [.key k] <+: q) := by
  rcases follow_or_passes s (s.write r k w) c _ q h with hsame | ⟨q₀, r₀, k₀, hpre, hne, hs, hs'⟩
  · exact ⟨q, h, hsame, Or.inl rfl⟩
  · rcases written_of_ne s r k w r₀ k₀ hne with ⟨rfl, rfl⟩
    exact ⟨q₀, hs, hs', Or.inr hpre⟩

/-- A write is not seen from a cell when it writes what is there, or when no
    path from the cell leads to the object. -/
theorem look_write_iff (hw : ByValue w) (c : Cell ρ σ) :
    (∀ q, look s c q = look (s.write r k w) c q)
      ↔ Already s r k w ∨ ∀ q, follow s c q ≠ some (.ref r) := by
  constructor
  · intro hsame
    by_contra hno
    rw [not_or, Already, not_forall, not_forall] at hno
    rcases hno with ⟨⟨q', hq'⟩, q, hq⟩
    rcases leads_write s r k w c q (not_not.mp hq) with ⟨q₁, hs, hs', _⟩
    have hseen : look s (.ref r) (.key k :: q') ≠ look (s.write r k w) (.ref r) (.key k :: q') :=
      fun h => hq' ((written_same_iff s r k w hw q').mp h)
    exact look_ne_append s (s.write r k w) c _ q₁ _ hs hs' hseen (hsame _)
  · intro h q
    by_contra hne
    rcases look_ne_passes s (s.write r k w) c q hne with ⟨q₀, r₀, k₀, q', _, hs, _, hcell, hlook⟩
    rcases written_of_ne s r k w r₀ k₀ hcell with ⟨rfl, rfl⟩
    rcases h with halready | hfar
    · exact hlook ((written_same_iff s r₀ k₀ w hw q').mpr (halready q'))
    · exact hfar q₀ hs

end Write

end Xbench
