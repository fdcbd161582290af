import Xbench.Lib.Text

/-!
# Splicing

A text with gaps, and replacing one text by another.

A text that stands in the gaps is replaced everywhere by a search that knows
nothing of gaps. It goes from left to right and looks at what a text goes on with. As
long as it finds nothing at the characters between the gaps, replacing comes to
filling the gaps with the other text.

## Main definitions

* `filled`: The text with the gaps filled.
* `Apart`: A search finds nothing but the gaps.

## Theorems

* `replaceAll_apart`: Replacing fills the gaps.
-/

namespace Xbench

namespace Splicing

open Text

/-- The text with its gaps filled. -/
def filled (filling : List Char) (ps : List (Option Char)) : List Char :=
  ps.flatMap (fun p =>
    match p with
    | none => filling
    | some c => [c])

/-- At no character of its own does the text go on with what fills the gaps. -/
def Apart (old : List Char) (ps : List (Option Char)) : Prop :=
  ∀ front c back, ps = front ++ some c :: back → ¬ old <+: c :: filled old back

theorem apart_nil (old : List Char) : Apart old [] := by
  intro front c back heq
  cases front <;> cases heq

theorem apart_none_iff (old : List Char) (ps : List (Option Char)) :
    Apart old (none :: ps) ↔ Apart old ps := by
  constructor
  · exact fun h front c back heq => h (none :: front) c back (by rw [heq, List.cons_append])
  · intro h front c back heq
    cases front with
    | nil => cases heq
    | cons p front => exact h front c back (List.cons.inj heq).2

theorem apart_some_iff (old : List Char) (c : Char) (ps : List (Option Char)) :
    Apart old (some c :: ps) ↔ ¬ old <+: c :: filled old ps ∧ Apart old ps := by
  constructor
  · intro h
    refine ⟨h [] c ps rfl, fun front d back heq => ?_⟩
    exact h (some c :: front) d back (by rw [heq, List.cons_append])
  · rintro ⟨hfirst, hrest⟩ front d back heq
    cases front with
    | nil =>
        rw [List.nil_append, List.cons.injEq, Option.some.injEq] at heq
        rw [← heq.1, ← heq.2]
        exact hfirst
    | cons p front => exact hrest front d back (List.cons.inj heq).2

instance decidableApart (old : List Char) : (ps : List (Option Char)) → Decidable (Apart old ps)
  | [] => isTrue (apart_nil old)
  | none :: ps => @decidable_of_iff _ _ (apart_none_iff old ps).symm (decidableApart old ps)
  | some c :: ps =>
      have := decidableApart old ps
      decidable_of_iff _ (apart_some_iff old c ps).symm

theorem filled_nil (filling : List Char) : filled filling [] = [] := rfl

@[simp] theorem filled_none (filling : List Char) (ps : List (Option Char)) :
    filled filling (none :: ps) = filling ++ filled filling ps := List.flatMap_cons

@[simp] theorem filled_some (filling : List Char) (c : Char) (ps : List (Option Char)) :
    filled filling (some c :: ps) = c :: filled filling ps := List.flatMap_cons

theorem filled_flatMap {α : Type} (filling : List Char) (f : α → List (Option Char)) (l : List α) :
    filled filling (l.flatMap f) = l.flatMap (fun a => filled filling (f a)) := by
  rw [filled, List.flatMap_assoc]
  rfl

/-- A text without gaps. -/
theorem filled_map_some (filling cs : List Char) : filled filling (cs.map some) = cs := by
  rw [filled, List.flatMap_map]
  exact List.flatMap_singleton' cs

theorem afterPrefix_append (old rest : List Char) : afterPrefix old (old ++ rest) = some rest :=
  (afterPrefix_eq_some_iff old _ rest).mpr rfl

theorem afterPrefix_eq_none (old cs : List Char) (h : ¬ old <+: cs) :
    afterPrefix old cs = none := by
  cases hafter : afterPrefix old cs with
  | none => rfl
  | some rest =>
      exact absurd ⟨rest, ((afterPrefix_eq_some_iff old cs rest).mp hafter).symm⟩ h

/-- What is in front of a text is replaced first. -/
theorem replaceAllList_prefix (old new rest : List Char) (hold : old ≠ []) (fuel : Nat)
    (hfuel : (old ++ rest).length ≤ fuel) :
    ∃ left, rest.length ≤ left
      ∧ replaceAllList old new fuel (old ++ rest) = new ++ replaceAllList old new left rest := by
  cases old with
  | nil => exact absurd rfl hold
  | cons o old =>
      rw [List.length_append, List.length_cons] at hfuel
      cases fuel with
      | zero => omega
      | succ fuel =>
          have hafter := afterPrefix_append (o :: old) rest
          rw [List.cons_append] at hafter ⊢
          refine ⟨fuel, by omega, ?_⟩
          rw [replaceAllList, hafter]

/-- Replacing fills the gaps. -/
theorem replaceAllList_apart (old new : List Char) (hold : old ≠ []) (ps : List (Option Char))
    (h : Apart old ps) (fuel : Nat) (hfuel : (filled old ps).length ≤ fuel) :
    replaceAllList old new fuel (filled old ps) = filled new ps := by
  induction ps generalizing fuel with
  | nil =>
      cases fuel with
      | zero => rfl
      | succ fuel => rfl
  | cons p ps ih =>
      cases p with
      | none =>
          have hrest := ih ((apart_none_iff old ps).mp h)
          rw [filled_none] at hfuel ⊢
          rcases replaceAllList_prefix old new (filled old ps) hold fuel hfuel with
            ⟨left, hleft, hreplace⟩
          rw [hreplace, hrest left hleft, filled_none]
      | some c =>
          rcases (apart_some_iff old c ps).mp h with ⟨hfirst, happart⟩
          have hrest := ih happart
          -- the text to replace does not begin at a character between the gaps
          have hnone := afterPrefix_eq_none old _ hfirst
          rw [filled_some] at hfuel ⊢
          rw [List.length_cons] at hfuel
          cases fuel with
          | zero => omega
          | succ fuel =>
              rw [replaceAllList, hnone, filled_some]
              dsimp only
              rw [hrest fuel (by omega)]

theorem replaceAll_apart (old new s : String) (hold : old.toList ≠ []) (ps : List (Option Char))
    (h : Apart old.toList ps) (hs : s.toList = filled old.toList ps) :
    (replaceAll old new s).toList = filled new.toList ps := by
  rw [replaceAll, String.toList_ofList, hs]
  exact replaceAllList_apart old.toList new.toList hold ps h _ (Nat.le_refl _)

end Splicing

end Xbench
