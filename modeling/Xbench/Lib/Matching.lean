import Mathlib.Data.List.Basic

/-!
# Matching

What a pattern can leave of a text whose front it reads. A matcher that goes
back when it is stuck finds a match exactly when some way of reading leads
through the whole pattern, so all that can be left is listed, and a text matches
when the list is not empty.

The end of a line is the end of the text, and also the place before a newline
that ends the text.

## Main definitions

* `Pattern`: Characters of a kind, patterns in turn, and the end of a line.
* `Pattern.rests`: All that can be left of a text.
* `Pattern.matchesFront`: The front of a text matches.

## Theorems

* `mem_atMost_iff`: What bounded repetition leaves.
* `mem_rests_seq`, `mem_rests_opt`, `mem_rests_one`: What the others leave.
* `matchesFront_iff`: A text matches when something can be left.
-/

namespace Xbench

/-- Patterns: a character of a kind, up to so many of them, two in turn, one or
    none, and the end of a line. -/
inductive Pattern where
  | one (p : Char → Bool)
  | atMost (p : Char → Bool) (n : Nat)
  | seq (r t : Pattern)
  | opt (r : Pattern)
  | lineEnd

namespace Pattern

/-- What is left after up to so many characters of a kind, the least first. -/
def atMostRests (p : Char → Bool) : Nat → List Char → List (List Char)
  | 0, cs => [cs]
  | _ + 1, [] => [[]]
  | n + 1, c :: cs => if p c then atMostRests p n cs ++ [c :: cs] else [c :: cs]

/-- All that can be left of a text whose front is read. -/
def rests : Pattern → List Char → List (List Char)
  | .one p, cs => match cs with
      | [] => []
      | c :: cs => if p c then [cs] else []
  | .atMost p n, cs => atMostRests p n cs
  | .seq r t, cs => (rests r cs).flatMap (rests t)
  | .opt r, cs => rests r cs ++ [cs]
  | .lineEnd, cs => if cs = [] ∨ cs = ['\n'] then [cs] else []

/-- `re.match` finds something. -/
def matchesFront (r : Pattern) (cs : List Char) : Bool :=
  !(r.rests cs).isEmpty

variable (p : Char → Bool) (r t : Pattern) (cs rest : List Char)

/-- Bounded repetition leaves what comes after a run within the bound. -/
theorem mem_atMost_iff (n : Nat) :
    rest ∈ rests (.atMost p n) cs ↔
      ∃ run, cs = run ++ rest ∧ run.length ≤ n ∧ ∀ c ∈ run, p c = true := by
  rw [rests]
  induction n generalizing cs with
  | zero =>
      rw [atMostRests, List.mem_singleton]
      constructor
      · intro h
        exact ⟨[], h.symm, Nat.le_refl 0, fun c hc => absurd hc List.not_mem_nil⟩
      · rintro ⟨run, hcs, hlen, _⟩
        rw [List.length_eq_zero_iff.mp (Nat.le_zero.mp hlen), List.nil_append] at hcs
        exact hcs.symm
  | succ n ih =>
      cases cs with
      | nil =>
          rw [atMostRests, List.mem_singleton]
          constructor
          · intro h
            exact ⟨[], h.symm, Nat.zero_le _, fun c hc => absurd hc List.not_mem_nil⟩
          · rintro ⟨run, hcs, _⟩
            exact (List.append_eq_nil_iff.mp hcs.symm).2
      | cons c cs =>
          -- a run is empty, or its first character passes and the rest is a run
          have hnone : (∃ run, c :: cs = run ++ rest ∧ run.length ≤ n + 1
              ∧ ∀ d ∈ run, p d = true) ↔
              rest = c :: cs ∨ p c = true ∧ ∃ run, cs = run ++ rest ∧ run.length ≤ n
                ∧ ∀ d ∈ run, p d = true := by
            constructor
            · rintro ⟨run, hcs, hlen, hall⟩
              cases run with
              | nil => exact Or.inl hcs.symm
              | cons d run =>
                  rcases List.cons.inj hcs with ⟨hd, hrest⟩
                  rw [List.length_cons] at hlen
                  refine Or.inr ⟨?_, run, hrest, by omega, fun e he => ?_⟩
                  · rw [hd]
                    exact hall d List.mem_cons_self
                  · exact hall e (List.mem_cons_of_mem d he)
            · rintro (hrest | ⟨hc, run, hcs, hlen, hall⟩)
              · exact ⟨[], hrest.symm, Nat.zero_le _, fun d hd => absurd hd List.not_mem_nil⟩
              · refine ⟨c :: run, by rw [hcs, List.cons_append], ?_, fun d hd => ?_⟩
                · rw [List.length_cons]
                  omega
                · rcases List.mem_cons.mp hd with rfl | hd
                  · exact hc
                  · exact hall d hd
          rw [hnone, atMostRests]
          by_cases hc : p c = true
          · rw [if_pos hc, List.mem_append, List.mem_singleton, ih, or_comm]
            simp only [hc, true_and]
          · rw [if_neg hc, List.mem_singleton]
            simp only [hc, false_and, or_false, Bool.false_eq_true]

theorem mem_rests_one : rest ∈ rests (.one p) cs ↔ ∃ c, p c = true ∧ cs = c :: rest := by
  cases cs with
  | nil => simp [rests]
  | cons c cs =>
      rw [rests]
      by_cases hc : p c = true
      · rw [if_pos hc, List.mem_singleton]
        constructor
        · intro h
          exact ⟨c, hc, by rw [h]⟩
        · rintro ⟨d, _, h⟩
          exact (List.cons.inj h).2.symm
      · rw [if_neg hc]
        simp only [List.not_mem_nil, false_iff, not_exists, not_and]
        intro d hd h
        rw [(List.cons.inj h).1] at hc
        exact hc hd

theorem mem_rests_seq :
    rest ∈ rests (.seq r t) cs ↔ ∃ mid ∈ rests r cs, rest ∈ rests t mid := by
  rw [rests, List.mem_flatMap]

theorem mem_rests_opt : rest ∈ rests (.opt r) cs ↔ rest ∈ rests r cs ∨ rest = cs := by
  rw [rests, List.mem_append, List.mem_singleton]

theorem mem_rests_lineEnd :
    rest ∈ rests .lineEnd cs ↔ rest = cs ∧ (cs = [] ∨ cs = ['\n']) := by
  rw [rests]
  by_cases h : cs = [] ∨ cs = ['\n']
  · rw [if_pos h, List.mem_singleton]
    exact ⟨fun heq => ⟨heq, h⟩, fun hboth => hboth.1⟩
  · rw [if_neg h]
    exact ⟨fun hmem => absurd hmem List.not_mem_nil, fun hboth => absurd hboth.2 h⟩

/-- A text matches when something can be left of it. -/
theorem matchesFront_iff : r.matchesFront cs = true ↔ ∃ rest, rest ∈ r.rests cs := by
  rw [matchesFront, Bool.not_eq_true', ← Bool.not_eq_true, List.isEmpty_iff, ← ne_eq,
    List.ne_nil_iff_exists_cons]
  constructor
  · rintro ⟨x, xs, h⟩
    exact ⟨x, by rw [h]; exact List.mem_cons_self⟩
  · rintro ⟨rest, h⟩
    cases hl : r.rests cs with
    | nil =>
        rw [hl] at h
        exact absurd h List.not_mem_nil
    | cons x xs => exact ⟨x, xs, rfl⟩

end Pattern

end Xbench
