import Xbench.Common
import Xbench.Lib.Matching

/-!
# The Grammar of Names

The pattern that names are checked with, and the grammar it stands for: one to
sixty-three lower-case letters, digits and hyphens, the first a letter and the
last no hyphen.

The end of the pattern is the end of a line, so a name with a newline behind it
is taken as well.

## Main definitions

* `rfc1035`: The pattern.
* `Conforms`: The grammar.

## Theorems

* `validate_eq_match`: The check is a match of the pattern.
* `matches_iff_conforms`: Without a newline the check is the grammar.
* `accepts_exactly_iff`: When a name is accepted just if it conforms.
-/

namespace Xbench

open Pattern

/-- `^[a-z](?:[-a-z0-9]{0,61}[a-z0-9])?$`, from the start of the text. -/
def rfc1035 : Pattern :=
  .seq (.one lowerChar) (.seq (.opt (.seq (.atMost nameChar 61) (.one alnumChar))) .lineEnd)

/-- The grammar of names. -/
structure Conforms (name : String) : Prop where
  length : 1 ≤ name.length ∧ name.length ≤ 63
  first : ∃ c, name.toList.head? = some c ∧ lowerChar c = true
  others : ∀ c ∈ name.toList.tail, nameChar c = true
  last : name.toList.getLast? ≠ some '-'

/-- A character of a name that is no hyphen is a letter or a digit. -/
theorem alnumChar_iff (c : Char) : alnumChar c = true ↔ nameChar c = true ∧ c ≠ '-' := by
  rw [nameChar, Bool.or_eq_true, beq_iff_eq]
  constructor
  · intro h
    refine ⟨Or.inr h, ?_⟩
    rintro rfl
    exact absurd h (by decide)
  · rintro ⟨rfl | h, hne⟩
    · exact absurd rfl hne
    · exact h

/-- What may follow the first letter: nothing, or a run and one more character. -/
theorem matchesRfc1035_cons_iff (c : Char) (body : List Char) :
    matchesRfc1035 (c :: body) = true ↔
      lowerChar c = true ∧ (body = [] ∨ ∃ run d, body = run ++ [d] ∧ run.length ≤ 61
        ∧ (∀ x ∈ run, nameChar x = true) ∧ alnumChar d = true) := by
  rw [matchesRfc1035, Bool.and_eq_true, Bool.or_eq_true, List.isEmpty_iff, Bool.and_eq_true,
    Bool.and_eq_true, decide_eq_true_iff, List.all_eq_true]
  refine and_congr_right (fun _ => or_congr_right ?_)
  constructor
  · rintro ⟨⟨hlen, hall⟩, hlast⟩
    rcases List.eq_nil_or_concat body with rfl | ⟨run, d, rfl⟩
    · cases hlast
    · rw [List.concat_eq_append] at hlen hall hlast ⊢
      rw [List.getLast?_concat, Option.any_some] at hlast
      rw [List.length_append, List.length_singleton] at hlen
      exact ⟨run, d, rfl, by omega, fun x hx => hall x (List.mem_append_left _ hx), hlast⟩
  · rintro ⟨run, d, rfl, hlen, hall, hd⟩
    rw [List.length_append, List.length_singleton, List.getLast?_concat, Option.any_some]
    refine ⟨⟨by omega, fun x hx => ?_⟩, hd⟩
    rcases List.mem_append.mp hx with hx | hx
    · exact hall x hx
    · rw [List.mem_singleton.mp hx]
      exact ((alnumChar_iff d).mp hd).1

/-- A name begins with a letter, ends in a letter or a digit, and is not too long. -/
theorem matchesRfc1035_iff (cs : List Char) :
    matchesRfc1035 cs = true ↔
      (∃ c, cs.head? = some c ∧ lowerChar c = true) ∧ (∀ x ∈ cs, nameChar x = true)
        ∧ (∃ front x, cs = front ++ [x] ∧ alnumChar x = true) ∧ cs.length ≤ 63 := by
  cases cs with
  | nil =>
      constructor
      · intro h
        cases h
      · rintro ⟨⟨c, hc, _⟩, _⟩
        cases hc
  | cons c body =>
      constructor
      · intro h
        refine ⟨?_, nameChar_of_matches _ h, ?_⟩
        · exact ⟨c, rfl, ((matchesRfc1035_cons_iff c body).mp h).1⟩
        -- the last character is the first one, or ends the body
        · rcases (matchesRfc1035_cons_iff c body).mp h with ⟨hc, rfl | hshape⟩
          · refine ⟨⟨[], c, rfl, by rw [alnumChar, hc, Bool.true_or]⟩, ?_⟩
            rw [List.length_singleton]
            omega
          · rcases hshape with ⟨run, d, rfl, hlen, _, hd⟩
            refine ⟨⟨c :: run, d, rfl, hd⟩, ?_⟩
            rw [List.length_cons, List.length_append, List.length_singleton]
            omega
      · rintro ⟨⟨c', hhead, hc⟩, hall, ⟨front, x, hcs, hx⟩, hlen⟩
        rw [List.head?_cons, Option.some.injEq] at hhead
        rw [← hhead] at hc
        refine (matchesRfc1035_cons_iff c body).mpr ⟨hc, ?_⟩
        cases front with
        | nil => exact Or.inl (List.cons.inj hcs).2
        | cons d run =>
            have hbody : body = run ++ [x] := (List.cons.inj hcs).2
            rw [hbody, List.length_cons, List.length_append, List.length_singleton] at hlen
            refine Or.inr ⟨run, x, hbody, by omega, fun y hy => hall y ?_, hx⟩
            rw [hbody]
            exact List.mem_cons_of_mem c (List.mem_append_left _ hy)

/-- A match of the pattern is a name, and maybe a newline. -/
theorem rfc1035_iff (cs : List Char) :
    rfc1035.matchesFront cs = true ↔
      matchesRfc1035 cs = true ∨ ∃ front, cs = front ++ ['\n'] ∧ matchesRfc1035 front = true := by
  have hbody : ∀ mid rest : List Char,
      (rest ∈ rests (.opt (.seq (.atMost nameChar 61) (.one alnumChar))) mid) ↔
        ∃ body, mid = body ++ rest ∧ (body = [] ∨ ∃ run d, body = run ++ [d] ∧ run.length ≤ 61
          ∧ (∀ x ∈ run, nameChar x = true) ∧ alnumChar d = true) := by
    intro mid rest
    rw [mem_rests_opt, mem_rests_seq]
    constructor
    · rintro (⟨left, hleft, hone⟩ | rfl)
      · rcases (mem_atMost_iff nameChar mid left 61).mp hleft with ⟨run, hrun, hlen, hall⟩
        rcases (mem_rests_one alnumChar left rest).mp hone with ⟨d, hd, hleft⟩
        refine ⟨run ++ [d], ?_, Or.inr ⟨run, d, rfl, hlen, hall, hd⟩⟩
        rw [hrun, hleft, List.append_assoc]
        rfl
      · exact ⟨[], rfl, Or.inl rfl⟩
    · rintro ⟨body, hmid, rfl | ⟨run, d, rfl, hlen, hall, hd⟩⟩
      · exact Or.inr hmid.symm
      · rw [List.append_assoc] at hmid
        exact Or.inl ⟨d :: rest, (mem_atMost_iff nameChar mid _ 61).mpr ⟨run, hmid, hlen, hall⟩,
          (mem_rests_one alnumChar _ rest).mpr ⟨d, hd, rfl⟩⟩
  rw [matchesFront_iff]
  constructor
  · rintro ⟨rest, hrest⟩
    rcases (mem_rests_seq _ _ cs rest).mp hrest with ⟨mid, hmid, hmore⟩
    rcases (mem_rests_one lowerChar cs mid).mp hmid with ⟨c, hc, rfl⟩
    rcases (mem_rests_seq _ _ mid rest).mp hmore with ⟨left, hleft, hend⟩
    rcases (hbody mid left).mp hleft with ⟨body, rfl, hshape⟩
    have hname := (matchesRfc1035_cons_iff c body).mpr ⟨hc, hshape⟩
    rcases ((mem_rests_lineEnd left rest).mp hend).2 with rfl | rfl
    · rw [List.append_nil]
      exact Or.inl hname
    · exact Or.inr ⟨c :: body, rfl, hname⟩
  · intro h
    -- either way the text is a letter, what may follow it, and the end of a line
    have hparts : ∃ c body tail, cs = c :: (body ++ tail) ∧ (tail = [] ∨ tail = ['\n'])
        ∧ matchesRfc1035 (c :: body) = true := by
      rcases h with hname | ⟨front, rfl, hname⟩
      · cases cs with
        | nil => cases hname
        | cons c body => exact ⟨c, body, [], by rw [List.append_nil], Or.inl rfl, hname⟩
      · cases front with
        | nil => cases hname
        | cons c body => exact ⟨c, body, ['\n'], rfl, Or.inr rfl, hname⟩
    rcases hparts with ⟨c, body, tail, rfl, htail, hname⟩
    rcases (matchesRfc1035_cons_iff c body).mp hname with ⟨hc, hshape⟩
    refine ⟨tail, (mem_rests_seq _ _ _ _).mpr ⟨body ++ tail,
      (mem_rests_one lowerChar _ _).mpr ⟨c, hc, rfl⟩, (mem_rests_seq _ _ _ _).mpr ⟨tail, ?_, ?_⟩⟩⟩
    · exact (hbody _ _).mpr ⟨body, rfl, hshape⟩
    · exact (mem_rests_lineEnd tail tail).mpr ⟨rfl, htail⟩

/-- The check is a match of the pattern. -/
theorem validate_eq_match (name : String) :
    validateNameRfc1035 name = rfc1035.matchesFront name.toList := by
  rw [Bool.eq_iff_iff, rfc1035_iff, validateNameRfc1035, Bool.or_eq_true, Bool.and_eq_true,
    beq_iff_eq]
  refine or_congr_right ?_
  constructor
  · rintro ⟨hlast, hname⟩
    exact ⟨_, (List.dropLast_append_getLast? '\n' hlast).symm, hname⟩
  · rintro ⟨front, hcs, hname⟩
    rw [hcs, List.getLast?_concat, List.dropLast_concat]
    exact ⟨rfl, hname⟩

/-- Without a newline the check is the grammar. -/
theorem matches_iff_conforms (name : String) :
    matchesRfc1035 name.toList = true ↔ Conforms name := by
  have hlen : name.length = name.toList.length := String.length_toList.symm
  constructor
  · intro h
    cases hcs : name.toList with
    | nil =>
        rw [hcs] at h
        cases h
    | cons c body =>
        rw [hcs] at h
        rcases (matchesRfc1035_cons_iff c body).mp h with ⟨hc, hshape⟩
        have hall : ∀ x ∈ body, nameChar x = true :=
          fun x hx => nameChar_of_matches _ h x (List.mem_cons_of_mem c hx)
        rw [hcs, List.length_cons] at hlen
        -- a single letter, or a body that ends in a letter or a digit
        rcases hshape with rfl | ⟨run, d, rfl, hrun, hrunAll, hd⟩
        · refine ⟨by rw [hlen]; decide, ⟨c, by rw [hcs]; rfl, hc⟩, by rw [hcs]; exact hall, ?_⟩
          rw [hcs, List.getLast?_singleton, ne_eq, Option.some.injEq]
          rintro rfl
          exact absurd hc (by decide)
        · rw [List.length_append, List.length_singleton] at hlen
          refine ⟨by omega, ⟨c, by rw [hcs]; rfl, hc⟩, by rw [hcs]; exact hall, ?_⟩
          rw [hcs, ← List.cons_append, List.getLast?_concat, ne_eq, Option.some.injEq]
          exact ((alnumChar_iff d).mp hd).2
  · intro h
    rcases h.first with ⟨c, hhead, hc⟩
    rcases List.head?_eq_some_iff.mp hhead with ⟨body, hcs⟩
    have hall := h.others
    have hlast := h.last
    have hbound := h.length
    rw [hcs, List.tail_cons] at hall
    rw [hcs] at hlast hlen ⊢
    rw [hlen, List.length_cons] at hbound
    refine (matchesRfc1035_cons_iff c body).mpr ⟨hc, ?_⟩
    -- the same split of what follows the first letter
    rcases List.eq_nil_or_concat body with hnil | ⟨run, d, hbody⟩
    · exact Or.inl hnil
    · right
      rw [List.concat_eq_append] at hbody
      rw [hbody] at hall hlast hbound
      rw [← List.cons_append, List.getLast?_concat, ne_eq, Option.some.injEq] at hlast
      rw [List.length_append, List.length_singleton] at hbound
      refine ⟨run, d, hbody, by omega, fun x hx => hall x (List.mem_append_left _ hx), ?_⟩
      exact (alnumChar_iff d).mpr ⟨hall d (List.mem_append_right _ List.mem_cons_self), hlast⟩

/-- What is accepted is a name, or a name with a newline behind it. -/
theorem validate_iff (name : String) :
    validateNameRfc1035 name = true ↔
      Conforms name ∨ ∃ front, Conforms front ∧ name = front ++ "\n" := by
  rw [validate_eq_match, rfc1035_iff, matches_iff_conforms]
  refine or_congr_right ?_
  have hnewline : "\n".toList = ['\n'] := rfl
  constructor
  · rintro ⟨front, hcs, hname⟩
    refine ⟨String.ofList front, ?_, ?_⟩
    · rw [← matches_iff_conforms, String.toList_ofList]
      exact hname
    · rw [← String.toList_inj, hcs, String.toList_append, String.toList_ofList, hnewline]
  · rintro ⟨front, hname, rfl⟩
    exact ⟨front.toList, by rw [String.toList_append, hnewline],
      (matches_iff_conforms front).mpr hname⟩

theorem newline_notMem_of_conforms (name : String) (h : Conforms name) : '\n' ∉ name.toList :=
  newline_notMem_of_matches _ ((matches_iff_conforms name).mpr h)

/-- When a name is accepted just if it conforms: it is not a name with a newline
    behind it. -/
theorem accepts_exactly_iff (name : String) :
    (validateNameRfc1035 name = true ↔ Conforms name) ↔
      ¬ ∃ front, Conforms front ∧ name = front ++ "\n" := by
  rw [validate_iff]
  constructor
  · rintro hiff ⟨front, hfront, hname⟩
    have hconf := hiff.mp (Or.inr ⟨front, hfront, hname⟩)
    refine newline_notMem_of_conforms name hconf ?_
    rw [hname, String.toList_append]
    exact List.mem_append_right _ List.mem_cons_self
  · intro hnone
    exact ⟨fun h => h.resolve_right hnone, Or.inl⟩

/-- A name with a newline behind it is accepted and does not conform. -/
theorem newline_accepted :
    ¬ (validateNameRfc1035 "dev\n" = true ↔ Conforms "dev\n") := by
  intro hiff
  have hconf := hiff.mp (by decide)
  exact newline_notMem_of_conforms _ hconf (by decide)

end Xbench
