import Xbench.Lib.Text

/-!
# Escaping

Codes for some characters, one of which, the mark, is what every code begins
with. Putting the codes in one pass over a text can be undone in one pass: the
mark itself has a code, so a mark in the result is the first character of a
code, and no code is the beginning of another.

A program that replaces one character after the other goes over the codes it
has already put. It does the same as the single pass when the mark is the first
to be replaced, since what follows the mark in a code holds no character that
has one.

## Main definitions

* `Codes`: Characters with codes.
* `encode`: Every character by its code.
* `decode`: Every code by its character.
* `substitute`: One character by its code.

## Theorems

* `notMem_encode`: A character with a code is gone, except for the mark.
* `mark_starts_code`: A mark is the first character of a code.
* `decode_encode`: Decoding undoes encoding.
* `foldl_substitute`: One character after the other.
* `replaceAll_singleton`: Replacing a character goes over the characters.
-/

namespace Xbench

namespace Escaping

open Text

/-- Characters with codes. A code is the mark and what follows it, which is the
    second part of an entry. -/
structure Codes where
  mark : Char
  entries : List (Char × List Char)
  first : entries.head?.map Prod.fst = some mark
  distinct : (entries.map Prod.fst).Nodup
  plain : ∀ e ∈ entries, ∀ e' ∈ entries, e'.1 ∉ e.2
  apart : ∀ e ∈ entries, ∀ e' ∈ entries, e.2 <+: e'.2 → e = e'

/-- What a character becomes when some have a code. -/
def encodeIn (mark : Char) : List (Char × List Char) → Char → List Char
  | [], c => [c]
  | e :: entries, c => if c = e.1 then mark :: e.2 else encodeIn mark entries c

/-- One character by its code, everywhere. -/
def substitute (mark : Char) (cs : List Char) (e : Char × List Char) : List Char :=
  cs.flatMap (fun c => if c = e.1 then mark :: e.2 else [c])

section Successive

/-- A character becomes its code, or it has none and stays. -/
theorem encodeIn_cases (mark : Char) (entries : List (Char × List Char)) (c : Char) :
    (∃ e ∈ entries, e.1 = c ∧ encodeIn mark entries c = mark :: e.2)
      ∨ (c ∉ entries.map Prod.fst ∧ encodeIn mark entries c = [c]) := by
  induction entries with
  | nil => exact Or.inr ⟨List.not_mem_nil, rfl⟩
  | cons e entries ih =>
      rw [encodeIn]
      by_cases hc : c = e.1
      · exact Or.inl ⟨e, List.mem_cons_self, hc.symm, if_pos hc⟩
      · rw [if_neg hc]
        rcases ih with ⟨e', he', hcode⟩ | ⟨hnone, hcode⟩
        · exact Or.inl ⟨e', List.mem_cons_of_mem e he', hcode⟩
        · refine Or.inr ⟨?_, hcode⟩
          rw [List.map_cons, List.mem_cons, not_or]
          exact ⟨hc, hnone⟩

theorem encodeIn_of_notMem (mark : Char) (entries : List (Char × List Char)) (c : Char)
    (h : c ∉ entries.map Prod.fst) : encodeIn mark entries c = [c] := by
  rcases encodeIn_cases mark entries c with ⟨e, he, hec, _⟩ | ⟨_, hcode⟩
  · exact absurd (List.mem_map.mpr ⟨e, he, hec⟩) h
  · exact hcode

/-- One character after the other is all at once, as long as no code holds a
    character that comes later. -/
theorem foldl_substitute (mark : Char) (entries : List (Char × List Char)) (cs : List Char)
    (h : entries.Pairwise (fun e e' => e'.1 ∉ mark :: e.2)) :
    entries.foldl (substitute mark) cs = cs.flatMap (encodeIn mark entries) := by
  induction entries generalizing cs with
  | nil =>
      rw [List.foldl_nil]
      exact (List.flatMap_singleton' cs).symm
  | cons e entries ih =>
      rw [List.pairwise_cons] at h
      rw [List.foldl_cons, ih _ h.2, substitute, List.flatMap_assoc]
      refine List.flatMap_congr (fun c _ => ?_)
      by_cases hc : c = e.1
      · have hcode : ∀ l : List Char, (∀ x ∈ l, x ∉ entries.map Prod.fst) →
            l.flatMap (encodeIn mark entries) = l := by
          intro l hl
          have hsame : l.flatMap (encodeIn mark entries) = l.flatMap (fun x => [x]) :=
            List.flatMap_congr (fun x hx => encodeIn_of_notMem mark entries x (hl x hx))
          rw [hsame, List.flatMap_singleton']
        -- the code that is put holds nothing that is replaced later
        have hfree : ∀ x ∈ mark :: e.2, x ∉ entries.map Prod.fst := by
          intro x hx hmem
          rcases List.mem_map.mp hmem with ⟨e', he', rfl⟩
          exact h.1 e' he' hx
        rw [if_pos hc, hcode _ hfree, encodeIn, if_pos hc]
      · rw [if_neg hc, List.flatMap_singleton, encodeIn, if_neg hc]

/-- Replacing a character by a text goes over the characters. -/
theorem replaceAllList_singleton (old : Char) (new : List Char) (fuel : Nat) (cs : List Char)
    (h : cs.length ≤ fuel) :
    replaceAllList [old] new fuel cs = cs.flatMap (fun c => if c = old then new else [c]) := by
  induction cs generalizing fuel with
  | nil =>
      cases fuel with
      | zero => rfl
      | succ fuel => rfl
  | cons c cs ih =>
      cases fuel with
      | zero => cases h
      | succ fuel =>
          have hrest := ih fuel (Nat.le_of_succ_le_succ h)
          rw [replaceAllList, afterPrefix, List.flatMap_cons]
          by_cases hc : old = c
          · rw [if_pos hc, if_pos hc.symm, afterPrefix]
            dsimp only
            rw [hrest]
          · rw [if_neg hc, if_neg (Ne.symm hc)]
            dsimp only
            rw [hrest, List.singleton_append]

theorem replaceAll_singleton (old : Char) (new s : String) :
    (replaceAll (String.singleton old) new s).toList
      = s.toList.flatMap (fun c => if c = old then new.toList else [c]) := by
  rw [replaceAll, String.toList_ofList, String.toList_singleton]
  exact replaceAllList_singleton old new.toList _ _ (Nat.le_refl _)

end Successive

namespace Codes

variable (codes : Codes)

/-- Every character by its code. -/
def encode (cs : List Char) : List Char :=
  cs.flatMap (encodeIn codes.mark codes.entries)

/-- The character whose code a text begins with, and what follows it. -/
def read (cs : List Char) : Option (Char × List Char) :=
  codes.entries.findSome? (fun e => (afterPrefix (codes.mark :: e.2) cs).map (Prod.mk e.1))

/-- Every code by its character, from left to right. -/
def decodeList : Nat → List Char → List Char
  | 0, cs => cs
  | _ + 1, [] => []
  | fuel + 1, c :: cs =>
      match codes.read (c :: cs) with
      | some (d, rest) => d :: decodeList fuel rest
      | none => c :: decodeList fuel cs

/-- Every code by its character. -/
def decode (cs : List Char) : List Char :=
  codes.decodeList cs.length cs

/-- The mark has a code, the first. -/
theorem exists_first : ∃ tail rest, codes.entries = (codes.mark, tail) :: rest := by
  have hfirst := codes.first
  rcases Option.map_eq_some_iff.mp hfirst with ⟨e, he, hmark⟩
  rcases List.head?_eq_some_iff.mp he with ⟨rest, hrest⟩
  exact ⟨e.2, rest, by rw [hrest, ← hmark]⟩

theorem mark_mem : codes.mark ∈ codes.entries.map Prod.fst := by
  rcases codes.exists_first with ⟨tail, rest, h⟩
  rw [h, List.map_cons]
  exact List.mem_cons_self

/-- A character with a code is gone, except for the mark. -/
theorem notMem_encode (cs : List Char) (c : Char) (hc : c ∈ codes.entries.map Prod.fst)
    (hmark : c ≠ codes.mark) : c ∉ codes.encode cs := by
  intro hmem
  rcases List.mem_flatMap.mp hmem with ⟨x, _, hx⟩
  rcases encodeIn_cases codes.mark codes.entries x with ⟨e, he, _, hcode⟩ | ⟨hplain, hcode⟩
  · rw [hcode, List.mem_cons] at hx
    rcases List.mem_map.mp hc with ⟨e', he', rfl⟩
    exact codes.plain e he e' he' (hx.resolve_left hmark)
  · rw [hcode, List.mem_singleton] at hx
    exact hplain (hx ▸ hc)

/-- A mark is the first character of a code. -/
theorem mark_starts_code (cs pre post : List Char)
    (h : codes.encode cs = pre ++ codes.mark :: post) :
    ∃ e ∈ codes.entries, codes.mark :: e.2 <+: codes.mark :: post := by
  induction cs generalizing pre with
  | nil => cases pre <;> cases h
  | cons c cs ih =>
      rw [encode, List.flatMap_cons, ← encode] at h
      rcases List.append_eq_append_iff.mp h with ⟨mid, _, hrest⟩ | ⟨mid, hcode, hpost⟩
      · exact ih mid hrest
      · cases mid with
        | nil => exact ih [] hpost.symm
        | cons m mid =>
            -- the mark is within what one character becomes
            rw [List.cons_append, List.cons.injEq] at hpost
            rw [← hpost.1] at hcode
            rcases encodeIn_cases codes.mark codes.entries c with
              ⟨e, he, _, hentry⟩ | ⟨hplain, hentry⟩
            · rw [hentry] at hcode
              refine ⟨e, he, ?_⟩
              cases pre with
              | nil =>
                  rw [(List.cons.inj hcode).2, hpost.2]
                  exact List.cons_prefix_cons.mpr ⟨rfl, List.prefix_append _ _⟩
              | cons p pre =>
                  have hmem : codes.mark ∈ e.2 := by
                    rw [(List.cons.inj hcode).2]
                    exact List.mem_append_right _ List.mem_cons_self
                  rcases List.mem_map.mp codes.mark_mem with ⟨e', he', heq⟩
                  exact absurd hmem (heq ▸ codes.plain e he e' he')
            · rw [hentry] at hcode
              have hmem : codes.mark ∈ [c] := by
                rw [hcode]
                exact List.mem_append_right _ List.mem_cons_self
              rw [← List.mem_singleton.mp hmem] at hplain
              exact absurd codes.mark_mem hplain

/-- A code is read as that of its character. -/
theorem read_code (e : Char × List Char) (he : e ∈ codes.entries) (rest : List Char) :
    codes.read (codes.mark :: e.2 ++ rest) = some (e.1, rest) := by
  have hself : (afterPrefix (codes.mark :: e.2) (codes.mark :: e.2 ++ rest)).map (Prod.mk e.1)
      = some (e.1, rest) := by
    rw [(afterPrefix_eq_some_iff _ _ rest).mpr rfl, Option.map_some]
  cases hread : codes.read (codes.mark :: e.2 ++ rest) with
  | none =>
      have hnone := List.findSome?_eq_none_iff.mp hread e he
      rw [hself] at hnone
      cases hnone
  | some found =>
      rcases List.exists_of_findSome?_eq_some hread with ⟨e', he', hsome⟩
      rcases Option.map_eq_some_iff.mp hsome with ⟨rest', hafter, hfound⟩
      have hcode := (afterPrefix_eq_some_iff _ _ rest').mp hafter
      rw [List.cons_append, List.cons_append, List.cons.injEq] at hcode
      -- both codes are beginnings of one text
      have hsame : e = e' := by
        have hleft : e.2 <+: e.2 ++ rest := List.prefix_append _ _
        have hright : e'.2 <+: e.2 ++ rest := ⟨rest', hcode.2.symm⟩
        rcases List.prefix_or_prefix_of_prefix hleft hright with hpre | hpre
        · exact codes.apart e he e' he' hpre
        · exact (codes.apart e' he' e he hpre).symm
      rw [← hsame] at hcode hfound
      rw [← hfound, List.append_cancel_left hcode.2]

/-- What does not begin with the mark is no code. -/
theorem read_plain (c : Char) (cs : List Char) (hc : c ≠ codes.mark) :
    codes.read (c :: cs) = none := by
  refine List.findSome?_eq_none_iff.mpr (fun e _ => ?_)
  rw [afterPrefix, if_neg (Ne.symm hc), Option.map_none]

theorem decodeList_encode (cs : List Char) (fuel : Nat) (h : (codes.encode cs).length ≤ fuel) :
    codes.decodeList fuel (codes.encode cs) = cs := by
  induction cs generalizing fuel with
  | nil =>
      cases fuel with
      | zero => rfl
      | succ fuel => rfl
  | cons c cs ih =>
      rw [encode, List.flatMap_cons, ← encode] at h ⊢
      rw [List.length_append] at h
      -- a coded character is read as its code, the others as themselves
      rcases encodeIn_cases codes.mark codes.entries c with ⟨e, he, hec, hcode⟩ | ⟨hplain, hcode⟩
      · rw [hcode] at h ⊢
        rw [List.length_cons] at h
        cases fuel with
        | zero => omega
        | succ fuel =>
            have hread := codes.read_code e he (codes.encode cs)
            rw [List.cons_append] at hread ⊢
            rw [decodeList, hread, hec]
            dsimp only
            rw [ih fuel (by omega)]
      · rw [hcode] at h ⊢
        rw [List.length_singleton] at h
        cases fuel with
        | zero => omega
        | succ fuel =>
            have hc : c ≠ codes.mark := by
              rintro rfl
              exact hplain codes.mark_mem
            rw [List.singleton_append, decodeList, codes.read_plain c _ hc]
            dsimp only
            rw [ih fuel (by omega)]

/-- Decoding undoes encoding. -/
theorem decode_encode (cs : List Char) : codes.decode (codes.encode cs) = cs :=
  codes.decodeList_encode cs _ (Nat.le_refl _)

/-- With the mark first, one character after the other is encoding. -/
theorem foldl_eq_encode (cs : List Char) :
    codes.entries.foldl (substitute codes.mark) cs = codes.encode cs := by
  refine foldl_substitute codes.mark codes.entries cs ?_
  have hdistinct := codes.distinct
  have hplain := codes.plain
  rcases codes.exists_first with ⟨tail, rest, h⟩
  rw [h] at hdistinct hplain ⊢
  rw [List.map_cons, List.nodup_cons] at hdistinct
  refine List.pairwise_iff_forall_sublist.mpr (fun {e e'} hsub hmem => ?_)
  have he : e ∈ (codes.mark, tail) :: rest := hsub.subset (by simp)
  have he' : e' ∈ rest := by
    cases hsub with
    | cons _ hsub => exact hsub.subset (by simp)
    | cons_cons _ hsub => exact hsub.subset (by simp)
  rcases List.mem_cons.mp hmem with hmark | hcode
  · exact hdistinct.1 (List.mem_map.mpr ⟨e', he', hmark⟩)
  · exact hplain e he e' (List.mem_cons_of_mem _ he') hcode

end Codes

end Escaping

end Xbench
