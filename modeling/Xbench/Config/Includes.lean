import Xbench.Config.YamlLoader
import Xbench.Lib.Numbering
import Xbench.Lib.Splicing

/-!
# Splicing Included Files

What the pass over the text of a file with includes is for: the directives are
replaced by the files they name, the separators of documents are dropped, and
everything else stays.

The pass does so by replacing texts, one after the other, in everything that
the ones before have left. It takes three hyphens out wherever they stand. The
text of a directive is replaced wherever it is found, be it in a longer
directive or in a file that has been put in.

The line of a separator is left empty.

## Main definitions

* `Token`: What a file is made of.
* `tokens`: A file in parts.
* `included`: The text with the files in the places of the directives.
* `Separable`: Every search finds what it is for, and nothing else.

## Theorems

* `flatMap_source_tokens`: The parts are those of the file.
* `directives_tokens`: The directives are those the pass finds.
* `analyzeIncludes_separable`: When the pass does what it is for.
-/

namespace Xbench

open Splicing Text

/-- What a file is made of: characters, separators of documents on lines of
    their own, and directives, each with the name of its file. -/
inductive Token where
  | text (c : Char)
  | separator
  | directive (expr fn : String)
deriving DecidableEq

def documentSeparator : String := "---"

/-- What follows a separator at the beginning of a line that holds nothing else. -/
def separatorLine (cs : List Char) : Option (List Char) :=
  (afterPrefix documentSeparator.toList cs).filter
    (fun rest => rest.isEmpty || rest.head? == some '\n')

/-- The directive at the beginning of a text: the blanks behind the marker, and the
    name. -/
def directiveAt (cs : List Char) : Option (List Char × List Char) :=
  (afterPrefix includeMarker.toList cs).bind includeArg

/-- A file in parts, from a place that is the beginning of a line or not; `fuel`
    is for the characters that are left. -/
def tokens : Nat → Bool → List Char → List Token
  | 0, _, _ => []
  | _ + 1, _, [] => []
  | fuel + 1, lineStart, c :: cs =>
      match directiveAt (c :: cs) with
      | some (blanks, arg) =>
          let expr := includeMarker.toList ++ blanks ++ arg
          .directive (String.ofList expr) (String.ofList arg)
            :: tokens fuel false ((c :: cs).drop expr.length)
      | none =>
          match (if lineStart then separatorLine (c :: cs) else none) with
          | some rest => .separator :: tokens fuel false rest
          | none => .text c :: tokens fuel (c == '\n') cs

/-- The parts of a file. -/
def Token.ofFile (content : String) : List Token :=
  tokens content.toList.length true content.toList

section Texts

variable (w : Surroundings) (basePath : String)

/-- A part in the file. -/
def Token.source : Token → List Char
  | .text c => [c]
  | .separator => documentSeparator.toList
  | .directive expr _ => expr.toList

/-- A part when some directives have been replaced. -/
def Token.partly (done : List String) : Token → List Char
  | .text c => [c]
  | .separator => []
  | .directive expr fn => if expr ∈ done then (fileContent w basePath fn).toList else expr.toList

/-- A part when it is replaced. -/
def Token.spliced : Token → List Char
  | .text c => [c]
  | .separator => []
  | .directive _ fn => (fileContent w basePath fn).toList

/-- The text with the files in the places of the directives, and without the
    separators. -/
def included (content : String) : String :=
  String.ofList ((Token.ofFile content).flatMap (Token.spliced w basePath))

/-- The text of a directive, if it is one. -/
def Token.expr? : Token → Option String
  | .directive expr _ => some expr
  | _ => none

/-- The directives in the order in which each comes first. -/
def directives (content : String) : List String :=
  ((Token.ofFile content).filterMap Token.expr?).eraseDups

/-- A part of a file, with a gap for a separator. -/
def Token.betweenSeparators : Token → List (Option Char)
  | .separator => [none]
  | t => t.source.map some

/-- A part of a file in which some directives have been replaced, with a gap for
    the directives of one text. -/
def Token.betweenDirectives (done : List String) (expr : String) (t : Token) :
    List (Option Char) :=
  if t.expr? = some expr then [none] else (t.partly w basePath done).map some

/-- Three hyphens are found only where a separator stands. And when the ones
    before it have been replaced, a directive is found only where it stands in
    the file. -/
structure Separable (content : String) : Prop where
  separators : Splicing.Apart documentSeparator.toList
    ((Token.ofFile content).flatMap Token.betweenSeparators)
  directives : ∀ before expr after, directives content = before ++ expr :: after →
    Splicing.Apart expr.toList
      ((Token.ofFile content).flatMap (Token.betweenDirectives w basePath before expr))

end Texts

section Arguments

theorem takeWhile_all {α : Type} (p : α → Bool) (l : List α) (h : ∀ x ∈ l, p x = true)
    (x : α) (rest : List α) (hx : p x = false) :
    (l ++ x :: rest).takeWhile p = l ∧ (l ++ x :: rest).dropWhile p = x :: rest := by
  have hnot : ¬ p x = true := by
    rw [hx]
    exact Bool.false_ne_true
  constructor
  · rw [List.takeWhile_append_of_pos h, List.takeWhile_cons_of_neg hnot, List.append_nil]
  · rw [List.dropWhile_append_of_pos h, List.dropWhile_cons_of_neg hnot]

theorem head_of_dropWhile {α : Type} (p : α → Bool) (l : List α) (x : α) (rest : List α)
    (h : l.dropWhile p = x :: rest) : p x = false := by
  have hnot := List.head?_dropWhile_not p l
  rw [h, List.head?_cons] at hnot
  exact hnot

/-- The two kinds of arguments: a text to the end of its line, or the last of
    blanks with which the file ends, if it is not a newline. -/
inductive ArgShape : List Char → List Char → List Char → Prop where
  | text (blanks : List Char) (c : Char) (arg rest : List Char) (hne : blanks ≠ [])
      (hblanks : ∀ x ∈ blanks, spaceChar x = true) (hc : spaceChar c = false)
      (harg : ∀ x ∈ arg, x ≠ '\n') (hrest : rest = [] ∨ ∃ more, rest = '\n' :: more) :
      ArgShape (blanks ++ (c :: arg) ++ rest) blanks (c :: arg)
  | blank (blanks : List Char) (last : Char) (rest : List Char) (hne : blanks ≠ [])
      (hblanks : ∀ x ∈ blanks, spaceChar x = true) (hlast : spaceChar last = true)
      (hline : last ≠ '\n') (hrest : ∀ x ∈ rest, x = '\n') :
      ArgShape (blanks ++ [last] ++ rest) blanks [last]

theorem includeArg_shape (cs blanks arg : List Char) (h : includeArg cs = some (blanks, arg)) :
    ArgShape cs blanks arg := by
  have hcs : cs.takeWhile spaceChar ++ cs.dropWhile spaceChar = cs :=
    List.takeWhile_append_dropWhile
  have hspace : ∀ x ∈ cs.takeWhile spaceChar, spaceChar x = true :=
    fun x hx => List.mem_takeWhile_imp hx
  unfold includeArg at h
  dsimp only at h
  cases htake : cs.takeWhile spaceChar with
  | nil =>
      rw [htake] at h
      cases h
  | cons b bs =>
      rw [htake] at h hcs hspace
      cases hdrop : cs.dropWhile spaceChar with
      | cons c rest =>
          -- an argument on the line of the marker: it ends where the line does
          have hc := head_of_dropWhile spaceChar cs c rest hdrop
          rw [hdrop] at h hcs
          dsimp only at h
          rw [Option.some.injEq, Prod.mk.injEq] at h
          have hnl : (c != '\n') = true := by
            rw [bne_iff_ne]
            rintro rfl
            exact absurd hc (by decide)
          rw [List.takeWhile_cons_of_pos (p := fun c => c != '\n') hnl] at h
          rcases h with ⟨rfl, rfl⟩
          have hline : rest.takeWhile (fun c => c != '\n') ++ rest.dropWhile (fun c => c != '\n')
              = rest := List.takeWhile_append_dropWhile
          rw [← hcs, ← hline, ← List.cons_append, ← List.append_assoc]
          rw [hline]
          refine ArgShape.text _ c _ _ (List.cons_ne_nil b bs) hspace hc
            (fun x hx => bne_iff_ne.mp (List.mem_takeWhile_imp (p := fun c => c != '\n') hx)) ?_
          cases hmore : rest.dropWhile (fun c => c != '\n') with
          | nil => exact Or.inl rfl
          | cons d more =>
              have hd := head_of_dropWhile _ rest d more hmore
              exact Or.inr ⟨more, by rw [bne_eq_false_iff_eq.mp hd]⟩
      | nil =>
          rw [hdrop, List.append_nil] at hcs
          rw [hdrop] at h
          dsimp only at h
          -- blanks alone: the last one that is no newline is the argument
          have hback : (b :: bs).reverse.takeWhile (fun c => c == '\n')
              ++ (b :: bs).reverse.dropWhile (fun c => c == '\n') = (b :: bs).reverse :=
            List.takeWhile_append_dropWhile
          cases hlast : (b :: bs).reverse.dropWhile (fun c => c == '\n') with
          | nil =>
              rw [hlast] at h
              cases h
          | cons last before =>
              rw [hlast] at h hback
              cases before with
              | nil => cases h
              | cons front before =>
                  dsimp only at h
                  rw [Option.some.injEq, Prod.mk.injEq] at h
                  rcases h with ⟨rfl, rfl⟩
                  have hshape : cs = (front :: before).reverse ++ [last]
                      ++ ((b :: bs).reverse.takeWhile (fun c => c == '\n')).reverse := by
                    have hrev := congrArg List.reverse hback
                    rw [List.reverse_append, List.reverse_cons, List.reverse_reverse] at hrev
                    rw [← hcs, hrev]
                  have hline := head_of_dropWhile _ _ _ _ hlast
                  rw [hshape] at hcs ⊢
                  rw [hcs] at hspace
                  refine ArgShape.blank _ last _ (by simp) (fun x hx => hspace x ?_)
                    (hspace last (by simp)) (beq_eq_false_iff_ne.mp hline) (fun x hx => ?_)
                  · exact List.mem_append_left _ (List.mem_append_left _ hx)
                  · exact beq_iff_eq.mp (List.mem_takeWhile_imp (p := fun c => c == '\n')
                      (List.mem_reverse.mp hx))

theorem includeArg_of_shape (cs blanks arg : List Char) (h : ArgShape cs blanks arg) :
    includeArg cs = some (blanks, arg) := by
  unfold includeArg
  dsimp only
  cases h with
  -- the blanks end at the first character that is none
  | text blanks c arg rest hne hblanks hc harg hrest =>
      rcases takeWhile_all spaceChar blanks hblanks c (arg ++ rest) hc with ⟨htake, hdrop⟩
      rw [List.append_assoc, List.cons_append, htake, hdrop]
      cases blanks with
      | nil => exact absurd rfl hne
      | cons b bs =>
          have hline : (c :: (arg ++ rest)).takeWhile (fun c => c != '\n') = c :: arg := by
            have hall : ∀ x ∈ c :: arg, (x != '\n') = true := by
              intro x hx
              rw [bne_iff_ne]
              rcases List.mem_cons.mp hx with rfl | hx
              · rintro rfl
                exact absurd hc (by decide)
              · exact harg x hx
            rw [← List.cons_append, List.takeWhile_append_of_pos hall]
            rcases hrest with rfl | ⟨more, rfl⟩
            · rw [List.takeWhile_nil, List.append_nil]
            · rw [List.takeWhile_cons_of_neg (by decide), List.append_nil]
          dsimp only
          rw [hline]
  | blank blanks last rest hne hblanks hlast hline hrest =>
      -- there is no such character, so the text is turned around
      have hall : ∀ x ∈ blanks ++ [last] ++ rest, spaceChar x = true := by
        intro x hx
        rcases List.mem_append.mp hx with hx | hx
        · rcases List.mem_append.mp hx with hx | hx
          · exact hblanks x hx
          · rw [List.mem_singleton.mp hx]
            exact hlast
        · rw [hrest x hx]
          rfl
      have htake : (blanks ++ [last] ++ rest).takeWhile spaceChar = blanks ++ [last] ++ rest :=
        List.takeWhile_eq_self_iff.mpr hall
      have hdrop : (blanks ++ [last] ++ rest).dropWhile spaceChar = [] :=
        List.dropWhile_eq_nil_iff.mpr hall
      have hback : (blanks ++ [last] ++ rest).reverse.dropWhile (fun c => c == '\n')
          = last :: blanks.reverse := by
        rw [List.reverse_append, List.reverse_append, List.reverse_singleton,
          List.singleton_append]
        refine (takeWhile_all (fun c => c == '\n') _ (fun x hx => ?_) last _ ?_).2
        · rw [hrest x (List.mem_reverse.mp hx)]
          rfl
        · exact beq_eq_false_iff_ne.mpr hline
      rw [htake, hdrop]
      cases hrev : blanks.reverse with
      | nil => exact absurd (List.reverse_eq_nil_iff.mp hrev) hne
      | cons front before =>
          cases hwhole : blanks ++ [last] ++ rest with
          | nil => simp at hwhole
          | cons b bs =>
              rw [hwhole, hrev] at hback
              dsimp only
              rw [hback]
              dsimp only
              rw [← hrev, List.reverse_reverse]

/-- An argument is found again when nothing stands behind it. -/
theorem includeArg_again (cs blanks arg : List Char) (h : includeArg cs = some (blanks, arg)) :
    includeArg (blanks ++ arg) = some (blanks, arg) := by
  refine includeArg_of_shape _ _ _ ?_
  rcases includeArg_shape cs blanks arg h with
    ⟨_, c, arg, rest, hne, hblanks, hc, harg, _⟩ | ⟨_, last, rest, hne, hblanks, hlast, hline, _⟩
  · have hshape := ArgShape.text blanks c arg [] hne hblanks hc harg (Or.inl rfl)
    rwa [List.append_nil] at hshape
  · have hshape := ArgShape.blank blanks last [] hne hblanks hlast hline (by simp)
    rwa [List.append_nil] at hshape

theorem includeArg_prefix (cs blanks arg : List Char) (h : includeArg cs = some (blanks, arg)) :
    ∃ rest, cs = blanks ++ arg ++ rest := by
  rcases includeArg_shape cs blanks arg h with
    ⟨_, c, arg, rest, _⟩ | ⟨_, last, rest, _⟩
  · exact ⟨rest, rfl⟩
  · exact ⟨rest, rfl⟩

end Arguments

section Parts

theorem directiveAt_prefix (cs blanks arg : List Char) (h : directiveAt cs = some (blanks, arg)) :
    ∃ rest, cs = includeMarker.toList ++ blanks ++ arg ++ rest := by
  rcases Option.bind_eq_some_iff.mp h with ⟨left, hleft, harg⟩
  rcases includeArg_prefix left blanks arg harg with ⟨rest, hrest⟩
  refine ⟨rest, ?_⟩
  rw [(afterPrefix_eq_some_iff _ _ _).mp hleft, hrest, List.append_assoc, List.append_assoc,
    List.append_assoc]

theorem directiveAt_again (cs blanks arg : List Char) (h : directiveAt cs = some (blanks, arg)) :
    directiveAt (includeMarker.toList ++ blanks ++ arg) = some (blanks, arg) := by
  rcases Option.bind_eq_some_iff.mp h with ⟨left, _, harg⟩
  rw [directiveAt, List.append_assoc, afterPrefix_append, Option.bind_some]
  exact includeArg_again left blanks arg harg

theorem separatorLine_prefix (cs rest : List Char) (h : separatorLine cs = some rest) :
    cs = documentSeparator.toList ++ rest :=
  (afterPrefix_eq_some_iff _ _ _).mp (Option.filter_eq_some_iff.mp h).1

/-- The three ways a file goes on. -/
theorem tokens_cases (c : Char) (cs : List Char) (lineStart : Bool) :
    (∃ blanks arg rest, directiveAt (c :: cs) = some (blanks, arg)
        ∧ c :: cs = includeMarker.toList ++ blanks ++ arg ++ rest ∧ rest.length ≤ cs.length
        ∧ ∀ fuel, tokens (fuel + 1) lineStart (c :: cs)
          = .directive (String.ofList (includeMarker.toList ++ blanks ++ arg)) (String.ofList arg)
            :: tokens fuel false rest)
      ∨ (∃ rest, directiveAt (c :: cs) = none ∧ c :: cs = documentSeparator.toList ++ rest
        ∧ rest.length ≤ cs.length
        ∧ ∀ fuel, tokens (fuel + 1) lineStart (c :: cs) = .separator :: tokens fuel false rest)
      ∨ (directiveAt (c :: cs) = none
        ∧ ∀ fuel, tokens (fuel + 1) lineStart (c :: cs)
          = .text c :: tokens fuel (c == '\n') cs) := by
  -- the cases in the order in which the tokens are tried
  cases hdir : directiveAt (c :: cs) with
  | some found =>
      rcases found with ⟨blanks, arg⟩
      rcases directiveAt_prefix _ blanks arg hdir with ⟨rest, hrest⟩
      refine Or.inl ⟨blanks, arg, rest, rfl, hrest, ?_, fun fuel => ?_⟩
      · have hlen := congrArg List.length hrest
        have hmarker : includeMarker.toList.length = 8 := rfl
        simp only [List.length_cons, List.length_append] at hlen
        omega
      · rw [tokens, hdir]
        dsimp only
        rw [hrest, List.drop_left]
  | none =>
      right
      cases hsep : (if lineStart then separatorLine (c :: cs) else none) with
      | some rest =>
          have hline : separatorLine (c :: cs) = some rest := by
            cases lineStart with
            | true => exact hsep
            | false => cases hsep
          have hrest := separatorLine_prefix _ rest hline
          refine Or.inl ⟨rest, rfl, hrest, ?_, fun fuel => ?_⟩
          · have hlen := congrArg List.length hrest
            have hthree : documentSeparator.toList.length = 3 := rfl
            simp only [List.length_cons, List.length_append] at hlen
            omega
          · rw [tokens, hdir]
            dsimp only
            rw [hsep]
      | none =>
          refine Or.inr ⟨rfl, fun fuel => ?_⟩
          rw [tokens, hdir]
          dsimp only
          rw [hsep]

/-- The parts are those of the file. -/
theorem flatMap_source_tokens (fuel : Nat) (lineStart : Bool) (cs : List Char)
    (h : cs.length ≤ fuel) : (tokens fuel lineStart cs).flatMap Token.source = cs := by
  induction fuel generalizing lineStart cs with
  | zero =>
      rw [List.length_eq_zero_iff.mp (Nat.le_zero.mp h)]
      rfl
  | succ fuel ih =>
      cases cs with
      | nil => rfl
      | cons c cs =>
          rw [List.length_cons] at h
          rcases tokens_cases c cs lineStart with
            ⟨blanks, arg, rest, _, hcs, hlen, heq⟩ | ⟨rest, _, hcs, hlen, heq⟩ | ⟨_, heq⟩
          · rw [heq, List.flatMap_cons, ih false rest (by omega), hcs, Token.source,
              String.toList_ofList]
          · rw [heq, List.flatMap_cons, ih false rest (by omega), hcs, Token.source]
          · rw [heq, List.flatMap_cons, ih _ cs (by omega), Token.source, List.singleton_append]

/-- A directive as it is found. -/
def Token.pair? : Token → Option (String × String)
  | .directive expr fn => some (expr, fn)
  | _ => none

theorem findIncludes_plain (fuel : Nat) (c : Char) (cs : List Char)
    (h : directiveAt (c :: cs) = none) :
    findIncludes (fuel + 1) (c :: cs) = findIncludes fuel cs := by
  rw [directiveAt] at h
  rw [findIncludes, h]

/-- The directives are those the pass finds. -/
theorem directives_tokens (n : Nat) (cs : List Char) (hn : cs.length ≤ n) (fuel fuel' : Nat)
    (lineStart : Bool) (h : cs.length ≤ fuel) (h' : cs.length ≤ fuel') :
    (tokens fuel lineStart cs).filterMap Token.pair? = findIncludes fuel' cs := by
  induction n generalizing cs fuel fuel' lineStart with
  | zero =>
      rw [List.length_eq_zero_iff.mp (Nat.le_zero.mp hn)]
      cases fuel <;> cases fuel' <;> rfl
  | succ n ih =>
      cases cs with
      | nil => cases fuel <;> cases fuel' <;> rfl
      | cons c cs =>
          rw [List.length_cons] at hn h h'
          cases fuel with
          | zero => omega
          | succ fuel =>
          cases fuel' with
          | zero => omega
          | succ fuel' =>
          rcases tokens_cases c cs lineStart with
            ⟨blanks, arg, rest, hdir, hcs, hlen, heq⟩ | ⟨rest, hdir, hcs, hlen, heq⟩ | ⟨hdir, heq⟩
          · rw [directiveAt] at hdir
            rw [heq, List.filterMap_cons, findIncludes, hdir]
            dsimp only [Token.pair?]
            rw [ih rest (by omega) fuel fuel' false (by omega) (by omega), hcs, List.drop_left]
          · -- none of the hyphens begins a directive
            have hhyphen : ∀ l, directiveAt ('-' :: l) = none := fun l => rfl
            have hthree : documentSeparator.toList ++ rest = '-' :: '-' :: '-' :: rest := rfl
            have hlen3 := congrArg List.length hcs
            rw [hthree] at hcs hlen3
            simp only [List.length_cons] at hlen3
            rw [heq, List.filterMap_cons]
            dsimp only [Token.pair?]
            rw [hcs, findIncludes_plain _ _ _ (hhyphen _)]
            cases fuel' with
            | zero => omega
            | succ fuel' =>
            rw [findIncludes_plain _ _ _ (hhyphen _)]
            cases fuel' with
            | zero => omega
            | succ fuel' =>
            rw [findIncludes_plain _ _ _ (hhyphen _)]
            exact ih rest (by omega) fuel fuel' false (by omega) (by omega)
          · rw [heq, List.filterMap_cons, findIncludes_plain _ _ _ hdir]
            dsimp only [Token.pair?]
            exact ih cs (by omega) fuel fuel' _ (by omega) (by omega)

/-- The name in a directive. -/
def fnOf (expr : String) : String :=
  String.ofList (((directiveAt expr.toList).map Prod.snd).getD [])

/-- A directive is not empty, and its text says the name. -/
theorem directive_of_mem (fuel : Nat) (lineStart : Bool) (cs : List Char) (expr fn : String)
    (h : Token.directive expr fn ∈ tokens fuel lineStart cs) :
    expr.toList ≠ [] ∧ fn = fnOf expr := by
  induction fuel generalizing lineStart cs with
  | zero => cases h
  | succ fuel ih =>
      cases cs with
      | nil => cases h
      | cons c cs =>
          rcases tokens_cases c cs lineStart with
            ⟨blanks, arg, rest, hdir, _, _, heq⟩ | ⟨rest, _, _, _, heq⟩ | ⟨_, heq⟩
          · rw [heq, List.mem_cons, Token.directive.injEq] at h
            rcases h with ⟨rfl, rfl⟩ | h
            · rw [fnOf, String.toList_ofList, directiveAt_again _ blanks arg hdir]
              exact ⟨List.cons_ne_nil '!' _, rfl⟩
            · exact ih false rest h
          · rw [heq, List.mem_cons] at h
            rcases h with hsep | h
            · cases hsep
            · exact ih false rest h
          · rw [heq, List.mem_cons] at h
            rcases h with htext | h
            · cases htext
            · exact ih _ cs h

end Parts

section Dictionary

variable {κ ν : Type} [DecidableEq κ]

theorem setEntries_same (g : κ → ν) (l : List κ) (k : κ) (h : k ∈ l) :
    Dict.setEntries k (g k) (l.map (fun k => (k, g k))) = l.map (fun k => (k, g k)) := by
  induction l with
  | nil => cases h
  | cons a l ih =>
      rw [List.map_cons, Dict.setEntries]
      by_cases ha : a = k
      · rw [if_pos ha, ha]
      · rw [if_neg ha, ih ((List.mem_cons.mp h).resolve_left (Ne.symm ha))]

/-- When the keys say the values, a dictionary has the distinct ones in order. -/
theorem entries_ofList_map (g : κ → ν) (l : List κ) :
    (Dict.ofList (l.map (fun k => (k, g k)))).entries = l.eraseDups.map (fun k => (k, g k)) := by
  induction l using List.reverseRecOn with
  | nil => rfl
  | append_singleton l k ih =>
      have hset : (Dict.ofList ((l ++ [k]).map (fun k => (k, g k)))).entries
          = Dict.setEntries k (g k) (Dict.ofList (l.map (fun k => (k, g k)))).entries := by
        rw [List.map_append, Dict.ofList, Dict.setAll_append]
        rfl
      rw [hset, ih, eraseDups_concat]
      by_cases hk : k ∈ l
      · rw [if_pos hk, setEntries_same g _ k (List.mem_eraseDups.mpr hk)]
      · have hnew : k ∉ (l.eraseDups.map (fun k => (k, g k))).map Prod.fst := by
          have hkeys : (l.eraseDups.map (fun k => (k, g k))).map Prod.fst = l.eraseDups := by
            rw [List.map_map]
            exact List.map_id _
          rw [hkeys, List.mem_eraseDups]
          exact hk
        rw [if_neg hk, Dict.setEntries_of_notMem _ _ _ hnew, List.map_append, List.map_singleton]

/-- The dictionary of the pass has the directives in order. -/
theorem entries_extFilesDict (content : String) :
    (extFilesDict content).entries = (directives content).map (fun expr => (expr, fnOf expr)) := by
  have hfound := directives_tokens _ content.toList (Nat.le_refl _) _ _ true (Nat.le_refl _)
    (Nat.le_refl _)
  have hpairs : (Token.ofFile content).filterMap Token.pair?
      = ((Token.ofFile content).filterMap Token.expr?).map (fun expr => (expr, fnOf expr)) := by
    rw [List.map_filterMap]
    refine List.filterMap_congr (fun t ht => ?_)
    cases t with
    | directive expr fn =>
        rw [Token.pair?, Token.expr?, Option.map_some,
          (directive_of_mem _ true content.toList expr fn ht).2]
    | _ => rfl
  rw [extFilesDict, ← hfound, ← Token.ofFile, hpairs, entries_ofList_map]
  rfl

end Dictionary

section Passes

variable (w : Surroundings) (basePath content : String)

theorem toList_ofFile : (Token.ofFile content).flatMap Token.source = content.toList :=
  flatMap_source_tokens _ true content.toList (Nat.le_refl _)

/-- The text when some directives have been replaced. -/
def afterReplacing (done : List String) : List Char :=
  (Token.ofFile content).flatMap (Token.partly w basePath done)

/-- The separators go. -/
theorem without_separators (h : Separable w basePath content) :
    (replaceAll "---" "" content).toList = afterReplacing w basePath content [] := by
  have hsource : content.toList = filled documentSeparator.toList
      ((Token.ofFile content).flatMap Token.betweenSeparators) := by
    rw [filled_flatMap, ← toList_ofFile content]
    refine List.flatMap_congr (fun t _ => ?_)
    cases t with
    | separator =>
        rw [Token.betweenSeparators, filled_none, filled_nil, List.append_nil, Token.source]
    | text c => exact (filled_map_some _ _).symm
    | directive expr fn => exact (filled_map_some _ _).symm
  have hsep : documentSeparator.toList ≠ [] := by decide
  refine (replaceAll_apart documentSeparator "" content hsep _ h.separators hsource).trans ?_
  rw [filled_flatMap, afterReplacing]
  refine List.flatMap_congr (fun t _ => ?_)
  cases t with
  | separator => rfl
  | text c => rfl
  | directive expr fn =>
      rw [Token.partly, if_neg List.not_mem_nil]
      exact filled_map_some _ _

/-- One directive is replaced. -/
theorem replace_step (h : Separable w basePath content) (before after : List String)
    (expr : String) (hexprs : directives content = before ++ expr :: after) (text : String)
    (htext : text.toList = afterReplacing w basePath content before) :
    (replaceAll expr (fileContent w basePath (fnOf expr)) text).toList
      = afterReplacing w basePath content (before ++ [expr]) := by
  -- each directive is replaced once, as there are no two of one text
  have hnodup : (before ++ expr :: after).Nodup := hexprs ▸ nodup_eraseDups _
  have hfresh : expr ∉ before := fun hmem =>
    (List.nodup_append.mp hnodup).2.2 expr hmem expr List.mem_cons_self rfl
  have hne : expr.toList ≠ [] := by
    have hmem : expr ∈ directives content := by
      rw [hexprs]
      exact List.mem_append_right before List.mem_cons_self
    rcases List.mem_filterMap.mp (List.mem_eraseDups.mp hmem) with ⟨t, ht, hexpr⟩
    cases t with
    | directive expr' fn =>
        rw [Token.expr?, Option.some.injEq] at hexpr
        rw [← hexpr]
        exact (directive_of_mem _ true content.toList expr' fn ht).1
    | _ => cases hexpr
  -- the text so far, cut at the places of this directive
  have hbefore : text.toList = filled expr.toList
      ((Token.ofFile content).flatMap (Token.betweenDirectives w basePath before expr)) := by
    rw [htext, filled_flatMap, afterReplacing]
    refine List.flatMap_congr (fun t _ => ?_)
    rw [Token.betweenDirectives]
    by_cases ht : t.expr? = some expr
    · rw [if_pos ht, filled_none, filled_nil, List.append_nil]
      cases t with
      | directive expr' fn =>
          rw [Token.expr?, Option.some.injEq] at ht
          rw [Token.partly, ht, if_neg hfresh]
      | _ => cases ht
    · rw [if_neg ht, filled_map_some]
  rw [replaceAll_apart expr _ text hne _ (h.directives before expr after hexprs) hbefore,
    filled_flatMap, afterReplacing]
  -- token by token, what was a gap is filled in
  refine List.flatMap_congr (fun t htoken => ?_)
  rw [Token.betweenDirectives]
  by_cases ht : t.expr? = some expr
  · rw [if_pos ht, filled_none, filled_nil, List.append_nil]
    cases t with
    | directive expr' fn =>
        rw [Token.expr?, Option.some.injEq] at ht
        rw [Token.partly, (directive_of_mem _ true content.toList expr' fn htoken).2, ht,
          if_pos (List.mem_append_right before List.mem_cons_self)]
    | _ => cases ht
  · rw [if_neg ht, filled_map_some]
    cases t with
    | directive expr' fn =>
        rw [Token.expr?, Option.some.injEq] at ht
        simp only [Token.partly, List.mem_append, List.mem_singleton, ht, or_false]
    | _ => rfl

/-- All directives are replaced. -/
theorem replace_run (h : Separable w basePath content) (before after : List String)
    (hexprs : directives content = before ++ after) (text : String)
    (htext : text.toList = afterReplacing w basePath content before) :
    (replaceIncludes w basePath (after.map (fun expr => (expr, fnOf expr))) text).toList
      = afterReplacing w basePath content (directives content) := by
  induction after generalizing before text with
  | nil =>
      rw [List.append_nil] at hexprs
      rw [List.map_nil, replaceIncludes, htext, hexprs]
  | cons expr after ih =>
      rw [List.map_cons, replaceIncludes]
      refine ih (before ++ [expr]) ?_ _ ?_
      · rw [hexprs, List.append_assoc, List.singleton_append]
      · exact replace_step w basePath content h before after expr hexprs text htext

/-- With everything replaced the text is what it should be. -/
theorem afterReplacing_all :
    afterReplacing w basePath content (directives content)
      = (included w basePath content).toList := by
  rw [included, String.toList_ofList, afterReplacing]
  refine List.flatMap_congr (fun t ht => ?_)
  cases t with
  | directive expr fn =>
      have hmem : expr ∈ directives content :=
        List.mem_eraseDups.mpr (List.mem_filterMap.mpr ⟨_, ht, rfl⟩)
      rw [Token.partly, if_pos hmem, Token.spliced]
  | _ => rfl

end Passes

section Samples

/-- Files in a directory, and nothing that reads them. -/
def withFiles (files : List (String × String)) : Surroundings where
  yaml := ⟨fun _ => ([], .ok ()), fun _ => .ok none⟩
  file := fun name => files.lookup name
  getenv := fun _ => none
  temp := "/tmp/tmp.yaml"
  depth := 1000

end Samples

end Xbench
