import Xbench.Config.LoadHistory
import Mathlib.Algebra.Order.BigOperators.Group.List
import Mathlib.Algebra.Order.Ring.Nat

/-!
# References in a Scalar

Which references of a plain scalar are replaced with their values.

A reference is a name with a key in brackets and quotes. A scalar is read from
left to right as pieces, which are references and the characters between them,
and it means the text that comes out when each reference is replaced with the
text of its value.

The code goes another way. PyYAML asks each resolver for a match at the
beginning, so a scalar that begins with something else is no reference to it,
and stays. One that begins with a reference goes to the constructor of that
name, which replaces the references of that name all over the scalar and leaves
the others. And a secret that is a number is no string for `re.sub`.

So a scalar comes out right when it begins with a reference, all of them are of
the one name, and no secret is a number.

## Main definitions

* `Piece`: A character, or a reference.
* `pieces`: The pieces of a scalar.
* `resolved`: What a scalar means.
* `Provided`: The variables are set, and the secrets are in the vault.
* `Replaceable`: The references that the code replaces.
* `Process.loading`: The tables that a file is loaded with.

## Theorems

* `yamlConfig_loading`: A load constructs its documents with those tables.
* `substituteList_pieces`: A reader replaces the references of its name.
* `plain_of_replaceable`: A scalar that comes out right.
* `resolved_iff`: The scalars that come out right.
-/

namespace Xbench

open Text

section Pieces

/-- A character, or a reference to a variable or to a secret. -/
inductive Piece where
  | char (c : Char)
  | env (key : String)
  | vault (key : String)

/-- The pieces of a scalar; `fuel` is for the characters that are left. -/
def piecesOf : Nat → List Char → List Piece
  | 0, _ => []
  | _ + 1, [] => []
  | fuel + 1, c :: cs =>
      match matchHere "ENV" (c :: cs) with
      | some (key, rest) => .env (String.ofList key) :: piecesOf fuel rest
      | none =>
          match matchHere "VAULT" (c :: cs) with
          | some (key, rest) => .vault (String.ofList key) :: piecesOf fuel rest
          | none => .char c :: piecesOf fuel cs

def pieces (text : String) : List Piece :=
  piecesOf text.toList.length text.toList

variable (getenv : String → Option String) (secrets : List (String × Value))

/-- The text that a piece stands for. -/
def Piece.value : Piece → List Char
  | .char c => [c]
  | .env key => ((getenv key).getD "").toList
  | .vault key => ((secrets.lookup key).elim "" Value.text).toList

/-- What a scalar means: each reference replaced with the text of its value. -/
def resolved (text : String) : String :=
  String.ofList ((pieces text).flatMap (Piece.value getenv secrets))

/-- The variable is set; the secret is in the vault, a number or a string. -/
def Piece.Provided (numeric : String → Bool) : Piece → Prop
  | .char _ => True
  | .env key => (getenv key).isSome = true
  | .vault key =>
      if numeric key = true then ∃ n, secrets.lookup key = some (.int n)
      else ∃ s, secrets.lookup key = some (.str s)

/-- The variables of a scalar are set and its secrets are in the vault. -/
def Provided (numeric : String → Bool) (text : String) : Prop :=
  ∀ piece ∈ pieces text, piece.Provided getenv secrets numeric

end Pieces

section Substitution

variable (w : Surroundings)

theorem length_keyOf (cs key rest : List Char) (h : keyOf cs = some (key, rest)) :
    rest.length < cs.length := by
  induction cs generalizing key with
  | nil => exact absurd h (by simp [keyOf])
  | cons c cs ih =>
      rw [keyOf] at h
      cases hp : afterPrefix ['\'', ']'] (c :: cs) with
      | some after =>
          rw [hp] at h
          have hlen := congrArg List.length ((afterPrefix_eq_some_iff _ _ _).mp hp)
          have hrest : after = rest := congrArg Prod.snd (Option.some.inj h)
          simp only [List.length_cons, List.length_append, List.length_nil] at hlen ⊢
          rw [← hrest]
          omega
      | none =>
          rw [hp] at h
          dsimp only at h
          by_cases hc : c = '\n'
          · rw [if_pos hc] at h
            exact absurd h (by simp)
          · rw [if_neg hc] at h
            rcases Option.map_eq_some_iff.mp h with ⟨⟨key', rest'⟩, hfound, heq⟩
            have hrest : rest' = rest := congrArg Prod.snd heq
            have hlt := ih key' (hrest ▸ hfound)
            rw [List.length_cons]
            omega

/-- A match takes characters. -/
theorem length_matchHere (name : String) (cs key rest : List Char)
    (h : matchHere name cs = some (key, rest)) : rest.length < cs.length := by
  rcases Option.bind_eq_some_iff.mp h with ⟨after, hafter, hkey⟩
  have hlen := congrArg List.length ((afterPrefix_eq_some_iff _ _ _).mp hafter)
  have hlt := length_keyOf after key rest hkey
  rw [List.length_append] at hlen
  omega

/-- Is a piece no reference of another name? -/
def Piece.Of (name : String) : Piece → Prop
  | .char _ => True
  | .env _ => name = "ENV"
  | .vault _ => name = "VAULT"

/-- A piece as a reader reads it. -/
def Piece.readBy (r : Reader) : Piece → Except Exn (List Char)
  | .char c => .ok [c]
  | .env key => (r.readValue w key).map String.toList
  | .vault key => (r.readValue w key).map String.toList

/-- A reader replaces the references of its name, when there are no others. -/
theorem substituteList_pieces (r : Reader) (fuel : Nat) (cs : List Char)
    (hlen : cs.length ≤ fuel) (h : ∀ piece ∈ piecesOf fuel cs, piece.Of r.name) :
    r.substituteList w fuel cs =
      ((piecesOf fuel cs).mapM (Piece.readBy w r)).map List.flatten := by
  induction fuel generalizing cs with
  | zero =>
      rw [List.length_eq_zero_iff.mp (by omega : cs.length = 0)]
      rfl
  | succ fuel ih =>
      cases cs with
      | nil => rfl
      | cons c cs =>
          -- the induction is on the fuel, as a piece can be more than one character
          have hstep : ∀ name key rest, matchHere name (c :: cs) = some (key, rest) →
              rest.length ≤ fuel := by
            intro name key rest hmatch
            have hlt := length_matchHere name (c :: cs) key rest hmatch
            omega
          rw [piecesOf] at h ⊢
          rw [Reader.substituteList]
          cases henv : matchHere "ENV" (c :: cs) with
          | some found =>
              rcases found with ⟨key, rest⟩
              rw [henv] at h
              dsimp only at h ⊢
              -- the piece is one of this reader, by the condition
              have hname : r.name = "ENV" := h _ List.mem_cons_self
              rw [hname, henv, List.mapM_cons]
              dsimp only
              rw [ih rest (hstep "ENV" key rest henv)
                (fun piece hp => h piece (List.mem_cons_of_mem _ hp)), Piece.readBy]
              cases r.readValue w (String.ofList key) with
              | error e => rfl
              | ok value =>
                  cases (piecesOf fuel rest).mapM (Piece.readBy w r) <;> rfl
          | none =>
              rw [henv] at h
              dsimp only at h ⊢
              cases hvault : matchHere "VAULT" (c :: cs) with
              | some found =>
                  rcases found with ⟨key, rest⟩
                  rw [hvault] at h
                  dsimp only at h ⊢
                  have hname : r.name = "VAULT" := h _ List.mem_cons_self
                  rw [hname, hvault, List.mapM_cons]
                  dsimp only
                  rw [ih rest (hstep "VAULT" key rest hvault)
                    (fun piece hp => h piece (List.mem_cons_of_mem _ hp)), Piece.readBy]
                  cases r.readValue w (String.ofList key) with
                  | error e => rfl
                  | ok value =>
                      cases (piecesOf fuel rest).mapM (Piece.readBy w r) <;> rfl
              | none =>
                  rw [hvault] at h
                  dsimp only at h ⊢
                  -- a character that begins no reference is left as it is
                  have hnone : matchHere r.name (c :: cs) = none := by
                    cases r with
                    | env => exact henv
                    | vault secrets => exact hvault
                  have hcs : cs.length ≤ fuel := Nat.le_of_succ_le_succ hlen
                  rw [hnone, List.mapM_cons]
                  dsimp only
                  rw [ih cs hcs (fun piece hp => h piece (List.mem_cons_of_mem _ hp)), Piece.readBy]
                  cases (piecesOf fuel cs).mapM (Piece.readBy w r) <;> rfl

/-- Reading a secret does not look at the environment. -/
theorem substituteList_vault (w' : Surroundings) (secrets : Value) (fuel : Nat) (cs : List Char) :
    (Reader.vault secrets).substituteList w fuel cs =
      (Reader.vault secrets).substituteList w' fuel cs := by
  have hread : ∀ key, (Reader.vault secrets).readValue w key =
      (Reader.vault secrets).readValue w' key := by
    intro key
    cases secrets <;> rfl
  induction fuel generalizing cs with
  | zero => rfl
  | succ fuel ih =>
      cases cs with
      | nil => rfl
      | cons c cs => simp only [Reader.substituteList, hread, ih]

end Substitution

section Scalar

/-- The tables that a file is loaded with, the secrets being those of its
    vault. -/
def Process.loading (p : Process) (secrets : List (String × Value)) : Process :=
  Process.register { p with readers := p.readers ++ [.env, .vault (.dict secrets)] }

/-- A load with a vault constructs its documents with these tables. -/
theorem yamlConfig_loading (w : Surroundings) (p : Process) (yamlConfigFile content : String)
    (vaultFile : Option String) (secrets : List (String × Value))
    (hvault : vaultOf w p vaultFile = .ok [.vault (.dict secrets)])
    (hfile : w.file yamlConfigFile = some content) :
    yamlConfig w p yamlConfigFile vaultFile =
      (p.loading secrets, loadText w (p.loading secrets) yamlConfigFile content >>= withGet) := by
  rw [yamlConfig, hvault]
  dsimp only
  rw [hfile]
  rfl

/-- A reference that the code replaces: the scalar begins with one of its name,
    and its secret is no number. -/
def Piece.Replaceable (numeric : String → Bool) (text : String) : Piece → Prop
  | .char _ => True
  | .env _ => Matches "ENV" text
  | .vault key => Matches "VAULT" text ∧ numeric key = false

variable (w : Surroundings) (history : List Load) (li : String → Except Exn Value)

/-- A scalar goes to the reader whose reference it begins with. -/
theorem plain_loading (secrets : List (String × Value)) (text : String) :
    ((Process.fresh.afterAll history).loading secrets).plain w li text =
      if Matches "ENV" text then Reader.env.substitute w text
      else if Matches "VAULT" text then (Reader.vault (.dict secrets)).substitute w text
      else .ok (.str text) := by
  have hreg := registered_register _ (sound_afterAll Process.fresh sound_fresh history)
    [.env, .vault (.dict secrets)] List.mem_cons_self
  rw [lastVault_append] at hreg
  rw [Process.loading, Process.plain, find_resolver _ _ hreg]
  by_cases henv : Matches "ENV" text
  · rw [if_pos henv, if_pos henv]
    dsimp only
    rw [Process.tagged, hreg.env]
  · rw [if_neg henv, if_neg henv]
    by_cases hvault : Matches "VAULT" text
    · rw [if_pos ⟨hvault, rfl⟩, if_pos hvault]
      dsimp only
      rw [Process.tagged, hreg.vault]
      rfl
    · rw [if_neg (fun h => hvault h.1), if_neg hvault]

variable (getenv : String → Option String) (secrets : List (String × Value))
  (numeric : String → Bool) (text : String)

/-- A scalar whose references are all for one reader, which reads them well. -/
theorem substitute_pieces (r : Reader) (hof : ∀ piece ∈ pieces text, piece.Of r.name)
    (hread : ∀ piece ∈ pieces text, piece.readBy w r = .ok (piece.value getenv secrets)) :
    r.substitute w text = .ok (.str (resolved getenv secrets text)) := by
  have hmap : (pieces text).mapM (Piece.readBy w r) =
      .ok ((pieces text).map (Piece.value getenv secrets)) := by
    rw [except_mapM_ok_iff, List.forall₂_map_right_iff, List.forall₂_same]
    exact hread
  rw [pieces] at hmap
  rw [Reader.substitute, substituteList_pieces w r _ _ (Nat.le_refl _) hof, hmap, resolved,
    List.flatMap_def]
  rfl

/-- Without references a scalar means itself. -/
theorem flatMap_chars (fuel : Nat) (cs : List Char) (hlen : cs.length ≤ fuel)
    (h : ∀ piece ∈ piecesOf fuel cs, ∃ c, piece = .char c) :
    (piecesOf fuel cs).flatMap (Piece.value getenv secrets) = cs := by
  induction fuel generalizing cs with
  | zero => rw [List.length_eq_zero_iff.mp (by omega : cs.length = 0), piecesOf, List.flatMap_nil]
  | succ fuel ih =>
      cases cs with
      | nil => rfl
      | cons c cs =>
          rw [piecesOf] at h ⊢
          cases henv : matchHere "ENV" (c :: cs) with
          | some found =>
              rw [henv] at h
              rcases h _ List.mem_cons_self with ⟨c', hc'⟩
              exact nomatch hc'
          | none =>
              rw [henv] at h
              dsimp only at h ⊢
              cases hvault : matchHere "VAULT" (c :: cs) with
              | some found =>
                  rw [hvault] at h
                  rcases h _ List.mem_cons_self with ⟨c', hc'⟩
                  exact nomatch hc'
              | none =>
                  rw [hvault] at h
                  dsimp only at h ⊢
                  rw [List.flatMap_cons, ih cs (Nat.le_of_succ_le_succ hlen)
                    (fun piece hp => h piece (List.mem_cons_of_mem _ hp))]
                  rfl

/-- A secret that is a number is no string for `re.sub`. -/
theorem substitute_number (key : String) (n : Int) (hn : n ≠ 0)
    (hof : ∀ piece ∈ pieces text, piece.Of "VAULT") (hmem : .vault key ∈ pieces text)
    (hkey : secrets.lookup key = some (.int n)) (v : Value) :
    (Reader.vault (.dict secrets)).substitute w text ≠ .ok v := by
  intro h
  rw [Reader.substitute, substituteList_pieces w (.vault (.dict secrets)) _ text.toList
    (Nat.le_refl _) hof] at h
  rcases except_bind_eq_ok _ _ _ h with ⟨cs, hcs, _⟩
  rcases except_map_eq_ok _ _ _ hcs with ⟨parts, hparts, _⟩
  -- the piece has no text that the others could be joined with
  have hread : (Reader.vault (.dict secrets)).readValue w key = .error noString := by
    have htruthy : (Value.int n).truthy = true := bne_iff_ne.mpr hn
    rw [Reader.readValue, hkey, Option.filter_some, htruthy]
    rfl
  rcases exists_of_forall₂_left _ _ _ ((except_mapM_ok_iff _ _ _).mp hparts) _ hmem with
    ⟨part, _, hpart⟩
  rw [Piece.readBy, hread] at hpart
  exact nomatch hpart

/-- A scalar that comes out right. -/
theorem plain_of_replaceable (hprov : Provided getenv secrets numeric text)
    (h : ∀ piece ∈ pieces text, piece.Replaceable numeric text) :
    ((Process.fresh.afterAll history).loading secrets).plain { w with getenv := getenv } li text =
      .ok (.str (resolved getenv secrets text)) := by
  rw [plain_loading]
  by_cases henv : Matches "ENV" text
  · rw [if_pos henv]
    refine substitute_pieces _ getenv secrets text .env (fun piece hp => ?_) (fun piece hp => ?_)
    · cases piece with
      | char c => exact trivial
      | env key => rfl
      | vault key => exact absurd (h _ hp).1 (not_matches_both text henv)
    · cases piece with
      | char c => rfl
      | env key => rfl
      | vault key => exact absurd (h _ hp).1 (not_matches_both text henv)
  · rw [if_neg henv]
    by_cases hvault : Matches "VAULT" text
    · rw [if_pos hvault]
      refine substitute_pieces _ getenv secrets text _ (fun piece hp => ?_) (fun piece hp => ?_)
      · cases piece with
        | char c => exact trivial
        | env key => exact absurd (h _ hp) henv
        | vault key => rfl
      · cases piece with
        | char c => rfl
        | env key => exact absurd (h _ hp) henv
        | vault key =>
            have hsecret := hprov _ hp
            rw [Piece.Provided, if_neg (by simp [(h _ hp).2])] at hsecret
            rcases hsecret with ⟨s, hs⟩
            rw [Piece.readBy, Reader.readValue, hs, Piece.value, hs]
            by_cases hempty : s = ""
            · rw [hempty]
              rfl
            · have htruthy : (Value.str s).truthy = true := bne_iff_ne.mpr hempty
              rw [Option.filter_some, htruthy]
              rfl
    · -- without a reference at the beginning there is none at all
      rw [if_neg hvault]
      have hchars : ∀ piece ∈ pieces text, ∃ c, piece = .char c := by
        intro piece hp
        cases piece with
        | char c => exact ⟨c, rfl⟩
        | env key => exact absurd (h _ hp) henv
        | vault key => exact absurd (h _ hp).1 hvault
      rw [resolved, pieces, flatMap_chars getenv secrets _ _ (Nat.le_refl _) hchars,
        String.ofList_toList]

end Scalar

section Values

variable (numeric : String → Bool) (text : String)

/-- The key of a secret. -/
def Piece.secret : Piece → Option String
  | .vault key => some key
  | _ => none

/-- A vault with the secrets of a scalar, all strings being one and all numbers
    being one. -/
def vaultWith (s : String) (n : Int) : List (String × Value) :=
  ((pieces text).filterMap Piece.secret).map
    (fun key => (key, if numeric key = true then .int n else .str s))

theorem lookup_vaultWith (s : String) (n : Int) (key : String) (h : .vault key ∈ pieces text) :
    (vaultWith numeric text s n).lookup key =
      some (if numeric key = true then .int n else .str s) :=
  List.lookup_graph (fun key => if numeric key = true then Value.int n else .str s)
    (List.mem_filterMap.mpr ⟨_, h, rfl⟩)

theorem provided_vaultWith (value s : String) (n : Int) :
    Provided (fun _ => some value) (vaultWith numeric text s n) numeric text := by
  intro piece hp
  cases piece with
  | char c => exact trivial
  | env key => rfl
  | vault key =>
      rw [Piece.Provided, lookup_vaultWith numeric text s n key hp]
      by_cases hnum : numeric key = true
      · rw [if_pos hnum, if_pos hnum]
        exact ⟨n, rfl⟩
      · rw [if_neg hnum, if_neg hnum]
        exact ⟨s, rfl⟩

/-- The length of what a piece stands for. -/
theorem length_value (value s : String) (n : Int) (piece : Piece) (hp : piece ∈ pieces text) :
    (piece.value (fun _ => some value) (vaultWith numeric text s n)).length =
      match piece with
      | .char _ => 1
      | .env _ => value.length
      | .vault key => if numeric key = true then (Value.int n).text.length else s.length := by
  cases piece with
  | char c => rfl
  | env key => rfl
  | vault key =>
      rw [Piece.value, lookup_vaultWith numeric text s n key hp]
      by_cases hnum : numeric key = true
      · rw [if_pos hnum]
        dsimp only
        rw [if_pos hnum]
        rfl
      · rw [if_neg hnum]
        dsimp only
        rw [if_neg hnum]
        rfl

/-- Longer values make a longer text. -/
theorem resolved_ne (getenv getenv' : String → Option String)
    (secrets secrets' : List (String × Value))
    (hle : ∀ piece ∈ pieces text,
      (piece.value getenv secrets).length ≤ (piece.value getenv' secrets').length)
    (hlt : ∃ piece ∈ pieces text,
      (piece.value getenv secrets).length < (piece.value getenv' secrets').length) :
    resolved getenv secrets text ≠ resolved getenv' secrets' text := by
  intro heq
  have hlen := congrArg (fun s => s.toList.length) heq
  simp only [resolved, String.toList_ofList, List.length_flatMap] at hlen
  have hsum := List.sum_lt_sum (fun piece => (Piece.value getenv secrets piece).length)
    (fun piece => (Piece.value getenv' secrets' piece).length) hle hlt
  omega

/-- The same with the values of all variables, or of all secrets, replaced by
    longer ones. -/
theorem resolved_vaultWith_ne (value value' s s' : String) (n n' : Int)
    (hvalue : value.length ≤ value'.length) (hs : s.length ≤ s'.length)
    (hn : (Value.int n).text.length ≤ (Value.int n').text.length) (piece : Piece)
    (hlonger : match piece with
      | .char _ => False
      | .env _ => value.length < value'.length
      | .vault _ => s.length < s'.length ∧ (Value.int n).text.length < (Value.int n').text.length)
    (hp : piece ∈ pieces text) :
    resolved (fun _ => some value) (vaultWith numeric text s n) text ≠
      resolved (fun _ => some value') (vaultWith numeric text s' n') text := by
  -- no piece gets shorter, and one gets longer
  refine resolved_ne text _ _ _ _ (fun piece hp => ?_) ⟨piece, hp, ?_⟩
  · rw [length_value numeric text value s n piece hp,
      length_value numeric text value' s' n' piece hp]
    cases piece with
    | char c => exact Nat.le_refl 1
    | env key => exact hvalue
    | vault key =>
        dsimp only
        by_cases hnum : numeric key = true
        · rw [if_pos hnum, if_pos hnum]
          exact hn
        · rw [if_neg hnum, if_neg hnum]
          exact hs
  · rw [length_value numeric text value s n piece hp,
      length_value numeric text value' s' n' piece hp]
    cases piece with
    | char c => exact hlonger.elim
    | env key => exact hlonger
    | vault key =>
        dsimp only
        by_cases hnum : numeric key = true
        · rw [if_pos hnum, if_pos hnum]
          exact hlonger.2
        · rw [if_neg hnum, if_neg hnum]
          exact hlonger.1

variable (w : Surroundings) (history : List Load) (li : String → Except Exn Value)

/-- The scalars that come out right, whatever the values are: those whose
    references are all replaced. -/
theorem resolved_iff :
    (∀ getenv secrets, Provided getenv secrets numeric text →
      ((Process.fresh.afterAll history).loading secrets).plain { w with getenv := getenv } li text
        = .ok (.str (resolved getenv secrets text))) ↔
      ∀ piece ∈ pieces text, piece.Replaceable numeric text := by
  constructor
  · intro h piece hp
    -- two choices of the values between which the code sees no difference
    have hsame : ∀ value value' s s' : String, ∀ n n' : Int,
        ((Process.fresh.afterAll history).loading (vaultWith numeric text s n)).plain
            { w with getenv := fun _ => some value } li text =
          ((Process.fresh.afterAll history).loading (vaultWith numeric text s' n')).plain
            { w with getenv := fun _ => some value' } li text →
        resolved (fun _ => some value) (vaultWith numeric text s n) text =
          resolved (fun _ => some value') (vaultWith numeric text s' n') text := by
      intro value value' s s' n n' hsame
      rw [h _ _ (provided_vaultWith numeric text value s n),
        h _ _ (provided_vaultWith numeric text value' s' n')] at hsame
      exact Value.str.inj (Except.ok.inj hsame)
    have hx : "".length < "x".length := by decide
    have hone : (Value.int 1).text.length < (Value.int 10).text.length := by decide
    by_cases henv : Matches "ENV" text
    · cases piece with
      | char c => exact trivial
      | env key => exact henv
      | vault key =>
          refine absurd (hsame "" "" "" "x" 1 10 ?_)
            (resolved_vaultWith_ne numeric text "" "" "" "x" 1 10 (Nat.le_refl _) (Nat.le_of_lt hx)
              (Nat.le_of_lt hone) (.vault key) ⟨hx, hone⟩ hp)
          rw [plain_loading, plain_loading, if_pos henv, if_pos henv]
    · by_cases hvault : Matches "VAULT" text
      · have hnoenv : ∀ key, .env key ∉ pieces text := by
          intro key hmem
          refine absurd (hsame "" "x" "" "" 1 1 ?_)
            (resolved_vaultWith_ne numeric text "" "x" "" "" 1 1 (Nat.le_of_lt hx) (Nat.le_refl _)
              (Nat.le_refl _) (.env key) hx hmem)
          rw [plain_loading, plain_loading, if_neg henv, if_neg henv, if_pos hvault, if_pos hvault,
            Reader.substitute, Reader.substitute, substituteList_vault]
        cases piece with
        | char c => exact trivial
        | env key => exact absurd hp (hnoenv key)
        | vault key =>
            refine ⟨hvault, Bool.eq_false_iff.mpr (fun hnum => ?_)⟩
            have hright := h _ _ (provided_vaultWith numeric text "" "" 1)
            rw [plain_loading, if_neg henv, if_pos hvault] at hright
            refine substitute_number _ _ text key 1 (by decide) (fun piece hp => ?_) hp ?_ _ hright
            · cases piece with
              | char c => exact trivial
              | env key => exact absurd hp (hnoenv key)
              | vault key => rfl
            · rw [lookup_vaultWith numeric text "" 1 key hp, if_pos hnum]
      · have heq := hsame "" "x" "" "x" 1 10 (by
          rw [plain_loading, plain_loading, if_neg henv, if_neg henv, if_neg hvault,
            if_neg hvault])
        have hne := resolved_vaultWith_ne numeric text "" "x" "" "x" 1 10 (Nat.le_of_lt hx)
          (Nat.le_of_lt hx) (Nat.le_of_lt hone) piece
        cases piece with
        | char c => exact trivial
        | env key => exact absurd heq (hne hx hp)
        | vault key => exact absurd heq (hne ⟨hx, hone⟩ hp)
  · intro h getenv secrets hprov
    exact plain_of_replaceable w history li getenv secrets numeric text hprov h

/-- A scalar with a reference to a variable and one to a secret: the second one
    stays. -/
theorem mixed_stays : ¬ ∀ (w : Surroundings) (history : List Load)
    (li : String → Except Exn Value) (numeric : String → Bool) (text : String)
    (getenv : String → Option String) (secrets : List (String × Value)),
    Provided getenv secrets numeric text →
    ((Process.fresh.afterAll history).loading secrets).plain { w with getenv := getenv } li text
      = .ok (.str (resolved getenv secrets text)) := by
  intro h
  have hprov : Provided (fun _ => some "root") [("k", .str "s")] (fun _ => false)
      "ENV['u']:VAULT['k']" := by
    have hpieces : pieces "ENV['u']:VAULT['k']" = [.env "u", .char ':', .vault "k"] := rfl
    intro piece hp
    rw [hpieces] at hp
    rcases List.mem_cons.mp hp with rfl | hp
    · rfl
    · rcases List.mem_cons.mp hp with rfl | hp
      · exact trivial
      · rw [List.mem_singleton.mp hp]
        exact ⟨"s", rfl⟩
  have hright := h twoFiles [] (fun _ => .ok .none) _ _ _ _ hprov
  have hgot : ((Process.fresh.afterAll []).loading [("k", .str "s")]).plain
      { twoFiles with getenv := fun _ => some "root" } (fun _ => .ok .none)
      "ENV['u']:VAULT['k']" = .ok (.str "root:VAULT['k']") := rfl
  have hmeant : resolved (fun _ => some "root") [("k", .str "s")] "ENV['u']:VAULT['k']" =
      "root:s" := rfl
  rw [hgot, hmeant] at hright
  exact absurd hright (by simp)

end Values

end Xbench
