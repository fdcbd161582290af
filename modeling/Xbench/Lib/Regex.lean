import Mathlib.Data.List.Basic
import Mathlib.Data.List.Infix
import Xbench.Lib.Text

/-!
# Patterns

A pattern read the way a backtracking matcher reads it. A pattern has several
readings of a text, and `readings` lists them in the order in which the
matcher tries them: a repetition takes as much as it can and gives back one
character at a time. What a search finds is the first reading at the first
place that has one.

For a text that was printed to be read, the first reading is found without
going back, piece by piece; `reads_seq` puts the pieces together. The one
place where the matcher has to go back is a repetition followed by one more
character of the same kind, and `reads_plus_lit` is that case.

## Main definitions

* `Regex`: Patterns.
* `Regex.Reading`: What a pattern reads off the front of a text.
* `Regex.readings`: All readings, the preferred one first.
* `Regex.first`: The preferred one.
* `Regex.search`: The preferred one at the first place that has any.
* `Regex.inTurn`: Several patterns in turn.
* `Regex.Reads`: A pattern reads a text before what comes next.

## Theorems

* `mem_runs_iff`: What a repetition reads.
* `text_append_rest`: A reading is of the front of the text.
* `reads_lit`, `reads_plus`, `reads_seq`, `reads_group`: The pieces.
* `reads_plus_lit`: Going back by one character.
* `search_of_first`: A reading at the front is found.
* `search_isSome_iff`: A search finds something where there is a reading.
-/

namespace Xbench

/-- A pattern: a text, one or more characters of a kind, two patterns in turn,
    and a group. -/
inductive Regex where
  | lit (cs : List Char)
  | plus (p : Char → Bool)
  | seq (r t : Regex)
  | group (r : Regex)

namespace Regex

/-- What a pattern reads, the texts of its groups, and what is left. -/
structure Reading where
  text : List Char
  groups : List (List Char)
  rest : List Char
deriving DecidableEq

/-- One reading after another. -/
def Reading.andThen (m n : Reading) : Reading :=
  ⟨m.text ++ n.text, m.groups ++ n.groups, n.rest⟩

/-- A reading as a group. -/
def Reading.asGroup (m : Reading) : Reading :=
  ⟨m.text, m.text :: m.groups, m.rest⟩

/-- The readings of one or more characters of a kind, the longest first. -/
def runs (p : Char → Bool) : List Char → List Reading
  | [] => []
  | c :: cs =>
      if p c then (runs p cs).map (fun m => ⟨c :: m.text, m.groups, m.rest⟩) ++ [⟨[c], [], cs⟩]
      else []

/-- All readings of the front of a text, the preferred one first. -/
def readings : Regex → List Char → List Reading
  | .lit w, cs => match Text.afterPrefix w cs with
      | some rest => [⟨w, [], rest⟩]
      | none => []
  | .plus p, cs => runs p cs
  | .seq r t, cs => (readings r cs).flatMap (fun m => (readings t m.rest).map m.andThen)
  | .group r, cs => (readings r cs).map Reading.asGroup

/-- The preferred reading of the front. -/
def first (r : Regex) (cs : List Char) : Option Reading :=
  (r.readings cs).head?

/-- The preferred reading at the first place that has any. -/
def search (r : Regex) (cs : List Char) : Option Reading :=
  cs.tails.findSome? r.first

/-- Several patterns in turn. -/
def inTurn : List Regex → Regex
  | [] => .lit []
  | r :: rs => .seq r (inTurn rs)

/-- A pattern reads a text, with these groups, before what comes next. -/
def Reads (r : Regex) (text : List Char) (groups : List (List Char)) (rest : List Char) : Prop :=
  r.first (text ++ rest) = some ⟨text, groups, rest⟩

variable (p : Char → Bool) (r t : Regex) (cs : List Char)

/-- The readings of a repetition are the beginnings of the run, but the empty one. -/
theorem mem_runs_iff (m : Reading) :
    m ∈ runs p cs ↔ m.groups = [] ∧ m.text ≠ [] ∧ (∀ c ∈ m.text, p c = true)
      ∧ m.text ++ m.rest = cs := by
  induction cs generalizing m with
  | nil =>
      constructor
      · intro h
        exact absurd h List.not_mem_nil
      · rintro ⟨-, hne, -, happend⟩
        exact absurd (List.append_eq_nil_iff.mp happend).1 hne
  | cons c cs ih =>
      rw [runs]
      -- a run goes on as long as it can, and may end before
      by_cases hc : p c
      · rw [if_pos hc, List.mem_append, List.mem_map, List.mem_singleton]
        constructor
        · rintro (⟨n, hn, rfl⟩ | rfl)
          · rcases (ih n).mp hn with ⟨hgroups, hne, hall, happend⟩
            refine ⟨hgroups, List.cons_ne_nil c n.text, ?_, congrArg (c :: ·) happend⟩
            intro d hd
            rcases List.mem_cons.mp hd with rfl | hd
            · exact hc
            · exact hall d hd
          · exact ⟨rfl, List.cons_ne_nil c [], by simpa using hc, rfl⟩
        · rintro ⟨hgroups, hne, hall, happend⟩
          rcases m with ⟨text, groups, rest⟩
          cases text with
          | nil => exact absurd rfl hne
          | cons d text =>
              rcases List.cons.inj happend with ⟨hd, htext⟩
              subst hd
              -- a run of one character is the last way, a longer one comes of the rest
              by_cases hnil : text = []
              · subst hnil
                refine Or.inr ?_
                change groups = [] at hgroups
                change rest = cs at htext
                rw [hgroups, htext]
              · refine Or.inl ⟨⟨text, groups, rest⟩, (ih _).mpr ⟨hgroups, hnil, ?_, htext⟩, rfl⟩
                exact fun e he => hall e (List.mem_cons_of_mem d he)
      · rw [if_neg hc]
        constructor
        · intro h
          exact absurd h List.not_mem_nil
        · rintro ⟨-, hne, hall, happend⟩
          cases htext : m.text with
          | nil => exact absurd htext hne
          | cons d text =>
              rw [htext] at happend hall
              have hd := hall d List.mem_cons_self
              rw [(List.cons.inj happend).1] at hd
              exact absurd hd hc

theorem mem_lit_iff (w : List Char) (m : Reading) :
    m ∈ readings (.lit w) cs ↔ m.text = w ∧ m.groups = [] ∧ cs = w ++ m.rest := by
  rw [readings]
  cases hw : Text.afterPrefix w cs with
  | none =>
      constructor
      · intro h
        exact absurd h List.not_mem_nil
      · rintro ⟨-, -, hcs⟩
        rw [(Text.afterPrefix_eq_some_iff w cs m.rest).mpr hcs] at hw
        cases hw
  | some rest =>
      have hcs := (Text.afterPrefix_eq_some_iff w cs rest).mp hw
      rw [List.mem_singleton]
      constructor
      · rintro rfl
        exact ⟨rfl, rfl, hcs⟩
      · rintro ⟨htext, hgroups, hrest⟩
        have hsame : rest = m.rest := List.append_cancel_left (hcs.symm.trans hrest)
        rcases m with ⟨text, groups, rest'⟩
        change rest = rest' at hsame
        change text = w at htext
        change groups = [] at hgroups
        rw [htext, hgroups, hsame]

/-- A reading is of the front of the text. -/
theorem text_append_rest (m : Reading) (h : m ∈ r.readings cs) : m.text ++ m.rest = cs := by
  induction r generalizing cs m with
  | lit w =>
      rcases (mem_lit_iff cs w m).mp h with ⟨htext, -, hcs⟩
      rw [htext, hcs]
  | plus p => exact ((mem_runs_iff p cs m).mp h).2.2.2
  | seq r t ihr iht =>
      rcases List.mem_flatMap.mp h with ⟨a, ha, h⟩
      rcases List.mem_map.mp h with ⟨b, hb, rfl⟩
      rw [Reading.andThen, List.append_assoc, iht a.rest b hb, ihr cs a ha]
  | group r ih =>
      rcases List.mem_map.mp h with ⟨a, ha, rfl⟩
      exact ih cs a ha

/-- A text reads itself. -/
theorem reads_lit (w : List Char) : Reads (.lit w) w [] cs := by
  rw [Reads, first, readings, (Text.afterPrefix_eq_some_iff w (w ++ cs) cs).mpr rfl]
  rfl

/-- A run is read to its end. -/
theorem runs_head (run : List Char) (hrun : ∀ c ∈ run, p c = true) (hne : run ≠ [])
    (hstop : ∀ c ∈ cs.head?, p c = false) :
    (runs p (run ++ cs)).head? = some ⟨run, [], cs⟩ := by
  induction run with
  | nil => exact absurd rfl hne
  | cons c run ih =>
      rw [List.cons_append, runs, if_pos (hrun c List.mem_cons_self)]
      cases run with
      | nil =>
          have hnone : runs p cs = [] := by
            cases cs with
            | nil => rfl
            | cons d cs =>
                have hd : p d = false := hstop d rfl
                rw [runs, if_neg (by simp [hd])]
          rw [List.nil_append, hnone]
          rfl
      | cons d run =>
          have hih := ih (fun x hx => hrun x (List.mem_cons_of_mem c hx)) (by simp)
          rw [List.head?_append, List.head?_map, hih]
          rfl

theorem reads_plus (run : List Char) (hrun : ∀ c ∈ run, p c = true) (hne : run ≠ [])
    (hstop : ∀ c ∈ cs.head?, p c = false) : Reads (.plus p) run [] cs :=
  runs_head p cs run hrun hne hstop

/-- The first reading of the first part goes on with the first of the second. -/
theorem reads_seq (x y : List Char) (g h : List (List Char)) (hr : r.Reads x g (y ++ cs))
    (ht : t.Reads y h cs) : Reads (.seq r t) (x ++ y) (g ++ h) cs := by
  rw [Reads, first] at hr ht
  rw [Reads, first, readings, List.append_assoc]
  cases hl : r.readings (x ++ (y ++ cs)) with
  | nil =>
      rw [hl] at hr
      cases hr
  | cons a as =>
      rw [hl] at hr
      have ha : a = ⟨x, g, y ++ cs⟩ := Option.some.inj hr
      rw [List.flatMap_cons, List.head?_append, List.head?_map, ha, ht]
      rfl

theorem reads_group (x : List Char) (g : List (List Char)) (hr : r.Reads x g cs) :
    Reads (.group r) x (x :: g) cs := by
  rw [Reads, first] at hr
  rw [Reads, first, readings, List.head?_map, hr]
  rfl

theorem reads_inTurn_nil : Reads (inTurn []) [] [] cs :=
  reads_lit cs []

/-- One more pattern in turn. -/
theorem Reads.cons {r : Regex} {rs : List Regex} {x y rest : List Char}
    {g h : List (List Char)} (hr : r.Reads x g (y ++ rest)) (hrs : (inTurn rs).Reads y h rest) :
    (inTurn (r :: rs)).Reads (x ++ y) (g ++ h) rest :=
  reads_seq r (inTurn rs) rest x y g h hr hrs

theorem Reads.last {r : Regex} {x rest : List Char} {g : List (List Char)}
    (hr : r.Reads x g rest) : (inTurn [r]).Reads x g rest := by
  have h := reads_seq r (inTurn []) rest x [] g [] hr (reads_inTurn_nil rest)
  rw [List.append_nil, List.append_nil] at h
  exact h

/-- The two longest readings of a run. -/
theorem runs_two (run : List Char) (c : Char) (hrun : ∀ d ∈ run, p d = true)
    (hc : p c = true) (hne : run ≠ []) (hstop : ∀ d ∈ cs.head?, p d = false) :
    ∃ rest, runs p (run ++ c :: cs) = ⟨run ++ [c], [], cs⟩ :: ⟨run, [], c :: cs⟩ :: rest := by
  have hlast : runs p (c :: cs) = [⟨[c], [], cs⟩] := by
    have hnone : runs p cs = [] := by
      cases cs with
      | nil => rfl
      | cons d cs =>
          have hd : p d = false := hstop d rfl
          rw [runs, if_neg (by simp [hd])]
    rw [runs, if_pos hc, hnone]
    rfl
  induction run with
  | nil => exact absurd rfl hne
  | cons d run ih =>
      rw [List.cons_append, runs, if_pos (hrun d List.mem_cons_self)]
      by_cases hnil : run = []
      · rw [hnil, List.nil_append, hlast]
        exact ⟨[], rfl⟩
      · rcases ih (fun x hx => hrun x (List.mem_cons_of_mem d hx)) hnil with ⟨rest, hrest⟩
        rw [hrest]
        exact ⟨_, rfl⟩

/-- A repetition before one more character of its kind takes the whole run and
    gives the last character back. -/
theorem reads_plus_lit (run : List Char) (c : Char) (hrun : ∀ d ∈ run, p d = true)
    (hc : p c = true) (hne : run ≠ []) (hstop : ∀ d ∈ cs.head?, p d = false) :
    Reads (.seq (.plus p) (.lit [c])) (run ++ [c]) [] cs := by
  rcases runs_two p cs run c hrun hc hne hstop with ⟨rest, hrest⟩
  have hnone : Text.afterPrefix [c] cs = none := by
    cases cs with
    | nil => rfl
    | cons d cs =>
        have hcd : c ≠ d := by
          intro h
          have hd : p d = false := hstop d rfl
          rw [h, hd] at hc
          cases hc
        rw [Text.afterPrefix, if_neg hcd]
  have hsome : Text.afterPrefix [c] (c :: cs) = some cs :=
    (Text.afterPrefix_eq_some_iff [c] (c :: cs) cs).mpr rfl
  rw [Reads, List.append_assoc, List.singleton_append, first, readings, readings, hrest,
    List.flatMap_cons, List.flatMap_cons]
  simp only [readings, hnone, hsome, List.map_nil, List.nil_append, List.map_cons,
    List.cons_append, List.head?_cons, Reading.andThen]

/-- A reading at the front is what a search finds. -/
theorem search_of_first (m : Reading) (h : r.first cs = some m) : r.search cs = some m := by
  cases cs with
  | nil => rw [search, List.tails, List.findSome?_cons, h]
  | cons c cs => rw [search, List.tails, List.findSome?_cons, h]

/-- A search finds something where there is a reading. -/
theorem search_isSome_iff :
    (r.search cs).isSome ↔ ∃ pre post, cs = pre ++ post ∧ r.readings post ≠ [] := by
  rw [search, List.findSome?_isSome_iff]
  constructor
  · rintro ⟨post, hpost, hsome⟩
    rcases (List.mem_tails post cs).mp hpost with ⟨pre, hpre⟩
    refine ⟨pre, post, hpre.symm, fun hnil => ?_⟩
    rw [first, hnil] at hsome
    cases hsome
  · rintro ⟨pre, post, rfl, hne⟩
    refine ⟨post, (List.mem_tails post (pre ++ post)).mpr ⟨pre, rfl⟩, ?_⟩
    rw [first]
    cases hl : r.readings post with
    | nil => exact absurd hl hne
    | cons a as => rfl

end Regex

end Xbench
