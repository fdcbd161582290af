import Mathlib.Algebra.Ring.Nat
import Mathlib.Data.List.Basic
import Mathlib.Data.List.Infix

/-!
# Reading a Shell Command

What a POSIX shell makes of a text before it runs anything: where the words
end, which characters stand for themselves, and which are to be replaced. The
reader takes one character at a time, so a text is read by reading its parts
one after the other (`run_append`).

A word is a list of pieces. A character that stands for itself is one piece,
whatever quotes it came out of; a parameter is one piece, which is not
expanded here; a character of an unquoted pattern is another. A command inside
the text, or a parameter in braces, ends the reading: what it comes to is not
a matter of quoting. Operators and newlines are read a character at a time.

No character is made of nothing. `score` counts what has been read so far,
with what is pending and with one for every word that is finished, and no
step adds more to it than the character it reads (`score_step`). Newlines
count nothing, as they end a command where they are not quoted. This is what
shows that a quote inside quoted text is never given back
(`quoted_iff`).

## Main definitions

* `Piece`: A part of a word.
* `Token`: A word, or a character of an operator.
* `Mode`: Where the reader is.
* `Reading`: What has been read.
* `step`: Reading a character.
* `tokens`: Reading a text.
* `lits`: A word of characters that stand for themselves.
* `ink`: How many characters are no newlines.
* `isPlain`: A character that needs no quotes.
* `score`: What has been read, counted.

## Theorems

* `run_append`: A text is read part by part.
* `done_front`: What is finished stays.
* `word_extends`: The word that is read only grows.
* `score_step`: No character is made of nothing.
* `run_single`: Reading within single quotes.
* `quoted_iff`: A text in single quotes is read as itself.
* `run_spaced`: Plain words are read as they are.
-/

namespace Xbench

namespace Shell

/-- A part of a word: a character, a parameter, or a character of a pattern. -/
inductive Piece where
  | lit (c : Char)
  | param (name : List Char)
  | pattern (c : Char)
deriving DecidableEq

abbrev Word := List Piece

inductive Token where
  | word (w : Word)
  | operator (c : Char)
deriving DecidableEq

/-- Where the reader is. After a dollar sign it reads a name, inside double
    quotes or not. -/
inductive Mode where
  | plain
  | escape
  | single
  | double
  | doubleEscape
  | comment
  | param (quoted : Bool) (name : List Char)
  | substitution
deriving DecidableEq

/-- What has been read: the mode, the word that is not finished, and the
    tokens that are. -/
structure Reading where
  mode : Mode
  word : Option Word
  done : List Token
deriving DecidableEq

/-- Where a parameter is read. -/
def Mode.around : Bool → Mode
  | true => .double
  | false => .plain

def isBlank (c : Char) : Bool :=
  c == ' ' || c == '\t'

def isOperator (c : Char) : Bool :=
  c == '|' || c == '&' || c == ';' || c == '<' || c == '>' || c == '(' || c == ')'

def isPattern (c : Char) : Bool :=
  c == '*' || c == '?' || c == '['

def isNameStart (c : Char) : Bool :=
  c.isAlpha || c == '_'

/-- A parameter that is one character. -/
def isSpecialParam (c : Char) : Bool :=
  c.isDigit || c == '@' || c == '*' || c == '#' || c == '?' || c == '-' || c == '$' || c == '!'

/-- A character that a backslash takes its meaning from between double quotes. -/
def isEscapable (c : Char) : Bool :=
  c == '$' || c == '\x60' || c == '"' || c == '\\'

namespace Reading

variable (s : Reading)

def into (m : Mode) : Reading :=
  { s with mode := m }

/-- A word begins, if none has. -/
def opened (m : Mode) : Reading :=
  { s with mode := m, word := some (s.word.getD []) }

def push (p : Piece) : Reading :=
  { s with word := some (s.word.getD [] ++ [p]) }

/-- The word ends, if there is one. -/
def flush : Reading :=
  match s.word with
  | none => s
  | some w => { s with word := none, done := s.done ++ [.word w] }

def operator (c : Char) : Reading :=
  { s.flush with done := s.flush.done ++ [.operator c] }

/-- The parameter ends; a dollar sign alone is a dollar sign. -/
def closeParam (name : List Char) : Reading :=
  if name = [] then s.push (.lit '$') else s.push (.param name)

end Reading

/-- What a character makes the reader do. -/
inductive Action where
  | into (m : Mode)
  | opened (m : Mode)
  | flush
  | operator (c : Char)
  | push (p : Piece)

def Action.apply (s : Reading) : Action → Reading
  | .into m => s.into m
  | .opened m => s.opened m
  | .flush => s.flush
  | .operator c => s.operator c
  | .push p => s.push p

/-- A character outside quotes, before a word or within one. -/
def plainAction (fresh : Bool) (c : Char) : Action :=
  if c = '\'' then .opened .single
  else if c = '"' then .opened .double
  else if c = '\\' then .into .escape
  else if c = '$' then .opened (.param false [])
  else if c = '\x60' then .into .substitution
  else if isBlank c then .flush
  else if c = '\n' || isOperator c then .operator c
  else if c = '#' && fresh then .into .comment
  else if isPattern c || (c = '~' && fresh) then .push (.pattern c)
  else .push (.lit c)

def stepPlain (s : Reading) (c : Char) : Reading :=
  (plainAction s.word.isNone c).apply s

/-- A character between double quotes. -/
def doubleAction (c : Char) : Action :=
  if c = '"' then .into .plain
  else if c = '\\' then .into .doubleEscape
  else if c = '$' then .into (.param true [])
  else if c = '\x60' then .into .substitution
  else .push (.lit c)

def stepDouble (s : Reading) (c : Char) : Reading :=
  (doubleAction c).apply s

/-- What follows a backslash between double quotes. -/
def stepDoubleEscape (s : Reading) (c : Char) : Reading :=
  if isEscapable c then (s.push (.lit c)).into .double
  else if c = '\n' then s.into .double
  else ((s.push (.lit '\\')).push (.lit c)).into .double

def stepParam (quoted : Bool) (name : List Char) (s : Reading) (c : Char) : Reading :=
  if isNameStart c || (c.isDigit && name ≠ []) then s.into (.param quoted (name ++ [c]))
  else if name = [] && isSpecialParam c then
    (s.push (.param [c])).into (.around quoted)
  else if name = [] && (c = '{' || c = '(') then s.into .substitution
  else if quoted then stepDouble ((s.closeParam name).into .double) c
  else stepPlain ((s.closeParam name).into .plain) c

/-- Reading a character. -/
def step (s : Reading) (c : Char) : Reading :=
  match s.mode with
  | .plain => stepPlain s c
  | .escape => if c = '\n' then s.into .plain else (s.push (.lit c)).into .plain
  | .single => if c = '\'' then s.into .plain else s.push (.lit c)
  | .double => stepDouble s c
  | .doubleEscape => stepDoubleEscape s c
  | .comment => if c = '\n' then (s.into .plain).operator c else s
  | .param quoted name => stepParam quoted name s c
  | .substitution => s

def run (s : Reading) (l : List Char) : Reading :=
  l.foldl step s

/-- The end of the text: all quotes are closed. -/
def Reading.finish (s : Reading) : Option (List Token) :=
  match s.mode with
  | .plain | .comment => some s.flush.done
  | .param false name => some (s.closeParam name).flush.done
  | _ => none

/-- Before the text. -/
def start (done : List Token) : Reading :=
  ⟨.plain, none, done⟩

/-- The tokens of a text, if quoting alone tells them. -/
def tokens (l : List Char) : Option (List Token) :=
  (run (start []) l).finish

/-- A word of characters that stand for themselves. -/
def lits (l : List Char) : Word :=
  l.map Piece.lit

theorem run_append (s : Reading) (l l' : List Char) : run s (l ++ l') = run (run s l) l' :=
  List.foldl_append

theorem run_cons (s : Reading) (c : Char) (l : List Char) : run s (c :: l) = run (step s c) l := rfl

example : tokens "echo \"a'b\"'$x' > \\$y #".toList
    = some [.word (lits "echo".toList), .word (lits "a'b$x".toList), .operator '>',
        .word (lits "$y".toList)] := by
  decide

section Growth

/-- The same reading after other tokens. -/
def Reading.after (done : List Token) (s : Reading) : Reading :=
  { s with done := done ++ s.done }

@[simp] theorem into_after (d : List Token) (s : Reading) (m : Mode) :
    (s.after d).into m = (s.into m).after d := rfl

@[simp] theorem opened_after (d : List Token) (s : Reading) (m : Mode) :
    (s.after d).opened m = (s.opened m).after d := rfl

@[simp] theorem push_after (d : List Token) (s : Reading) (p : Piece) :
    (s.after d).push p = (s.push p).after d := rfl

@[simp] theorem flush_after (d : List Token) (s : Reading) :
    (s.after d).flush = s.flush.after d := by
  rcases s with ⟨m, _ | w, e⟩
  · rfl
  · exact congrArg (Reading.mk m none) (List.append_assoc d e [.word w])

@[simp] theorem operator_after (d : List Token) (s : Reading) (c : Char) :
    (s.after d).operator c = (s.operator c).after d := by
  rw [Reading.operator, flush_after, Reading.operator]
  exact congrArg (Reading.mk s.flush.mode s.flush.word)
    (List.append_assoc d s.flush.done [.operator c])

@[simp] theorem closeParam_after (d : List Token) (s : Reading) (name : List Char) :
    (s.after d).closeParam name = (s.closeParam name).after d := by
  rw [Reading.closeParam, Reading.closeParam]
  split_ifs <;> rfl

theorem apply_after (d : List Token) (s : Reading) (a : Action) :
    a.apply (s.after d) = (a.apply s).after d := by
  cases a with
  | into m => rfl
  | opened m => rfl
  | flush => exact flush_after d s
  | operator c => exact operator_after d s c
  | push p => rfl

theorem stepPlain_after (d : List Token) (s : Reading) (c : Char) :
    stepPlain (s.after d) c = (stepPlain s c).after d :=
  apply_after d s _

theorem stepDouble_after (d : List Token) (s : Reading) (c : Char) :
    stepDouble (s.after d) c = (stepDouble s c).after d :=
  apply_after d s _

/-- What was read before makes no difference. -/
theorem step_after (d : List Token) (s : Reading) (c : Char) :
    step (s.after d) c = (step s c).after d := by
  have hmode : (s.after d).mode = s.mode := rfl
  unfold step
  rw [hmode]
  cases s.mode with
  | plain => exact stepPlain_after d s c
  | escape =>
      simp only [into_after, push_after]
      split_ifs <;> rfl
  | single =>
      simp only [into_after, push_after]
      split_ifs <;> rfl
  | double => exact stepDouble_after d s c
  | doubleEscape =>
      simp only [stepDoubleEscape, into_after, push_after]
      split_ifs <;> rfl
  | comment =>
      simp only [into_after, operator_after]
      split_ifs <;> rfl
  | param quoted name =>
      simp only [stepParam, into_after, push_after, closeParam_after, stepDouble_after,
        stepPlain_after]
      split_ifs <;> rfl
  | substitution => rfl

theorem run_after (d : List Token) (s : Reading) (l : List Char) :
    run (s.after d) l = (run s l).after d := by
  induction l generalizing s with
  | nil => rfl
  | cons c l ih => rw [run_cons, run_cons, step_after, ih]

theorem finish_after (d : List Token) (s : Reading) :
    (s.after d).finish = s.finish.map (d ++ ·) := by
  have hmode : (s.after d).mode = s.mode := rfl
  unfold Reading.finish
  rw [hmode]
  cases s.mode with
  | param quoted name =>
      cases quoted with
      | false => simp only [closeParam_after, flush_after]; rfl
      | true => rfl
  | plain => simp only [flush_after]; rfl
  | comment => simp only [flush_after]; rfl
  | escape => rfl
  | single => rfl
  | double => rfl
  | doubleEscape => rfl
  | substitution => rfl

/-- What every operation of the reader keeps. -/
structure Kept (P : Reading → Prop) : Prop where
  into : ∀ s m, P s → P (s.into m)
  opened : ∀ s m, P s → P (s.opened m)
  push : ∀ s p, P s → P (s.push p)
  flush : ∀ s, P s → P s.flush
  operator : ∀ s c, P s → P (s.operator c)

theorem kept_closeParam (P : Reading → Prop) (hP : Kept P) (s : Reading) (name : List Char)
    (h : P s) : P (s.closeParam name) := by
  rw [Reading.closeParam]
  split_ifs
  · exact hP.push _ _ h
  · exact hP.push _ _ h

theorem kept_apply (P : Reading → Prop) (hP : Kept P) (s : Reading) (a : Action) (h : P s) :
    P (a.apply s) := by
  cases a with
  | into m => exact hP.into s m h
  | opened m => exact hP.opened s m h
  | flush => exact hP.flush s h
  | operator c => exact hP.operator s c h
  | push p => exact hP.push s p h

/-- What every operation keeps, a step keeps. -/
theorem kept_step (P : Reading → Prop) (hP : Kept P) (s : Reading) (c : Char) (h : P s) :
    P (step s c) := by
  unfold step
  cases s.mode with
  | plain => exact kept_apply P hP s _ h
  | escape =>
      dsimp only
      split_ifs
      · exact hP.into _ _ h
      · exact hP.into _ _ (hP.push _ _ h)
  | single =>
      dsimp only
      split_ifs
      · exact hP.into _ _ h
      · exact hP.push _ _ h
  | double => exact kept_apply P hP s _ h
  | doubleEscape =>
      simp only [stepDoubleEscape]
      split_ifs
      · exact hP.into _ _ (hP.push _ _ h)
      · exact hP.into _ _ h
      · exact hP.into _ _ (hP.push _ _ (hP.push _ _ h))
  | comment =>
      dsimp only
      split_ifs
      · exact hP.operator _ _ (hP.into _ _ h)
      · exact h
  | param quoted name =>
      -- the character that ends a parameter is read again in the mode around it
      have hclosed : ∀ m, P ((s.closeParam name).into m) :=
        fun m => hP.into _ _ (kept_closeParam P hP s name h)
      simp only [stepParam]
      split_ifs
      · exact hP.into _ _ h
      · exact hP.into _ _ (hP.push _ _ h)
      · exact hP.into _ _ h
      · exact kept_apply P hP _ _ (hclosed _)
      · exact kept_apply P hP _ _ (hclosed _)
  | substitution => exact h

theorem kept_run (P : Reading → Prop) (hP : Kept P) (s : Reading) (l : List Char) (h : P s) :
    P (run s l) := by
  induction l generalizing s with
  | nil => exact h
  | cons c l ih => exact ih (step s c) (kept_step P hP s c h)

/-- The tokens of a text are what is finished in the end. -/
theorem finish_kept (P : Reading → Prop) (hP : Kept P) (s : Reading) (ts : List Token) (h : P s)
    (hts : s.finish = some ts) : ∃ t, P t ∧ t.word = none ∧ t.done = ts := by
  have hflush : ∀ r : Reading, P r → P r.flush ∧ r.flush.word = none := by
    intro r hr
    refine ⟨hP.flush r hr, ?_⟩
    rcases r with ⟨m, _ | w, e⟩ <;> rfl
  unfold Reading.finish at hts
  split at hts
  · exact ⟨s.flush, (hflush s h).1, (hflush s h).2, Option.some.inj hts⟩
  · exact ⟨s.flush, (hflush s h).1, (hflush s h).2, Option.some.inj hts⟩
  · rename_i name _
    have hclosed := kept_closeParam P hP s name h
    exact ⟨_, (hflush _ hclosed).1, (hflush _ hclosed).2, Option.some.inj hts⟩
  · cases hts

/-- What is finished stays. -/
theorem kept_done (d : List Token) : Kept (fun s => d <+: s.done) where
  into := fun _ _ h => h
  opened := fun _ _ h => h
  push := fun _ _ h => h
  flush := by
    rintro ⟨m, _ | w, e⟩ h
    · exact h
    · exact h.trans (List.prefix_append e _)
  operator := by
    rintro ⟨m, _ | w, e⟩ c h
    · exact h.trans (List.prefix_append e _)
    · exact (h.trans (List.prefix_append e _)).trans (List.prefix_append _ _)

theorem done_front (s : Reading) (l : List Char) : s.done <+: (run s l).done :=
  kept_run _ (kept_done s.done) s l (List.prefix_refl _)

theorem done_front_finish (s : Reading) (ts : List Token) (h : s.finish = some ts) :
    s.done <+: ts := by
  rcases finish_kept _ (kept_done s.done) s ts (List.prefix_refl _) h with ⟨t, ht, _, rfl⟩
  exact ht

/-- A word is being read, or has been: it comes next after the tokens `d`, and
    begins with `w`. -/
def Holds (d : List Token) (w : Word) (s : Reading) : Prop :=
  (s.done = d ∧ ∃ v, s.word = some (w ++ v)) ∨ ∃ v rest, s.done = d ++ .word (w ++ v) :: rest

/-- The word that is read only grows. -/
theorem kept_holds (d : List Token) (w : Word) : Kept (Holds d w) where
  into := fun _ _ h => h
  opened := by
    -- the word is open and grows, or is done and others follow it
    rintro s m (⟨hdone, v, hv⟩ | h)
    · refine Or.inl ⟨hdone, v, ?_⟩
      rw [Reading.opened, hv]
      rfl
    · exact Or.inr h
  push := by
    rintro s p (⟨hdone, v, hv⟩ | h)
    · refine Or.inl ⟨hdone, v ++ [p], ?_⟩
      rw [Reading.push, hv, ← List.append_assoc]
      rfl
    · exact Or.inr h
  flush := by
    rintro ⟨m, x, e⟩ (⟨rfl, v, rfl⟩ | ⟨v, rest, rfl⟩)
    · exact Or.inr ⟨v, [], rfl⟩
    · cases x with
      | none => exact Or.inr ⟨v, rest, rfl⟩
      | some x => exact Or.inr ⟨v, rest ++ [Token.word x], List.append_assoc d _ _⟩
  operator := by
    rintro ⟨m, x, e⟩ c (⟨rfl, v, rfl⟩ | ⟨v, rest, rfl⟩)
    · exact Or.inr ⟨v, [.operator c], List.append_assoc e _ _⟩
    · cases x with
      | none => exact Or.inr ⟨v, rest ++ [Token.operator c], List.append_assoc d _ _⟩
      | some x =>
          refine Or.inr ⟨v, rest ++ [.word x] ++ [.operator c], ?_⟩
          change (d ++ .word (w ++ v) :: rest) ++ [.word x] ++ [.operator c] = _
          rw [List.append_assoc, List.append_assoc, List.cons_append, List.append_assoc]

/-- The first token to come begins with what has been read of it. -/
theorem word_extends (s : Reading) (w : Word) (hw : s.word = some w) (l : List Char)
    (ts : List Token) (h : (run s l).finish = some ts) :
    ∃ v rest, ts = s.done ++ .word (w ++ v) :: rest := by
  have hholds : Holds s.done w s := Or.inl ⟨rfl, [], by rw [List.append_nil, hw]⟩
  rcases finish_kept _ (kept_holds s.done w) _ ts
    (kept_run _ (kept_holds s.done w) s l hholds) h with ⟨t, ht, hnone, rfl⟩
  rcases ht with ⟨_, v, hv⟩ | ht
  · rw [hnone] at hv
    cases hv
  · exact ht

end Growth

section Score

/-- How many characters are no newlines. -/
def ink (l : List Char) : Nat :=
  l.countP (fun c => c != '\n')

def Piece.ink : Piece → Nat
  | .lit c => Shell.ink [c]
  | .param _ | .pattern _ => 1

def Word.ink (w : Word) : Nat :=
  (w.map Piece.ink).sum

/-- A word counts one more than its pieces. -/
def Token.ink : Token → Nat
  | .word w => w.ink + 1
  | .operator _ => 0

def Mode.pending : Mode → Nat
  | .plain | .substitution => 0
  | .escape | .single | .double | .comment => 1
  | .doubleEscape => 2
  | .param true name => name.length + 2
  | .param false name => name.length + 1

/-- What has been read, counted. -/
def score (s : Reading) : Nat :=
  (s.done.map Token.ink).sum + (s.word.getD []).ink + s.mode.pending

@[simp] theorem pending_plain : Mode.plain.pending = 0 := rfl

@[simp] theorem pending_comment : Mode.comment.pending = 1 := rfl

@[simp] theorem pending_substitution : Mode.substitution.pending = 0 := rfl

@[simp] theorem pending_escape : Mode.escape.pending = 1 := rfl

@[simp] theorem pending_single : Mode.single.pending = 1 := rfl

@[simp] theorem pending_double : Mode.double.pending = 1 := rfl

@[simp] theorem pending_doubleEscape : Mode.doubleEscape.pending = 2 := rfl

theorem pending_param (quoted : Bool) (name : List Char) :
    (Mode.param quoted name).pending = name.length + 1 + (Mode.around quoted).pending := by
  cases quoted <;> rfl

theorem ink_append (l l' : List Char) : ink (l ++ l') = ink l + ink l' :=
  List.countP_append

theorem ink_cons (c : Char) (l : List Char) : ink (c :: l) = ink [c] + ink l :=
  ink_append [c] l

theorem ink_singleton (c : Char) (h : c ≠ '\n') : ink [c] = 1 := by
  rw [ink, List.countP_singleton, if_pos (bne_iff_ne.mpr h)]

theorem ink_le_length (l : List Char) : ink l ≤ l.length :=
  List.countP_le_length

theorem wordInk_append (w w' : Word) : (w ++ w').ink = w.ink + w'.ink := by
  rw [Word.ink, List.map_append, List.sum_append]
  rfl

theorem wordInk_lits (l : List Char) : (lits l).ink = ink l := by
  induction l with
  | nil => rfl
  | cons c l ih =>
      rw [ink_cons, ← ih]
      rfl

theorem score_into (s : Reading) (m : Mode) :
    score (s.into m) + s.mode.pending = score s + m.pending := by
  unfold score Reading.into
  dsimp only
  omega

theorem score_opened (s : Reading) (m : Mode) :
    score (s.opened m) + s.mode.pending = score s + m.pending := by
  unfold score Reading.opened
  dsimp only
  rw [Option.getD_some]
  omega

theorem score_push (s : Reading) (p : Piece) : score (s.push p) = score s + p.ink := by
  have hword : Word.ink [p] = p.ink := by
    rw [Word.ink, List.map_singleton, List.sum_singleton]
  unfold score Reading.push
  dsimp only
  rw [Option.getD_some, wordInk_append, hword]
  omega

theorem score_flush (s : Reading) : score s.flush ≤ score s + 1 := by
  rcases s with ⟨m, _ | w, e⟩
  · exact Nat.le_succ _
  · unfold score Reading.flush
    dsimp only
    rw [List.map_append, List.sum_append, List.map_singleton, List.sum_singleton, Token.ink,
      Option.getD_some, Option.getD_none, Word.ink, Word.ink, List.map_nil, List.sum_nil]
    omega

theorem score_operator (s : Reading) (c : Char) : score (s.operator c) ≤ score s + 1 := by
  have hsame : score (s.operator c) = score s.flush := by
    unfold score Reading.operator
    dsimp only
    rw [List.map_append, List.sum_append, List.map_singleton, List.sum_singleton, Token.ink,
      Nat.add_zero]
  rw [hsame]
  exact score_flush s

theorem score_closeParam (s : Reading) (name : List Char) :
    score (s.closeParam name) = score s + 1 := by
  rw [Reading.closeParam]
  split_ifs
  · rw [score_push]
    rfl
  · rw [score_push]
    rfl

theorem mem_operator (s : Reading) (c : Char) : Token.operator c ∈ (s.operator c).done :=
  List.mem_append_right _ List.mem_cons_self

/-- What an action adds is no more than `n`. -/
def Action.Within (m : Mode) (n : Nat) : Action → Prop
  | .into m' | .opened m' => m'.pending ≤ m.pending + n
  | .flush | .operator _ => 1 ≤ n
  | .push p => p.ink ≤ n

theorem score_apply (s : Reading) (a : Action) (n : Nat) (h : a.Within s.mode n) :
    score (a.apply s) ≤ score s + n := by
  cases a with
  | into m =>
      have hinto : score (s.into m) + s.mode.pending = score s + m.pending := score_into s m
      change m.pending ≤ s.mode.pending + n at h
      change score (s.into m) ≤ _
      omega
  | opened m =>
      have hopened : score (s.opened m) + s.mode.pending = score s + m.pending := score_opened s m
      change m.pending ≤ s.mode.pending + n at h
      change score (s.opened m) ≤ _
      omega
  | flush => exact (score_flush s).trans (Nat.add_le_add_left h _)
  | operator c => exact (score_operator s c).trans (Nat.add_le_add_left h _)
  | push p => exact (score_push s p).le.trans (Nat.add_le_add_left h _)

theorem within_ite (p : Prop) [Decidable p] (a b : Action) (m : Mode) (n : Nat)
    (ha : p → a.Within m n) (hb : ¬ p → b.Within m n) : (if p then a else b).Within m n := by
  by_cases h : p
  · rw [if_pos h]
    exact ha h
  · rw [if_neg h]
    exact hb h

theorem plainAction_within (fresh : Bool) (c : Char) (m : Mode) :
    (plainAction fresh c).Within m 1 := by
  have hmode : ∀ m' : Mode, m'.pending ≤ 1 → m'.pending ≤ m.pending + 1 :=
    fun _ h => h.trans (Nat.le_add_left 1 _)
  refine within_ite _ _ _ _ _ (fun _ => hmode .single (Nat.le_refl 1)) fun _ => ?_
  refine within_ite _ _ _ _ _ (fun _ => hmode .double (Nat.le_refl 1)) fun _ => ?_
  refine within_ite _ _ _ _ _ (fun _ => hmode .escape (Nat.le_refl 1)) fun _ => ?_
  refine within_ite _ _ _ _ _ (fun _ => hmode (.param false []) (Nat.le_refl 1)) fun _ => ?_
  refine within_ite _ _ _ _ _ (fun _ => hmode .substitution (Nat.zero_le 1)) fun _ => ?_
  refine within_ite _ _ _ _ _ (fun _ => Nat.le_refl 1) fun _ => ?_
  refine within_ite _ _ _ _ _ (fun _ => Nat.le_refl 1) fun _ => ?_
  refine within_ite _ _ _ _ _ (fun _ => hmode .comment (Nat.le_refl 1)) fun _ => ?_
  exact within_ite _ _ _ _ _ (fun _ => Nat.le_refl 1) fun _ => ink_le_length [c]

theorem doubleAction_within (c : Char) : (doubleAction c).Within .double (ink [c]) := by
  refine within_ite _ _ _ _ _ (fun _ => Nat.zero_le _) fun _ => ?_
  refine within_ite _ _ _ _ _ (fun h => ?_) fun _ => ?_
  · rw [h]
    exact Nat.le_refl 2
  refine within_ite _ _ _ _ _ (fun h => ?_) fun _ => ?_
  · rw [h]
    exact Nat.le_refl 2
  exact within_ite _ _ _ _ _ (fun _ => Nat.zero_le _) fun _ => Nat.le_refl _

theorem score_stepPlain (s : Reading) (c : Char) (h : .operator '\n' ∉ (stepPlain s c).done) :
    score (stepPlain s c) ≤ score s + ink [c] := by
  -- a newline ends a command here
  have hline : c ≠ '\n' := by
    rintro rfl
    exact h (mem_operator s '\n')
  rw [ink_singleton c hline]
  exact score_apply s _ 1 (plainAction_within _ c _)

theorem score_stepDouble (s : Reading) (c : Char) (hmode : s.mode = .double) :
    score (stepDouble s c) ≤ score s + ink [c] :=
  score_apply s _ _ (hmode ▸ doubleAction_within c)

theorem ink_name (c : Char) (h : (isNameStart c || c.isDigit) = true) : ink [c] = 1 := by
  refine ink_singleton c ?_
  rintro rfl
  revert h
  decide

/-- No character is made of nothing, nor is the end of a word. -/
theorem score_step (s : Reading) (c : Char) (h : .operator '\n' ∉ (step s c).done) :
    score (step s c) ≤ score s + ink [c] := by
  unfold step at h ⊢
  cases hmode : s.mode with
  | plain =>
      rw [hmode] at h
      exact score_stepPlain s c h
  | escape =>
      dsimp only
      split_ifs
      · have := score_into s .plain
        rw [hmode, pending_plain, pending_escape] at this
        omega
      · have hinto := score_into (s.push (.lit c)) .plain
        have hpush := score_push s (.lit c)
        rw [show (s.push (.lit c)).mode = .escape from hmode] at hinto
        simp only [pending_plain, pending_escape, Piece.ink] at hinto hpush
        omega
  | single =>
      dsimp only
      split_ifs
      · have := score_into s .plain
        rw [hmode, pending_plain, pending_single] at this
        omega
      · exact (score_push s (.lit c)).le
  | double => exact score_stepDouble s c hmode
  | doubleEscape =>
      dsimp only
      unfold stepDoubleEscape
      split_ifs
      · have hinto := score_into (s.push (.lit c)) .double
        have hpush := score_push s (.lit c)
        rw [show (s.push (.lit c)).mode = .doubleEscape from hmode] at hinto
        simp only [pending_double, pending_doubleEscape, Piece.ink] at hinto hpush
        omega
      · have := score_into s .double
        rw [hmode, pending_double, pending_doubleEscape] at this
        omega
      · have hinto := score_into ((s.push (.lit '\\')).push (.lit c)) .double
        have hpush := score_push (s.push (.lit '\\')) (.lit c)
        have hback := score_push s (.lit '\\')
        have hink : ink ['\\'] = 1 := by decide
        rw [show ((s.push (.lit '\\')).push (.lit c)).mode = .doubleEscape from hmode] at hinto
        simp only [pending_double, pending_doubleEscape, Piece.ink] at hinto hpush hback
        omega
  | comment =>
      rw [hmode] at h
      dsimp only at h ⊢
      split_ifs at h ⊢ with hline
      · rw [hline] at h
        exact absurd (mem_operator _ '\n') h
      · omega
  | param quoted name =>
      rw [hmode] at h
      dsimp only at h ⊢
      -- the piece that ends the parameter counts no more than its characters
      have hclosed : ∀ m : Mode, score ((s.closeParam name).into m) + name.length
          + (Mode.around quoted).pending = score s + m.pending := by
        intro m
        have hinto := score_into (s.closeParam name) m
        have hclose := score_closeParam s name
        have hkept : (s.closeParam name).mode = .param quoted name := by
          rw [Reading.closeParam]
          split_ifs <;> exact hmode
        rw [hkept, pending_param] at hinto
        omega
      unfold stepParam at h ⊢
      split_ifs at h ⊢ with hname hspecial hcommand hquoted
      · have hinto := score_into s (.param quoted (name ++ [c]))
        rw [hmode, pending_param, pending_param, List.length_append,
          List.length_singleton] at hinto
        have hink : ink [c] = 1 := by
          refine ink_name c ?_
          rw [Bool.or_eq_true] at hname ⊢
          rcases hname with h' | h'
          · exact Or.inl h'
          · exact Or.inr (Bool.and_eq_true_iff.mp h').1
        omega
      · have hinto := score_into (s.push (.param [c])) (.around quoted)
        have hpush := score_push s (.param [c])
        rw [show (s.push (.param [c])).mode = .param quoted name from hmode, pending_param] at hinto
        simp only [Piece.ink] at hpush
        omega
      · have hinto := score_into s .substitution
        rw [pending_substitution] at hinto
        omega
      · have hstep := score_stepDouble ((s.closeParam name).into .double) c rfl
        have hscore := hclosed .double
        rw [hquoted, Mode.around, pending_double] at hscore
        omega
      · have hstep := score_stepPlain ((s.closeParam name).into .plain) c h
        have hscore := hclosed .plain
        rw [pending_plain] at hscore
        omega
  | substitution => exact Nat.le_add_right _ _

theorem score_run (s : Reading) (l : List Char) (h : .operator '\n' ∉ (run s l).done) :
    score (run s l) ≤ score s + ink l := by
  induction l generalizing s with
  | nil => exact Nat.le_refl _
  | cons c l ih =>
      rw [run_cons] at h ⊢
      have hstep := score_step s c (fun hmem => h ((done_front (step s c) l).subset hmem))
      have hrest := ih (step s c) h
      rw [ink_cons]
      omega

/-- The tokens of a text count no more than what was read, and one for the
    last word. -/
theorem score_finish (s : Reading) (ts : List Token) (h : s.finish = some ts) :
    (ts.map Token.ink).sum ≤ score s + 1 := by
  have hdone : ∀ r : Reading, (r.done.map Token.ink).sum + r.mode.pending ≤ score r := by
    intro r
    unfold score
    omega
  -- the last word costs one more
  have hflush : ∀ r : Reading, (r.flush.done.map Token.ink).sum + r.mode.pending ≤ score r + 1 := by
    intro r
    have hmode : r.flush.mode = r.mode := by
      rcases r with ⟨m, _ | w, e⟩ <;> rfl
    have hscore := hdone r.flush
    rw [hmode] at hscore
    exact hscore.trans (score_flush r)
  unfold Reading.finish at h
  split at h
  · rw [← Option.some.inj h]
    exact (Nat.le_add_right _ _).trans (hflush s)
  · rw [← Option.some.inj h]
    exact (Nat.le_add_right _ _).trans (hflush s)
  · rename_i name hmode
    have hkept : (s.closeParam name).mode = .param false name := by
      rw [Reading.closeParam]
      split_ifs <;> exact hmode
    have hclosed := hflush (s.closeParam name)
    rw [score_closeParam, hkept, pending_param] at hclosed
    rw [← Option.some.inj h]
    omega
  · cases h

end Score

section Quoted

/-- Within single quotes every character stands for itself. -/
theorem run_single (d : List Token) (w : Word) (l : List Char) (h : '\'' ∉ l) :
    run ⟨.single, some w, d⟩ l = ⟨.single, some (w ++ lits l), d⟩ := by
  induction l generalizing w with
  | nil => rw [lits, List.map_nil, List.append_nil]; rfl
  | cons c l ih =>
      have hc : ¬ c = '\'' := fun heq => h (heq ▸ List.mem_cons_self)
      have hstep : step ⟨.single, some w, d⟩ c = ⟨.single, some (w ++ [.lit c]), d⟩ := if_neg hc
      rw [run_cons, hstep, ih _ (fun hmem => h (List.mem_cons_of_mem c hmem)), List.append_assoc]
      rfl

/-- A character that ends the name of a parameter. -/
def endsName (c : Char) : Bool :=
  !isNameStart c && !c.isDigit && !isSpecialParam c && c != '{' && c != '('

theorem stepParam_ends (quoted : Bool) (name : List Char) (s : Reading) (c : Char)
    (h : endsName c = true) :
    stepParam quoted name s c
      = if quoted then stepDouble ((s.closeParam name).into .double) c
        else stepPlain ((s.closeParam name).into .plain) c := by
  simp only [endsName, Bool.and_eq_true, Bool.not_eq_true', bne_iff_ne, ne_eq] at h
  rcases h with ⟨⟨⟨⟨hstart, hdigit⟩, hspecial⟩, hbrace⟩, hparen⟩
  rw [stepParam, if_neg (by simp [hstart, hdigit]), if_neg (by simp [hspecial]),
    if_neg (by simp [hbrace, hparen])]

/-- The quote that ends a text adds nothing to it. -/
theorem closing_score (s : Reading) (ts : List Token) (h : (step s '\'').finish = some ts) :
    (ts.map Token.ink).sum ≤ score s + 1 := by
  have hfinish := score_finish (step s '\'') ts h
  unfold step at h hfinish
  cases hmode : s.mode with
  | plain =>
      rw [hmode] at h
      cases h
  | escape =>
      -- an escaped quote is a character of the word
      rw [hmode] at hfinish
      have hinto := score_into (s.push (.lit '\'')) .plain
      have hpush := score_push s (.lit '\'')
      rw [show (s.push (.lit '\'')).mode = .escape from hmode, pending_plain,
        pending_escape] at hinto
      have hink : (Piece.lit '\'').ink = 1 := by decide
      dsimp only at hfinish
      rw [if_neg (by decide)] at hfinish
      omega
  | single =>
      -- the quote ends the string, which costs nothing
      rw [hmode] at hfinish
      have hinto := score_into s .plain
      rw [hmode, pending_plain, pending_single] at hinto
      dsimp only at hfinish
      rw [if_pos rfl] at hfinish
      omega
  | double =>
      rw [hmode] at h
      change (s.push (.lit '\'')).finish = some ts at h
      rw [Reading.finish, show (s.push (.lit '\'')).mode = .double from hmode] at h
      cases h
  | doubleEscape =>
      rw [hmode] at h
      cases h
  | comment =>
      rw [hmode] at hfinish
      exact hfinish
  | param quoted name =>
      -- the parameter ends, and the quote opens a string that stays open
      rw [hmode] at h
      dsimp only at h
      cases quoted with
      | true =>
          rw [stepParam_ends true name s '\'' (by decide)] at h
          cases h
      | false =>
          rw [stepParam_ends false name s '\'' (by decide)] at h
          cases h
  | substitution =>
      rw [hmode] at h
      rw [Reading.finish, hmode] at h
      cases h

/-- A text between single quotes is read as itself, and as the only word,
    exactly when there is no single quote in it. -/
theorem quoted_iff (d : List Token) (l : List Char) :
    (run (start d) ('\'' :: (l ++ ['\'']))).finish = some (d ++ [.word (lits l)]) ↔ '\'' ∉ l := by
  have hopen : ∀ e : List Token, step (start e) '\'' = ⟨.single, some [], e⟩ := fun _ => rfl
  constructor
  · intro h hmem
    -- the tokens before make no difference
    have hframe : (run (start []) ('\'' :: (l ++ ['\'']))).finish = some [.word (lits l)] := by
      have hstart : start d = (start []).after d :=
        congrArg (Reading.mk .plain none) (List.append_nil d).symm
      rw [hstart, run_after, finish_after, Option.map_eq_some_iff] at h
      rcases h with ⟨ts, hts, heq⟩
      rw [hts, List.append_cancel_left heq]
    rcases List.eq_append_cons_of_mem hmem with ⟨l₁, l₂, hl, hfirst⟩
    have hread : run (start []) ('\'' :: (l ++ ['\'']))
        = step (run ⟨.plain, some (lits l₁), []⟩ l₂) '\'' := by
      rw [run_cons, hopen, run_append, hl, run_append, run_single [] [] l₁ hfirst]
      rfl
    rw [hread] at hframe
    -- the quote in the text is a character that is not given back
    have hdone : .operator '\n' ∉ (run ⟨.plain, some (lits l₁), []⟩ l₂).done := by
      intro hline
      have hin := (done_front_finish _ _ hframe).subset
        ((done_front (run ⟨.plain, some (lits l₁), []⟩ l₂) ['\'']).subset hline)
      rw [List.mem_singleton] at hin
      cases hin
    have hscore := score_run ⟨.plain, some (lits l₁), []⟩ l₂ hdone
    have hbefore : score ⟨.plain, some (lits l₁), []⟩ = ink l₁ := by
      rw [← wordInk_lits l₁]
      exact Nat.zero_add _
    have hclosing := closing_score _ _ hframe
    rw [List.map_singleton, List.sum_singleton, Token.ink, wordInk_lits, hl, ink_append,
      ink_cons '\'' l₂] at hclosing
    have hquote : ink ['\''] = 1 := by decide
    omega
  · intro h
    rw [run_cons, hopen, run_append, run_single d [] l h]
    rfl

/-- A text that is a word of its own is one before a blank. -/
theorem reads_then_blank (u : List Char) (h : tokens u = some [.word (lits u)]) :
    step (run (start []) u) ' ' = start [.word (lits u)] := by
  have hfinish : (run (start []) u).finish = some [.word (lits u)] := h
  have hline : .operator '\n' ∉ (run (start []) u).done := by
    intro hmem
    have hin := (done_front_finish _ _ hfinish).subset hmem
    rw [List.mem_singleton] at hin
    cases hin
  have hscore : score (run (start []) u) ≤ ink u :=
    (score_run (start []) u hline).trans (Nat.zero_add _).le
  rcases hread : run (start []) u with ⟨m, x, e⟩
  rw [hread] at hfinish hscore
  -- nothing is finished before the end, as the word counts more than what was read
  have hnone : e = [] := by
    cases e with
    | nil => rfl
    | cons t e =>
        have hpre := done_front_finish _ _ hfinish
        rw [List.cons_prefix_cons] at hpre
        rw [hpre.1, score, List.map_cons, List.sum_cons, Token.ink, wordInk_lits] at hscore
        omega
  subst hnone
  cases m with
  | plain =>
      cases x with
      | none => cases hfinish
      | some w => exact congrArg start (Option.some.inj hfinish)
  | comment =>
      cases x with
      | none => cases hfinish
      | some w =>
          have hw : w = lits u := Token.word.inj (List.cons.inj (Option.some.inj hfinish)).1
          rw [score, hw, Option.getD_some, wordInk_lits, pending_comment] at hscore
          omega
  | param quoted name =>
      cases quoted with
      | true => cases hfinish
      | false =>
          change stepParam false name _ ' ' = _
          rw [stepParam_ends _ _ _ _ (by decide), if_neg Bool.false_ne_true]
          have hdone := Option.some.inj hfinish
          rw [Reading.closeParam] at hdone ⊢
          split_ifs at hdone ⊢
          · exact congrArg start hdone
          · exact congrArg start hdone
  | escape => cases hfinish
  | single => cases hfinish
  | double => cases hfinish
  | doubleEscape => cases hfinish
  | substitution => cases hfinish

/-- A comment is read to the end of its line. -/
theorem run_comment (s : Reading) (hmode : s.mode = .comment) (l : List Char) :
    run s l = s ∨ .operator '\n' ∈ (run s l).done := by
  induction l with
  | nil => exact Or.inl rfl
  | cons c l ih =>
      rw [run_cons]
      by_cases hc : c = '\n'
      · have hstep : step s c = (s.into .plain).operator '\n' := by
          rw [step, hmode, hc]
          rfl
        rw [hstep]
        exact Or.inr ((done_front _ l).subset (mem_operator _ '\n'))
      · have hstep : step s c = s := by
          rw [step, hmode]
          exact if_neg hc
        rw [hstep]
        exact ih

theorem lits_inj (l l' : List Char) (h : lits l = lits l') : l = l' :=
  List.map_injective_iff.mpr (fun _ _ heq => Piece.lit.inj heq) h

/-- The parts of such a word are such words. -/
theorem lits_eq_append (l : List Char) (u v : Word) (h : lits l = u ++ v) :
    ∃ a b, l = a ++ b ∧ lits a = u ∧ lits b = v :=
  List.map_eq_append_iff.mp h

/-- What a command inside the text comes to is not read. -/
theorem run_substitution (s : Reading) (hmode : s.mode = .substitution) (l : List Char) :
    run s l = s := by
  induction l with
  | nil => rfl
  | cons c l ih =>
      have hstep : step s c = s := by
        rw [step, hmode]
      rw [run_cons, hstep, ih]

/-- A word with a parameter in it does not stand for itself. -/
theorem param_notMem_lits (name l : List Char) : .param name ∉ lits l := by
  intro h
  rcases List.mem_map.mp h with ⟨c, _, hc⟩
  cases hc

end Quoted

section DoubleQuoted

/-- A character that is neither taken nor replaced between double quotes,
    before the character `d`. -/
def inertBefore (c d : Char) : Bool :=
  c != '"' && c != '\x60' && !(c == '\\' && (isEscapable d || d == '\n'))
    && !(c == '$' && !endsName d)

/-- A text of such characters, up to the quote that ends it. -/
def inert : List Char → Bool
  | [] => true
  | [c] => inertBefore c '"'
  | c :: d :: l => inertBefore c d && inert (d :: l)

/-- A character that stands for itself outside quotes. -/
def isPortable (c : Char) : Bool :=
  c.isAlphanum || c == '/' || c == '.' || c == '_' || c == '-'

theorem step_double_lit (s : Reading) (hmode : s.mode = .double) (c : Char)
    (hquote : c ≠ '"') (hescape : c ≠ '\\') (hdollar : c ≠ '$') (htick : c ≠ '\x60') :
    step s c = s.push (.lit c) := by
  rw [step, hmode]
  dsimp only
  rw [stepDouble, doubleAction, if_neg hquote, if_neg hescape, if_neg hdollar, if_neg htick]
  rfl

theorem portable_ne (c x : Char) (h : isPortable c = true) (hx : isPortable x = false) :
    c ≠ x := by
  rintro rfl
  rw [h] at hx
  cases hx

/-- Portable characters are among the first there are. -/
theorem portable_lt (c : Char) (h : isPortable c = true) : c.toNat < 128 := by
  have hval : c.val.toNat = c.toNat := rfl
  have hupper : c.isUpper = decide (c.val ≥ 'A'.val ∧ c.val ≤ 'Z'.val) := rfl
  have hlower : c.isLower = (decide (c.val ≥ 'a'.val) && decide (c.val ≤ 'z'.val)) := rfl
  have hdigit : c.isDigit = (decide (c.val ≥ '0'.val) && decide (c.val ≤ '9'.val)) := rfl
  have hword : c.isAlphanum = (c.isUpper || c.isLower || c.isDigit) := rfl
  simp only [isPortable, hword, hupper, hlower, hdigit, Bool.or_eq_true, Bool.and_eq_true,
    decide_eq_true_eq, beq_iff_eq, ge_iff_le, UInt32.le_iff_toNat_le] at h
  rcases h with (((hletter | rfl) | rfl) | rfl) | rfl
  · have hZ : 'Z'.val.toNat = 90 := rfl
    have hz : 'z'.val.toNat = 122 := rfl
    have h9 : '9'.val.toNat = 57 := rfl
    omega
  · decide
  · decide
  · decide
  · decide

theorem plainAction_portable (fresh : Bool) (c : Char) (h : isPortable c = true) :
    plainAction fresh c = .push (.lit c) := by
  have hne : ∀ x : Char, isPortable x = false → (c == x) = false :=
    fun x hx => beq_eq_false_iff_ne.mpr (portable_ne c x h hx)
  have hneg : ∀ x : Char, isPortable x = false → ¬ c = x := fun x hx => portable_ne c x h hx
  have hblank : isBlank c = false := by
    rw [isBlank, hne ' ' (by decide), hne '\t' (by decide)]
    rfl
  have hoperator : (decide (c = '\n') || isOperator c) = false := by
    rw [isOperator, hne '|' (by decide), hne '&' (by decide), hne ';' (by decide),
      hne '<' (by decide), hne '>' (by decide), hne '(' (by decide), hne ')' (by decide),
      decide_eq_false (hneg '\n' (by decide))]
    rfl
  have hpattern : isPattern c = false := by
    rw [isPattern, hne '*' (by decide), hne '?' (by decide), hne '[' (by decide)]
    rfl
  rw [plainAction, if_neg (hneg '\'' (by decide)), if_neg (hneg '"' (by decide)),
    if_neg (hneg '\\' (by decide)), if_neg (hneg '$' (by decide)),
    if_neg (hneg '\x60' (by decide)), hblank, hoperator, hpattern,
    decide_eq_false (hneg '#' (by decide)), decide_eq_false (hneg '~' (by decide))]
  rfl

/-- Portable characters make a word outside quotes. -/
theorem run_portable (d : List Token) (w : Word) (l : List Char)
    (h : ∀ c ∈ l, isPortable c = true) :
    run ⟨.plain, some w, d⟩ l = ⟨.plain, some (w ++ lits l), d⟩ := by
  induction l generalizing w with
  | nil => rw [lits, List.map_nil, List.append_nil]; rfl
  | cons c l ih =>
      have hstep : step ⟨.plain, some w, d⟩ c = ⟨.plain, some (w ++ [.lit c]), d⟩ := by
        change stepPlain _ c = _
        rw [stepPlain, plainAction_portable _ c (h c List.mem_cons_self)]
        rfl
      rw [run_cons, hstep, ih _ (fun c' hc' => h c' (List.mem_cons_of_mem c hc')),
        List.append_assoc]
      rfl

/-- A word of portable characters. -/
theorem run_portable_start (d : List Token) (l : List Char) (hne : l ≠ [])
    (h : ∀ c ∈ l, isPortable c = true) :
    run (start d) l = ⟨.plain, some (lits l), d⟩ := by
  rcases List.exists_cons_of_ne_nil hne with ⟨c, l', rfl⟩
  have hstep : step (start d) c = ⟨.plain, some [.lit c], d⟩ := by
    change stepPlain _ c = _
    rw [stepPlain, plainAction_portable _ c (h c List.mem_cons_self)]
    rfl
  rw [run_cons, hstep, run_portable d _ l' fun c' hc' => h c' (List.mem_cons_of_mem c hc')]
  rfl

/-- A character that is left alone is one more piece of the word. -/
theorem run_inertBefore (e : List Token) (w : Word) (c d : Char) (l : List Char)
    (h : inertBefore c d = true) :
    run ⟨.double, some w, e⟩ (c :: d :: l) = run ⟨.double, some (w ++ [.lit c]), e⟩ (d :: l) := by
  simp only [inertBefore, Bool.and_eq_true, Bool.not_eq_true', bne_iff_ne, ne_eq,
    Bool.and_eq_false_iff, beq_eq_false_iff_ne, Bool.or_eq_false_iff, Bool.not_eq_false'] at h
  rcases h with ⟨⟨⟨hquote, htick⟩, hescape⟩, hdollar⟩
  rw [run_cons, run_cons, run_cons]
  congr 1
  by_cases hc : c = '\\'
  · -- a backslash that the next character leaves in place
    rcases hescape with hne | ⟨hescapable, hline⟩
    · exact absurd hc hne
    · have hd : ∀ x, isEscapable x = true → d ≠ x := by
        rintro x hx rfl
        rw [hescapable] at hx
        cases hx
      rw [hc, step_double_lit ⟨.double, some (w ++ [Piece.lit '\\']), e⟩ rfl d (hd '"' (by decide))
        (hd '\\' (by decide)) (hd '$' (by decide)) (hd '\x60' (by decide))]
      change stepDoubleEscape _ d = _
      rw [stepDoubleEscape, hescapable, if_neg Bool.false_ne_true, if_neg hline]
      rfl
  · by_cases hc' : c = '$'
    · rcases hdollar with hne | hends
      · exact absurd hc' hne
      · rw [hc']
        exact stepParam_ends true [] _ d hends
    · rw [step_double_lit _ rfl c hquote hc hc' htick]
      rfl

/-- Inert text between double quotes stands for itself. -/
theorem run_inert (e : List Token) (w : Word) (l rest : List Char) (h : inert l = true) :
    run ⟨.double, some w, e⟩ (l ++ '"' :: rest) = run ⟨.plain, some (w ++ lits l), e⟩ rest := by
  induction l generalizing w with
  | nil => rw [lits, List.map_nil, List.append_nil]; rfl
  | cons c l ih =>
      have hlits : w ++ lits (c :: l) = w ++ [.lit c] ++ lits l := by
        rw [List.append_assoc]
        rfl
      rw [hlits]
      cases l with
      | nil =>
          change run _ (c :: '"' :: rest) = _
          rw [run_inertBefore e w c '"' rest h]
          exact ih (w ++ [.lit c]) rfl
      | cons d l =>
          rw [inert, Bool.and_eq_true] at h
          change run _ (c :: d :: (l ++ '"' :: rest)) = _
          rw [run_inertBefore e w c d _ h.1]
          exact ih (w ++ [.lit c]) h.2

/-- A name between double quotes becomes a piece of the word. -/
theorem run_param (e : List Token) (w : Word) (l name : List Char) (ts : List Token)
    (hname : name ≠ []) (h : (run ⟨.param true name, some w, e⟩ l).finish = some ts) :
    ∃ name' v rest, ts = e ++ .word (w ++ [.param name'] ++ v) :: rest := by
  induction l generalizing name with
  | nil => cases h
  | cons c l ih =>
      rw [run_cons] at h
      change (run (stepParam true name _ c) l).finish = some ts at h
      rw [stepParam] at h
      by_cases hgrows : (isNameStart c || (c.isDigit && decide (name ≠ []))) = true
      · rw [if_pos hgrows] at h
        exact ih (name ++ [c]) (List.append_ne_nil_of_left_ne_nil hname _) h
      · -- the name ends, and the character is read between the quotes
        rw [if_neg hgrows, if_neg (by simp [hname]), if_neg (by simp [hname]), if_pos rfl,
          Reading.closeParam, if_neg hname] at h
        have hread : (run ⟨.double, some (w ++ [.param name]), e⟩ (c :: l)).finish = some ts := h
        rcases word_extends _ _ rfl _ _ hread with ⟨v, rest, heq⟩
        exact ⟨name, v, rest, heq⟩

/-- A dollar sign before a name, between double quotes, is not given back. -/
theorem run_expands (e : List Token) (w : Word) (d : Char) (l : List Char) (ts : List Token)
    (hd : endsName d = false) (h : (run ⟨.double, some w, e⟩ ('$' :: d :: l)).finish = some ts) :
    ∃ name v rest, ts = e ++ .word (w ++ [.param name] ++ v) :: rest := by
  rw [run_cons, run_cons] at h
  change (run (stepParam true [] ⟨.param true [], some w, e⟩ d) l).finish = some ts at h
  rw [stepParam] at h
  by_cases hname : isNameStart d = true
  · rw [if_pos (by rw [hname, Bool.true_or])] at h
    exact run_param e w l [d] ts (List.cons_ne_nil d []) h
  · have hname' : isNameStart d = false := Bool.eq_false_iff.mpr hname
    rw [if_neg (by simp [hname'])] at h
    by_cases hspecial : isSpecialParam d = true
    · rw [if_pos (by simp [hspecial])] at h
      rcases word_extends ⟨.double, some (w ++ [Piece.param [d]]), e⟩ _ rfl l ts h with
        ⟨v, rest, heq⟩
      exact ⟨[d], v, rest, heq⟩
    · have hspecial' : isSpecialParam d = false := Bool.eq_false_iff.mpr hspecial
      have hdigit : d.isDigit = false := by
        rw [isSpecialParam] at hspecial'
        simp only [Bool.or_eq_false_iff] at hspecial'
        exact hspecial'.1.1.1.1.1.1.1
      -- the dollar begins a parameter unless a bracket follows it
      have hbrace : d = '{' ∨ d = '(' := by
        by_contra hneither
        rw [not_or] at hneither
        rw [endsName, hname', hdigit, hspecial', bne_iff_ne.mpr hneither.1,
          bne_iff_ne.mpr hneither.2] at hd
        cases hd
      rw [if_neg (by simp [hspecial']), if_pos (by simp [hbrace])] at h
      rw [run_substitution _ rfl] at h
      cases h

end DoubleQuoted

section Plain

/-- A character that stands for itself outside quotes, wherever it is. -/
def isPlain (c : Char) : Bool :=
  !(c == '\'' || c == '"' || c == '\\' || c == '$' || c == '\x60' || isBlank c || c == '\n'
    || isOperator c || c == '#' || isPattern c || c == '~')

theorem plainAction_plain (fresh : Bool) (c : Char) (h : isPlain c = true) :
    plainAction fresh c = .push (.lit c) := by
  simp only [isPlain, Bool.not_eq_true', Bool.or_eq_false_iff, beq_eq_false_iff_ne, ne_eq] at h
  rcases h with ⟨⟨⟨⟨⟨⟨⟨⟨⟨⟨hsingle, hdouble⟩, hescape⟩, hdollar⟩, htick⟩, hblank⟩, hline⟩, hoperator⟩,
    hcomment⟩, hpattern⟩, htilde⟩
  rw [plainAction, if_neg hsingle, if_neg hdouble, if_neg hescape, if_neg hdollar, if_neg htick,
    hblank, hoperator, hpattern, decide_eq_false hline, decide_eq_false hcomment,
    decide_eq_false htilde]
  rfl

/-- Such characters go on with a word. -/
theorem run_plain (d : List Token) (w : Word) (l : List Char) (h : ∀ c ∈ l, isPlain c = true) :
    run ⟨.plain, some w, d⟩ l = ⟨.plain, some (w ++ lits l), d⟩ := by
  induction l generalizing w with
  | nil => rw [lits, List.map_nil, List.append_nil]; rfl
  | cons c l ih =>
      have hstep : step ⟨.plain, some w, d⟩ c = ⟨.plain, some (w ++ [.lit c]), d⟩ := by
        change stepPlain _ c = _
        rw [stepPlain, plainAction_plain _ c (h c List.mem_cons_self)]
        rfl
      rw [run_cons, hstep, ih _ (fun c' hc' => h c' (List.mem_cons_of_mem c hc')),
        List.append_assoc]
      rfl

/-- And begin one. -/
theorem run_plain_start (d : List Token) (l : List Char) (hne : l ≠ [])
    (h : ∀ c ∈ l, isPlain c = true) : run (start d) l = ⟨.plain, some (lits l), d⟩ := by
  rcases List.exists_cons_of_ne_nil hne with ⟨c, l', rfl⟩
  have hstep : step (start d) c = ⟨.plain, some [.lit c], d⟩ := by
    change stepPlain _ c = _
    rw [stepPlain, plainAction_plain _ c (h c List.mem_cons_self)]
    rfl
  rw [run_cons, hstep, run_plain d _ l' fun c' hc' => h c' (List.mem_cons_of_mem c hc')]
  rfl

/-- Words, with a blank between two. -/
def spaced (first : List Char) (rest : List (List Char)) : List Char :=
  first ++ rest.flatMap (fun w => ' ' :: w)

/-- A text of several words goes on with the word that has begun, and the others
    are words of their own, of which the last is not finished. -/
theorem run_spaced (d : List Token) (w : Word) (first : List Char) (rest : List (List Char))
    (h : ∀ l ∈ first :: rest, l ≠ [] ∧ ∀ c ∈ l, isPlain c = true) :
    ∃ w' d', run ⟨.plain, some w, d⟩ (spaced first rest) = ⟨.plain, some w', d'⟩
      ∧ d' ++ [.word w'] = d ++ .word (w ++ lits first) :: rest.map (fun l => .word (lits l)) := by
  induction rest generalizing d w first with
  | nil =>
      refine ⟨w ++ lits first, d, ?_, rfl⟩
      rw [spaced, List.flatMap_nil, List.append_nil]
      exact run_plain d w first (h first List.mem_cons_self).2
  | cons next rest ih =>
      have hsplit : spaced first (next :: rest) = first ++ ' ' :: spaced next rest := by
        rw [spaced, spaced, List.flatMap_cons]
        rfl
      rw [List.forall_mem_cons] at h
      have hnext := h.2 next List.mem_cons_self
      -- the blank ends the word, and the first character of the next begins it
      have hblank : step ⟨.plain, some (w ++ lits first), d⟩ ' '
          = start (d ++ [.word (w ++ lits first)]) := rfl
      rcases List.exists_cons_of_ne_nil hnext.1 with ⟨c, l, rfl⟩
      have hc := hnext.2 c List.mem_cons_self
      have hbegun : ∀ d, step (start d) c = ⟨.plain, some [.lit c], d⟩ := by
        intro d
        change stepPlain _ c = _
        rw [stepPlain, plainAction_plain _ c hc]
        rfl
      have hgoes : ∀ (d : List Token) (w : Word), step ⟨.plain, some w, d⟩ c
          = ⟨.plain, some (w ++ [.lit c]), d⟩ := by
        intro d w
        change stepPlain _ c = _
        rw [stepPlain, plainAction_plain _ c hc]
        rfl
      rcases ih (d ++ [.word (w ++ lits first)]) [] (c :: l) h.2 with ⟨w', d', hrun, hread⟩
      refine ⟨w', d', ?_, ?_⟩
      · rw [hsplit, run_append, run_plain d w first h.1.2, run_cons, hblank, ← hrun, spaced,
          List.cons_append, run_cons, run_cons, hbegun, hgoes]
        rfl
      · rw [hread, List.append_assoc]
        rfl

end Plain

end Shell

end Xbench
