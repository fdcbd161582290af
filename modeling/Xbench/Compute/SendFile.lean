import Xbench.Compute.RunClient

/-!
# Sending a File through a Command

`Node.send_file` reads a file and writes it on the host with `echo`: the text
goes between double quotes, the command through `clean_cmd`, which strips its
lines and drops the empty ones, and with `sudo` the whole between single
quotes. Each of the three takes something from some texts.

What the host writes is read off the tokens of the line: `echo` writes its
arguments, and nothing else is known to write. What is between the double
quotes after cleaning is `cleanBody`, and `arrives_iff` says that the file
arrives exactly when this text is the file up to its last newline, is inert
between double quotes, and, with `sudo`, holds no single quote.

That nothing else arrives, not even a text that leaves its quotes and writes
itself in another way, is a matter of counting. No character is made of
nothing, so what is written counts no more than what was sent, and less as
soon as a quote or a backslash is taken from it (`double_or_less`). The
calls between, which repeat a line that fails, are left out.

## Main definitions

* `cleanCmd`: The cleaning of a command.
* `RemoteName`: A file on the host, under a portable name.
* `sendFile`: Sending a file.
* `echoCommand`: What `echo` writes.
* `executed`: What is written by the line that is run.
* `cleanBody`: What cleaning leaves of a text.
* `UpToNewline`: The same up to one final newline.

## Theorems

* `cleanCmd_echo`: The command after cleaning.
* `double_or_less`: A text that is not inert loses a character.
* `arrives_iff`: Which files arrive.
-/

namespace Xbench

open Effect Shell

/-- A command is a text or a list of lines. -/
inductive Cmd where
  | text (s : String)
  | lines (ls : List String)

/-- The lines of a text, stripped, without those that are empty then. -/
def cleanLines (cs : List Char) : List (List Char) :=
  ((Text.splitlines cs).map Text.strip).filter (fun l => l != [])

/-- `clean_cmd`. -/
def cleanCmd : Cmd → String
  | .text s => String.ofList (List.intercalate ['\n'] (cleanLines s.toList))
  | .lines ls => Text.join '\n' ls

/-- A file on the host: its name is one word, which nothing is done to. -/
structure RemoteName where
  text : String
  nonempty : text.toList ≠ []
  portable : ∀ c ∈ text.toList, isPortable c = true

/-- The command of `send_file`. -/
def echoText (content : String) (remoteFileName : RemoteName) : String :=
  "echo \"" ++ content ++ "\" > " ++ remoteFileName.text

/-- `Node.send_file`, with what comes of reading the file. -/
def sendFile (hostname : String) (conn : String → Nat → Except ScpExn RemoteResult)
    (localFile : Except String String) (remoteFileName : RemoteName) (withSudo : Bool) :
    Effect RanLine ScpExn Unit :=
  match localFile with
  | .error message => raise (.node message)
  | .ok raw => do
      let content := String.ofList (universalNewlines raw.toList)
      let _ ← runClient hostname conn (cleanCmd (.text (echoText content remoteFileName))) 300
        withSudo false none
      pure ()

section Executed

/-- The text of a word whose characters stand for themselves. -/
def literal : Word → Option (List Char)
  | [] => some []
  | .lit c :: w => (literal w).map (c :: ·)
  | _ :: _ => none

/-- Arguments, and the file that the output goes to. -/
def redirected : List Token → Option (List (List Char) × List Char)
  | [.operator c, .word f] => if c = '>' then (literal f).map fun name => ([], name) else none
  | .word w :: rest => do
      let arg ← literal w
      let (args, name) ← redirected rest
      pure (arg :: args, name)
  | _ => none

/-- What `echo` writes, and where. -/
def echoCommand : List Token → Option (List Char × List Char)
  | .word w :: rest =>
      if w = lits "echo".toList then
        (redirected rest).map fun (args, name) => (name, List.intercalate [' '] args ++ ['\n'])
      else none
  | _ => none

def setE : List Token :=
  [.word (lits "set".toList), .word (lits "-e".toList), .operator '\n']

/-- What a script writes: an `echo`, after `set -e` or alone. -/
def shellScript (ts : List Token) : Option (List Char × List Char) :=
  if setE <+: ts then echoCommand (ts.drop 3) else echoCommand ts

/-- The script that `sudo` gives to the shell. -/
def sudoScript (ts : List Token) : Option (List Char) :=
  if ts.take 4 = sudoTokens none then
    match ts.drop 4 with
    | [.word w] => literal w
    | _ => none
  else none

/-- What is written when a line is run, and where: by the script that the
    line gives to a shell, or by the line itself. -/
def executed (line : List Char) : Option (List Char × List Char) := do
  let ts ← tokens line
  match sudoScript ts with
  | some text => tokens text >>= shellScript
  | none => shellScript ts

end Executed

section Body

/-- What cleaning leaves of a text in the middle of a command: the space
    before its first line and behind its last stays. -/
def cleanBody (cs : List Char) : List Char :=
  match Text.cutLines cs with
  | [] => []
  | [l] => l
  | l :: ls => List.intercalate ['\n'] (Text.rstrip l
      :: ((ls.dropLast.map Text.strip).filter (fun l => l != [])
        ++ [Text.lstrip (ls.getLastD [])]))

theorem portable_isSpace (c : Char) (h : isPortable c = true) : Text.isSpace c = false := by
  have hne : ∀ x : Char, isPortable x = false → (c == x) = false :=
    fun x hx => beq_eq_false_iff_ne.mpr (portable_ne c x h hx)
  have hbreak : Text.isLineBreak c = false := by
    rw [Text.isLineBreak, hne '\n' (by decide), hne '\r' (by decide), hne '\x0b' (by decide),
      hne '\x0c' (by decide), hne '\x1c' (by decide), hne '\x1d' (by decide),
      hne '\x1e' (by decide), hne '\u0085' (by decide), hne '\u2028' (by decide),
      hne '\u2029' (by decide)]
    rfl
  have hrange : ('\u2000' ≤ c && c ≤ '\u200a') = false := by
    have hbelow : ¬ '\u2000' ≤ c := by
      intro hle
      have hval : 8192 ≤ c.toNat := UInt32.le_iff_toNat_le.mp hle
      have hlt := portable_lt c h
      omega
    rw [decide_eq_false hbelow]
    rfl
  rw [Text.isSpace, hbreak, hrange, hne ' ' (by decide), hne '\t' (by decide),
    hne '\x1f' (by decide), hne '\u00a0' (by decide), hne '\u1680' (by decide),
    hne '\u202f' (by decide), hne '\u205f' (by decide), hne '\u3000' (by decide)]
  rfl

theorem intercalate_head (sep a x : List Char) (ls : List (List Char)) :
    List.intercalate sep ((a ++ x) :: ls) = a ++ List.intercalate sep (x :: ls) := by
  cases ls with
  | nil => rw [List.intercalate_singleton, List.intercalate_singleton]
  | cons l ls =>
      rw [List.intercalate_cons_cons, List.intercalate_cons_cons, List.append_assoc,
        List.append_assoc, List.append_assoc]

theorem intercalate_last (sep b y : List Char) (ls : List (List Char)) :
    List.intercalate sep (ls ++ [y ++ b]) = List.intercalate sep (ls ++ [y]) ++ b := by
  induction ls with
  | nil =>
      rw [List.nil_append, List.nil_append, List.intercalate_singleton, List.intercalate_singleton]
  | cons l ls ih =>
      rcases List.exists_cons_of_ne_nil (List.append_ne_nil_of_right_ne_nil ls
        (List.cons_ne_nil y [])) with ⟨x, xs, hxs⟩
      rcases List.exists_cons_of_ne_nil (List.append_ne_nil_of_right_ne_nil ls
        (List.cons_ne_nil (y ++ b) [])) with ⟨x', xs', hxs'⟩
      rw [hxs, hxs'] at ih
      rw [List.cons_append, List.cons_append, hxs, hxs', List.intercalate_cons_cons,
        List.intercalate_cons_cons, ih, List.append_assoc, List.append_assoc, List.append_assoc]

/-- Before the text of the file. -/
def echoHead : List Char :=
  "echo \"".toList

/-- Behind the text of the file. -/
def echoTail (name : RemoteName) : List Char :=
  "\" > ".toList ++ name.text.toList

theorem echoText_toList (content : List Char) (name : RemoteName) :
    (echoText (String.ofList content) name).toList = echoHead ++ (content ++ echoTail name) := by
  unfold echoText echoTail echoHead
  simp only [String.toList_append, String.toList_ofList, List.append_assoc]

/-- The end of a command is no space. -/
theorem rstrip_tail (l : List Char) (name : RemoteName) :
    Text.rstrip (l ++ echoTail name) = l ++ echoTail name := by
  have hlast : echoTail name = "\" > ".toList ++ name.text.toList.dropLast
      ++ [name.text.toList.getLast name.nonempty] := by
    unfold echoTail
    rw [List.append_assoc, List.dropLast_append_getLast]
  have hspace := portable_isSpace _ (name.portable _ (List.getLast_mem name.nonempty))
  rw [hlast, ← List.append_assoc, Text.rstrip_append _ [] _ hspace]
  rfl

/-- The command after cleaning. -/
theorem cleanCmd_echo (content : List Char) (name : RemoteName) :
    (cleanCmd (.text (echoText (String.ofList content) name))).toList
      = echoHead ++ (cleanBody content ++ echoTail name) := by
  have hquote : Text.isSpace '"' = false := by decide
  have htail : ∀ c ∈ echoTail name, Text.isLineBreak c = false := by
    intro c hc
    rcases List.mem_append.mp hc with hc | hc
    · have hall : "\" > ".toList.all (fun c => !Text.isLineBreak c) = true := by decide
      exact (Bool.not_eq_true' _).mp (List.all_eq_true.mp hall c hc)
    · have hspace := portable_isSpace c (name.portable c hc)
      simp only [Text.isSpace, Bool.or_eq_false_iff] at hspace
      exact hspace.1.1.1.1.1.1.1.2
  have hhead : ∀ c ∈ echoHead, Text.isLineBreak c = false := by
    intro c hc
    have hall : echoHead.all (fun c => !Text.isLineBreak c) = true := by decide
    exact (Bool.not_eq_true' _).mp (List.all_eq_true.mp hall c hc)
  have htext : echoTail name = '"' :: (" > ".toList ++ name.text.toList) := rfl
  have hechoed : ∀ l, echoHead ++ l = 'e' :: ("cho ".toList ++ '"' :: l) := fun _ => rfl
  -- neither end of the command is stripped
  have hfirst : ∀ l, Text.strip (echoHead ++ l) = echoHead ++ Text.rstrip l := by
    intro l
    rw [Text.strip, hechoed, show Text.lstrip ('e' :: ("cho ".toList ++ '"' :: l))
      = 'e' :: ("cho ".toList ++ '"' :: l) from rfl]
    exact Text.rstrip_append ('e' :: "cho ".toList) l '"' hquote
  have hlast : ∀ l, Text.strip (l ++ echoTail name) = Text.lstrip l ++ echoTail name := by
    intro l
    have hleft : Text.lstrip (l ++ echoTail name) = Text.lstrip l ++ echoTail name := by
      rw [htext]
      exact Text.lstrip_append l _ '"' hquote
    rw [Text.strip, hleft, rstrip_tail]
  have hnonempty : ∀ l : List Char, ¬ l ++ echoTail name = [] := by
    intro l h
    rw [htext] at h
    exact absurd (List.append_eq_nil_iff.mp h).2 (List.cons_ne_nil _ _)
  have hcommand : Text.cutLines (echoHead ++ (content ++ echoTail name))
      = ((Text.cutLines content).dropLast
        ++ [(Text.cutLines content).getLastD [] ++ echoTail name]).modifyHead (echoHead ++ ·) := by
    rw [Text.cutLines_append_left _ _ hhead, Text.cutLines_append_right _ _ htail]
  have hkept : ∀ (l : List Char) (ls : List (List Char)), l ≠ [] →
      (l :: ls).filter (fun l => l != []) = l :: ls.filter (fun l => l != []) :=
    fun l ls h => List.filter_cons_of_pos (bne_iff_ne.mpr h)
  have hfilled : ∀ l, echoHead ++ l ≠ [] := fun l => List.cons_ne_nil _ _
  rw [cleanCmd, String.toList_ofList, echoText_toList, cleanLines, cleanBody]
  rcases List.exists_cons_of_ne_nil (Text.cutLines_ne_nil content) with ⟨p, rest, hcut⟩
  rw [hcut] at hcommand ⊢
  cases rest with
  | nil =>
      -- a text of one line stays as it is
      have hlines := Text.splitlines_concat _ [] (echoHead ++ (p ++ echoTail name)) hcommand
        (hfilled _)
      rw [hlines, List.nil_append, List.map_singleton, hfirst, rstrip_tail,
        hkept _ _ (hfilled _), List.filter_nil, List.intercalate_singleton]
  | cons q qs =>
      have hlines := Text.splitlines_concat _ ((echoHead ++ p) :: (q :: qs).dropLast)
        ((q :: qs).getLastD [] ++ echoTail name) hcommand (hnonempty _)
      rw [hlines, List.map_append, List.map_cons, List.map_singleton, hfirst, hlast,
        List.cons_append, hkept _ _ (hfilled _), List.filter_append, hkept _ _ (hnonempty _),
        List.filter_nil, intercalate_head, ← List.cons_append, intercalate_last]
      rfl

/-- Cleaning takes characters away, and adds none but newlines. -/
theorem ink_cleanBody (content : List Char) : ink (cleanBody content) ≤ ink content := by
  -- what is left out of a text has no less ink than nothing
  have hsub : ∀ l l' : List Char, l.Sublist l' → ink l ≤ ink l' := fun _ _ h => h.countP_le
  have hjoin : ∀ ls : List (List Char), ink (List.intercalate ['\n'] ls) = (ls.map ink).sum := by
    intro ls
    induction ls with
    | nil => rfl
    | cons l ls ih =>
        cases ls with
        | nil => rw [List.intercalate_singleton, List.map_singleton, List.sum_singleton]
        | cons l' ls =>
            rw [List.intercalate_cons_cons, ink_append, ink_append, ih, List.map_cons,
              List.sum_cons]
            rfl
  have hflat : ∀ ls : List (List Char), ink ls.flatten = (ls.map ink).sum := by
    intro ls
    induction ls with
    | nil => rfl
    | cons l ls ih => rw [List.flatten_cons, ink_append, ih, List.map_cons, List.sum_cons]
  have hmid : ∀ ls : List (List Char),
      (((ls.map Text.strip).filter (fun l => l != [])).map ink).sum ≤ (ls.map ink).sum := by
    intro ls
    induction ls with
    | nil => exact Nat.le_refl _
    | cons l ls ih =>
        have hl := hsub _ _ (Text.strip_sublist l)
        rw [List.map_cons, List.filter_cons]
        split_ifs
        · simp only [List.map_cons, List.sum_cons]
          omega
        · simp only [List.map_cons, List.sum_cons]
          omega
  have htotal := hsub _ _ (Text.flatten_cutLines content)
  rw [hflat] at htotal
  rw [cleanBody]
  rcases List.exists_cons_of_ne_nil (Text.cutLines_ne_nil content) with ⟨p, rest, hcut⟩
  rw [hcut] at htotal ⊢
  cases rest with
  | nil =>
      simp only [List.map_cons, List.map_nil, List.sum_cons, List.sum_nil] at htotal
      exact htotal
  | cons q qs =>
      -- the lines are the first, those between and the last
      have hends : (q :: qs).dropLast ++ [(q :: qs).getLastD []] = q :: qs :=
        List.dropLast_append_getLast (List.cons_ne_nil q qs)
      have hsplit : ((q :: qs).map ink).sum
          = ((q :: qs).dropLast.map ink).sum + ink ((q :: qs).getLastD []) := by
        conv_lhs => rw [← hends]
        rw [List.map_append, List.sum_append, List.map_singleton, List.sum_singleton]
      have hfirst := hsub _ _ (List.rdropWhile_prefix Text.isSpace p).sublist
      have hlast := hsub _ _ (List.dropWhile_sublist (l := (q :: qs).getLastD []) Text.isSpace)
      have hmiddle := hmid (q :: qs).dropLast
      dsimp only
      rw [hjoin, List.map_cons, List.map_append, List.map_singleton, List.sum_cons, List.sum_append,
        List.sum_singleton]
      rw [List.map_cons, List.sum_cons, hsplit] at htotal
      rw [Text.rstrip, Text.lstrip]
      omega

end Body

section Tokens

theorem literal_lits (l : List Char) : literal (lits l) = some l := by
  induction l with
  | nil => rfl
  | cons c l ih =>
      change (literal (lits l)).map (c :: ·) = _
      rw [ih]
      rfl

theorem literal_eq_some (w : Word) (l : List Char) (h : literal w = some l) : w = lits l := by
  induction w generalizing l with
  | nil =>
      rw [← Option.some.inj h]
      rfl
  | cons p w ih =>
      cases p with
      | lit c =>
          change (literal w).map (c :: ·) = some l at h
          rw [Option.map_eq_some_iff] at h
          rcases h with ⟨l', hl', rfl⟩
          rw [ih l' hl']
          rfl
      | param name => cases h
      | pattern c => cases h

/-- The tokens of arguments and a file for the output. -/
def redirection (args : List (List Char)) (name : List Char) : List Token :=
  args.map (fun arg => .word (lits arg)) ++ [.operator '>', .word (lits name)]

theorem redirected_redirection (args : List (List Char)) (name : List Char) :
    redirected (redirection args name) = some (args, name) := by
  induction args with
  | nil =>
      change (if '>' = '>' then (literal (lits name)).map fun name => ([], name) else none) = _
      rw [if_pos rfl, literal_lits]
      rfl
  | cons arg args ih =>
      change (do
        let arg ← literal (lits arg)
        let (args, name) ← redirected (redirection args name)
        pure (arg :: args, name)) = some (arg :: args, name)
      rw [ih, literal_lits]
      rfl

theorem redirected_eq_some (ts : List Token) (args : List (List Char)) (name : List Char)
    (h : redirected ts = some (args, name)) : ts = redirection args name := by
  induction ts generalizing args with
  | nil => cases h
  | cons t ts ih =>
      -- a word is an argument, and an operator ends them
      cases t with
      | word w =>
          have h' : (do
            let arg ← literal w
            let (args, name) ← redirected ts
            pure (arg :: args, name)) = some (args, name) := h
          cases hw : literal w with
          | none =>
              rw [hw] at h'
              cases h'
          | some arg =>
              rw [hw] at h'
              cases hts : redirected ts with
              | none =>
                  rw [hts] at h'
                  cases h'
              | some p =>
                  rw [hts] at h'
                  have hp : (arg :: p.1, p.2) = (args, name) := Option.some.inj h'
                  rw [Prod.mk.injEq] at hp
                  rcases hp with ⟨rfl, rfl⟩
                  rw [ih p.1 hts, literal_eq_some w arg hw]
                  rfl
      | operator c =>
          rcases ts with _ | ⟨t, _ | ⟨t', ts⟩⟩
          · cases h
          · cases t with
            | operator c' => cases h
            | word f =>
                change (if c = '>' then (literal f).map fun name => ([], name) else none) = _ at h
                split_ifs at h with hc
                rw [Option.map_eq_some_iff] at h
                rcases h with ⟨l, hl, heq⟩
                rw [Prod.mk.injEq] at heq
                rcases heq with ⟨rfl, rfl⟩
                rw [hc, literal_eq_some f l hl]
                rfl
          · cases t with
            | operator c' => cases h
            | word f => cases h

/-- What the tokens count, next to what is written. -/
theorem redirection_ink (args : List (List Char)) (name : List Char) (hargs : args ≠ []) :
    ((redirection args name).map Token.ink).sum
      = ink (List.intercalate [' '] args ++ ['\n']) + ink name + 2 := by
  have hjoin : ∀ args : List (List Char), args ≠ [] →
      ((args.map (fun arg => Token.word (lits arg))).map Token.ink).sum
        = ink (List.intercalate [' '] args) + 1 := by
    intro args hne
    induction args with
    | nil => exact absurd rfl hne
    | cons arg args ih =>
        cases args with
        | nil =>
            rw [List.intercalate_singleton, List.map_singleton, List.map_singleton,
              List.sum_singleton, Token.ink, wordInk_lits]
        | cons arg' args =>
            have hblank : ink [' '] = 1 := by decide
            rw [List.map_cons, List.map_cons, List.sum_cons, ih (List.cons_ne_nil _ _),
              List.intercalate_cons_cons, ink_append, ink_append, Token.ink, wordInk_lits]
            omega
  rw [redirection, List.map_append, List.sum_append, hjoin args hargs, ink_append]
  simp only [List.map_cons, List.map_nil, List.sum_cons, List.sum_nil, Token.ink, wordInk_lits]
  have hline : ink ['\n'] = 0 := by decide
  omega

end Tokens

section Counting

variable (name : RemoteName)

theorem run_tail (x : Option Word) (d : List Token) :
    run ⟨.plain, x, d⟩ (" > ".toList ++ name.text.toList)
      = ⟨.plain, some (lits name.text.toList),
          d ++ (x.map Token.word).toList ++ [.operator '>']⟩ := by
  have hop : run ⟨.plain, x, d⟩ " > ".toList
      = start (d ++ (x.map Token.word).toList ++ [.operator '>']) := by
    cases x with
    | none =>
        rw [Option.map_none, Option.toList_none, List.append_nil]
        rfl
    | some w => rfl
  rw [run_append, hop, run_portable_start _ _ name.nonempty name.portable]

/-- Behind a closed quotation the command is read as it was meant. -/
theorem finish_tail (x : Option Word) (d : List Token) :
    (run ⟨.plain, x, d⟩ (" > ".toList ++ name.text.toList)).finish
      = some (d ++ (x.map Token.word).toList ++ [.operator '>']
          ++ [.word (lits name.text.toList)]) := by
  rw [run_tail]
  rfl

theorem tail_inner (c : Char) (hc : c ∈ " > ".toList ++ name.text.toList) :
    c ≠ '"' ∧ c ≠ '\\' ∧ c ≠ '$' ∧ c ≠ '\x60' ∧ c ≠ '\'' ∧ c ≠ '\n' := by
  rcases List.mem_append.mp hc with hc | hc
  · have hall : " > ".toList.all (fun c =>
        decide (c ≠ '"' ∧ c ≠ '\\' ∧ c ≠ '$' ∧ c ≠ '\x60' ∧ c ≠ '\'' ∧ c ≠ '\n')) = true := by
      decide
    exact of_decide_eq_true (List.all_eq_true.mp hall c hc)
  · have hplain := name.portable c hc
    exact ⟨portable_ne c _ hplain (by decide), portable_ne c _ hplain (by decide),
      portable_ne c _ hplain (by decide), portable_ne c _ hplain (by decide),
      portable_ne c _ hplain (by decide), portable_ne c _ hplain (by decide)⟩

/-- Between double quotes the reader stays, where no character leads out. -/
theorem double_stays (l : List Char) (s : Reading)
    (hl : ∀ c ∈ l, c ≠ '"' ∧ c ≠ '\\' ∧ c ≠ '$' ∧ c ≠ '\x60') (h : s.mode = .double) :
    (run s l).mode = .double := by
  induction l generalizing s with
  | nil => exact h
  | cons c l ih =>
      rcases hl c List.mem_cons_self with ⟨h₁, h₂, h₃, h₄⟩
      rw [run_cons, step_double_lit s h c h₁ h₂ h₃ h₄]
      exact ih _ (fun c' hc' => hl c' (List.mem_cons_of_mem c hc')) h

/-- A quotation that the command opens at its end is never closed, nor by a
    single quote behind it. -/
theorem unclosed_tail (s : Reading) (hmode : s.mode = .double) :
    (run s (" > ".toList ++ name.text.toList)).finish = none
      ∧ (run s (" > ".toList ++ name.text.toList ++ ['\''])).finish = none := by
  have hinner : ∀ c ∈ " > ".toList ++ name.text.toList,
      c ≠ '"' ∧ c ≠ '\\' ∧ c ≠ '$' ∧ c ≠ '\x60' := by
    intro c hc
    rcases tail_inner name c hc with ⟨h₁, h₂, h₃, h₄, _⟩
    exact ⟨h₁, h₂, h₃, h₄⟩
  constructor
  · rw [Reading.finish, double_stays _ s hinner hmode]
  · have hquoted : ∀ c ∈ " > ".toList ++ name.text.toList ++ ['\''],
        c ≠ '"' ∧ c ≠ '\\' ∧ c ≠ '$' ∧ c ≠ '\x60' := by
      intro c hc
      rcases List.mem_append.mp hc with hc | hc
      · exact hinner c hc
      · rw [List.mem_singleton.mp hc]
        decide
    rw [Reading.finish, double_stays _ s hquoted hmode]

theorem closed_score (s : Reading) (hmode : s.mode = .plain) (ts : List Token)
    (h : (run s (" > ".toList ++ name.text.toList)).finish = some ts) :
    (ts.map Token.ink).sum ≤ score s + ink name.text.toList + 2 := by
  rcases s with ⟨m, x, d⟩
  change m = .plain at hmode
  rw [hmode] at h ⊢
  rw [finish_tail] at h
  rw [← Option.some.inj h]
  cases x with
  | none =>
      simp only [score, Option.map_none, Option.toList_none, List.append_nil, List.map_append,
        List.sum_append, List.map_cons, List.map_nil, List.sum_cons, List.sum_nil, Token.ink,
        wordInk_lits, Option.getD_none, pending_plain]
      omega
  | some w =>
      simp only [score, Option.map_some, Option.toList_some, List.map_append, List.sum_append,
        List.map_cons, List.map_nil, List.sum_cons, List.sum_nil, Token.ink, wordInk_lits,
        Option.getD_some, pending_plain]
      omega

/-- The end of the command adds no more than it does where it was meant to be. -/
theorem tail_score (s : Reading) (ts : List Token)
    (h : (run s (echoTail name)).finish = some ts) (hline : .operator '\n' ∉ ts) :
    (ts.map Token.ink).sum ≤ score s + ink name.text.toList + 2 := by
  have hquote : (Piece.lit '"').ink = 1 := by decide
  have hread : run s (echoTail name)
      = run (step s '"') (" > ".toList ++ name.text.toList) := rfl
  rw [hread] at h
  cases hmode : s.mode with
  | plain =>
      -- the quote opens a string that the name does not close
      have hstep : step s '"' = s.opened .double := by
        rw [step, hmode]
        rfl
      rw [hstep, (unclosed_tail name _ rfl).1] at h
      cases h
  | escape =>
      -- the quote is a character of the word, and the name is read after it
      have hstep : step s '"' = (s.push (.lit '"')).into .plain := by
        rw [step, hmode]
        rfl
      rw [hstep] at h
      have hscore := closed_score name _ rfl ts h
      have hinto := score_into (s.push (.lit '"')) .plain
      have hpush := score_push s (.lit '"')
      rw [show (s.push (.lit '"')).mode = .escape from hmode, pending_plain,
        pending_escape] at hinto
      omega
  | single =>
      -- without a single quote the string is not closed
      have hstays : ∀ (l : List Char) (s : Reading), '\'' ∉ l → s.mode = .single →
          (run s l).mode = .single := by
        intro l
        induction l with
        | nil => exact fun s _ h => h
        | cons c l ih =>
            intro s hl h
            have hstep : step s c = s.push (.lit c) := by
              rw [step, h]
              exact if_neg (fun hc : c = '\'' => hl (hc ▸ List.mem_cons_self))
            rw [run_cons, hstep]
            exact ih _ (fun hmem => hl (List.mem_cons_of_mem c hmem)) h
      have hstep : step s '"' = s.push (.lit '"') := by
        rw [step, hmode]
        rfl
      have hnone : '\'' ∉ " > ".toList ++ name.text.toList :=
        fun hmem => (tail_inner name '\'' hmem).2.2.2.2.1 rfl
      rw [Reading.finish, hstays _ (step s '"') hnone (hstep ▸ hmode)] at h
      cases h
  | double =>
      have hstep : step s '"' = s.into .plain := by
        rw [step, hmode]
        rfl
      rw [hstep] at h
      have hscore := closed_score name _ rfl ts h
      have hinto := score_into s .plain
      rw [hmode, pending_plain, pending_double] at hinto
      omega
  | doubleEscape =>
      have hstep : step s '"' = (s.push (.lit '"')).into .double := by
        rw [step, hmode]
        rfl
      rw [hstep, (unclosed_tail name _ rfl).1] at h
      cases h
  | comment =>
      -- only a newline would end the comment
      have hfinish := score_finish _ ts h
      rw [← hread] at h hfinish
      rcases run_comment s hmode (echoTail name) with hsame | hnewline
      · rw [hsame] at hfinish
        omega
      · exact absurd ((done_front_finish _ _ h).subset hnewline) hline
  | param quoted name' =>
      have hstep : step s '"' = if quoted then stepDouble ((s.closeParam name').into .double) '"'
          else stepPlain ((s.closeParam name').into .plain) '"' := by
        rw [step, hmode]
        exact stepParam_ends quoted name' s '"' (by decide)
      rw [hstep] at h
      cases quoted with
      -- the parameter ends at the quote, and so does the string around it
      | true =>
          have hclosed : stepDouble ((s.closeParam name').into .double) '"'
              = (s.closeParam name').into .plain := rfl
          rw [if_pos rfl, hclosed] at h
          have hscore := closed_score name _ rfl ts h
          have hinto := score_into (s.closeParam name') .plain
          have hclose := score_closeParam s name'
          have hkept : (s.closeParam name').mode = .param true name' := by
            rw [Reading.closeParam]
            split_ifs <;> exact hmode
          rw [hkept, pending_plain, pending_param, Mode.around, pending_double] at hinto
          omega
      | false =>
          rw [if_neg Bool.false_ne_true] at h
          have hopened : stepPlain ((s.closeParam name').into .plain) '"'
              = ((s.closeParam name').into .plain).opened .double := rfl
          rw [hopened, (unclosed_tail name _ rfl).1] at h
          cases h
  | substitution =>
      rw [← hread, run_substitution s hmode, Reading.finish, hmode] at h
      cases h

/-- Inert text is the argument of `echo`. -/
theorem inert_finish (w : Word) (b : List Char) (h : inert b = true) :
    (run ⟨.double, some w, []⟩ (b ++ echoTail name)).finish
      = some [.word (w ++ lits b), .operator '>', .word (lits name.text.toList)] := by
  have htail : echoTail name = '"' :: (" > ".toList ++ name.text.toList) := rfl
  rw [htail, run_inert [] w b _ h, finish_tail]
  rfl

/-- A text between the double quotes is inert, or a character is lost that is
    no newline. -/
theorem double_or_less (w : Word) (b : List Char) (ts : List Token)
    (h : (run ⟨.double, some w, []⟩ (b ++ echoTail name)).finish = some ts)
    (hline : .operator '\n' ∉ ts) (hlit : ∀ u, Token.word u ∈ ts → ∀ n, .param n ∉ u) :
    inert b = true ∨ (ts.map Token.ink).sum ≤ w.ink + ink b + ink name.text.toList + 1 := by
  have htail : echoTail name = '"' :: (" > ".toList ++ name.text.toList) := rfl
  induction hlength : b.length using Nat.strong_induction_on generalizing b w with
  | _ n ih =>
      subst hlength
      -- what is left after an inert text counts what it is
      have hcount : ∀ (w' : Word) (b' : List Char),
          (run ⟨.double, some w', []⟩ (b' ++ echoTail name)).finish = some ts →
          b'.length < b.length →
          (ts.map Token.ink).sum ≤ w'.ink + ink b' + ink name.text.toList + 2 := by
        intro w' b' hrun hlt
        rcases ih b'.length hlt w' b' hrun rfl with hinert | hless
        · rw [inert_finish name w' b' hinert] at hrun
          rw [← Option.some.inj hrun]
          simp only [List.map_cons, List.map_nil, List.sum_cons, List.sum_nil, Token.ink,
            wordInk_append, wordInk_lits]
          omega
        · omega
      cases b with
      | nil => exact Or.inl rfl
      | cons c b =>
          -- the character after this one, in the text or the quote behind it
          rcases hrest : b ++ echoTail name with _ | ⟨d, l⟩
          · rw [htail] at hrest
            exact absurd (List.append_eq_nil_iff.mp hrest).2 (List.cons_ne_nil _ _)
          have hinert : inert (c :: b) = (inertBefore c d && inert b) := by
            cases b with
            | nil =>
                rw [htail] at hrest
                rw [← (List.cons.inj hrest).1, inert, inert, Bool.and_true]
            | cons d' b => rw [← (List.cons.inj hrest).1, inert]
          rw [List.cons_append, hrest] at h
          rw [hinert, ink_cons]
          by_cases hc : inertBefore c d = true
          · rw [run_inertBefore [] w c d l hc, ← hrest] at h
            rcases ih b.length (Nat.lt_succ_self _) (w ++ [.lit c]) b h rfl with hb | hless
            · exact Or.inl (by rw [hc, hb]; rfl)
            · rw [wordInk_append] at hless
              have hpiece : Word.ink [.lit c] = ink [c] := wordInk_lits [c]
              rw [hpiece] at hless
              exact Or.inr (by omega)
          · right
            simp only [inertBefore, Bool.and_eq_true, Bool.not_eq_true', bne_iff_ne, ne_eq,
              Bool.and_eq_false_iff, beq_eq_false_iff_ne, Bool.or_eq_false_iff,
              Bool.not_eq_false', not_and_or, not_not, not_or] at hc
            rcases hc with ((hquote | htick) | ⟨hescape, htaken⟩) | ⟨hdollar, hname⟩
            · -- the quotation is closed
              rw [hquote, run_cons, ← hrest, run_append] at h
              have hscore := tail_score name _ ts h hline
              have hread : .operator '\n' ∉ (run (step ⟨.double, some w, []⟩ '"') b).done :=
                fun hmem => hline ((done_front_finish _ _ h).subset
                  ((done_front _ (echoTail name)).subset hmem))
              have hrun := score_run (step ⟨.double, some w, []⟩ '"') b hread
              have hstart : score (step ⟨.double, some w, []⟩ '"') = w.ink := Nat.zero_add _
              have hink : ink [c] = 1 := by
                rw [hquote]
                decide
              omega
            · rw [htick, run_cons, run_substitution _ rfl] at h
              cases h
            · -- the backslash is taken from before a character that it gives its meaning back
              have htaken' : isEscapable d = true ∨ d = '\n' :=
                htaken.imp_left Bool.eq_true_of_not_eq_false
              have hink : ink [c] = 1 := by
                rw [hescape]
                decide
              rw [hescape, run_cons, run_cons] at h
              have hstep : step (step ⟨.double, some w, []⟩ '\\') d
                  = stepDoubleEscape ⟨.doubleEscape, some w, []⟩ d := rfl
              rw [hstep, stepDoubleEscape] at h
              cases b with
              | nil =>
                  rw [List.nil_append, htail, List.cons.injEq] at hrest
                  rw [← hrest.1, ← hrest.2, if_pos (by decide), (unclosed_tail name _ rfl).1] at h
                  cases h
              | cons d' b =>
                  rw [List.cons_append, List.cons.injEq] at hrest
                  rw [hrest.1, ink_cons d b]
                  rw [← hrest.2] at h
                  have hshort : b.length < (c :: d' :: b).length := by
                    simp only [List.length_cons]
                    omega
                  by_cases hd : isEscapable d = true
                  · rw [if_pos hd] at h
                    have hless := hcount (w ++ [Piece.lit d]) b h hshort
                    have hpiece : Word.ink [.lit d] = ink [d] := wordInk_lits [d]
                    rw [wordInk_append, hpiece] at hless
                    omega
                  · rw [if_neg hd, if_pos (htaken'.resolve_left hd)] at h
                    have hless := hcount w b h hshort
                    omega
            · rw [hdollar] at h
              rcases run_expands [] w d l ts (Bool.eq_false_iff.mpr hname) h with
                ⟨n', v, rest, heq⟩
              have hfirst : Token.word (w ++ [.param n'] ++ v) ∈ ts := by
                rw [heq]
                exact List.mem_cons_self
              refine absurd ?_ (hlit _ hfirst n')
              exact List.mem_append_left v (List.mem_append_right w List.mem_cons_self)

end Counting

section Scripts

/-- The script up to the text. -/
def scriptHead (multiline : Bool) : List Char :=
  (if multiline then "set -e\n".toList else []) ++ echoHead

def headTokens (multiline : Bool) : List Token :=
  (if multiline then setE else []) ++ [.word (lits "echo".toList)]

/-- The script is read up to the double quote, and then what follows. -/
theorem tokens_head (multiline : Bool) (l : List Char) :
    tokens (scriptHead multiline ++ l)
      = (run ⟨.double, some [], []⟩ l).finish.map (headTokens multiline ++ ·) := by
  have hhead : run (start []) (scriptHead multiline)
      = (⟨.double, some [], []⟩ : Reading).after (headTokens multiline) := by
    cases multiline <;> decide
  rw [tokens, run_append, hhead, run_after, finish_after]

theorem shellScript_head (multiline : Bool) (ts : List Token) :
    shellScript (headTokens multiline ++ ts) = (redirected ts).map fun (args, name) =>
      (name, List.intercalate [' '] args ++ ['\n']) := by
  cases multiline with
  | true => rfl
  | false =>
      have hnot : ¬ setE <+: headTokens false ++ ts := by
        intro h
        rw [setE] at h
        have hword := (List.cons_prefix_cons.mp h).1
        exact absurd hword (by decide)
      rw [shellScript, if_neg hnot]
      rfl

/-- What a script writes that begins as it was meant to. -/
theorem script_writes_iff (multiline : Bool) (l name text : List Char) :
    (tokens (scriptHead multiline ++ l) >>= shellScript) = some (name, text)
      ↔ ∃ args, (run ⟨.double, some [], []⟩ l).finish = some (redirection args name)
        ∧ text = List.intercalate [' '] args ++ ['\n'] := by
  rw [tokens_head]
  constructor
  · intro h
    cases hts : (run ⟨.double, some [], []⟩ l).finish with
    | none =>
        rw [hts] at h
        cases h
    | some ts =>
        rw [hts] at h
        have hscript : shellScript (headTokens multiline ++ ts) = some (name, text) := h
        rw [shellScript_head, Option.map_eq_some_iff] at hscript
        rcases hscript with ⟨⟨args, n⟩, hargs, heq⟩
        rw [Prod.mk.injEq] at heq
        rcases heq with ⟨rfl, rfl⟩
        exact ⟨args, congrArg some (redirected_eq_some ts args n hargs), rfl⟩
  · rintro ⟨args, hts, rfl⟩
    rw [hts]
    change shellScript (headTokens multiline ++ redirection args name) = _
    rw [shellScript_head, redirected_redirection]
    rfl

theorem redirection_plain (args : List (List Char)) (name : List Char) :
    .operator '\n' ∉ redirection args name
      ∧ ∀ u, Token.word u ∈ redirection args name → ∀ n, .param n ∉ u := by
  constructor
  · intro h
    rcases List.mem_append.mp h with h | h
    · rcases List.mem_map.mp h with ⟨arg, _, harg⟩
      cases harg
    · simp at h
  · intro u hu n
    rcases List.mem_append.mp hu with hu | hu
    · rcases List.mem_map.mp hu with ⟨arg, _, harg⟩
      rw [← Token.word.inj harg]
      exact param_notMem_lits n arg
    · simp only [List.mem_cons, reduceCtorEq, Token.word.injEq, List.not_mem_nil, or_false,
        false_or] at hu
      rw [hu]
      exact param_notMem_lits n name

/-- `echo` has an argument: the word that is open. -/
theorem args_ne_nil (l : List Char) (args : List (List Char)) (name : List Char)
    (h : (run ⟨.double, some [], []⟩ l).finish = some (redirection args name)) : args ≠ [] := by
  rintro rfl
  rcases word_extends ⟨.double, some [], []⟩ [] rfl l _ h with ⟨v, rest, heq⟩
  cases heq

variable (name : RemoteName)

/-- What is written is the text, if it is inert, or less. -/
theorem written_le (b : List Char) (args : List (List Char))
    (h : (run ⟨.double, some [], []⟩ (b ++ echoTail name)).finish
      = some (redirection args name.text.toList)) :
    (inert b = true ∧ args = [b])
      ∨ ink (List.intercalate [' '] args ++ ['\n']) < ink b := by
  rcases redirection_plain args name.text.toList with ⟨hline, hlit⟩
  rcases double_or_less name [] b _ h hline hlit with hinert | hless
  · left
    refine ⟨hinert, ?_⟩
    rw [inert_finish name [] b hinert] at h
    have heq := Option.some.inj h
    cases args with
    | nil => cases heq
    | cons arg args =>
        rcases List.cons.inj heq with ⟨hword, hrest⟩
        rw [← lits_inj b arg (Token.word.inj hword)]
        cases args with
        | nil => rfl
        | cons arg' args => cases (List.cons.inj hrest).1
  · right
    rw [redirection_ink args _ (args_ne_nil _ args _ h)] at hless
    have hempty : Word.ink [] = 0 := rfl
    omega

/-- What a script writes is its text, if that is inert, or less. -/
theorem script_sent (multiline : Bool) (b text : List Char)
    (h : (tokens (scriptHead multiline ++ (b ++ echoTail name)) >>= shellScript)
      = some (name.text.toList, text)) :
    (text = b ++ ['\n'] ∧ inert b = true) ∨ ink text < ink b := by
  rcases (script_writes_iff multiline (b ++ echoTail name) name.text.toList text).mp h with
    ⟨args, hargs, rfl⟩
  rcases written_le name b args hargs with ⟨hinert, rfl⟩ | hless
  · rw [List.intercalate_singleton]
    exact Or.inl ⟨rfl, hinert⟩
  · exact Or.inr hless

theorem script_inert (multiline : Bool) (b : List Char) (h : inert b = true) :
    (tokens (scriptHead multiline ++ (b ++ echoTail name)) >>= shellScript)
      = some (name.text.toList, b ++ ['\n']) := by
  refine (script_writes_iff multiline (b ++ echoTail name) name.text.toList _).mpr
    ⟨[b], inert_finish name [] b h, ?_⟩
  rw [List.intercalate_singleton]

end Scripts

section Sudo

variable (name : RemoteName)

/-- A line with `sudo` writes what the script does that it gives to the shell. -/
theorem executed_sudo_iff (text : List Char) (p : List Char × List Char) :
    executed ("sudo -S $SHELL -c ".toList ++ ('\'' :: (text ++ ['\'']))) = some p
      ↔ ∃ l, (run (start []) ('\'' :: (text ++ ['\'']))).finish = some [.word (lits l)]
        ∧ (tokens l >>= shellScript) = some p := by
  have hsudo : run (start []) "sudo -S $SHELL -c ".toList = (start []).after (sudoTokens none) := by
    decide
  rw [executed, tokens, run_append, hsudo, run_after, finish_after]
  -- the words of `sudo` are no script of their own
  have hnone : ∀ ts, shellScript (sudoTokens none ++ ts) = none := by
    intro ts
    have hnot : ¬ setE <+: sudoTokens none ++ ts := by
      intro h
      rw [setE] at h
      have hword := (List.cons_prefix_cons.mp h).1
      exact absurd hword (by decide)
    rw [shellScript, if_neg hnot]
    rfl
  have hscript : ∀ ts, sudoScript (sudoTokens none ++ ts)
      = match ts with
        | [.word w] => literal w
        | _ => none := fun ts => rfl
  constructor
  · intro h
    cases hts : (run (start []) ('\'' :: (text ++ ['\'']))).finish with
    | none =>
        rw [hts] at h
        cases h
    | some ts =>
        rw [hts] at h
        have h' : (match sudoScript (sudoTokens none ++ ts) with
          | some text => tokens text >>= shellScript
          | none => shellScript (sudoTokens none ++ ts)) = some p := h
        cases hl : sudoScript (sudoTokens none ++ ts) with
        | none =>
            rw [hl, hnone] at h'
            cases h'
        | some l =>
            rw [hl] at h'
            refine ⟨l, ?_, h'⟩
            rw [hscript] at hl
            -- the shell that is called takes one word for its command
            rcases ts with _ | ⟨t, _ | ⟨t', ts⟩⟩
            · cases hl
            · cases t with
              | word w => rw [literal_eq_some w l hl]
              | operator c => cases hl
            · cases t with
              | word w => cases hl
              | operator c => cases hl
  · rintro ⟨l, hl, hp⟩
    rw [hl]
    change (match sudoScript (sudoTokens none ++ [.word (lits l)]) with
      | some text => tokens text >>= shellScript
      | none => shellScript (sudoTokens none ++ [.word (lits l)])) = some p
    rw [hscript]
    dsimp only
    rw [literal_lits]
    exact hp

/-- The end of the line within `sudo` is read in two modes only. -/
theorem outer_tail (s : Reading) (w : Word)
    (h : (run s (echoTail name ++ ['\''])).finish = some [.word w]) :
    (s.mode = .single ∧ s.done = [] ∧ w = s.word.getD [] ++ lits (echoTail name))
      ∨ (s.mode = .comment ∧ s.flush.done = [.word w]) := by
  have hread : run s (echoTail name ++ ['\''])
      = run (step s '"') (" > ".toList ++ name.text.toList ++ ['\'']) := rfl
  -- outside the quotes the output would go to a file here
  have hplain : ∀ r : Reading, r.mode = .plain →
      (run r (" > ".toList ++ name.text.toList ++ ['\''])).finish ≠ some [.word w] := by
    rintro ⟨m, x, d⟩ hmode hr
    change m = .plain at hmode
    rw [hmode, run_append, run_tail] at hr
    have hpre := (done_front _ ['\'']).trans (done_front_finish _ _ hr)
    have hmem : Token.operator '>' ∈ [Token.word w] :=
      hpre.subset (List.mem_append_right _ List.mem_cons_self)
    rw [List.mem_singleton] at hmem
    cases hmem
  cases hmode : s.mode with
  | plain =>
      have hstep : step s '"' = s.opened .double := by
        rw [step, hmode]
        rfl
      rw [hread, hstep, (unclosed_tail name _ rfl).2] at h
      cases h
  | escape =>
      have hstep : step s '"' = (s.push (.lit '"')).into .plain := by
        rw [step, hmode]
        rfl
      rw [hread, hstep] at h
      exact absurd h (hplain _ rfl)
  | single =>
      have hnone : '\'' ∉ echoTail name := by
        intro hmem
        rcases List.mem_cons.mp hmem with hc | hc
        · cases hc
        · exact (tail_inner name '\'' hc).2.2.2.2.1 rfl
      rcases s with ⟨m, x, d⟩
      change m = .single at hmode
      have hend : run ⟨.single, x, d⟩ (echoTail name)
          = ⟨.single, some (x.getD [] ++ lits (echoTail name)), d⟩ := by
        cases x with
        | some v => exact run_single d v _ hnone
        | none =>
            have hfirst : run ⟨.single, none, d⟩ (echoTail name)
                = run ⟨.single, some [.lit '"'], d⟩ (" > ".toList ++ name.text.toList) := rfl
            have hrest : '\'' ∉ " > ".toList ++ name.text.toList :=
              fun hmem => hnone (List.mem_cons_of_mem '"' hmem)
            rw [hfirst, run_single d _ _ hrest]
            rfl
      rw [hmode, run_append, hend] at h
      have hdone : d ++ [Token.word (x.getD [] ++ lits (echoTail name))] = [.word w] :=
        Option.some.inj h
      cases d with
      | nil => exact Or.inl ⟨rfl, rfl, (Token.word.inj (List.cons.inj hdone).1).symm⟩
      | cons t d =>
          have hempty := (List.cons.inj hdone).2
          exact absurd (List.append_eq_nil_iff.mp hempty).2 (List.cons_ne_nil _ _)
  | double =>
      have hstep : step s '"' = s.into .plain := by
        rw [step, hmode]
        rfl
      rw [hread, hstep] at h
      exact absurd h (hplain _ rfl)
  | doubleEscape =>
      have hstep : step s '"' = (s.push (.lit '"')).into .double := by
        rw [step, hmode]
        rfl
      rw [hread, hstep, (unclosed_tail name _ rfl).2] at h
      cases h
  | comment =>
      rcases run_comment s hmode (echoTail name ++ ['\'']) with hsame | hnewline
      · rw [hsame, Reading.finish, hmode] at h
        exact Or.inr ⟨rfl, Option.some.inj h⟩
      · have hmem := (done_front_finish _ _ h).subset hnewline
        rw [List.mem_singleton] at hmem
        cases hmem
  | param quoted name' =>
      have hstep : step s '"' = if quoted then stepDouble ((s.closeParam name').into .double) '"'
          else stepPlain ((s.closeParam name').into .plain) '"' := by
        rw [step, hmode]
        exact stepParam_ends quoted name' s '"' (by decide)
      rw [hread, hstep] at h
      cases quoted with
      | true => exact absurd h (hplain _ rfl)
      | false =>
          rw [if_neg Bool.false_ne_true] at h
          have hopened : stepPlain ((s.closeParam name').into .plain) '"'
              = ((s.closeParam name').into .plain).opened .double := rfl
          rw [hopened, (unclosed_tail name _ rfl).2] at h
          cases h
  | substitution =>
      rw [run_substitution s hmode, Reading.finish, hmode] at h
      cases h

/-- A single quote in the text is lost to the quotes around the script, and
    what is written is less than the text. -/
theorem requoted_less (multiline : Bool) (b l : List Char) (text : List Char)
    (hquote : '\'' ∈ b)
    (hread : (run (start [])
        ('\'' :: (scriptHead multiline ++ (b ++ echoTail name) ++ ['\'']))).finish
      = some [.word (lits l)])
    (hwrites : (tokens l >>= shellScript) = some (name.text.toList, text)) :
    ink text < ink b := by
  rcases List.eq_append_cons_of_mem hquote with ⟨b₁, b₂, rfl, hfirst⟩
  have hhead : '\'' ∉ scriptHead multiline ++ b₁ := by
    intro hmem
    rcases List.mem_append.mp hmem with hmem | hmem
    · revert hmem
      cases multiline <;> decide
    · exact hfirst hmem
  -- the reader leaves the quotes at the first quote of the text
  have hrun : run (start []) ('\'' :: (scriptHead multiline
        ++ (b₁ ++ '\'' :: b₂ ++ echoTail name) ++ ['\'']))
      = run (run ⟨.plain, some (lits (scriptHead multiline ++ b₁)), []⟩ b₂)
        (echoTail name ++ ['\'']) := by
    have hsplit : scriptHead multiline ++ (b₁ ++ '\'' :: b₂ ++ echoTail name) ++ ['\'']
        = (scriptHead multiline ++ b₁) ++ ('\'' :: (b₂ ++ (echoTail name ++ ['\'']))) := by
      simp only [List.append_assoc, List.cons_append]
    have hopen : run (start []) ('\'' :: (scriptHead multiline
          ++ (b₁ ++ '\'' :: b₂ ++ echoTail name) ++ ['\'']))
        = run ⟨.single, some [], []⟩ (scriptHead multiline
          ++ (b₁ ++ '\'' :: b₂ ++ echoTail name) ++ ['\'']) := rfl
    rw [hopen, hsplit, run_append, run_single [] [] _ hhead, run_cons, run_append]
    rfl
  rw [hrun] at hread
  have hdone : .operator '\n'
      ∉ (run ⟨.plain, some (lits (scriptHead multiline ++ b₁)), []⟩ b₂).done := by
    intro hmem
    have hin := ((done_front _ (echoTail name ++ ['\''])).trans
      (done_front_finish _ _ hread)).subset hmem
    rw [List.mem_singleton] at hin
    cases hin
  have hscore := score_run ⟨.plain, some (lits (scriptHead multiline ++ b₁)), []⟩ b₂ hdone
  have hbefore : score ⟨.plain, some (lits (scriptHead multiline ++ b₁)), []⟩
      = ink (scriptHead multiline ++ b₁) := by
    rw [← wordInk_lits]
    exact Nat.zero_add _
  have hholds : Holds [] (lits (scriptHead multiline ++ b₁))
      (run ⟨.plain, some (lits (scriptHead multiline ++ b₁)), []⟩ b₂) :=
    kept_run _ (kept_holds [] _) _ b₂ (Or.inl ⟨rfl, [], by rw [List.append_nil]⟩)
  have hinkquote : ink ['\''] = 1 := by decide
  rw [ink_append, ink_cons '\'' b₂]
  generalize run ⟨.plain, some (lits (scriptHead multiline ++ b₁)), []⟩ b₂ = s
    at hread hscore hholds
  rw [hbefore, ink_append] at hscore
  rcases outer_tail name s (lits l) hread with ⟨hmode, hnil, hword⟩ | ⟨hmode, hflush⟩
  · -- the rest of the line is in single quotes again
    rcases hholds with ⟨_, v, hv⟩ | ⟨v, rest, hv⟩
    · rw [hv, Option.getD_some] at hword
      rcases lits_eq_append l _ _ hword with ⟨l₁, l₂, rfl, hl₁, hl₂⟩
      rcases lits_eq_append l₁ _ _ hl₁ with ⟨a, y, rfl, ha, hy⟩
      rw [lits_inj _ _ ha, lits_inj _ _ hl₂] at hwrites
      rw [score, hnil, hv, hmode, ← hy, Option.getD_some, wordInk_append, wordInk_lits,
        wordInk_lits, ink_append, pending_single, List.map_nil, List.sum_nil] at hscore
      rw [List.append_assoc, List.append_assoc, ← List.append_assoc b₁] at hwrites
      rcases (script_writes_iff multiline _ _ text).mp hwrites with ⟨args, hargs, rfl⟩
      have hrest : ink (b₁ ++ y) = ink b₁ + ink y := ink_append b₁ y
      rcases written_le name (b₁ ++ y) args hargs with ⟨_, rfl⟩ | hless
      · have hline : ink ['\n'] = 0 := by decide
        rw [List.intercalate_singleton, ink_append]
        omega
      · omega
    · rw [hnil, List.nil_append] at hv
      cases hv
  · -- the rest of the line is a comment, and the file is named before it
    have hprefix : ∃ v, lits l = lits (scriptHead multiline ++ b₁) ++ v
        ∧ ink l + 1 ≤ score s := by
      rcases s with ⟨m, x, d⟩
      change m = .comment at hmode
      rw [hmode] at hflush ⊢
      cases x with
      | none =>
          have hd : d = [.word (lits l)] := hflush
          rcases hholds with ⟨_, v, hv⟩ | ⟨v, rest, hv⟩
          · cases hv
          · change d = _ at hv
            rw [hd] at hv
            refine ⟨v, Token.word.inj (List.cons.inj hv).1, ?_⟩
            rw [score, hd]
            simp only [List.map_cons, List.map_nil, List.sum_cons, List.sum_nil, Token.ink,
              wordInk_lits, Option.getD_none, pending_comment]
            omega
      | some u =>
          have hd : d ++ [.word u] = [.word (lits l)] := hflush
          cases d with
          | cons t d =>
              exact absurd (List.append_eq_nil_iff.mp (List.cons.inj hd).2).2
                (List.cons_ne_nil _ _)
          | nil =>
              have hu : u = lits l := Token.word.inj (List.cons.inj hd).1
              rcases hholds with ⟨_, v, hv⟩ | ⟨v, rest, hv⟩
              · refine ⟨v, hu ▸ Option.some.inj hv, ?_⟩
                rw [score, hu]
                simp only [List.map_nil, List.sum_nil, wordInk_lits, Option.getD_some,
                  pending_comment]
                omega
              · cases hv
    rcases hprefix with ⟨v, hv, hcount⟩
    rcases lits_eq_append l _ _ hv with ⟨a, y, rfl, ha, hy⟩
    rw [lits_inj _ _ ha, List.append_assoc] at hwrites
    rw [lits_inj _ _ ha, ink_append, ink_append] at hcount
    rcases (script_writes_iff multiline _ _ text).mp hwrites with ⟨args, hargs, rfl⟩
    have hplain := (redirection_plain args name.text.toList).1
    have hfinish := score_finish _ _ hargs
    have hinner := score_run ⟨.double, some [], []⟩ (b₁ ++ y)
      (fun hmem => hplain ((done_front_finish _ _ hargs).subset hmem))
    have hstart : score ⟨.double, some [], []⟩ = 1 := rfl
    rw [redirection_ink args _ (args_ne_nil _ args _ hargs)] at hfinish
    rw [hstart, ink_append] at hinner
    omega

end Sudo

/-- Two texts are the same up to one final newline. -/
def UpToNewline (a b : List Char) : Prop :=
  a = b ∨ a = b ++ ['\n'] ∨ b = a ++ ['\n']

section Arrives

theorem ink_upToNewline (a b : List Char) (h : UpToNewline a b) : ink a = ink b := by
  have hline : ink ['\n'] = 0 := by decide
  rcases h with rfl | rfl | rfl
  · rfl
  · rw [ink_append, hline, Nat.add_zero]
  · rw [ink_append, hline, Nat.add_zero]

/-- Reading the ends of lines as newlines adds none but newlines. -/
theorem ink_universalNewlines (cs : List Char) : ink (universalNewlines cs) ≤ ink cs := by
  have hline : ink ['\n'] = 0 := by decide
  fun_induction universalNewlines cs with
  | case1 => exact Nat.le_refl _
  | case2 cs ih =>
      rw [ink_cons, ink_cons '\r', ink_cons '\n' cs]
      omega
  | case3 c cs hpair ih =>
      rw [ink_cons, ink_cons c]
      split_ifs
      · omega
      · omega

variable (hostname : String) (conn : String → Nat → Except ScpExn RemoteResult) (raw : String)
  (name : RemoteName) (withSudo : Bool)

/-- The text that is sent: what reading and cleaning leave of the file. -/
def sentText : List Char :=
  cleanBody (universalNewlines raw.toList)

/-- The command, cleaned. -/
def sentCmd : String :=
  cleanCmd (.text (echoText (String.ofList (universalNewlines raw.toList)) name))

theorem sendFile_runs :
    (sendFile hostname conn (.ok raw) name withSudo).trace
      = [⟨remoteLine (sentCmd raw name) withSudo false none, 300⟩] := by
  have hruns := runClient_runs hostname conn (sentCmd raw name) 300 withSudo false none
  rw [sendFile]
  change (runClient hostname conn (sentCmd raw name) 300 withSudo false none
    >>= fun _ => pure ()).trace = _
  cases hresult : (runClient hostname conn (sentCmd raw name) 300 withSudo false none).result with
  | error e => rw [bind_error _ _ e hresult, hruns]
  | ok a => rw [bind_ok _ _ a hresult, hruns, trace_pure, List.append_nil]

theorem remoteLine_plain (cmd : String) : remoteLine cmd false false none = script cmd false := rfl

/-- What is put around the text has no single quote. -/
theorem quote_mem_sent (multiline : Bool) (b : List Char)
    (h : '\'' ∈ scriptHead multiline ++ (b ++ echoTail name)) : '\'' ∈ b := by
  rcases List.mem_append.mp h with hhead | hrest
  · have hnone : ∀ multiline, '\'' ∉ scriptHead multiline := by decide
    exact absurd hhead (hnone multiline)
  · rcases List.mem_append.mp hrest with hb | htail
    · exact hb
    · rcases List.mem_cons.mp htail with hc | hc
      · cases hc
      · exact absurd rfl (tail_inner name '\'' hc).2.2.2.2.1

theorem script_toList :
    (script (sentCmd raw name) false).toList
      = scriptHead (isMultilineCmd (sentCmd raw name)) ++ (sentText raw ++ echoTail name) := by
  rw [script, scriptHead, Bool.not_false, Bool.true_and]
  by_cases hmulti : isMultilineCmd (sentCmd raw name) = true
  · rw [if_pos hmulti, if_pos hmulti, String.toList_append, sentCmd, cleanCmd_echo, sentText,
      List.append_assoc]
  · rw [if_neg hmulti, if_neg hmulti, sentCmd, cleanCmd_echo, sentText, List.nil_append]

/-- Without `sudo` the line is the script. -/
theorem executed_script (multiline : Bool) (l : List Char) (p : List Char × List Char) :
    executed (scriptHead multiline ++ l) = some p
      ↔ (tokens (scriptHead multiline ++ l) >>= shellScript) = some p := by
  have hnot : ∀ ts, sudoScript (headTokens multiline ++ ts) = none := by
    intro ts
    rw [sudoScript, if_neg]
    intro h
    cases multiline with
    | true =>
        have hfirst : some (Token.word (lits "set".toList)) = some (.word (lits "sudo".toList)) :=
          congrArg List.head? h
        exact absurd hfirst (by decide)
    | false =>
        have hfirst : some (Token.word (lits "echo".toList)) = some (.word (lits "sudo".toList)) :=
          congrArg List.head? h
        exact absurd hfirst (by decide)
  rw [executed, tokens_head]
  cases (run ⟨.double, some [], []⟩ l).finish with
  | none => exact Iff.rfl
  | some ts =>
      change (match sudoScript (headTokens multiline ++ ts) with
        | some text => tokens text >>= shellScript
        | none => shellScript (headTokens multiline ++ ts)) = some p ↔ _
      rw [hnot]
      exact Iff.rfl

/-- What is written is less than what is sent, or it is sent as it is. -/
theorem executed_line (text : List Char)
    (h : executed (remoteLine (sentCmd raw name) withSudo false none).toList
      = some (name.text.toList, text)) :
    (text = sentText raw ++ ['\n'] ∧ inert (sentText raw) = true
        ∧ (withSudo = true → '\'' ∉ sentText raw))
      ∨ ink text < ink (sentText raw) := by
  cases withSudo with
  | false =>
      rw [remoteLine_plain, script_toList, executed_script] at h
      rcases script_sent name _ _ text h with ⟨htext, hinert⟩ | hless
      · exact Or.inl ⟨htext, hinert, fun hsudo => by cases hsudo⟩
      · exact Or.inr hless
  | true =>
      rw [remoteLine_root _ _ _ rfl, executed_sudo_iff, script_toList] at h
      rcases h with ⟨l, hread, hl⟩
      by_cases hquote : '\'' ∈ sentText raw
      · exact Or.inr (requoted_less name _ _ l text hquote hread hl)
      · have hnone : '\'' ∉ scriptHead (isMultilineCmd (sentCmd raw name))
            ++ (sentText raw ++ echoTail name) :=
          fun hmem => hquote (quote_mem_sent name _ _ hmem)
        have hquoted := (quoted_iff [] _).mpr hnone
        rw [List.nil_append, hread] at hquoted
        rw [lits_inj _ _ (Token.word.inj (List.cons.inj (Option.some.inj hquoted)).1)] at hl
        rcases script_sent name _ _ text hl with ⟨htext, hinert⟩ | hless
        · exact Or.inl ⟨htext, hinert, fun _ => hquote⟩
        · exact Or.inr hless

/-- Inert text is written as it is sent. -/
theorem executed_inert (hinert : inert (sentText raw) = true)
    (hsudo : withSudo = true → '\'' ∉ sentText raw) :
    executed (remoteLine (sentCmd raw name) withSudo false none).toList
      = some (name.text.toList, sentText raw ++ ['\n']) := by
  cases withSudo with
  | false =>
      rw [remoteLine_plain, script_toList, executed_script]
      exact script_inert name _ _ hinert
  | true =>
      rw [remoteLine_root _ _ _ rfl, executed_sudo_iff, script_toList]
      exact ⟨_, (quoted_iff [] _).mpr fun hmem => hsudo rfl (quote_mem_sent name _ _ hmem),
        script_inert name _ _ hinert⟩

/-- A file arrives, up to one final newline, exactly when cleaning leaves it
    as it is but for the newlines at its end, what is sent is inert between
    double quotes, and with `sudo` there is no single quote in it. -/
theorem arrives_iff :
    (∃ line, (sendFile hostname conn (.ok raw) name withSudo).trace = [⟨line, 300⟩]
        ∧ ∃ text, executed line.toList = some (name.text.toList, text)
          ∧ UpToNewline text raw.toList)
      ↔ UpToNewline (sentText raw ++ ['\n']) raw.toList ∧ inert (sentText raw) = true
        ∧ (withSudo = true → '\'' ∉ sentText raw) := by
  rw [sendFile_runs]
  constructor
  · rintro ⟨line, htrace, text, htext, hsame⟩
    rw [← (RanLine.mk.inj (List.cons.inj htrace).1).1] at htext
    rcases executed_line raw name withSudo text htext with ⟨rfl, hinert, hsudo⟩ | hless
    · exact ⟨hsame, hinert, hsudo⟩
    · -- nothing is made up for on the way
      have hink := ink_upToNewline _ _ hsame
      have hclean := ink_cleanBody (universalNewlines raw.toList)
      have hnewlines := ink_universalNewlines raw.toList
      rw [sentText] at hless
      omega
  · rintro ⟨hsame, hinert, hsudo⟩
    exact ⟨_, rfl, _, executed_inert raw name withSudo hinert hsudo, hsame⟩

theorem clientCnf_nonempty : "/etc/my.cnf.d/client.cnf".toList ≠ [] := by
  decide

theorem clientCnf_portable : ∀ c ∈ "/etc/my.cnf.d/client.cnf".toList, isPortable c = true := by
  have hall : "/etc/my.cnf.d/client.cnf".toList.all isPortable = true := by decide
  exact List.all_eq_true.mp hall

def clientCnf : RemoteName :=
  ⟨"/etc/my.cnf.d/client.cnf", clientCnf_nonempty, clientCnf_portable⟩

/-- A file with an empty line arrives without it. -/
theorem empty_line_lost :
    ¬ ∀ (hostname : String) (conn : String → Nat → Except ScpExn RemoteResult) (raw : String)
      (name : RemoteName) (withSudo : Bool),
      ∃ line, (sendFile hostname conn (.ok raw) name withSudo).trace = [⟨line, 300⟩]
        ∧ ∃ text, executed line.toList = some (name.text.toList, text)
          ∧ UpToNewline text raw.toList := by
  intro h
  rcases h "driver0" (fun _ _ => .ok ⟨0, "", ""⟩) "[client]\n\nssl=on\n" clientCnf true with
    ⟨line, htrace, text, htext, hsame⟩
  rw [sendFile_runs] at htrace
  rw [← (RanLine.mk.inj (List.cons.inj htrace).1).1] at htext
  have hsent : sentText "[client]\n\nssl=on\n" = "[client]\nssl=on\n".toList := by decide
  rcases executed_line _ clientCnf true text htext with ⟨rfl, _, _⟩ | hless
  · rw [hsent] at hsame
    exact absurd hsame (by unfold UpToNewline; decide)
  · have hink := ink_upToNewline _ _ hsame
    rw [hsent, hink] at hless
    exact absurd hless (by decide)

end Arrives

end Xbench
