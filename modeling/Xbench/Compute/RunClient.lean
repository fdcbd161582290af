import Xbench.Lib.Shell
import Xbench.Lib.Text
import Xbench.Compute.Transfers

/-!
# Running a Command Remotely

`_run_client` opens a connection and runs one line on it. With a user or with
`sudo` the line is not the command but a call of `sudo` that gives the command
to a shell, between single quotes; a command of several lines is preceded by
`set -e` unless errors are ignored.

The quotes are put around whatever the command is. `given_iff` says when the
remote shell reads the command back: when there is no single quote in it, and
the user name, which is not quoted at all, is a word.

That the user name has to be one is the long part. Whatever it holds is read
before the rest of the line, and may open quotes that close in the command.
`reads_of_given` goes through the modes the name can leave the reader in; in
each but two the words that come out are not those that were meant.

## Main definitions

* `RemoteResult`: What the connection gives back.
* `script`: The command with its `set -e`.
* `remoteLine`: The line that is run.
* `runClient`: Running a command.
* `sudoTokens`: The words before the command.
* `ReadsAsItself`: A text that is one word.

## Theorems

* `runClient_runs`: One line is run.
* `given_iff`: When the remote shell gets the command.
-/

namespace Xbench

open Effect Shell

/-- What the connection gives back. -/
structure RemoteResult where
  exitStatus : Int
  stdout : String
  stderr : String

/-- What `_run_client` returns. -/
structure HostOutput where
  hostname : String
  stdout : String
deriving DecidableEq

/-- A line that is run, with the time it may take. -/
structure RanLine where
  line : String
  timeout : Nat
deriving DecidableEq

/-- `len(cmd.splitlines()) > 1`. -/
def isMultilineCmd (cmd : String) : Bool :=
  (Text.splitlines cmd.toList).length > 1

/-- The command, preceded by `set -e` where one of its lines may fail. -/
def script (cmd : String) (ignoreErrors : Bool) : String :=
  if !ignoreErrors && isMultilineCmd cmd then "set -e\n" ++ cmd else cmd

/-- The user a command is run as, if there is one: the empty name is none. -/
def asUser : Option String → Option String
  | some user => if user = "" then none else some user
  | none => none

/-- The line that is run. A user always requires `sudo`. -/
def remoteLine (cmd : String) (withSudo ignoreErrors : Bool) (user : Option String) : String :=
  match asUser user with
  | some user => "sudo -i -u " ++ user ++ " -S $SHELL -c '" ++ script cmd ignoreErrors ++ "'"
  | none =>
      if withSudo then "sudo -S $SHELL -c '" ++ script cmd ignoreErrors ++ "'"
      else script cmd ignoreErrors

/-- `_run_client`, with what the connection makes of a line. -/
def runClient (hostname : String) (conn : String → Nat → Except ScpExn RemoteResult) (cmd : String)
    (timeout : Nat) (withSudo ignoreErrors : Bool) (user : Option String) :
    Effect RanLine ScpExn HostOutput := do
  let c := remoteLine cmd withSudo ignoreErrors user
  tell ⟨c, timeout⟩
  let result ← ofExcept (conn c timeout)
  if result.exitStatus > 0 && !ignoreErrors then
    raise (.sshClient ("Command " ++ c ++ " failed with " ++ toString result.exitStatus ++ ": "
      ++ result.stderr ++ ": " ++ result.stdout))
  else
    pure ⟨hostname, Text.join '\n'
      ((Text.splitlines result.stdout.toList).map String.ofList)⟩

/-- One line is run, whatever comes of it. -/
theorem runClient_runs (hostname : String) (conn : String → Nat → Except ScpExn RemoteResult)
    (cmd : String) (timeout : Nat) (withSudo ignoreErrors : Bool) (user : Option String) :
    (runClient hostname conn cmd timeout withSudo ignoreErrors user).trace
      = [⟨remoteLine cmd withSudo ignoreErrors user, timeout⟩] := by
  rw [runClient]
  simp only [tell_bind]
  cases hconn : conn (remoteLine cmd withSudo ignoreErrors user) timeout with
  | error e => rfl
  | ok result =>
      rw [bind_ok _ _ result rfl, trace_ofExcept, List.nil_append]
      split_ifs
      · rfl
      · rfl

/-- The words before the command. -/
def sudoTokens (user : Option String) : List Token :=
  match asUser user with
  | some user => [.word (lits "sudo".toList), .word (lits "-i".toList), .word (lits "-u".toList),
      .word (lits user.toList), .word (lits "-S".toList), .word [.param "SHELL".toList],
      .word (lits "-c".toList)]
  | none => [.word (lits "sudo".toList), .word (lits "-S".toList), .word [.param "SHELL".toList],
      .word (lits "-c".toList)]

/-- A text that is one word, each of its characters standing for itself. -/
def ReadsAsItself (text : String) : Prop :=
  tokens text.toList = some [.word (lits text.toList)]

section User

/-- The rest of the flags, read after a blank. -/
theorem run_flags (d : List Token) :
    run (start d) "-S $SHELL -c ".toList
      = start (d ++ [.word (lits "-S".toList), .word [.param "SHELL".toList],
        .word (lits "-c".toList)]) := by
  have hstart : start d = (start []).after d :=
    congrArg (Reading.mk .plain none) (List.append_nil d).symm
  have hflags : run (start []) "-S $SHELL -c ".toList
      = start [.word (lits "-S".toList), .word [.param "SHELL".toList],
        .word (lits "-c".toList)] := by
    decide
  rw [hstart, run_after, hflags]
  rfl

/-- Between double quotes the flags leave a parameter in the word. -/
theorem run_flags_double (x : Option Word) :
    ∃ v, run ⟨.double, x, []⟩ "-S $SHELL ".toList = ⟨.double, some v, []⟩
      ∧ .param "SHELL".toList ∈ v := by
  cases x with
  | none => exact ⟨_, rfl, by decide⟩
  | some w =>
      refine ⟨_, rfl, ?_⟩
      exact List.mem_append_left _ (List.mem_append_right _ List.mem_cons_self)

/-- Between single quotes they are part of the word, which the quote before
    the command ends. -/
theorem run_flags_single (x : Option Word) :
    run ⟨.single, x, []⟩ (" -S $SHELL -c ".toList ++ ['\''])
      = ⟨.plain, some (x.getD [] ++ lits " -S $SHELL -c ".toList), []⟩ := by
  cases x with
  | none => decide
  | some w =>
      rw [run_append, run_single [] w " -S $SHELL -c ".toList (by decide)]
      rfl

/-- After a backslash the first two flags are one word. -/
theorem run_flags_escape (x : Option Word) :
    ∃ v, run ⟨.escape, x, []⟩ " -S $SHELL ".toList
      = start [.word v, .word [.param "SHELL".toList]] := by
  cases x with
  | none => exact ⟨_, rfl⟩
  | some w => exact ⟨_, rfl⟩

variable (user c : List Char)

/-- What is to be read after `sudo -i -u`. -/
def userTokens : List Token :=
  [.word (lits user), .word (lits "-S".toList), .word [.param "SHELL".toList],
    .word (lits "-c".toList), .word (lits c)]

/-- The words that are finished before the command are those that were meant. -/
theorem flags_front (e : List Token) (l : List Char)
    (h : (run (start e) ("-S $SHELL -c ".toList ++ l)).finish = some (userTokens user c)) :
    e = [.word (lits user)] := by
  rw [run_append, run_flags] at h
  have hpre := (done_front _ l).trans (done_front_finish _ _ h)
  simp only [start, userTokens] at hpre
  -- a token too few or too many, and the parameter stands where a flag should
  rcases e with _ | ⟨t, _ | ⟨t', e⟩⟩
  · simp only [List.nil_append, List.cons_prefix_cons, Token.word.injEq] at hpre
    exact absurd hpre.2.1 (by decide)
  · rw [List.cons_append, List.cons_prefix_cons] at hpre
    rw [hpre.1]
  · simp only [List.cons_append, List.cons_prefix_cons] at hpre
    rcases e with _ | ⟨t'', e⟩
    · simp only [List.nil_append, List.cons_prefix_cons, Token.word.injEq] at hpre
      exact absurd hpre.2.2.1 (by decide)
    · have hlength := hpre.2.2.length_le
      simp only [List.cons_append, List.length_cons, List.length_append, List.length_nil] at hlength
      omega

/-- A line that is read as it was meant has a user name that is a word. -/
theorem reads_of_given
    (h : (run (start []) (user ++ (" -S $SHELL -c '".toList ++ (c ++ ['\''])))).finish
      = some (userTokens user c)) :
    tokens user = some [.word (lits user)] := by
  have hsplit : " -S $SHELL -c '".toList = ' ' :: ("-S $SHELL -c ".toList ++ ['\'']) := by decide
  have hsplit' : " -S $SHELL -c '".toList = " -S $SHELL -c ".toList ++ ['\''] := by decide
  have hended : ∀ s : Reading, s.finish = some (userTokens user c) → .operator '\n' ∉ s.done := by
    intro s hs hmem
    have hin := (done_front_finish _ _ hs).subset hmem
    simp only [userTokens, List.mem_cons, reduceCtorEq, List.not_mem_nil, or_self] at hin
  have hline : ∀ s l, (run s l).finish = some (userTokens user c) → .operator '\n' ∉ s.done :=
    fun s l hrest hmem => hended _ hrest ((done_front s l).subset hmem)
  rw [run_append] at h
  have hscore : score (run (start []) user) ≤ ink user :=
    (score_run (start []) user (hline _ _ h)).trans (Nat.zero_add _).le
  rcases hread : run (start []) user with ⟨m, x, e⟩
  rw [hread] at h hscore
  -- no token is finished within the name: it would count more than the name
  have hnone : e = [] := by
    cases e with
    | nil => rfl
    | cons t e =>
        have hpre := (done_front ⟨m, x, t :: e⟩ _).trans (done_front_finish _ _ h)
        rw [userTokens, List.cons_prefix_cons] at hpre
        rw [hpre.1, score, List.map_cons, List.sum_cons, Token.ink, wordInk_lits] at hscore
        omega
  subst hnone
  -- within double quotes the parameter is a piece of the first word
  have hdouble : ∀ y : Option Word, (run ⟨.double, y, []⟩
      ("-S $SHELL -c ".toList ++ ['\''] ++ (c ++ ['\'']))).finish ≠ some (userTokens user c) := by
    intro y hy
    have hcut : "-S $SHELL -c ".toList = "-S $SHELL ".toList ++ "-c ".toList := by decide
    rcases run_flags_double y with ⟨v, hv, hparam⟩
    rw [hcut, List.append_assoc, List.append_assoc, run_append, hv] at hy
    rcases word_extends _ v rfl _ _ hy with ⟨v', rest, heq⟩
    have hfirst : lits user = v ++ v' := Token.word.inj (List.cons.inj heq).1
    exact param_notMem_lits _ user (hfirst ▸ List.mem_append_left v' hparam)
  cases m with
  | plain =>
      rw [hsplit, List.cons_append, run_cons, List.append_assoc] at h
      cases x with
      | none =>
          have hempty := flags_front user c [] _ h
          cases hempty
      | some w =>
          rw [tokens, hread]
          exact congrArg some (flags_front user c [.word w] _ h)
  | escape =>
      have hcut : " -S $SHELL -c '".toList = " -S $SHELL ".toList ++ "-c '".toList := by decide
      rcases run_flags_escape x with ⟨v, hv⟩
      rw [hcut, List.append_assoc, run_append, hv] at h
      have hpre := (done_front _ _).trans (done_front_finish _ _ h)
      simp only [start, userTokens, List.cons_prefix_cons, Token.word.injEq] at hpre
      exact absurd hpre.2.1 (by decide)
  | single =>
      -- the flags are in the name, and what is left is too short for them
      rw [hsplit', run_append, run_flags_single] at h
      rcases word_extends _ _ rfl _ _ h with ⟨v, rest, heq⟩
      have hfirst : lits user = x.getD [] ++ lits " -S $SHELL -c ".toList ++ v :=
        Token.word.inj (List.cons.inj heq).1
      have hinked := congrArg Word.ink hfirst
      rw [wordInk_append, wordInk_append, wordInk_lits, wordInk_lits] at hinked
      rw [run_append] at h
      have hclosing := closing_score _ _ h
      have hrest := score_run _ c (hline _ ['\''] h)
      have hflags : ink " -S $SHELL -c ".toList = 14 := by decide
      have hbefore : score ⟨.plain, some (x.getD [] ++ lits " -S $SHELL -c ".toList), []⟩
          = (x.getD []).ink + 14 := by
        rw [← hflags, ← wordInk_lits, ← wordInk_append]
        exact Nat.zero_add _
      have htokens : ((userTokens user c).map Token.ink).sum = ink user + ink c + 10 := by
        simp only [userTokens, List.map_cons, List.map_nil, List.sum_cons, List.sum_nil, Token.ink,
          wordInk_lits]
        have hS : ink "-S".toList = 2 := by decide
        have hc : ink "-c".toList = 2 := by decide
        have hshell : Word.ink [.param "SHELL".toList] = 1 := rfl
        omega
      omega
  | double =>
      rw [hsplit, List.cons_append, run_cons] at h
      exact absurd h (hdouble _)
  | doubleEscape =>
      rw [hsplit, List.cons_append, run_cons] at h
      exact absurd h (hdouble _)
  | comment =>
      rcases run_comment ⟨.comment, x, []⟩ rfl (" -S $SHELL -c '".toList ++ (c ++ ['\'']))
        with hsame | hnewline
      · rw [hsame] at h
        have hlength := congrArg List.length (Option.some.inj h)
        cases x with
        | none => cases hlength
        | some w => cases hlength
      · exact absurd hnewline (hended _ h)
  | param quoted name =>
      rw [hsplit, List.cons_append, run_cons] at h
      have hstep : step ⟨.param quoted name, x, []⟩ ' '
          = if quoted then stepDouble ((Reading.closeParam ⟨.param quoted name, x, []⟩ name).into
              .double) ' '
            else
              stepPlain ((Reading.closeParam ⟨.param quoted name, x, []⟩ name).into .plain) ' ' :=
        stepParam_ends quoted name _ ' ' (by decide)
      rw [hstep, Reading.closeParam] at h
      cases quoted with
      | true =>
          rw [if_pos rfl] at h
          split_ifs at h
          · exact absurd h (hdouble _)
          · exact absurd h (hdouble _)
      | false =>
          have hflush : ∀ p : Piece, stepPlain
              ((Reading.push ⟨.param false name, x, []⟩ p).into .plain) ' '
                = start [.word (x.getD [] ++ [p])] := fun _ => rfl
          rw [if_neg Bool.false_ne_true, List.append_assoc] at h
          rw [tokens, hread]
          change some (Reading.closeParam ⟨.param false name, x, []⟩ name).flush.done = _
          rw [Reading.closeParam]
          split_ifs at h ⊢
          · rw [hflush] at h
            exact congrArg some (flags_front user c _ _ h)
          · rw [hflush] at h
            exact congrArg some (flags_front user c _ _ h)
  | substitution =>
      rw [run_substitution _ rfl] at h
      cases h

end User

section Given

variable (cmd : String) (withSudo ignoreErrors : Bool) (user : Option String)

/-- A command is given to a shell through `sudo`. -/
def Privileged (withSudo : Bool) (user : Option String) : Prop :=
  withSudo = true ∨ asUser user ≠ none

/-- The line that is run is read as the call of a shell with one argument,
    which is the command. -/
def Given (cmd : String) (withSudo ignoreErrors : Bool) (user : Option String) : Prop :=
  tokens (remoteLine cmd withSudo ignoreErrors user).toList
    = some (sudoTokens user ++ [.word (lits (script cmd ignoreErrors).toList)])

theorem quote_mem_script :
    '\'' ∈ (script cmd ignoreErrors).toList ↔ '\'' ∈ cmd.toList := by
  rw [script]
  split_ifs
  · rw [String.toList_append, List.mem_append]
    refine ⟨fun h => ?_, Or.inr⟩
    rcases h with hset | hcmd
    · exact absurd hset (by decide)
    · exact hcmd
  · exact Iff.rfl

/-- The line with a user. -/
theorem given_user_iff (name : String) (h : asUser user = some name) :
    Given cmd withSudo ignoreErrors user ↔ ReadsAsItself name ∧ '\'' ∉ cmd.toList := by
  have hline : (remoteLine cmd withSudo ignoreErrors user).toList
      = "sudo -i -u ".toList ++ (name.toList ++ (" -S $SHELL -c '".toList
        ++ ((script cmd ignoreErrors).toList ++ ['\'']))) := by
    rw [remoteLine, h]
    simp only [String.toList_append, List.append_assoc]
    rfl
  have hsudo : run (start []) "sudo -i -u ".toList
      = start [.word (lits "sudo".toList), .word (lits "-i".toList), .word (lits "-u".toList)] := by
    decide
  have hstart : ∀ d, start d = (start []).after d :=
    fun d => congrArg (Reading.mk .plain none) (List.append_nil d).symm
  have hmeant : sudoTokens user ++ [.word (lits (script cmd ignoreErrors).toList)]
      = [.word (lits "sudo".toList), .word (lits "-i".toList), .word (lits "-u".toList)]
        ++ userTokens name.toList (script cmd ignoreErrors).toList := by
    rw [sudoTokens, h]
    rfl
  -- what is read after `sudo -i -u` is read for itself
  have hafter : Given cmd withSudo ignoreErrors user
      ↔ (run (start []) (name.toList ++ (" -S $SHELL -c '".toList
          ++ ((script cmd ignoreErrors).toList ++ ['\''])))).finish
        = some (userTokens name.toList (script cmd ignoreErrors).toList) := by
    rw [Given, hmeant, tokens, hline, run_append, hsudo, hstart, run_after, finish_after,
      Option.map_eq_some_iff]
    constructor
    · rintro ⟨ts, hts, heq⟩
      rw [hts, List.append_cancel_left heq]
    · exact fun hts => ⟨_, hts, rfl⟩
  have hsplit : " -S $SHELL -c '".toList = ' ' :: ("-S $SHELL -c ".toList ++ ['\'']) := by decide
  -- with the name read, the quoted command is left
  have hread : ReadsAsItself name → ((run (start []) (name.toList ++ (" -S $SHELL -c '".toList
        ++ ((script cmd ignoreErrors).toList ++ ['\''])))).finish
      = some (userTokens name.toList (script cmd ignoreErrors).toList)
      ↔ '\'' ∉ (script cmd ignoreErrors).toList) := by
    intro hname
    rw [run_append, hsplit, List.cons_append, run_cons, reads_then_blank _ hname, List.append_assoc,
      run_append, run_flags]
    exact quoted_iff _ _
  rw [hafter, ← quote_mem_script cmd ignoreErrors]
  constructor
  · intro hgiven
    have hname : ReadsAsItself name := reads_of_given _ _ hgiven
    exact ⟨hname, (hread hname).mp hgiven⟩
  · rintro ⟨hname, hquote⟩
    exact (hread hname).mpr hquote

theorem remoteLine_root (h : asUser user = none) :
    (remoteLine cmd true ignoreErrors user).toList
      = "sudo -S $SHELL -c ".toList ++ ('\'' :: ((script cmd ignoreErrors).toList ++ ['\''])) := by
  have hquoted : "sudo -S $SHELL -c '".toList = "sudo -S $SHELL -c ".toList ++ ['\''] := by decide
  have hquote : "'".toList = ['\''] := by decide
  unfold remoteLine
  rw [h]
  dsimp only
  rw [if_pos rfl, String.toList_append, String.toList_append, hquoted, hquote, List.append_assoc,
    List.append_assoc, List.singleton_append]

/-- The line without one. -/
theorem given_root_iff (h : asUser user = none) :
    Given cmd true ignoreErrors user ↔ '\'' ∉ cmd.toList := by
  have hsudo : run (start []) "sudo -S $SHELL -c ".toList
      = start [.word (lits "sudo".toList), .word (lits "-S".toList),
        .word [.param "SHELL".toList], .word (lits "-c".toList)] := by
    decide
  rw [Given, tokens, remoteLine_root cmd ignoreErrors user h, run_append, hsudo, sudoTokens, h,
    ← quote_mem_script cmd ignoreErrors]
  exact quoted_iff _ _

/-- The remote shell gets the command it was given: one line is run, and it is
    read as the call of a shell with the command, exactly when there is no
    single quote in the command and the user name is a word. -/
theorem given_iff (hostname : String) (conn : String → Nat → Except ScpExn RemoteResult)
    (timeout : Nat) (h : Privileged withSudo user) :
    (∃ line, (runClient hostname conn cmd timeout withSudo ignoreErrors user).trace
          = [⟨line, timeout⟩]
        ∧ tokens line.toList
          = some (sudoTokens user ++ [.word (lits (script cmd ignoreErrors).toList)]))
      ↔ '\'' ∉ cmd.toList ∧ ∀ name, asUser user = some name → ReadsAsItself name := by
  have hgiven : (∃ line, (runClient hostname conn cmd timeout withSudo ignoreErrors user).trace
          = [⟨line, timeout⟩]
        ∧ tokens line.toList
          = some (sudoTokens user ++ [.word (lits (script cmd ignoreErrors).toList)]))
      ↔ Given cmd withSudo ignoreErrors user := by
    rw [runClient_runs]
    constructor
    · rintro ⟨line, htrace, htokens⟩
      rw [← (RanLine.mk.inj (List.cons.inj htrace).1).1] at htokens
      exact htokens
    · exact fun htokens => ⟨_, rfl, htokens⟩
  rw [hgiven]
  -- with a user the name is a word of the line as well
  cases huser : asUser user with
  | some name =>
      rw [given_user_iff cmd withSudo ignoreErrors user name huser]
      constructor
      · rintro ⟨hname, hquote⟩
        refine ⟨hquote, fun name' hname' => ?_⟩
        rw [← Option.some.inj hname']
        exact hname
      · exact fun ⟨hquote, hname⟩ => ⟨hname name rfl, hquote⟩
  | none =>
      have hroot : withSudo = true := h.resolve_right (fun hsome => hsome huser)
      rw [hroot, given_root_iff cmd ignoreErrors user huser]
      refine ⟨fun hquote => ⟨hquote, fun name hname => ?_⟩, And.left⟩
      cases hname

/-- A query of two lines, as the user of the database. -/
theorem query_given : Privileged false (some "postgres")
    ∧ ((∃ line, (runClient "backend0" (fun _ _ => .ok ⟨0, "", ""⟩) "psql\nexit" 300 false false
          (some "postgres")).trace = [⟨line, 300⟩]
        ∧ tokens line.toList = some (sudoTokens (some "postgres")
          ++ [.word (lits (script "psql\nexit" false).toList)]))
      ↔ '\'' ∉ "psql\nexit".toList
        ∧ ∀ name, asUser (some "postgres") = some name → ReadsAsItself name) :=
  ⟨Or.inr (by decide), given_iff _ _ _ _ _ _ _ (Or.inr (by decide))⟩

/-- The line that turns on large pages is read as another command: the quotes
    of its `sed` end those around it. -/
theorem sed_not_given :
    ¬ ∀ (hostname : String) (conn : String → Nat → Except ScpExn RemoteResult) (cmd : String)
      (timeout : Nat) (withSudo ignoreErrors : Bool) (user : Option String),
      Privileged withSudo user →
      ∃ line, (runClient hostname conn cmd timeout withSudo ignoreErrors user).trace
          = [⟨line, timeout⟩]
        ∧ tokens line.toList
          = some (sudoTokens user ++ [.word (lits (script cmd ignoreErrors).toList)]) := by
  intro h
  rcases h "xpand0" (fun _ _ => .ok ⟨0, "", ""⟩)
    "sed -i 's/#HUGE_TLB_ENABLE/HUGE_TLB_ENABLE/' /etc/clustrix/clxnode.conf" 300 true false none
    (Or.inl rfl) with ⟨line, htrace, htokens⟩
  rw [runClient_runs] at htrace
  rw [← (RanLine.mk.inj (List.cons.inj htrace).1).1] at htokens
  have hquote := (given_root_iff _ false none rfl).mp htokens
  exact absurd hquote (by decide)

end Given

end Xbench
