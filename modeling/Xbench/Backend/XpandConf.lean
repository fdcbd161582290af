import Mathlib.Data.List.SplitOn
import Xbench.Compute.RunOnNodes

/-!
# The Configuration File of Xpand

`install` changes the configuration file of every node by commands that it runs
on all of them: some append a line, and some comment a line in or out with
`sed`.

What a command does is read off the tokens of the line that the host is given,
and off those of the script that `sudo` gives to the shell. The quotes of a
command end those around it, so arguments with a blank between them do not get
into the file at all (`additionalArgs_iff`).

`run_on_all_nodes` may run a command up to three times, and that can be told. A
line is there as often as it was appended (`multiPageAlloc_appended`), and
commenting out adds one mark each time. So a node counts: the setting for huge
pages is on when as many marks were taken away as were there and added
(`hugetlb_history`), which may be so on one node and not on another.

## Main definitions

* `Edit`: What a script does to a file.
* `lineEdit`: What is read off a line.
* `editFile`: A file after a line.
* `configureMultiPageAlloc`, `configureClnodeAdditionalArgs`,
  `configureHugetlb`: The commands.
* `substFirst`: A substitution on a line.
* `setting`: The setting for huge pages.
* `marksAfter`: How many marks it has.

## Theorems

* `onAll_spec`: A file after a command for all nodes.
* `multiPageAlloc_appended`: A line is appended as often as it is run.
* `additionalArgs_iff`: Only one argument gets into the file.
* `substFirst_marked`, `substFirst_bare`: Taking away and adding a mark.
* `hugetlb_history`: The marks after any history.
-/

namespace Xbench

open Effect Shell Remote

namespace XpandConf

/-- `self.conf_file`. -/
def confFile (branch : String) : String :=
  if branch = "glassbutte" then "/etc/clustrix/clxnode.conf" else "/etc/xpand/xpdnode.conf"

section Commands

variable (branch : String)

/-- The command of `configure_multi_page_alloc`. -/
def multiPageAllocCmd (pageSize : Int) : String :=
  "echo MULTIPAGE_ALLOC=" ++ toString pageSize ++ "G >> " ++ confFile branch

/-- The command of `configure_clnode_additional_args`. -/
def additionalArgsCmd (clxnodeArgs : String) : String :=
  "echo CLXNODE_ADDITIONAL_ARGS='" ++ clxnodeArgs ++ "' >> " ++ confFile branch

/-- The command of `configure_hugetlb`. -/
def hugetlbCmd (enable : Bool) : String :=
  if enable then
    "\n            sed -i 's/#HUGE_TLB_ENABLE/HUGE_TLB_ENABLE/' " ++ confFile branch
      ++ "\n            "
  else
    "\n            sed -i 's/HUGE_TLB_ENABLE/#HUGE_TLB_ENABLE/' " ++ confFile branch
      ++ "\n            "

end Commands

/-- `run_on_all_nodes(cmd)` with its defaults. -/
def runOnAll (shown : Shown) (hosts : List Host) (cmd : String) (σ : Nat → Schedule Execution)
    (clock : Nat → Int) : Effect Execution RunExn (List (Except RunExn HostOutput)) :=
  runOnAllNodes (fun cmd (_ : Unit) => .ok cmd) shown hosts ⟨.text cmd, 300, true, false, none⟩ []
    σ clock

/-- The line that every host is given. -/
def lineOf (cmd : String) : String :=
  remoteLine (cleanCmd (.text cmd)) true false none

section Edits

/-- What a script does: it prints to the terminal, appends a line to a file, or
    substitutes on each line of one. -/
inductive Edit where
  | print
  | append (file line : List Char)
  | substitute (file old new : List Char)
deriving DecidableEq

/-- The arguments of a command, and the file that its output is appended to. -/
def appended : List Token → Option (List (List Char) × Option (List Char))
  | [] => some ([], none)
  | [.operator c, .operator d, .word f] =>
      if c = '>' ∧ d = '>' then (literal f).map fun file => ([], some file) else none
  | .word w :: rest => do
      let arg ← literal w
      let (args, file) ← appended rest
      pure (arg :: args, file)
  | _ => none

/-- A character that stands for itself in a regular expression and in what
    takes its place. -/
def isOrdinary (c : Char) : Bool :=
  c.isAlphanum || c == '_' || c == '#' || c == '='

/-- `s/old/new/`. -/
def substitution (script : List Char) : Option (List Char × List Char) :=
  match script.splitOn '/' with
  | [['s'], old, new, []] =>
      if (old ++ new).all isOrdinary ∧ old ≠ [] then some (old, new) else none
  | _ => none

/-- What `echo` does with the words behind it. -/
def echoEdit (rest : List Token) : Option Edit :=
  (appended rest).map fun (args, file) =>
    match file with
    | none => .print
    | some file => .append file (List.intercalate [' '] args)

/-- What `sed` does with the words behind it. -/
def sedEdit : List Token → Option Edit
  | [.word flag, .word script, .word f] =>
      if flag = lits "-i".toList then do
        let script ← literal script
        let file ← literal f
        let (old, new) ← substitution script
        pure (.substitute file old new)
      else none
  | _ => none

/-- What the script does whose tokens these are. -/
def scriptEdit : List Token → Option Edit
  | .word w :: rest =>
      if w = lits "echo".toList then echoEdit rest
      else if w = lits "sed".toList then sedEdit rest
      else none
  | _ => none

def isWord : Token → Bool
  | .word _ => true
  | .operator _ => false

/-- The script that `sudo` gives to the shell. Words behind it are parameters of
    the script. -/
def givenScript (ts : List Token) : Option (List Char) :=
  if ts.take 4 = sudoTokens none then
    match ts.drop 4 with
    | .word w :: rest => if rest.all isWord then literal w else none
    | _ => none
  else none

/-- What is read off a line. -/
def lineEdit (line : String) : Option Edit := do
  let ts ← tokens line.toList
  let script ← givenScript ts
  let ts ← tokens script
  scriptEdit ts

/-- A substitution on a line: the first occurrence is replaced. -/
def substFirst (old new : List Char) : List Char → List Char
  | [] => []
  | c :: cs =>
      match Text.afterPrefix old (c :: cs) with
      | some rest => new ++ rest
      | none => c :: substFirst old new cs

/-- The lines of a file after a line was run. -/
def editFile (file : List Char) (line : String) (lines : List (List Char)) : List (List Char) :=
  match lineEdit line with
  | some (.append f l) => if f = file then lines ++ [l] else lines
  | some (.substitute f old new) => if f = file then lines.map (substFirst old new) else lines
  | some .print => lines
  | none => lines

end Edits

section OnAll

variable (shown : Shown) (names : List String) (answers : String → Nat → Answer) (cmd : String)
  (σ : Nat → Schedule Execution) (clock : Nat → Int)

/-- How often a node has run the command. -/
def timesOn (name : String) (x : Effect Execution RunExn (List (Except RunExn HostOutput))) : Nat :=
  Repeating.times Execution.hostname name x.trace

/-- A call returns the outputs of all nodes. -/
def AllAnswer (x : Effect Execution RunExn (List (Except RunExn HostOutput))) : Prop :=
  ∃ rs, x.result = .ok rs ∧ ∀ r ∈ rs, ∃ o, r = .ok o

/-- The files of the nodes after what was run. -/
def filesAfter (file : List Char) (s : String → List (List Char))
    (x : Effect Execution RunExn (List (Except RunExn HostOutput))) : String → List (List Char) :=
  nodesAfter (editFile file) s x.trace

theorem zip_replicate (l : List String) (c : String) :
    l.zip (List.replicate l.length c) = l.map (fun n => (n, c)) := by
  induction l with
  | nil => rfl
  | cons n l ih =>
      rw [List.length_cons, List.replicate_succ, List.zip_cons_cons, ih, List.map_cons]

/-- A file after a command for all nodes: what the command makes of it, as often
    as the node has run it. -/
theorem onAll_spec (file : List Char) (s : String → List (List Char)) (hnames : names.Nodup)
    (name : String) (hname : name ∈ names) :
    filesAfter file s (runOnAll shown (hostsOf answers names) cmd σ clock) name
        = (editFile file (lineOf cmd))^[timesOn name
            (runOnAll shown (hostsOf answers names) cmd σ clock)] (s name)
      ∧ timesOn name (runOnAll shown (hostsOf answers names) cmd σ clock) ≤ 3
      ∧ (AllAnswer (runOnAll shown (hostsOf answers names) cmd σ clock)
        → 0 < timesOn name (runOnAll shown (hostsOf answers names) cmd σ clock)) := by
  have hmem : (name, cleanCmd (.text cmd)) ∈ names.zip
      (List.replicate names.length (cleanCmd (.text cmd))) := by
    rw [zip_replicate]
    exact List.mem_map.mpr ⟨name, hname, rfl⟩
  rcases call_spec (fun cmd (_ : Unit) => .ok cmd) shown ⟨.text cmd, 300, true, false, none⟩ []
    (editFile file) s names _ hnames rfl answers σ clock _ hmem with ⟨hafter, hthree, hran⟩
  exact ⟨hafter, hthree, fun ⟨rs, hrs, hall⟩ => hran rs hrs hall⟩

/-- An edit that appends a line appends it as often as it is run. -/
theorem iterate_append (file line : List Char) (command : String) (lines : List (List Char))
    (n : Nat) (h : lineEdit command = some (.append file line)) :
    (editFile file command)^[n] lines = lines ++ List.replicate n line := by
  induction n generalizing lines with
  | zero => exact (List.append_nil lines).symm
  | succ n ih =>
      have honce : editFile file command lines = lines ++ [line] := by
        rw [editFile, h]
        exact if_pos rfl
      rw [Function.iterate_succ_apply, honce, ih, List.append_assoc, List.singleton_append,
        List.replicate_succ]

end OnAll

section Echo

/-- The parts of the lines. -/
def sudoMark : List Char := "sudo -S $SHELL -c ".toList

def echoMark : List Char := "echo ".toList

def appendMark : List Char := " >> ".toList

/-- A command that appends what it echoes. -/
def echoCmd (body file : List Char) : List Char :=
  echoMark ++ (body ++ (appendMark ++ file))

theorem confFile_cases (branch : String) :
    confFile branch = "/etc/clustrix/clxnode.conf" ∨ confFile branch = "/etc/xpand/xpdnode.conf" := by
  rw [confFile]
  by_cases hbranch : branch = "glassbutte"
  · exact Or.inl (if_pos hbranch)
  · exact Or.inr (if_neg hbranch)

/-- The name of the file is a word, and ends in a letter. -/
theorem confFile_spec (branch : String) :
    (confFile branch).toList ≠ [] ∧ (∀ c ∈ (confFile branch).toList, isPlain c = true)
      ∧ (∀ c ∈ (confFile branch).toList, Text.isLineBreak c = false)
      ∧ ∃ l, (confFile branch).toList = l ++ ['f'] := by
  have hall : ∀ (p : Char → Bool) (l : List Char), l.all p = true → ∀ c ∈ l, p c = true :=
    fun p l h => List.all_eq_true.mp h
  have hfree : ∀ l : List Char, l.all (fun c => !Text.isLineBreak c) = true →
      ∀ c ∈ l, Text.isLineBreak c = false :=
    fun l h c hc => (Bool.not_eq_true' _).mp (List.all_eq_true.mp h c hc)
  rcases confFile_cases branch with h | h
  · rw [h]
    exact ⟨by decide, hall _ _ (by decide), hfree _ (by decide),
      "/etc/clustrix/clxnode.con".toList, by decide⟩
  · rw [h]
    exact ⟨by decide, hall _ _ (by decide), hfree _ (by decide),
      "/etc/xpand/xpdnode.con".toList, by decide⟩

variable (branch : String) (body : List Char)

/-- Such a command is one line, and cleaning leaves it as it is. -/
theorem cleanCmd_echoCmd (hbody : ∀ c ∈ body, Text.isLineBreak c = false) :
    Text.splitlines (echoCmd body (confFile branch).toList)
        = [echoCmd body (confFile branch).toList]
      ∧ cleanCmd (.text (String.ofList (echoCmd body (confFile branch).toList)))
        = String.ofList (echoCmd body (confFile branch).toList) := by
  rcases confFile_spec branch with ⟨_, _, hbreaks, l, hl⟩
  have hhead : (echoMark ++ appendMark).all (fun c => !Text.isLineBreak c) = true := by
    decide
  have hfree : ∀ c ∈ echoCmd body (confFile branch).toList, Text.isLineBreak c = false := by
    intro c hc
    rw [List.all_eq_true] at hhead
    rw [echoCmd, List.mem_append, List.mem_append, List.mem_append] at hc
    rcases hc with hc | hc | hc | hc
    · exact (Bool.not_eq_true' _).mp (hhead c (List.mem_append_left _ hc))
    · exact hbody c hc
    · exact (Bool.not_eq_true' _).mp (hhead c (List.mem_append_right _ hc))
    · exact hbreaks c hc
  have hcons : ∃ rest, echoCmd body (confFile branch).toList = 'e' :: rest := ⟨_, rfl⟩
  have hlast : ∃ front, echoCmd body (confFile branch).toList = front ++ ['f'] := by
    refine ⟨echoMark ++ (body ++ (appendMark ++ l)), ?_⟩
    rw [echoCmd, hl]
    simp only [List.append_assoc]
  have hlines : Text.splitlines (echoCmd body (confFile branch).toList)
      = [echoCmd body (confFile branch).toList] := by
    have hcut := Text.cutLines_append_left _ [] hfree
    rw [List.append_nil] at hcut
    rcases hcons with ⟨rest, hrest⟩
    refine Text.splitlines_concat _ [] _ (hcut.trans ?_) (by rw [hrest]; exact List.cons_ne_nil _ _)
    exact congrArg (fun x => [x]) (List.append_nil _)
  -- neither end of the line is stripped
  have hstrip : Text.strip (echoCmd body (confFile branch).toList)
      = echoCmd body (confFile branch).toList := by
    rcases hcons with ⟨rest, hrest⟩
    have hleft : Text.lstrip (echoCmd body (confFile branch).toList)
        = echoCmd body (confFile branch).toList := by
      rw [hrest]
      exact List.dropWhile_cons_of_neg (by decide)
    rcases hlast with ⟨front, hfront⟩
    rw [Text.strip, hleft, hfront]
    exact Text.rstrip_append front [] 'f' (by decide)
  refine ⟨hlines, ?_⟩
  rcases hcons with ⟨rest, hrest⟩
  rw [cleanCmd, String.toList_ofList, cleanLines, hlines, List.map_singleton, hstrip,
    List.filter_cons_of_pos (by rw [hrest]; rfl), List.filter_nil, List.intercalate_singleton]

/-- The line that a host is given for it. -/
theorem lineOf_echoCmd (hbody : ∀ c ∈ body, Text.isLineBreak c = false) :
    (lineOf (String.ofList (echoCmd body (confFile branch).toList))).toList
      = sudoMark
        ++ ('\'' :: (echoCmd body (confFile branch).toList ++ ['\''])) := by
  rcases cleanCmd_echoCmd branch body hbody with ⟨hlines, hclean⟩
  have hone : isMultilineCmd (String.ofList (echoCmd body (confFile branch).toList)) = false := by
    rw [isMultilineCmd, String.toList_ofList, hlines]
    rfl
  have hscript : script (String.ofList (echoCmd body (confFile branch).toList)) false
      = String.ofList (echoCmd body (confFile branch).toList) := by
    rw [script, hone]
    rfl
  rw [lineOf, hclean, remoteLine_root _ false none rfl, hscript]
  exact congrArg (fun l => sudoMark ++ ('\'' :: (l ++ ['\''])))
    String.toList_ofList

theorem toList_cmd (a b c d : String) :
    (a ++ b ++ c ++ d).toList = a.toList ++ (b.toList ++ (c.toList ++ d.toList)) := by
  simp only [String.toList_append, List.append_assoc]

theorem run_sudo : run (start []) sudoMark = start (sudoTokens none) := by
  decide

theorem appended_plain (f : List Char) (args : List (List Char)) :
    appended (args.map (fun a => .word (lits a)) ++ [.operator '>', .operator '>', .word (lits f)])
      = some (args, some f) := by
  induction args with
  | nil =>
      change (if '>' = '>' ∧ '>' = '>' then (literal (lits f)).map _ else none) = _
      rw [if_pos ⟨rfl, rfl⟩, literal_lits]
      rfl
  | cons a args ih =>
      rw [List.map_cons, List.cons_append]
      rcases args with _ | ⟨b, args⟩
      · rw [List.map_nil, List.nil_append] at ih ⊢
        rw [appended, ih, literal_lits]
        · rfl
      · rw [List.map_cons, List.cons_append] at ih ⊢
        rw [appended, ih, literal_lits]
        rfl

/-- A script that echoes one word into the file. -/
theorem scriptEdit_echo (word : List Char) (hne : word ≠ [])
    (hword : ∀ c ∈ word, isPlain c = true) :
    (tokens (echoCmd word (confFile branch).toList) >>= scriptEdit)
      = some (.append (confFile branch).toList word) := by
  rcases confFile_spec branch with ⟨hfile, hplain, _, _⟩
  have hecho : run (start []) echoMark = start [.word (lits "echo".toList)] := by decide
  have hredirect : ∀ (w : Word) (d : List Token), run ⟨.plain, some w, d⟩ appendMark
      = start (d ++ [.word w] ++ [.operator '>'] ++ [.operator '>']) := fun _ _ => rfl
  have htokens : tokens (echoCmd word (confFile branch).toList)
      = some ([.word (lits "echo".toList), .word (lits word), .operator '>', .operator '>',
        .word (lits (confFile branch).toList)]) := by
    rw [tokens, echoCmd, run_append, hecho, run_append, run_plain_start _ word hne hword, run_append,
      hredirect, run_plain_start _ _ hfile hplain]
    rfl
  rw [htokens, Option.bind_eq_bind, Option.bind_some, scriptEdit, if_pos rfl, echoEdit]
  have happended := appended_plain (confFile branch).toList [word]
  rw [List.map_singleton, List.singleton_append] at happended
  rw [happended]
  exact congrArg some (congrArg (Edit.append _) List.intercalate_singleton)

/-- A line that gives a script to the shell does what the script does. -/
theorem lineEdit_given (line : String) (given : List Char) (rest : List Token)
    (h : tokens line.toList = some (sudoTokens none ++ .word (lits given) :: rest))
    (hrest : rest.all isWord = true) : lineEdit line = (tokens given >>= scriptEdit) := by
  have hscript : givenScript (sudoTokens none ++ .word (lits given) :: rest) = some given := by
    have htake : (sudoTokens none ++ .word (lits given) :: rest).take 4 = sudoTokens none :=
      List.take_left' rfl
    have hdrop : (sudoTokens none ++ .word (lits given) :: rest).drop 4
        = .word (lits given) :: rest := List.drop_left' rfl
    rw [givenScript, if_pos htake, hdrop]
    dsimp only
    rw [if_pos hrest, literal_lits]
  rw [lineEdit, h, Option.bind_eq_bind, Option.bind_some, hscript]
  rfl

/-- A command without quotes is given as it is. -/
theorem lineEdit_unquoted (hbody : ∀ c ∈ body, Text.isLineBreak c = false)
    (hquote : '\'' ∉ echoCmd body (confFile branch).toList) :
    lineEdit (lineOf (String.ofList (echoCmd body (confFile branch).toList)))
      = (tokens (echoCmd body (confFile branch).toList) >>= scriptEdit) := by
  refine lineEdit_given _ _ [] ?_ rfl
  rw [lineOf_echoCmd branch body hbody, tokens, run_append, run_sudo]
  exact (quoted_iff (sudoTokens none) _).mpr hquote

theorem plain_of_portable (c : Char) (h : isPortable c = true) : isPlain c = true := by
  have hne : ∀ x : Char, isPortable x = false → (c == x) = false :=
    fun x hx => beq_eq_false_iff_ne.mpr (portable_ne c x h hx)
  rw [isPlain, hne '\'' (by decide), hne '"' (by decide), hne '\\' (by decide),
    hne '$' (by decide), hne '\x60' (by decide), hne '\n' (by decide), hne '#' (by decide),
    hne '~' (by decide), isBlank, hne ' ' (by decide), hne '\t' (by decide), isOperator,
    hne '|' (by decide), hne '&' (by decide), hne ';' (by decide), hne '<' (by decide),
    hne '>' (by decide), hne '(' (by decide), hne ')' (by decide), isPattern, hne '*' (by decide),
    hne '?' (by decide), hne '[' (by decide)]
  rfl

theorem lineBreak_of_portable (c : Char) (h : isPortable c = true) :
    Text.isLineBreak c = false := by
  have hspace := portable_isSpace c h
  simp only [Text.isSpace, Bool.or_eq_false_iff] at hspace
  exact hspace.1.1.1.1.1.1.1.2

/-- A number is written in digits, and may have a sign. -/
theorem portable_toString (n : Int) : ∀ c ∈ (toString n).toList, isPortable c = true := by
  have hdigits : ∀ m : Nat, ∀ c ∈ (toString m).toList, isPortable c = true := by
    intro m c hc
    have hdigit := Text.isDigit_of_mem_toString m c hc
    rw [isPortable, Char.isAlphanum, hdigit, Bool.or_true]
    rfl
  intro c hc
  cases n with
  | ofNat m => exact hdigits m c hc
  | negSucc m =>
      change c ∈ ("-" ++ toString (m + 1)).toList at hc
      rw [String.toList_append, List.mem_append] at hc
      rcases hc with hc | hc
      · rw [List.mem_singleton.mp hc]
        decide
      · exact hdigits (m + 1) c hc

/-- A command that echoes one word into the file. -/
theorem lineEdit_setting (hne : body ≠ [])
    (hchars : ∀ c ∈ body, isPlain c = true ∧ Text.isLineBreak c = false) :
    lineEdit (lineOf (String.ofList (echoCmd body (confFile branch).toList)))
      = some (.append (confFile branch).toList body) := by
  have hquote : '\'' ∉ echoCmd body (confFile branch).toList := by
    intro hmem
    rw [echoCmd, List.mem_append, List.mem_append, List.mem_append] at hmem
    rcases hmem with hmem | hmem | hmem | hmem
    · exact absurd hmem (by decide)
    · have hplain := (hchars _ hmem).1
      cases hplain
    · exact absurd hmem (by decide)
    · have hplain := (confFile_spec branch).2.1 _ hmem
      cases hplain
  rw [lineEdit_unquoted branch body (fun c hc => (hchars c hc).2) hquote]
  exact scriptEdit_echo branch body hne (fun c hc => (hchars c hc).1)

end Echo

section MultiPageAlloc

variable (branch : String) (pageSize : Int)

def multiPageKey : List Char := "MULTIPAGE_ALLOC=".toList

/-- The setting of `multi_page_alloc`. -/
def multiPageAlloc : List Char :=
  multiPageKey ++ ((toString pageSize).toList ++ ['G'])

theorem multiPageAlloc_chars :
    ∀ c ∈ multiPageAlloc pageSize, isPlain c = true ∧ Text.isLineBreak c = false := by
  intro c hc
  rcases List.mem_append.mp hc with hkey | hvalue
  · have hall : multiPageKey.all (fun c => isPlain c && !Text.isLineBreak c) = true := by
      decide
    have hboth := List.all_eq_true.mp hall c hkey
    rw [Bool.and_eq_true, Bool.not_eq_true'] at hboth
    exact hboth
  · rcases List.mem_append.mp hvalue with hnumber | hunit
    · have hportable := portable_toString pageSize c hnumber
      exact ⟨plain_of_portable c hportable, lineBreak_of_portable c hportable⟩
    · rw [List.mem_singleton.mp hunit]
      exact ⟨by decide, by decide⟩

theorem multiPageAllocCmd_eq :
    multiPageAllocCmd branch pageSize
      = String.ofList (echoCmd (multiPageAlloc pageSize) (confFile branch).toList) := by
  have hhead : "echo MULTIPAGE_ALLOC=".toList = echoMark ++ multiPageKey := by
    decide
  have htail : "G >> ".toList = 'G' :: appendMark := by decide
  unfold multiPageAllocCmd multiPageAlloc
  generalize toString pageSize = value
  refine String.toList_inj.mp ?_
  rw [String.toList_ofList, echoCmd, String.toList_append, String.toList_append,
    String.toList_append, hhead, htail, List.append_assoc, List.append_assoc, List.append_assoc,
    List.append_assoc, List.append_assoc, List.singleton_append, List.cons_append]

/-- The command appends the setting. -/
theorem lineEdit_multiPageAlloc :
    lineEdit (lineOf (multiPageAllocCmd branch pageSize))
      = some (.append (confFile branch).toList (multiPageAlloc pageSize)) := by
  rw [multiPageAllocCmd_eq]
  exact lineEdit_setting branch _ (List.cons_ne_nil _ _) (multiPageAlloc_chars pageSize)

/-- After `configure_multi_page_alloc` the setting is at the end of each node's
    file, as often as the node has run the command: three times at most, and
    once at least when all nodes answer. -/
theorem multiPageAlloc_appended (shown : Shown) (names : List String)
    (answers : String → Nat → Answer) (σ : Nat → Schedule Execution) (clock : Nat → Int)
    (s : String → List (List Char)) (hnames : names.Nodup) :
    ∀ name ∈ names, ∃ n ≤ 3,
      filesAfter (confFile branch).toList s (runOnAll shown (hostsOf answers names)
          (multiPageAllocCmd branch pageSize) σ clock) name
        = s name ++ List.replicate n (multiPageAlloc pageSize)
      ∧ (AllAnswer (runOnAll shown (hostsOf answers names)
          (multiPageAllocCmd branch pageSize) σ clock) → 0 < n) := by
  intro name hname
  rcases onAll_spec shown names answers (multiPageAllocCmd branch pageSize) σ clock
    (confFile branch).toList s hnames name hname with ⟨hafter, hthree, hran⟩
  refine ⟨_, hthree, ?_, hran⟩
  rw [hafter]
  exact iterate_append (confFile branch).toList (multiPageAlloc pageSize) _ (s name) _
    (lineEdit_multiPageAlloc branch pageSize)

/-- A new file of a node. -/
theorem emptyFile_appended : ["10.0.0.1"].Nodup ∧ ∀ name ∈ ["10.0.0.1"], ∃ n ≤ 3,
    filesAfter (confFile "mainline").toList (fun _ => []) (runOnAll uptimeShown
        (hostsOf (fun _ => lostThenDone) ["10.0.0.1"]) (multiPageAllocCmd "mainline" 2)
        (fun _ => Schedule.sequential Execution) (fun _ => 0)) name
      = [] ++ List.replicate n (multiPageAlloc 2)
    ∧ (AllAnswer (runOnAll uptimeShown (hostsOf (fun _ => lostThenDone) ["10.0.0.1"])
        (multiPageAllocCmd "mainline" 2) (fun _ => Schedule.sequential Execution) (fun _ => 0))
      → 0 < n) :=
  ⟨by decide, multiPageAlloc_appended "mainline" 2 uptimeShown ["10.0.0.1"]
    (fun _ => lostThenDone) (fun _ => Schedule.sequential Execution) (fun _ => 0) (fun _ => [])
    (by decide)⟩

end MultiPageAlloc

/-- Arguments for the node, with a blank between two: words of characters that
    need no quotes, on one line. -/
structure Args where
  first : List Char
  rest : List (List Char)
  word : ∀ w ∈ first :: rest, w ≠ [] ∧ ∀ c ∈ w, isPlain c = true ∧ Text.isLineBreak c = false

section AdditionalArgs

variable (branch : String) (args : Args)

def Args.text : String :=
  String.ofList (spaced args.first args.rest)

def argsKey : List Char := "CLXNODE_ADDITIONAL_ARGS=".toList

/-- The setting of `clxnode_additional_args`. -/
def additionalArgs (value : List Char) : List Char :=
  argsKey ++ value

theorem additionalArgs_ne_nil (value : List Char) : additionalArgs value ≠ [] :=
  List.append_ne_nil_of_left_ne_nil (by decide) value

theorem Args.plain : ∀ w ∈ args.first :: args.rest, w ≠ [] ∧ ∀ c ∈ w, isPlain c = true :=
  fun w hw => ⟨(args.word w hw).1, fun c hc => ((args.word w hw).2 c hc).1⟩

theorem Args.lineBreak : ∀ c ∈ spaced args.first args.rest, Text.isLineBreak c = false := by
  intro c hc
  rcases List.mem_append.mp hc with hc | hc
  · exact ((args.word args.first List.mem_cons_self).2 c hc).2
  · rcases List.mem_flatMap.mp hc with ⟨w, hw, hcw⟩
    rcases List.mem_cons.mp hcw with rfl | hcw
    · decide
    · exact ((args.word w (List.mem_cons_of_mem _ hw)).2 c hcw).2

/-- What the command echoes, quotes and all. -/
def quotedArgs : List Char :=
  additionalArgs ('\'' :: (spaced args.first args.rest ++ ['\'']))

theorem additionalArgsCmd_eq :
    additionalArgsCmd branch args.text
      = String.ofList (echoCmd (quotedArgs args) (confFile branch).toList) := by
  have hhead : "echo CLXNODE_ADDITIONAL_ARGS='".toList
      = echoMark ++ (argsKey ++ ['\'']) := by decide +kernel
  have htail : "' >> ".toList = '\'' :: appendMark := by decide
  have htext : args.text.toList = spaced args.first args.rest := String.toList_ofList
  have hcmd : (additionalArgsCmd branch args.text).toList
      = echoMark ++ (argsKey ++ ['\'']) ++ (spaced args.first args.rest
        ++ ('\'' :: appendMark ++ (confFile branch).toList)) := by
    rw [← hhead, ← htext, ← htail]
    exact toList_cmd _ _ _ _
  refine String.toList_inj.mp (hcmd.trans ?_)
  rw [String.toList_ofList, echoCmd, quotedArgs, additionalArgs]
  simp only [List.append_assoc, List.cons_append, List.nil_append]

/-- Behind the arguments. -/
def argsTail : List Char :=
  appendMark ++ (confFile branch).toList

theorem quote_notMem_tail : '\'' ∉ argsTail branch := by
  intro hmem
  rcases List.mem_append.mp hmem with hmem | hmem
  · exact absurd hmem (by decide)
  · have hplain := (confFile_spec branch).2.1 _ hmem
    cases hplain

/-- The quotes of the command end those around it, so the arguments are read
    without any: each is a word but for what stands before the first and behind
    the last. -/
theorem tokens_additionalArgs :
    ∃ w d, tokens (lineOf (additionalArgsCmd branch args.text)).toList
        = some (d ++ [.word (w ++ lits (argsTail branch))])
      ∧ d ++ [.word w] = sudoTokens none
        ++ .word (lits (echoMark ++ additionalArgs args.first))
        :: args.rest.map (fun l => .word (lits l)) := by
  have hbody : ∀ c ∈ quotedArgs args, Text.isLineBreak c = false := by
    intro c hc
    rcases List.mem_append.mp hc with hc | hc
    · have hall : argsKey.all (fun c => !Text.isLineBreak c) = true := by
        decide
      exact (Bool.not_eq_true' _).mp (List.all_eq_true.mp hall c hc)
    · rcases List.mem_cons.mp hc with rfl | hc
      · decide
      · rcases List.mem_append.mp hc with hc | hc
        · exact args.lineBreak c hc
        · rw [List.mem_singleton.mp hc]
          decide
  have hline : sudoMark
        ++ ('\'' :: (echoCmd (quotedArgs args) (confFile branch).toList ++ ['\'']))
      = sudoMark ++ ('\'' :: ((echoMark ++ additionalArgs [])
        ++ '\'' :: (spaced args.first args.rest ++ '\'' :: (argsTail branch ++ ['\''])))) := by
    simp only [echoCmd, quotedArgs, additionalArgs, argsTail, List.append_assoc, List.cons_append,
      List.nil_append]
  have hopen : ∀ d : List Token, step (start d) '\'' = ⟨.single, some [], d⟩ := fun _ => rfl
  have hagain : ∀ (w : Word) (d : List Token), step ⟨.plain, some w, d⟩ '\''
      = ⟨.single, some w, d⟩ := fun _ _ => rfl
  have hclose : ∀ (w : Word) (d : List Token), step ⟨.single, some w, d⟩ '\''
      = ⟨.plain, some w, d⟩ := fun _ _ => rfl
  have hkey : '\'' ∉ echoMark ++ additionalArgs [] := by decide
  rcases run_spaced (sudoTokens none) (lits (echoMark ++ additionalArgs [])) args.first
    args.rest args.plain with ⟨w, d, hrun, hread⟩
  refine ⟨w, d, ?_, ?_⟩
  · rw [additionalArgsCmd_eq, lineOf_echoCmd branch _ hbody, hline, tokens, run_append, run_sudo,
      run_cons, hopen, run_append, run_single _ _ _ hkey, run_cons, hclose, List.nil_append,
      run_append, hrun, run_cons, hagain, run_append, run_single _ _ _ (quote_notMem_tail branch)]
    rfl
  · rw [hread, additionalArgs, additionalArgs, List.append_nil, lits, lits, lits, ← List.map_append,
      List.append_assoc]

/-- One argument gets into the file, and of several the first is printed. -/
theorem lineEdit_additionalArgs :
    lineEdit (lineOf (additionalArgsCmd branch args.text))
      = some (if args.rest = [] then
          .append (confFile branch).toList (additionalArgs args.first) else .print) := by
  rcases tokens_additionalArgs branch args with ⟨w, d, htokens, hread⟩
  have hfirst := args.plain args.first List.mem_cons_self
  have hplain : ∀ c ∈ additionalArgs args.first, isPlain c = true := by
    intro c hc
    rcases List.mem_append.mp hc with hc | hc
    · have hall : argsKey.all isPlain = true := by decide
      exact List.all_eq_true.mp hall c hc
    · exact hfirst.2 c hc
  by_cases hrest : args.rest = []
  · rw [if_pos hrest]
    rw [hrest, List.map_nil] at hread
    rcases List.append_inj' hread rfl with ⟨hd, hw⟩
    have hword : w = lits (echoMark ++ additionalArgs args.first) :=
      Token.word.inj (List.cons.inj hw).1
    have hscript : w ++ lits (argsTail branch)
        = lits (echoCmd (additionalArgs args.first) (confFile branch).toList) := by
      rw [hword, echoCmd, argsTail, lits, lits, lits, ← List.map_append, List.append_assoc]
    rw [hd, hscript] at htokens
    rw [lineEdit_given _ _ [] htokens rfl]
    exact scriptEdit_echo branch _ (additionalArgs_ne_nil _) hplain
  · rw [if_neg hrest]
    -- the last word is one of the others
    have hdone : d = sudoTokens none
        ++ .word (lits (echoMark ++ additionalArgs args.first))
        :: (args.rest.map (fun l => Token.word (lits l))).dropLast := by
      have hsome : args.rest.map (fun l => Token.word (lits l)) ≠ [] :=
        fun h => hrest (List.map_eq_nil_iff.mp h)
      have hdrop := congrArg List.dropLast hread
      rw [List.dropLast_concat, List.dropLast_append_of_ne_nil (List.cons_ne_nil _ _),
        List.dropLast_cons_of_ne_nil hsome] at hdrop
      exact hdrop
    rw [hdone, List.append_assoc, List.cons_append] at htokens
    rw [lineEdit_given _ _ _ htokens ?_]
    · have hecho : run (start []) echoMark = start [.word (lits "echo".toList)] := by decide
      have hprinted : tokens (echoMark ++ additionalArgs args.first)
          = some [.word (lits "echo".toList), .word (lits (additionalArgs args.first))] := by
        rw [tokens, run_append, hecho, run_plain_start _ _ (additionalArgs_ne_nil _) hplain]
        rfl
      rw [hprinted, Option.bind_eq_bind, Option.bind_some, scriptEdit, if_pos rfl, echoEdit,
        appended, appended, literal_lits]
      · rfl
    · rw [List.all_append, Bool.and_eq_true]
      refine ⟨List.all_eq_true.mpr (fun t ht => ?_), rfl⟩
      rcases List.mem_map.mp (List.dropLast_subset _ ht) with ⟨l, _, rfl⟩
      rfl

/-- When all nodes answer `configure_clnode_additional_args`, the setting is in
    each node's file if it is one argument. With several the files are as they
    were. -/
theorem additionalArgs_iff (shown : Shown) (names : List String)
    (answers : String → Nat → Answer) (σ : Nat → Schedule Execution) (clock : Nat → Int)
    (s : String → List (List Char)) (hnames : names.Nodup)
    (hall : AllAnswer (runOnAll shown (hostsOf answers names) (additionalArgsCmd branch args.text)
      σ clock)) :
    ∀ name ∈ names,
      (filesAfter (confFile branch).toList s (runOnAll shown (hostsOf answers names)
          (additionalArgsCmd branch args.text) σ clock) name = s name ↔ args.rest ≠ [])
        ∧ (args.rest = [] → ∃ n, 0 < n ∧ n ≤ 3
          ∧ filesAfter (confFile branch).toList s (runOnAll shown (hostsOf answers names)
            (additionalArgsCmd branch args.text) σ clock) name
          = s name ++ List.replicate n (additionalArgs args.first)) := by
  intro name hname
  rcases onAll_spec shown names answers (additionalArgsCmd branch args.text) σ clock
    (confFile branch).toList s hnames name hname with ⟨hafter, hthree, hran⟩
  have hedit := lineEdit_additionalArgs branch args
  by_cases hrest : args.rest = []
  · rw [if_pos hrest] at hedit
    rw [iterate_append (confFile branch).toList (additionalArgs args.first) _ (s name) _ hedit]
      at hafter
    refine ⟨⟨fun hsame => ?_, fun hsome => absurd hrest hsome⟩,
      fun _ => ⟨_, hran hall, hthree, hafter⟩⟩
    -- a line that was appended cannot be missed
    have hlength := congrArg List.length (hafter.symm.trans hsame)
    rw [List.length_append, List.length_replicate] at hlength
    have hpos := hran hall
    omega
  · rw [if_neg hrest] at hedit
    refine ⟨⟨fun _ => hrest, fun _ => ?_⟩, fun hone => absurd hone hrest⟩
    rw [hafter]
    refine Function.iterate_fixed ?_ _
    rw [editFile, hedit]

end AdditionalArgs

theorem twoArgs_word : ∀ w ∈ [['-', 'm'], ['-', 'v']],
    w ≠ [] ∧ ∀ c ∈ w, isPlain c = true ∧ Text.isLineBreak c = false := by
  intro w hw
  simp only [List.mem_cons, List.not_mem_nil, or_false] at hw
  rcases hw with rfl | rfl <;>
  · refine ⟨List.cons_ne_nil _ _, fun c hc => ?_⟩
    simp only [List.mem_cons, List.not_mem_nil, or_false] at hc
    rcases hc with rfl | rfl <;> exact ⟨rfl, rfl⟩

/-- Two arguments. -/
def twoArgs : Args :=
  ⟨['-', 'm'], [['-', 'v']], twoArgs_word⟩

theorem twoArgs_lost : AllAnswer (runOnAll uptimeShown (hostsOf (fun _ => lostThenDone) ["10.0.0.1"])
      (additionalArgsCmd "mainline" twoArgs.text) (fun _ => Schedule.sequential Execution)
      (fun _ => 0))
    ∧ ∀ name ∈ ["10.0.0.1"],
      (filesAfter (confFile "mainline").toList (fun _ => []) (runOnAll uptimeShown
          (hostsOf (fun _ => lostThenDone) ["10.0.0.1"]) (additionalArgsCmd "mainline" twoArgs.text)
          (fun _ => Schedule.sequential Execution) (fun _ => 0)) name = [] ↔ twoArgs.rest ≠ [])
        ∧ (twoArgs.rest = [] → ∃ n, 0 < n ∧ n ≤ 3
          ∧ filesAfter (confFile "mainline").toList (fun _ => []) (runOnAll uptimeShown
            (hostsOf (fun _ => lostThenDone) ["10.0.0.1"])
            (additionalArgsCmd "mainline" twoArgs.text) (fun _ => Schedule.sequential Execution)
            (fun _ => 0)) name = [] ++ List.replicate n (additionalArgs twoArgs.first)) :=
  have hall := (lost_twice (fun cmd (_ : Unit) => .ok cmd) uptimeShown
    ⟨.text (additionalArgsCmd "mainline" twoArgs.text), 300, true, false, none⟩ [] ["10.0.0.1"]
    [cleanCmd (.text (additionalArgsCmd "mainline" twoArgs.text))] (by decide)
    (List.cons_ne_nil _ _) rfl).1
  ⟨hall, additionalArgs_iff "mainline" twoArgs uptimeShown ["10.0.0.1"] (fun _ => lostThenDone)
    (fun _ => Schedule.sequential Execution) (fun _ => 0) (fun _ => []) (by decide) hall⟩

section Hugetlb

def hugeKey : List Char := "HUGE_TLB_ENABLE".toList

/-- The setting for huge pages, behind some marks that comment it out. -/
def setting (marks : Nat) (rest : List Char) : List Char :=
  List.replicate marks '#' ++ (hugeKey ++ rest)

/-- The substitution of `configure_hugetlb`. -/
def toggle (enable : Bool) : List Char → List Char :=
  if enable then substFirst ('#' :: hugeKey) hugeKey else substFirst hugeKey ('#' :: hugeKey)

theorem lineEdit_hugetlb (branch : String) (enable : Bool) :
    lineEdit (lineOf (hugetlbCmd branch enable))
      = some (if enable then .substitute (confFile branch).toList ('#' :: hugeKey) hugeKey
        else .substitute (confFile branch).toList hugeKey ('#' :: hugeKey)) := by
  rw [hugetlbCmd]
  rcases confFile_cases branch with h | h
  · rw [h]
    cases enable with
    | true => decide +kernel
    | false => decide +kernel
  · rw [h]
    cases enable with
    | true => decide +kernel
    | false => decide +kernel

/-- The command substitutes on every line of the file. -/
theorem editFile_hugetlb (branch : String) (enable : Bool) (lines : List (List Char)) :
    editFile (confFile branch).toList (lineOf (hugetlbCmd branch enable)) lines
      = lines.map (toggle enable) := by
  rw [editFile, lineEdit_hugetlb]
  cases enable with
  | true => exact if_pos rfl
  | false => exact if_pos rfl

theorem afterPrefix_self (old rest : List Char) : Text.afterPrefix old (old ++ rest) = some rest :=
  (Text.afterPrefix_eq_some_iff _ _ _).mpr rfl

/-- What does not begin what is to be replaced is left. -/
theorem substFirst_skip (o : Char) (old new : List Char) (c : Char) (cs : List Char)
    (h : Text.afterPrefix (o :: old) (c :: cs) = none) :
    substFirst (o :: old) new (c :: cs) = c :: substFirst (o :: old) new cs := by
  rw [substFirst, h]

/-- Commenting out adds a mark. -/
theorem substFirst_bare (marks : Nat) (rest : List Char) :
    substFirst hugeKey ('#' :: hugeKey) (setting marks rest) = setting (marks + 1) rest := by
  induction marks with
  | zero =>
      change substFirst hugeKey ('#' :: hugeKey) (hugeKey ++ rest) = '#' :: (hugeKey ++ rest)
      have hkey : hugeKey = 'H' :: "UGE_TLB_ENABLE".toList := by decide
      have hfound := afterPrefix_self hugeKey rest
      rw [hkey, List.cons_append] at hfound ⊢
      rw [substFirst, hfound]
      rfl
  | succ marks ih =>
      have hkey : hugeKey = 'H' :: "UGE_TLB_ENABLE".toList := by decide
      have hcons : ∀ n, setting (n + 1) rest = '#' :: setting n rest := fun _ => rfl
      have hnone : Text.afterPrefix hugeKey ('#' :: setting marks rest) = none := by
        rw [hkey]
        rfl
      rw [hcons (marks + 1), hcons marks, substFirst, hnone]
      dsimp only
      rw [ih, hcons]

/-- Commenting in takes a mark away. -/
theorem substFirst_marked (marks : Nat) (rest : List Char) :
    substFirst ('#' :: hugeKey) hugeKey (setting (marks + 1) rest) = setting marks rest := by
  have hcons : ∀ n, setting (n + 1) rest = '#' :: setting n rest := fun _ => rfl
  induction marks with
  | zero =>
      have hfound := afterPrefix_self ('#' :: hugeKey) rest
      rw [List.cons_append] at hfound
      rw [hcons]
      change substFirst ('#' :: hugeKey) hugeKey ('#' :: (hugeKey ++ rest)) = hugeKey ++ rest
      rw [substFirst, hfound]
  | succ marks ih =>
      have hkey : hugeKey = 'H' :: "UGE_TLB_ENABLE".toList := by decide
      rw [hcons (marks + 1)]
      have hnone : Text.afterPrefix ('#' :: hugeKey) ('#' :: setting (marks + 1) rest) = none := by
        rw [hkey]
        rfl
      rw [substFirst_skip _ _ _ _ _ hnone, ih, hcons]

/-- Without a mark there is none to take away. -/
theorem substFirst_unmarked (l : List Char) (h : '#' ∉ l) :
    substFirst ('#' :: hugeKey) hugeKey l = l := by
  induction l with
  | nil => rfl
  | cons c l ih =>
      rw [List.mem_cons, not_or] at h
      have hnone : Text.afterPrefix ('#' :: hugeKey) (c :: l) = none := if_neg h.1
      rw [substFirst_skip _ _ _ _ _ hnone, ih h.2]

/-- What a command makes of the setting. -/
theorem toggle_setting (enable : Bool) (marks : Nat) (rest : List Char) (h : '#' ∉ rest) :
    toggle enable (setting marks rest)
      = setting (if enable then marks - 1 else marks + 1) rest := by
  cases enable with
  | false => exact substFirst_bare marks rest
  | true =>
      cases marks with
      | zero =>
          refine substFirst_unmarked _ (fun hmem => ?_)
          rcases List.mem_append.mp hmem with hmem | hmem
          · exact absurd hmem List.not_mem_nil
          · rcases List.mem_append.mp hmem with hmem | hmem
            · exact absurd hmem (by decide)
            · exact h hmem
      | succ marks => exact substFirst_marked marks rest

/-- How many marks there are after a command was run so many times. -/
def marksAfterCall (marks : Nat) (enable : Bool) (times : Nat) : Nat :=
  if enable then marks - times else marks + times

theorem toggle_iterate (enable : Bool) (marks times : Nat) (rest : List Char) (h : '#' ∉ rest) :
    (toggle enable)^[times] (setting marks rest)
      = setting (marksAfterCall marks enable times) rest := by
  induction times generalizing marks with
  | zero =>
      cases enable with
      | true => rfl
      | false => rfl
  | succ times ih =>
      rw [Function.iterate_succ_apply, toggle_setting enable marks rest h, ih]
      congr 1
      unfold marksAfterCall
      cases enable with
      | true =>
          simp only [if_true]
          omega
      | false =>
          simp only [Bool.false_eq_true, if_false]
          omega

/-- A call of `configure_hugetlb`, with what the outside makes of it. -/
structure Call where
  enable : Bool
  shown : Shown
  answers : String → Nat → Answer
  σ : Nat → Schedule Execution
  clock : Nat → Int

variable (branch : String) (names : List String)

/-- `configure_hugetlb`. -/
def Call.configureHugetlb (call : Call) :
    Effect Execution RunExn (List (Except RunExn HostOutput)) :=
  runOnAll call.shown (hostsOf call.answers names) (hugetlbCmd branch call.enable) call.σ call.clock

/-- The files of the nodes after some calls. -/
def filesAfterCalls (s : String → List (List Char)) (calls : List Call) :
    String → List (List Char) :=
  calls.foldl (fun s call => filesAfter (confFile branch).toList s
    (call.configureHugetlb branch names)) s

/-- How many marks a node has after some calls. -/
def marksAfter (name : String) (marks : Nat) (calls : List Call) : Nat :=
  calls.foldl (fun marks call => marksAfterCall marks call.enable
    (timesOn name (call.configureHugetlb branch names))) marks

theorem getElem?_iterate_map (f : List Char → List Char) (n : Nat) (lines : List (List Char))
    (i : Nat) : ((fun lines => lines.map f)^[n] lines)[i]? = lines[i]?.map f^[n] := by
  induction n generalizing lines with
  | zero => exact Option.map_id'.symm
  | succ n ih =>
      rw [Function.iterate_succ_apply, ih, List.getElem?_map, Option.map_map,
        ← Function.iterate_succ]

/-- After any history of calls a node's setting has as many marks as were added
    there and not taken away: a call that disables adds one each time the node
    runs it, and one that enables takes one away, which may be up to three
    times. -/
theorem hugetlb_history (name : String) (hnames : names.Nodup) (hname : name ∈ names)
    (calls : List Call) (s : String → List (List Char)) (i marks : Nat) (rest : List Char)
    (hrest : '#' ∉ rest) (hsetting : (s name)[i]? = some (setting marks rest)) :
    (filesAfterCalls branch names s calls name)[i]?
        = some (setting (marksAfter branch names name marks calls) rest)
      ∧ ∀ call ∈ calls, timesOn name (call.configureHugetlb branch names) ≤ 3
        ∧ (AllAnswer (call.configureHugetlb branch names)
          → 0 < timesOn name (call.configureHugetlb branch names)) := by
  have hcall := fun (call : Call) s => onAll_spec call.shown names call.answers
    (hugetlbCmd branch call.enable) call.σ call.clock (confFile branch).toList s hnames name hname
  refine ⟨?_, fun call _ => ⟨(hcall call s).2.1, (hcall call s).2.2⟩⟩
  induction calls generalizing s marks with
  | nil => exact hsetting
  | cons call calls ih =>
      refine ih _ (marksAfterCall marks call.enable
        (timesOn name (call.configureHugetlb branch names))) ?_
      have hafter := (hcall call s).1
      have hedit : editFile (confFile branch).toList (lineOf (hugetlbCmd branch call.enable))
          = fun lines => lines.map (toggle call.enable) :=
        funext (editFile_hugetlb branch call.enable)
      rw [hedit] at hafter
      dsimp only
      change (filesAfter _ s (runOnAll _ _ _ _ _) name)[i]? = _
      rw [hafter, getElem?_iterate_map, hsetting]
      exact congrArg some (toggle_iterate _ _ _ _ hrest)

/-- Disabling, which is lost at first, and enabling. -/
def switchedTwice : List Call :=
  [⟨false, uptimeShown, fun _ => lostThenDone, fun _ => Schedule.sequential Execution, fun _ => 0⟩,
    ⟨true, uptimeShown, fun _ _ => .result ⟨0, "", ""⟩, fun _ => Schedule.sequential Execution,
      fun _ => 0⟩]

theorem switchedTwice_marks : ((fun _ => [setting 0 "=1".toList] : String → List (List Char))
      "10.0.0.1")[0]? = some (setting 0 "=1".toList)
    ∧ (filesAfterCalls "mainline" ["10.0.0.1"] (fun _ => [setting 0 "=1".toList]) switchedTwice
        "10.0.0.1")[0]?
      = some (setting (marksAfter "mainline" ["10.0.0.1"] "10.0.0.1" 0 switchedTwice) "=1".toList)
    ∧ ∀ call ∈ switchedTwice, timesOn "10.0.0.1" (call.configureHugetlb "mainline" ["10.0.0.1"]) ≤ 3
      ∧ (AllAnswer (call.configureHugetlb "mainline" ["10.0.0.1"])
        → 0 < timesOn "10.0.0.1" (call.configureHugetlb "mainline" ["10.0.0.1"])) :=
  ⟨rfl, hugetlb_history "mainline" ["10.0.0.1"] "10.0.0.1" (by decide) (by decide) switchedTwice
    (fun _ => [setting 0 "=1".toList]) 0 0 "=1".toList (by decide) rfl⟩

end Hugetlb

end XpandConf

end Xbench
