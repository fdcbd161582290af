import Xbench.Compute.SendFile
import Xbench.Lib.Repeating

/-!
# Running a Command on a Node

`Node.run` is retried around the retries of `SshClient.run`, and a retry runs
the command again. The client repeats what went wrong with the connection, and
the node whatever its client raised, a command that failed among them.

What a connection makes of a line is an answer of the network. The line gives a
result, and then it has been run, or an exception comes instead, and then the
host may have run it all the same. `nodeRun_law` bounds how often a node runs a
command, and says when it has not run one at all.

## Main definitions

* `RunExn`: What may be raised.
* `Answer`: What the network makes of a line.
* `Remote.unsafeRun`: One attempt of a client.
* `Remote.retrying`: A decorated call.
* `Remote.sshRun`: The retried call of a client.
* `Remote.nodeRun`: The retried call of a node.
* `Remote.NodeLaw`: What a call for a node comes to.

## Theorems

* `retrying_spec`: The attempts of a retried call.
* `retrying_length`: How much a retried call does.
* `nodeRun_law`: A node runs a command at most ninety times.
* `nodeRun_failing`: A command that fails is run three times.
-/

namespace Xbench

open Effect

/-- What may be raised while a command is run. -/
inductive RunExn where
  | connection (message : String)
  | osError (message : String)
  | asyncssh (message : String)
  | processTimeout (message : String)
  | timeout
  | sshClient (message : String)
  | sshClientTimeout (message : String)
  | psshClient (message : String)
  | node (message : String)
  | multiNode (message : String)
  | sigTerm
  | other (message : String)
  | cancelled
deriving DecidableEq

namespace RunExn

def str : RunExn → String
  | connection m | osError m | asyncssh m | processTimeout m | sshClient m | sshClientTimeout m
  | psshClient m | node m | multiNode m | other m => m
  | timeout | sigTerm | cancelled => ""

/-- `CancelledError` is no `Exception`. -/
def isException : RunExn → Bool
  | cancelled => false
  | _ => true

/-- `asyncio.TimeoutError`; the one of a process is a kind of it. -/
def isTimeout : RunExn → Bool
  | processTimeout _ | timeout => true
  | _ => false

/-- `(asyncssh.Error, asyncio.exceptions.TimeoutError, ConnectionError,
    ConnectionRefusedError, socket.timeout)`. The last is an `OSError`, and
    those that are no `ConnectionError` are caught before. -/
def transient : RunExn → Bool
  | asyncssh _ | processTimeout _ | timeout | connection _ => true
  | _ => false

/-- `(SshClientException, SshClientTimeoutException)`. -/
def ofClient : RunExn → Bool
  | sshClient _ | sshClientTimeout _ => true
  | _ => false

/-- `(SshClientException, SshClientTimeoutException, PsshClientException)`. -/
def ofClients : RunExn → Bool
  | psshClient _ => true
  | e => e.ofClient

/-- What running a line raises, for the exceptions of running one. -/
def ofScp : ScpExn → RunExn
  | .sshClient m => sshClient m
  | e => other e.str

end RunExn

/-- What the network makes of a line: it gives a result, or an exception comes
    instead, whether the host has run it or not. -/
inductive Answer where
  | result (r : RemoteResult)
  | lost (ran : Bool) (e : RunExn)

/-- Has the host run the line? -/
def Answer.ran : Answer → Bool
  | .result _ => true
  | .lost ran _ => ran

/-- A line that is run on a host. -/
structure Execution where
  hostname : String
  ran : RanLine
deriving DecidableEq

/-- How what is logged and raised is written. -/
structure Shown where
  cmd : String
  args : String
  excInfo : RunExn → String

/-- What is asked of the nodes. -/
structure Request where
  cmd : Cmd
  timeout : Nat
  withSudo : Bool
  ignoreErrors : Bool
  user : Option String

namespace Remote

/-- The line that a host is given for a command. -/
def Request.execution (request : Request) (hostname cmd : String) : Execution :=
  ⟨hostname, ⟨remoteLine cmd request.withSudo request.ignoreErrors request.user, request.timeout⟩⟩

/-- `_run_client`, with what the network makes of the line. -/
def runClient (hostname : String) (answer : Answer) (cmd : String) (request : Request) :
    Effect Execution RunExn HostOutput :=
  match answer with
  | .result r =>
      let ran := Xbench.runClient hostname (fun _ _ => .ok r) cmd request.timeout request.withSudo
        request.ignoreErrors request.user
      ⟨ran.trace.map (Execution.mk hostname), ran.result.mapError RunExn.ofScp⟩
  | .lost ran e => ⟨if ran then [Request.execution request hostname cmd] else [], .error e⟩

section Client

/-- The `except` clauses of `_unsafe_run`. A `ConnectionError` is an `OSError`
    and comes before. -/
def unsafeError (shown : Shown) (ignoreErrors : Bool) : RunExn → Effect Execution RunExn String
  | .connection m => raise (.connection m)
  | .osError m => if ignoreErrors then pure "" else raise (.sshClient m)
  | .processTimeout _ => raise (.sshClientTimeout ("command " ++ shown.cmd ++ " timed out"))
  | .timeout => raise (.connection "")
  | e => raise e

/-- `SshClient._unsafe_run`. -/
def unsafeRun (shown : Shown) (hostname : String) (request : Request) (answer : Answer) :
    Effect Execution RunExn String :=
  attempt (do
    let ret ← runClient hostname answer (cleanCmd request.cmd) request
    pure ret.stdout) (unsafeError shown request.ignoreErrors)

end Client

section Retries

variable {α : Type}

/-- A decorated call, by what each of its attempts would do. -/
def wrapped (name : String) (shown : Shown) (attempts : Nat → Effect Execution RunExn α) :
    Wrapped RunExn α :=
  ⟨name, shown.args, fun i => (attempts i).result, RunExn.str, shown.excInfo⟩

def retrying (self : Retry RunExn) (name : String) (shown : Shown) (clock : Nat → Int)
    (attempts : Nat → Effect Execution RunExn α) : Effect Execution RunExn α :=
  self.decorate (wrapped name shown attempts) clock (fun i => (attempts i).trace)

/-- `backoff`. -/
def backoff (delay attempts : Nat) : List NNRat :=
  (List.range attempts).map (fun i => (delay * 2 ^ i : Nat))

/-- What the decorators of running have in common. -/
def retry (exceptionsToCheck : RunExn → Bool) (exceptionToRaise : String → RunExn) (maxDelay : ℚ)
    (delays : List NNRat) : Retry RunExn where
  exceptionsToCheck := exceptionsToCheck
  sigTerm := fun e => e == .sigTerm
  isException := RunExn.isException
  exceptionToRaise := exceptionToRaise
  stopIteration := .other "generator raised StopIteration"
  maxDelay := maxDelay
  delays := delays

/-- The decorator of `SshClient.run`, which has the default `max_delay`. -/
def sshRetry (random : Nat → Nat) : Retry RunExn :=
  retry RunExn.transient .sshClient 300 (Retry.backoffWithJitter random 10 30 45)

/-- The decorator of `Node.run`. -/
def nodeRetry : Retry RunExn :=
  retry RunExn.ofClient .node 600 (backoff 10 3)

/-- The decorator of `MultiNode.run_on_all_nodes`. -/
def multiRetry : Retry RunExn :=
  retry RunExn.ofClients .multiNode 600 (backoff 10 3)

end Retries

/-- The answers of the network to one node, for each attempt of the node and
    each of its client, with what the clocks show. -/
structure NodeNetwork where
  answers : Nat → Nat → Answer
  clientClock : Nat → Nat → Int
  clock : Nat → Int

section Attempts

variable {α : Type} (self : Retry RunExn) (name : String) (shown : Shown) (clock : Nat → Int)
  (attempts : Nat → Effect Execution RunExn α)

/-- The attempts of a retried call: each before the last is to be repeated, and
    the last is not unless there are no more. -/
theorem retrying_spec (hdelays : self.delays ≠ []) :
    ∃ k < self.delays.length,
      (retrying self name shown clock attempts).trace
          = (List.range (k + 1)).flatMap (fun i => (attempts i).trace)
        ∧ (retrying self name shown clock attempts).result
          = self.wayOut (wrapped name shown attempts) clock k
        ∧ (∀ j < k, self.Retried (wrapped name shown attempts) clock j)
        ∧ (k + 1 < self.delays.length → ¬ self.Retried (wrapped name shown attempts) clock k) := by
  rcases self.fRetry_spec (wrapped name shown attempts) clock hdelays with
    ⟨k, hk, htrace, hresult, hbefore, hlast⟩
  refine ⟨k, hk, ?_, hresult, hbefore, hlast⟩
  have htaken : (self.delays.take k).length = k := by
    rw [List.length_take]
    omega
  change (calls _).flatMap _ = _
  rw [htrace, Retry.calls_eventsFrom, htaken, List.range_eq_range']

/-- A call raises the exception of an attempt that passes, or its own. -/
theorem retrying_raised (e : RunExn) (hdelays : self.delays ≠ [])
    (h : (retrying self name shown clock attempts).result = .error e) :
    (∃ i, (attempts i).result = .error e ∧ self.Passes e)
      ∨ ∃ message, e = self.exceptionToRaise message := by
  rcases retrying_spec self name shown clock attempts hdelays with ⟨k, _, _, hresult, _⟩
  rw [hresult] at h
  rcases self.wayOut_error _ clock k e h with ⟨hout, hpasses⟩ | hmessage
  · exact Or.inl ⟨k, hout, hpasses⟩
  · exact Or.inr hmessage

/-- A call that returns has the value of its last attempt. -/
theorem retrying_returned (a : α) (hdelays : self.delays ≠ [])
    (h : (retrying self name shown clock attempts).result = .ok a) :
    ∃ k < self.delays.length, (attempts k).result = .ok a
      ∧ (retrying self name shown clock attempts).trace
        = (List.range (k + 1)).flatMap (fun i => (attempts i).trace) := by
  rcases retrying_spec self name shown clock attempts hdelays with ⟨k, hk, htrace, hresult, _⟩
  rw [hresult] at h
  exact ⟨k, hk, (self.wayOut_ok_iff _ clock k a).mp h, htrace⟩

/-- What each attempt does at most so often, the call does at most so many times
    as often. -/
theorem retrying_length (n : Nat) (hdelays : self.delays ≠ [])
    (h : ∀ i, (attempts i).trace.length ≤ n) :
    (retrying self name shown clock attempts).trace.length ≤ self.delays.length * n := by
  rcases retrying_spec self name shown clock attempts hdelays with ⟨k, hk, htrace, _⟩
  have hruns := Repeating.length_flatMap_le (List.range (k + 1)) (fun i => (attempts i).trace) n
    (fun i _ => h i)
  rw [List.length_range] at hruns
  rw [htrace]
  exact hruns.trans (Nat.mul_le_mul_right n hk)

/-- What all attempts do is all that the call does. -/
theorem retrying_trace (e : Execution) (hdelays : self.delays ≠ [])
    (h : ∀ i, ∀ e' ∈ (attempts i).trace, e' = e) :
    ∀ e' ∈ (retrying self name shown clock attempts).trace, e' = e := by
  rcases retrying_spec self name shown clock attempts hdelays with ⟨k, _, htrace, _⟩
  intro e' he'
  rw [htrace] at he'
  rcases List.mem_flatMap.mp he' with ⟨i, _, hi⟩
  exact h i e' hi

end Attempts

/-- `SshClient.run`. -/
def sshRun (random : Nat → Nat) (shown : Shown) (hostname : String) (request : Request)
    (clock : Nat → Int) (answers : Nat → Answer) : Effect Execution RunExn String :=
  retrying (sshRetry random) "run" shown clock
    (fun i => unsafeRun shown hostname request (answers i))

/-- `Node.run`. -/
def nodeRun (random : Nat → Nat) (shown : Shown) (hostname : String) (request : Request)
    (network : NodeNetwork) : Effect Execution RunExn String :=
  retrying nodeRetry "run" shown network.clock
    (fun j => sshRun random shown hostname request (network.clientClock j) (network.answers j))

section Node

theorem runClient_result (hostname : String) (r : RemoteResult) (cmd : String)
    (request : Request) :
    runClient hostname (.result r) cmd request
      = ⟨(Xbench.runClient hostname (fun _ _ => .ok r) cmd request.timeout request.withSudo
            request.ignoreErrors request.user).trace.map (Execution.mk hostname),
          (Xbench.runClient hostname (fun _ _ => .ok r) cmd request.timeout request.withSudo
            request.ignoreErrors request.user).result.mapError RunExn.ofScp⟩ := rfl

theorem sshRetry_length (random : Nat → Nat) : (sshRetry random).delays.length = 30 := by
  rw [sshRetry, retry, Retry.backoffWithJitter, List.length_map, List.length_range]

theorem sshRetry_delays (random : Nat → Nat) : (sshRetry random).delays ≠ [] := by
  intro h
  have hlength := sshRetry_length random
  rw [h] at hlength
  cases hlength

theorem nodeRetry_delays : nodeRetry.delays ≠ [] := List.cons_ne_nil _ _

/-- A line is run once where the host runs it. -/
theorem runClient_trace (hostname : String) (answer : Answer) (cmd : String) (request : Request) :
    (runClient hostname answer cmd request).trace
      = if answer.ran then [Request.execution request hostname cmd] else [] := by
  cases answer with
  | result r =>
      rw [runClient_result, runClient_runs]
      rfl
  | lost ran e => rfl

/-- What comes back comes from the host. -/
theorem runClient_ok (hostname : String) (answer : Answer) (cmd : String) (request : Request)
    (o : HostOutput) (h : (runClient hostname answer cmd request).result = .ok o) :
    ∃ r, answer = .result r ∧ o.hostname = hostname
      ∧ (request.ignoreErrors = false → r.exitStatus ≤ 0) := by
  cases answer with
  | lost ran e => cases h
  | result r =>
      rw [runClient_result, Xbench.runClient] at h
      simp only [tell_bind] at h
      rw [bind_ok _ _ r rfl] at h
      dsimp only at h
      by_cases hfailed : (decide (r.exitStatus > 0) && !request.ignoreErrors) = true
      · rw [if_pos hfailed] at h
        cases h
      · rw [if_neg hfailed] at h
        refine ⟨r, rfl, ?_, fun hignore => ?_⟩
        · rw [← Except.ok.inj h]
        · rw [hignore, Bool.not_false, Bool.and_true, decide_eq_true_eq] at hfailed
          exact not_lt.mp hfailed

/-- The handlers do nothing on the host. -/
theorem unsafeRun_trace (shown : Shown) (hostname : String) (request : Request)
    (answer : Answer) :
    (unsafeRun shown hostname request answer).trace
      = if answer.ran then [Request.execution request hostname (cleanCmd request.cmd)] else [] := by
  have hhandler : ∀ e, (unsafeError shown request.ignoreErrors e).trace = [] := by
    intro e
    cases e with
    | osError m =>
        rw [unsafeError]
        by_cases hignore : request.ignoreErrors = true
        · rw [if_pos hignore]
          rfl
        · rw [if_neg hignore]
          rfl
    | _ => rfl
  rw [← runClient_trace, unsafeRun]
  cases hres : (runClient hostname answer (cleanCmd request.cmd) request).result with
  | error e =>
      rw [bind_error _ _ e hres, attempt_error _ _ e rfl, hhandler, List.append_nil]
  | ok o =>
      rw [bind_ok _ _ o hres, attempt_ok _ _ o.stdout rfl, trace_pure, List.append_nil]

/-- An attempt that returns has run the command, or it was told to ignore that
    there was no host. -/
theorem unsafeRun_ok (shown : Shown) (hostname : String) (request : Request) (answer : Answer)
    (out : String) (h : (unsafeRun shown hostname request answer).result = .ok out) :
    (∃ r, answer = .result r ∧ (request.ignoreErrors = false → r.exitStatus ≤ 0))
      ∨ (request.ignoreErrors = true ∧ out = "" ∧ ∃ ran m, answer = .lost ran (.osError m)) := by
  rw [unsafeRun] at h
  cases hres : (runClient hostname answer (cleanCmd request.cmd) request).result with
  | ok o =>
      rcases runClient_ok _ _ _ _ o hres with ⟨r, hr, _, hstatus⟩
      exact Or.inl ⟨r, hr, hstatus⟩
  | error e =>
      rw [bind_error _ _ e hres, attempt_error _ _ e rfl] at h
      cases answer with
      | result r =>
          -- the only exception of a result is that of the client
          rw [runClient_result] at hres
          cases hran : (Xbench.runClient hostname (fun _ _ => .ok r) (cleanCmd request.cmd)
              request.timeout request.withSudo request.ignoreErrors request.user).result with
          | ok o =>
              rw [hran] at hres
              cases hres
          | error e' =>
              rw [hran] at hres
              rw [← Except.error.inj hres] at h
              cases e' with
              | _ => cases h
      | lost ran e' =>
          have he : e' = e := Except.error.inj hres
          rw [he]
          cases e with
          | osError m =>
              rw [unsafeError] at h
              by_cases hignore : request.ignoreErrors = true
              · rw [if_pos hignore] at h
                exact Or.inr ⟨hignore, (Except.ok.inj h).symm, ran, m, rfl⟩
              · rw [if_neg hignore] at h
                cases h
          | _ => cases h

variable (random : Nat → Nat) (shown : Shown) (hostname : String) (request : Request)

/-- The line that a node runs. -/
def nodeExecution : Execution :=
  Request.execution request hostname (cleanCmd request.cmd)

/-- What a call of `Node.run` comes to, of a line that the node is given: the
    node runs nothing else, and at most ninety times. A value is that of a
    command that was run, or stands for a host that could not be reached where
    errors are ignored. -/
structure NodeLaw (line : Execution) (ignoreErrors : Bool) (answers : Nat → Nat → Answer)
    (x : Effect Execution RunExn String) : Prop where
  same : x.trace = List.replicate x.trace.length line
  atMost : x.trace.length ≤ 90
  returned : ∀ out, x.result = .ok out →
    (0 < x.trace.length ∧ ∃ j i r, answers j i = .result r
        ∧ (ignoreErrors = false → r.exitStatus ≤ 0))
      ∨ (ignoreErrors = true ∧ out = "")
  raised : ∀ e, x.result = .error e → (∃ message, e = .node message) ∨ e = .sigTerm
    ∨ e = .cancelled

theorem sshRun_mem (clock : Nat → Int) (answers : Nat → Answer) :
    ∀ e ∈ (sshRun random shown hostname request clock answers).trace,
      e = nodeExecution hostname request := by
  refine retrying_trace _ _ _ _ _ _ (sshRetry_delays random) (fun i e he => ?_)
  rw [unsafeRun_trace] at he
  by_cases hran : (answers i).ran = true
  · rw [if_pos hran] at he
    exact List.mem_singleton.mp he
  · rw [if_neg hran] at he
    exact absurd he List.not_mem_nil

theorem sshRun_length (clock : Nat → Int) (answers : Nat → Answer) :
    (sshRun random shown hostname request clock answers).trace.length ≤ 30 := by
  have hbound := retrying_length (sshRetry random) "run" shown clock
    (fun i => unsafeRun shown hostname request (answers i)) 1 (sshRetry_delays random)
    (fun i => by
      rw [unsafeRun_trace]
      by_cases hran : (answers i).ran = true
      · rw [if_pos hran]
        exact le_refl 1
      · rw [if_neg hran]
        exact Nat.zero_le 1)
  rw [sshRetry_length] at hbound
  exact hbound

/-- What passes through a decorator is no exception that is raised by one. -/
theorem passes_cases (exceptionsToCheck : RunExn → Bool) (exceptionToRaise : String → RunExn)
    (maxDelay : ℚ) (delays : List NNRat) (e : RunExn)
    (h : (retry exceptionsToCheck exceptionToRaise maxDelay delays).Passes e) :
    e = .sigTerm ∨ e = .cancelled := by
  rcases h.2 with hsigTerm | hexception
  · exact Or.inl (beq_iff_eq.mp hsigTerm)
  · cases e with
    | cancelled => exact Or.inr rfl
    | _ => cases hexception

/-- A call of `Node.run` obeys the law, whatever the network does. -/
theorem nodeRun_law (network : NodeNetwork) :
    NodeLaw (nodeExecution hostname request) request.ignoreErrors network.answers
      (nodeRun random shown hostname request network) where
  same := List.eq_replicate_of_mem
    (retrying_trace _ _ _ _ _ _ nodeRetry_delays (fun j => sshRun_mem random shown hostname request
      (network.clientClock j) (network.answers j)))
  atMost := retrying_length nodeRetry "run" shown network.clock _ 30 nodeRetry_delays
    (fun j => sshRun_length random shown hostname request (network.clientClock j)
      (network.answers j))
  returned := by
    intro out hout
    -- the value is that of the last attempt of the last attempt
    rcases retrying_returned _ _ _ _ _ out nodeRetry_delays hout with ⟨j, _, hj, htrace⟩
    rcases retrying_returned _ _ _ _ _ out (sshRetry_delays random) hj with ⟨i, _, hi, htrace'⟩
    rcases unsafeRun_ok shown hostname request (network.answers j i) out hi with
      ⟨r, hr, hstatus⟩ | ⟨hignore, hempty, _⟩
    · refine Or.inl ⟨List.length_pos_of_mem (a := nodeExecution hostname request) ?_, j, i, r, hr,
        hstatus⟩
      rw [nodeRun, htrace]
      refine List.mem_flatMap.mpr ⟨j, List.mem_range.mpr (Nat.lt_succ_self j), ?_⟩
      change _ ∈ (retrying _ _ _ _ _).trace
      rw [htrace']
      refine List.mem_flatMap.mpr ⟨i, List.mem_range.mpr (Nat.lt_succ_self i), ?_⟩
      rw [unsafeRun_trace, hr]
      exact List.mem_singleton.mpr rfl
    · exact Or.inr ⟨hignore, hempty⟩
  raised := by
    intro e he
    rcases retrying_raised _ _ _ _ _ e nodeRetry_delays he with ⟨_, _, hpasses⟩ | hmessage
    · exact Or.inr (passes_cases _ _ _ _ e hpasses)
    · exact Or.inl hmessage

/-- A command that fails: the attempt is made, and its exception is one of the
    client. -/
theorem unsafeRun_failing (r : RemoteResult) (hstatus : 0 < r.exitStatus)
    (hignore : request.ignoreErrors = false) :
    ∃ message, (unsafeRun shown hostname request (.result r)).result
      = .error (.sshClient message) := by
  have hfailed : (decide (r.exitStatus > 0) && !request.ignoreErrors) = true := by
    rw [hignore, Bool.not_false, Bool.and_true]
    exact decide_eq_true hstatus
  have hran : ∃ message, (runClient hostname (.result r) (cleanCmd request.cmd) request).result
      = .error (.sshClient message) := by
    rw [runClient_result, Xbench.runClient]
    simp only [tell_bind]
    rw [bind_ok _ _ r rfl]
    dsimp only
    rw [if_pos hfailed]
    exact ⟨_, rfl⟩
  rcases hran with ⟨message, hmessage⟩
  refine ⟨message, ?_⟩
  rw [unsafeRun, bind_error _ _ _ hmessage, attempt_error _ _ _ rfl]
  rfl

/-- The client does not repeat it. -/
theorem sshRun_failing (clock : Nat → Int) (answers : Nat → Answer)
    (hanswer : ∃ r, answers 0 = .result r ∧ 0 < r.exitStatus)
    (hignore : request.ignoreErrors = false) :
    (sshRun random shown hostname request clock answers).trace = [nodeExecution hostname request]
      ∧ ∃ message, (sshRun random shown hostname request clock answers).result
        = .error (.sshClient message) := by
  rcases hanswer with ⟨r, hr, hstatus⟩
  rcases unsafeRun_failing shown hostname request r hstatus hignore with ⟨message, hmessage⟩
  rcases retrying_spec (sshRetry random) "run" shown clock
    (fun i => unsafeRun shown hostname request (answers i)) (sshRetry_delays random) with
    ⟨k, _, htrace, hresult, hbefore, _⟩
  have hout : (wrapped "run" shown (fun i => unsafeRun shown hostname request (answers i))).outcome 0
      = .error (.sshClient message) := by
    change (unsafeRun shown hostname request (answers 0)).result = _
    rw [hr, hmessage]
  have hk : k = 0 := by
    rcases Nat.eq_zero_or_pos k with hzero | hpos
    · exact hzero
    · rcases hbefore 0 hpos with ⟨e, he, hchecked, _⟩
      rw [hout] at he
      rw [← Except.error.inj he] at hchecked
      cases hchecked
  rw [hk] at htrace hresult
  refine ⟨?_, ?_⟩
  · rw [sshRun, htrace, Nat.zero_add, List.range_one, List.flatMap_singleton, unsafeRun_trace, hr]
    rfl
  · rw [sshRun, hresult, Retry.wayOut, hout]
    exact ⟨_, rfl⟩

/-- A command that fails whenever it is run is run three times, and then the
    node gives up. -/
theorem nodeRun_failing (network : NodeNetwork) (hignore : request.ignoreErrors = false)
    (hfails : ∀ j, ∃ r, network.answers j 0 = .result r ∧ 0 < r.exitStatus)
    (hclock : ∀ j, (Retry.timeWaited network.clock j : ℚ) ≤ 600) :
    nodeRun random shown hostname request network
      = ⟨List.replicate 3 (nodeExecution hostname request), .error (.node
          ("Max attempts 2 reached for the function run with args " ++ shown.args))⟩ := by
  have hattempt := fun j => sshRun_failing random shown hostname request (network.clientClock j)
    (network.answers j) (hfails j) hignore
  have hretried : ∀ j, nodeRetry.Retried (wrapped "run" shown (fun j => sshRun random shown hostname
      request (network.clientClock j) (network.answers j))) network.clock j := by
    intro j
    rcases (hattempt j).2 with ⟨message, hmessage⟩
    exact ⟨_, hmessage, rfl, hclock j⟩
  rcases retrying_spec nodeRetry "run" shown network.clock (fun j => sshRun random shown hostname
    request (network.clientClock j) (network.answers j)) nodeRetry_delays with
    ⟨k, hk, htrace, hresult, _, hlast⟩
  -- the last of the three attempts is the one after which there are no more
  have hthree : nodeRetry.delays.length = 3 := rfl
  have hk' : k = 2 := by
    rw [hthree] at hk hlast
    by_contra hne
    exact hlast (by omega) (hretried k)
  subst hk'
  have htrace' : (nodeRun random shown hostname request network).trace
      = List.replicate 3 (nodeExecution hostname request) := by
    rw [nodeRun, htrace]
    have hrange : List.range (2 + 1) = [0, 1, 2] := rfl
    rw [hrange]
    simp only [List.flatMap_cons, List.flatMap_nil, (hattempt _).1]
    rfl
  have hresult' : (nodeRun random shown hostname request network).result = .error (.node
      ("Max attempts 2 reached for the function run with args " ++ shown.args)) := by
    rw [nodeRun, hresult, nodeRetry.wayOut_retried _ _ 2 (hretried 2)]
    rfl
  rcases hcall : nodeRun random shown hostname request network with ⟨t, r⟩
  rw [hcall] at htrace' hresult'
  rw [show t = _ from htrace', show r = _ from hresult']

end Node

/-- A request of a user, and how it is written. -/
def uptime : Request :=
  ⟨.text "uptime", 300, true, false, none⟩

def uptimeShown : Shown :=
  ⟨"uptime", "('uptime',)", fun _ => ""⟩

/-- A node that has no such command. -/
theorem uptime_failing : nodeRun id uptimeShown "10.0.0.1" uptime
      ⟨fun _ _ => .result ⟨127, "", "not found"⟩, fun _ _ => 0, fun _ => 0⟩
    = ⟨List.replicate 3 (nodeExecution "10.0.0.1" uptime), .error (.node
        ("Max attempts 2 reached for the function run with args " ++ "('uptime',)"))⟩ :=
  nodeRun_failing id uptimeShown "10.0.0.1" uptime
    ⟨fun _ _ => .result ⟨127, "", "not found"⟩, fun _ _ => 0, fun _ => 0⟩ rfl
    (fun _ => ⟨_, rfl, by decide⟩) (fun _ => by change ((0 : Int) : ℚ) ≤ 600; decide)

end Remote

end Xbench
