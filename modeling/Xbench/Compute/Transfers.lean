import Xbench.Common.Retry

/-!
# Copying Files

Two clients copy files over SSH. `SshClient` serves one host and `PsshClient`
a list of them; the second takes its coroutines from the first and gathers
them. A coroutine does nothing until it is awaited, and a decorated function
that returns one has returned: `awaitScpSend_eq` says that the retries around
`_scp_send` never see what the copy comes to. `gather` puts the exceptions of
the copies among its results, and the results are thrown away.

So `PsshClient.send_files` returns whatever happens, after one call for each
host, while the `send_files` of a single client is retried around the awaiting
and returns when a call succeeds (`sendFiles_returns_iff`). Its
`receive_files` awaits `_scp_send` as well: what it copies is the local file
under the remote name.

What comes of a call is anything the network may make of it. A call that
fails leaves the files as they were; a path names a file or a directory with
what is in it.

## Main definitions

* `ScpExn`: What may be raised.
* `Transfer`: What is copied where.
* `Files`: The files of the machine and of the hosts.
* `SshClient`: A client of one host, with what comes of its calls.
* `SshClient.scpSend`: The decorated coroutine function.
* `SshClient.sendFiles`: Copying to one host.
* `SshClient.receiveFiles`: What stands for copying from it.
* `PsshClient.sendFiles`: Copying to every host.
* `PsshClient.receiveFiles`: Copying from every host.
* `TellsTruth`: A copy that returns has succeeded everywhere.
* `SameEffect`: The two clients receive the same.

## Theorems

* `awaitScpSend_eq`: The retries do not reach the copy.
* `sendFiles_returns_iff`: The single client returns when a call succeeds.
* `gathered_returns`: Gathered copies always return.
* `copies_truthful_iff`: When copies tell the truth.
-/

namespace Xbench

open Effect

/-- What may be raised. -/
inductive ScpExn where
  | osError (message : String)
  | asyncssh (message : String)
  | timeout
  | sigTerm
  | other (message : String)
  | sshClient (message : String)
  | psshClient (message : String)
  | node (message : String)
deriving DecidableEq

def ScpExn.str : ScpExn → String
  | .osError m | .asyncssh m | .other m | .sshClient m | .psshClient m | .node m => m
  | .timeout | .sigTerm => ""

/-- `(OSError, asyncssh.Error, asyncio.exceptions.TimeoutError)`. -/
def ScpExn.transient : ScpExn → Bool
  | .osError _ | .asyncssh _ | .timeout => true
  | _ => false

/-- The machine itself or a host. -/
inductive Place where
  | here
  | host (name : String)
deriving DecidableEq

/-- What is copied where. -/
structure Transfer where
  source : Place
  sourcePath : String
  target : Place
  targetPath : String
  recursive : Bool
deriving DecidableEq

/-- The files of every place, by their paths. -/
abbrev Files := Place → String → Option String

def Files.put (w : Files) (place : Place) (path : String) (content : Option String) : Files :=
  fun p q => if p = place ∧ q = path then content else w p q

theorem put_self (w : Files) (place : Place) (path : String) (content : Option String) :
    w.put place path content place path = content :=
  if_pos ⟨rfl, rfl⟩

theorem put_other (w : Files) (place p : Place) (path : String) (content : Option String)
    (h : p ≠ place) : w.put place path content p = w p :=
  funext fun _ => if_neg fun hpq => h hpq.1

theorem put_same (w : Files) (place : Place) (path : String) (content : Option String)
    (h : w place path = content) : w.put place path content = w := by
  funext p q
  by_cases hpq : p = place ∧ q = path
  · rw [Files.put, if_pos hpq, ← h, hpq.1, hpq.2]
  · rw [Files.put, if_neg hpq]

/-- A client, with what comes of its calls of `asyncssh.scp`, which are
    numbered, the clock, and how arguments and exceptions are written. -/
structure SshClient where
  hostname : String
  scp : Transfer → Nat → Except ScpExn Unit
  clock : Nat → Int
  args : String → String → Bool → String
  excInfo : ScpExn → String

/-- What a copy does: its calls, and what they store. -/
inductive ScpEvent where
  | tried (client : SshClient) (t : Transfer) (call : Nat)
  | stored (place : Place) (path : String) (content : Option String)

def ScpEvent.apply (w : Files) : ScpEvent → Files
  | .tried _ _ _ => w
  | .stored place path content => w.put place path content

/-- The files after what was done. -/
def Files.after (w : Files) (trace : List ScpEvent) : Files :=
  trace.foldl ScpEvent.apply w

/-- What awaiting a coroutine does, at the call of the given number. -/
abbrev Coroutine := Nat → Effect ScpEvent ScpExn Unit

/-- The delays that are drawn where the functions are decorated. -/
structure Draws where
  scpSend : Nat → Nat
  sendFiles : Nat → Nat
  receiveFiles : Nat → Nat

/-- The decorator of the copying functions. -/
def scpRetry (attempts : Nat) (random : Nat → Nat) : Retry ScpExn where
  exceptionsToCheck := ScpExn.transient
  sigTerm := fun e => e == .sigTerm
  isException := fun _ => true
  exceptionToRaise := .sshClient
  stopIteration := .other "generator raised StopIteration"
  maxDelay := 300
  delays := Retry.backoffWithJitter random 10 attempts 45

theorem scpRetry_length (attempts : Nat) (random : Nat → Nat) :
    (scpRetry attempts random).delays.length = attempts := by
  rw [scpRetry, Retry.backoffWithJitter, List.length_map, List.length_range]

theorem scpRetry_delays (attempts : Nat) (random : Nat → Nat) (h : 0 < attempts) :
    (scpRetry attempts random).delays ≠ [] :=
  List.ne_nil_of_length_pos ((scpRetry_length attempts random).symm ▸ h)

namespace SshClient

variable (c : SshClient) (draws : Draws) (w : Files) (t : Transfer)

def sending (loc rem : String) (recursive : Bool) : Transfer :=
  ⟨.here, loc, .host c.hostname, rem, recursive⟩

def receiving (rem loc : String) (recursive : Bool) : Transfer :=
  ⟨.host c.hostname, rem, .here, loc, recursive⟩

/-- The body of `_scp_send` and `_scp_receive`. -/
def scpCall : Coroutine := fun n => do
  tell (.tried c t n)
  ofExcept (c.scp t n)
  tell (.stored t.target t.targetPath (w t.source t.sourcePath))

/-- A function under the decorator. -/
def wrapped {α : Type} (name : String) (loc rem : String) (recursive : Bool)
    (outcome : Nat → Except ScpExn α) : Wrapped ScpExn α :=
  ⟨name, c.args loc rem recursive, outcome, ScpExn.str, c.excInfo⟩

/-- `_scp_send`: to call the function is to get the coroutine. -/
def scpSend (loc rem : String) (recursive : Bool) : Effect RetryEvent ScpExn Coroutine :=
  (scpRetry 3 draws.scpSend).fRetry
    (c.wrapped "_scp_send" loc rem recursive
      (fun _ => .ok (c.scpCall w (c.sending loc rem recursive)))) c.clock

/-- `_scp_receive`, which is not decorated. -/
def scpReceive (rem loc : String) (recursive : Bool) : Coroutine :=
  c.scpCall w (c.receiving rem loc recursive)

/-- Awaiting what `_scp_send` returns. -/
def awaitScpSend (loc rem : String) (recursive : Bool) : Coroutine := fun n => do
  let coroutine ← relabel (fun _ => none) (c.scpSend draws w loc rem recursive)
  coroutine n

/-- `send_files`. -/
def sendFiles (loc rem : String) (recursive : Bool) : Effect ScpEvent ScpExn Unit :=
  let body := c.awaitScpSend draws w loc rem recursive
  (scpRetry 30 draws.sendFiles).decorate
    (c.wrapped "send_files" loc rem recursive (fun i => (body i).result)) c.clock
    (fun i => (body i).trace)

/-- `receive_files`. It awaits `_scp_send`, whose `recursive` is left at its
    default. -/
def receiveFiles (rem loc : String) (recursive : Bool) : Effect ScpEvent ScpExn Unit :=
  let body := c.awaitScpSend draws w rem loc false
  (scpRetry 30 draws.receiveFiles).decorate
    (c.wrapped "receive_files" rem loc recursive (fun i => (body i).result)) c.clock
    (fun i => (body i).trace)

end SshClient

/-- A client of several hosts. -/
structure PsshClient where
  psshClients : List SshClient

namespace PsshClient

variable (p : PsshClient) (draws : Draws) (σ : Schedule ScpEvent) (w : Files)

/-- `except (OSError, asyncssh.Error)`. -/
def copyFailed : ScpExn → Effect ScpEvent ScpExn Unit
  | .osError m => raise (.psshClient ("S operation failed: " ++ m))
  | .asyncssh m => raise (.psshClient ("S operation failed: " ++ m))
  | e => raise e

/-- `send_files`. The results are not looked at. -/
def sendFiles (loc rem : String) (recursive : Bool) : Effect ScpEvent ScpExn Unit :=
  attempt (do
    let _ ← gather σ (p.psshClients.map (fun c => c.awaitScpSend draws w loc rem recursive 0))
    pure ()) copyFailed

/-- `receive_files`. -/
def receiveFiles (rem loc : String) (recursive : Bool) : Effect ScpEvent ScpExn Unit :=
  attempt (do
    let _ ← gather σ (p.psshClients.map (fun c => c.scpReceive w rem loc recursive 0))
    pure ()) copyFailed

end PsshClient

section Calls

variable (c : SshClient) (draws : Draws) (w : Files) (t : Transfer)

theorem scpCall_ok (n : Nat) (h : c.scp t n = .ok ()) :
    c.scpCall w t n
      = ⟨[.tried c t n, .stored t.target t.targetPath (w t.source t.sourcePath)], .ok ()⟩ := by
  rw [SshClient.scpCall, h]
  rfl

theorem scpCall_error (n : Nat) (e : ScpExn) (h : c.scp t n = .error e) :
    c.scpCall w t n = ⟨[.tried c t n], .error e⟩ := by
  rw [SshClient.scpCall, h]
  rfl

theorem scpCall_result (n : Nat) : (c.scpCall w t n).result = c.scp t n := by
  cases h : c.scp t n with
  | ok _ => rw [scpCall_ok c w t n h]
  | error e => rw [scpCall_error c w t n e h]

theorem tried_mem_scpCall (c' : SshClient) (t' : Transfer) (n i : Nat) :
    .tried c' t' i ∈ (c.scpCall w t n).trace ↔ c' = c ∧ t' = t ∧ i = n := by
  cases h : c.scp t n with
  | ok _ =>
      rw [scpCall_ok c w t n h]
      simp
  | error e =>
      rw [scpCall_error c w t n e h]
      simp

/-- The function returns its coroutine at the first attempt, so the retries do
    not reach the copy. -/
theorem awaitScpSend_eq (loc rem : String) (recursive : Bool) :
    c.awaitScpSend draws w loc rem recursive = c.scpCall w (c.sending loc rem recursive) := by
  funext n
  have hcalled : c.scpSend draws w loc rem recursive
      = ⟨[.call 0], .ok (c.scpCall w (c.sending loc rem recursive))⟩ :=
    Retry.fRetry_returned _ _ _ _ (scpRetry_delays 3 _ (by omega)) rfl
  rw [SshClient.awaitScpSend, hcalled]
  rfl

/-- Calls that fail leave the files as they are. -/
theorem after_failed (l : List Nat) (h : ∀ j ∈ l, ∃ e, c.scp t j = .error e) :
    w.after (l.flatMap (fun i => (c.scpCall w t i).trace)) = w := by
  induction l with
  | nil => rfl
  | cons j l ih =>
      rcases h j List.mem_cons_self with ⟨e, he⟩
      rw [List.flatMap_cons, scpCall_error c w t j e he]
      exact ih fun i hi => h i (List.mem_cons_of_mem j hi)

/-- What a decorated copy of a single client comes to: it succeeds and stores,
    or it fails and the files are as they were. -/
theorem decorated_copy (name args args' : String) (recursive : Bool) (draw : Nat → Nat) :
    let f := c.wrapped name args args' recursive (fun i => (c.scpCall w t i).result)
    let x := (scpRetry 30 draw).decorate f c.clock (fun i => (c.scpCall w t i).trace)
    ((scpRetry 30 draw).Succeeds f c.clock ∧ x.result = .ok ()
        ∧ w.after x.trace = w.put t.target t.targetPath (w t.source t.sourcePath))
      ∨ (¬ (scpRetry 30 draw).Succeeds f c.clock ∧ x.result ≠ .ok () ∧ w.after x.trace = w) := by
  intro f x
  have hdelays := scpRetry_delays 30 draw (by omega)
  have hreturns := (scpRetry 30 draw).decorate_returns_iff f c.clock
    (fun i => (c.scpCall w t i).trace) hdelays
  rcases (scpRetry 30 draw).decorate_spec f c.clock (fun i => (c.scpCall w t i).trace) hdelays with
    ⟨k, _, htrace, hresult, hbefore⟩
  -- the attempts before the last have failed
  have hfailed : ∀ j ∈ List.range k, ∃ e, c.scp t j = .error e := by
    intro j hj
    rcases hbefore j (List.mem_range.mp hj) with ⟨e, he, _⟩
    exact ⟨e, (scpCall_result c w t j).symm.trans he⟩
  have hafter : w.after x.trace = w.after (c.scpCall w t k).trace := by
    have hearlier := after_failed c w t (List.range k) hfailed
    rw [show x.trace = _ from htrace, List.range_succ, List.flatMap_append, List.flatMap_singleton]
    rw [Files.after] at hearlier
    rw [Files.after, List.foldl_append, hearlier]
    rfl
  cases hlast : c.scp t k with
  | ok _ =>
      have hok : f.outcome k = .ok () := (scpCall_result c w t k).trans hlast
      have hx : x.result = .ok () :=
        hresult.trans (((scpRetry 30 draw).wayOut_ok_iff f c.clock k ()).mpr hok)
      refine Or.inl ⟨hreturns.mp ⟨(), hx⟩, hx, ?_⟩
      rw [hafter, scpCall_ok c w t k hlast]
      rfl
  | error e =>
      have hnot : ∀ a, x.result ≠ .ok a := by
        intro a ha
        have hok := ((scpRetry 30 draw).wayOut_ok_iff f c.clock k a).mp (hresult.symm.trans ha)
        have herr : f.outcome k = .error e := (scpCall_result c w t k).trans hlast
        rw [herr] at hok
        cases hok
      refine Or.inr ⟨fun hs => ?_, hnot (), ?_⟩
      · rcases hreturns.mpr hs with ⟨a, ha⟩
        exact hnot a ha
      · rw [hafter, scpCall_error c w t k e hlast]
        rfl

/-- A copy to the host succeeds: some call does, and each before it is to be
    repeated. -/
def SshClient.Copies (attempts : Nat) (draw : Nat → Nat) : Prop :=
  (scpRetry attempts draw).Succeeds
    (c.wrapped "" "" "" false (fun i => c.scp t i)) c.clock

theorem copies_iff (name args args' : String) (recursive : Bool) (draw : Nat → Nat) :
    (scpRetry 30 draw).Succeeds
        (c.wrapped name args args' recursive (fun i => (c.scpCall w t i).result)) c.clock
      ↔ c.Copies t 30 draw := by
  have houtcome : (fun i => (c.scpCall w t i).result) = fun i => c.scp t i :=
    funext fun i => scpCall_result c w t i
  rw [houtcome]
  exact Iff.rfl

/-- The single client returns when a call succeeds, and then it has copied. -/
theorem sendFiles_returns_iff (loc rem : String) (recursive : Bool) :
    (c.sendFiles draws w loc rem recursive).result = .ok ()
      ↔ c.Copies (c.sending loc rem recursive) 30 draws.sendFiles := by
  rw [SshClient.sendFiles, awaitScpSend_eq]
  rcases decorated_copy c w (c.sending loc rem recursive) "send_files" loc rem recursive
    draws.sendFiles with ⟨hs, hok, _⟩ | ⟨hs, hnot, _⟩
  · exact ⟨fun _ => (copies_iff c w _ _ _ _ _ _).mp hs, fun _ => hok⟩
  · exact ⟨fun hok => absurd hok hnot, fun h => absurd ((copies_iff c w _ _ _ _ _ _).mpr h) hs⟩

/-- What `receive_files` of a single client does: it sends. -/
theorem receiveFiles_sends (rem loc : String) (recursive : Bool) :
    (c.Copies (c.sending rem loc false) 30 draws.receiveFiles
        ∧ (c.receiveFiles draws w rem loc recursive).result = .ok ()
        ∧ w.after (c.receiveFiles draws w rem loc recursive).trace
          = w.put (.host c.hostname) loc (w .here rem))
      ∨ (¬ c.Copies (c.sending rem loc false) 30 draws.receiveFiles
        ∧ (c.receiveFiles draws w rem loc recursive).result ≠ .ok ()
        ∧ w.after (c.receiveFiles draws w rem loc recursive).trace = w) := by
  rw [SshClient.receiveFiles, awaitScpSend_eq,
    ← copies_iff c w (c.sending rem loc false) "receive_files" rem loc recursive]
  exact decorated_copy c w (c.sending rem loc false) "receive_files" rem loc recursive
    draws.receiveFiles

end Calls

section Gathered

variable (σ : Schedule ScpEvent) (w : Files) (clients : List SshClient) (draws : Draws)

/-- Gathered copies return whatever they come to. -/
theorem gathered_returns (tasks : List (Effect ScpEvent ScpExn Unit))
    (h : ScpExn → Effect ScpEvent ScpExn Unit) :
    attempt (gather σ tasks >>= fun _ => pure ()) h = ⟨(gather σ tasks).trace, .ok ()⟩ := by
  have hbind : (gather σ tasks >>= fun _ => (pure () : Effect ScpEvent ScpExn Unit))
      = ⟨(gather σ tasks).trace, .ok ()⟩ := by
    rw [bind_ok _ _ _ rfl, trace_pure, List.append_nil, result_pure]
  rw [hbind]
  exact attempt_ok _ _ () rfl

theorem sendFiles_eq (loc rem : String) (recursive : Bool) :
    PsshClient.sendFiles ⟨clients⟩ draws σ w loc rem recursive
      = ⟨(gather σ (clients.map
          (fun c => c.scpCall w (c.sending loc rem recursive) 0))).trace, .ok ()⟩ := by
  rw [PsshClient.sendFiles, gathered_returns]
  simp only [awaitScpSend_eq]

theorem receiveFiles_eq (rem loc : String) (recursive : Bool) :
    PsshClient.receiveFiles ⟨clients⟩ σ w rem loc recursive
      = ⟨(gather σ (clients.map
          (fun c => c.scpCall w (c.receiving rem loc recursive) 0))).trace, .ok ()⟩ :=
  gathered_returns σ _ _

/-- One call for every host, and no other. -/
theorem tried_gathered (transfer : SshClient → Transfer) (c : SshClient) (n : Nat) :
    .tried c (transfer c) n
        ∈ (gather σ (clients.map (fun c => c.scpCall w (transfer c) 0))).trace
      ↔ c ∈ clients ∧ n = 0 := by
  rw [mem_gather_trace]
  constructor
  · rintro ⟨task, htask, hmem⟩
    rcases List.mem_map.mp htask with ⟨c', hc', rfl⟩
    rcases (tried_mem_scpCall c' w (transfer c') c (transfer c) 0 n).mp hmem with ⟨rfl, _, hn⟩
    exact ⟨hc', hn⟩
  · rintro ⟨hc, rfl⟩
    exact ⟨_, List.mem_map.mpr ⟨c, hc, rfl⟩, (tried_mem_scpCall c w _ c _ 0 0).mpr ⟨rfl, rfl, rfl⟩⟩

end Gathered

section Truth

/-- A copy of several hosts tells the truth: it returns only if the copy of
    every host succeeded, and a call that failed in passing is followed by the
    next, as `_scp_send` is decorated. -/
structure TellsTruth (draws : Draws) (clients : List SshClient) (transfer : SshClient → Transfer)
    (x : Effect ScpEvent ScpExn Unit) : Prop where
  complete : x.result = .ok () → ∀ c ∈ clients,
    ∃ n, .tried c (transfer c) n ∈ x.trace ∧ c.scp (transfer c) n = .ok ()
  retried : ∀ c ∈ clients, ∀ n, .tried c (transfer c) n ∈ x.trace →
    (scpRetry 3 draws.scpSend).Retried
      (c.wrapped "" "" "" false (fun i => c.scp (transfer c) i)) c.clock n →
    n + 1 < 3 → .tried c (transfer c) (n + 1) ∈ x.trace

/-- The single client receives as the other does on its host: after either the
    files are the same, the local path has what the remote one had, and the
    files of the host are as they were. -/
structure SameEffect (c : SshClient) (draws : Draws) (σ : Schedule ScpEvent) (w : Files)
    (rem loc : String) (recursive : Bool) : Prop where
  same : w.after (c.receiveFiles draws w rem loc recursive).trace
    = w.after (PsshClient.receiveFiles ⟨[c]⟩ σ w rem loc recursive).trace
  content : (c.receiveFiles draws w rem loc recursive).result = .ok () →
    w.after (c.receiveFiles draws w rem loc recursive).trace .here loc = w (.host c.hostname) rem
  unchanged : w.after (c.receiveFiles draws w rem loc recursive).trace (.host c.hostname)
    = w (.host c.hostname)

variable (draws : Draws) (σ : Schedule ScpEvent) (w : Files) (clients : List SshClient)

theorem tellsTruth_iff (transfer : SshClient → Transfer) :
    TellsTruth draws clients transfer
        ⟨(gather σ (clients.map (fun c => c.scpCall w (transfer c) 0))).trace, .ok ()⟩
      ↔ ∀ c ∈ clients, c.scp (transfer c) 0 = .ok () := by
  constructor
  · intro h c hc
    rcases h.complete rfl c hc with ⟨n, hn, hok⟩
    rw [((tried_gathered σ w clients transfer c n).mp hn).2] at hok
    exact hok
  · intro h
    refine ⟨fun _ c hc => ?_, fun c hc n hn hretried _ => ?_⟩
    · exact ⟨0, (tried_gathered σ w clients transfer c 0).mpr ⟨hc, rfl⟩, h c hc⟩
    · -- the only call succeeded, so there is nothing to repeat
      rcases hretried with ⟨e, he, _⟩
      rw [((tried_gathered σ w clients transfer c n).mp hn).2] at he
      have hok := (h c hc).symm.trans he
      cases hok

/-- What a list with one host receives. -/
theorem after_received (c : SshClient) (rem loc : String) (recursive : Bool) :
    w.after (PsshClient.receiveFiles ⟨[c]⟩ σ w rem loc recursive).trace
      = if c.scp (c.receiving rem loc recursive) 0 = .ok ()
          then w.put .here loc (w (.host c.hostname) rem) else w := by
  have htrace : (gather σ ([c].map (fun c => c.scpCall w (c.receiving rem loc recursive) 0))).trace
      = (c.scpCall w (c.receiving rem loc recursive) 0).trace :=
    interleaving_singleton _ _ (σ.interleave_spec _)
  rw [receiveFiles_eq, htrace]
  cases h : c.scp (c.receiving rem loc recursive) 0 with
  | ok _ =>
      rw [scpCall_ok c w _ 0 h, if_pos rfl]
      rfl
  | error e =>
      rw [scpCall_error c w _ 0 e h, if_neg (by intro h; cases h)]
      rfl

/-- When the single client receives what it should: whenever something is
    copied either way, the local path already has what the remote one has, and
    whenever something is sent, it is on the host already. -/
theorem sameEffect_iff (c : SshClient) (rem loc : String) (recursive : Bool) :
    SameEffect c draws σ w rem loc recursive
      ↔ ((c.scp (c.receiving rem loc recursive) 0 = .ok ()
            ∨ c.Copies (c.sending rem loc false) 30 draws.receiveFiles →
          w .here loc = w (.host c.hostname) rem)
        ∧ (c.Copies (c.sending rem loc false) 30 draws.receiveFiles →
          w (.host c.hostname) loc = w .here rem)) := by
  have hother : Place.here ≠ Place.host c.hostname := by
    intro h
    cases h
  have hreceived := after_received σ w c rem loc recursive
  rcases receiveFiles_sends c draws w rem loc recursive with
    ⟨hcopies, hok, hafter⟩ | ⟨hcopies, hok, hafter⟩
  · -- something is sent: nothing changes here, and the host keeps its files if it had it
    constructor
    · intro h
      have hcontent := h.content hok
      rw [hafter, put_other _ _ _ _ _ hother] at hcontent
      have hunchanged := congrFun h.unchanged loc
      rw [hafter, put_self] at hunchanged
      exact ⟨fun _ => hcontent, fun _ => hunchanged.symm⟩
    · rintro ⟨hlocal, hremote⟩
      have hsent := put_same w (.host c.hostname) loc (w .here rem) (hremote hcopies)
      have hkept := put_same w .here loc (w (.host c.hostname) rem) (hlocal (Or.inr hcopies))
      rw [hsent] at hafter
      refine ⟨?_, fun _ => ?_, ?_⟩
      · rw [hafter, hreceived, hkept, ite_self]
      · rw [hafter]
        exact hlocal (Or.inr hcopies)
      · rw [hafter]
  · constructor
    · intro h
      refine ⟨fun hsome => ?_, fun hsent => absurd hsent hcopies⟩
      rcases hsome with hreceives | hsent
      · have hsame := h.same
        rw [hafter, hreceived, if_pos hreceives] at hsame
        have hlocal := congrFun (congrFun hsame .here) loc
        rwa [put_self] at hlocal
      · exact absurd hsent hcopies
    · rintro ⟨hlocal, _⟩
      refine ⟨?_, fun h => absurd h hok, by rw [hafter]⟩
      rw [hafter, hreceived]
      by_cases hreceives : c.scp (c.receiving rem loc recursive) 0 = .ok ()
      · rw [if_pos hreceives, put_same _ _ _ _ (hlocal (Or.inl hreceives))]
      · rw [if_neg hreceives]

/-- Copies tell the truth: of several hosts both ways, and from one host. -/
structure CopiesTruthful (c : SshClient) (loc rem : String) (recursive : Bool) : Prop where
  send : TellsTruth draws clients (fun c => c.sending loc rem recursive)
    (PsshClient.sendFiles ⟨clients⟩ draws σ w loc rem recursive)
  receive : TellsTruth draws clients (fun c => c.receiving rem loc recursive)
    (PsshClient.receiveFiles ⟨clients⟩ σ w rem loc recursive)
  single : SameEffect c draws σ w rem loc recursive

/-- Copies tell the truth when the first call of every host succeeds, and when
    the single client has nothing to do in either direction. -/
theorem copies_truthful_iff (c : SshClient) (loc rem : String) (recursive : Bool) :
    CopiesTruthful draws σ w clients c loc rem recursive
      ↔ (∀ c ∈ clients, c.scp (c.sending loc rem recursive) 0 = .ok ())
        ∧ (∀ c ∈ clients, c.scp (c.receiving rem loc recursive) 0 = .ok ())
        ∧ (c.scp (c.receiving rem loc recursive) 0 = .ok ()
            ∨ c.Copies (c.sending rem loc false) 30 draws.receiveFiles →
          w .here loc = w (.host c.hostname) rem)
        ∧ (c.Copies (c.sending rem loc false) 30 draws.receiveFiles →
          w (.host c.hostname) loc = w .here rem) := by
  rw [← sameEffect_iff draws σ w c rem loc recursive,
    ← tellsTruth_iff draws σ w clients (fun c => c.sending loc rem recursive),
    ← tellsTruth_iff draws σ w clients (fun c => c.receiving rem loc recursive),
    ← sendFiles_eq, ← receiveFiles_eq]
  exact ⟨fun h => ⟨h.send, h.receive, h.single⟩, fun h => ⟨h.1, h.2.1, h.2.2⟩⟩

/-- A host that refuses the first connection. -/
def refusingClient : SshClient where
  hostname := "driver0"
  scp := fun _ n => if n = 0 then .error (.osError "Connection refused") else .ok ()
  clock := fun _ => 0
  args := fun _ _ _ => "('sysbench.cfg', '/tmp/sysbench.cfg')"
  excInfo := fun _ => ""

/-- The one host refuses, and the copy returns without having copied. -/
theorem refused_copy_returns :
    ¬ ∀ (draws : Draws) (σ : Schedule ScpEvent) (w : Files) (clients : List SshClient)
      (c : SshClient) (loc rem : String) (recursive : Bool),
      CopiesTruthful draws σ w clients c loc rem recursive := by
  intro h
  have hsend := (h ⟨id, id, id⟩ (.sequential ScpEvent) (fun _ _ => none) [refusingClient]
    refusingClient "sysbench.cfg" "/tmp/sysbench.cfg" false).send
  rw [sendFiles_eq] at hsend
  have hok := (tellsTruth_iff _ _ _ _ _).mp hsend refusingClient List.mem_cons_self
  cases hok

end Truth

end Xbench
