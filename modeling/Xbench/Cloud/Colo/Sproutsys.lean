import Xbench.Cloud.Colo.LockFile
import Xbench.Config.Value
import Xbench.Lib.Effect
import Xbench.Lib.Transition
import Mathlib.Data.List.Perm.Basic

/-!
# Colo Host Selection

How the colo cloud picks hosts and records them.

Constructing the cloud reads the lock file once and fills a queue with the
hosts it does not find there. Launching takes hosts off that queue, one for
each instance, and appends a line for each. The queue is a snapshot: launching
does not look at the lock file again.

`getHostForInstance` rotates the queue until the host at its front suits the
instance. The source recurses for each rotation and Python bounds the depth of
a recursion, so the bound is a parameter and running into it is the exception
Python raises. `getHostForInstance_spec` says all a caller needs: the host
comes from the queue, it suits the instance, and the queue that is left holds
nothing new.

`lockHosts` is the loop under the PID file. An exception ends it, and the
lines written before stay in the file, so its result carries the file next to
the exception. `lockHosts_file` and `lockHosts_hosts` describe both.

`Produced` is the set of lock files that launches leave behind, with the
entries that were meant. `Unambiguous` is the condition under which all three
readers agree with those entries about one host and one cluster, and the main
result is that they agree exactly then.

## Main definitions

* `Sproutsys`: The object after construction.
* `Suits`: A host fits the requested instance type.
* `checkNodeAvailability`: Are there enough hosts of the kind?
* `getHostForInstance`: Taking a suitable host off the queue.
* `lockHosts`: The loop under the PID file.
* `Produced`: The lock files that launches leave behind.
* `Decoded`: The readers agree with the entries.
* `Unambiguous`: No line holds the name of something it is not about.

## Theorems

* `getHostForInstance_spec`: The host is suitable and from the queue.
* `lockHosts_params`: The instances come out as they went in, up to their host.
* `lockHosts_file`: The loop appends the lines of the hosts it took.
* `lockHosts_hosts`: The hosts it took are suitable and from the queue.
* `produced_render`: A produced file is the text of its entries.
-/

namespace Xbench

namespace Colo

open Text

/-- The object after construction. `hostList` is the queue, `availableHosts`
    the list it was filled from. -/
structure Sproutsys where
  clusterName : ClusterName
  coloHostsFilePath : String
  availableHosts : List HostName
  hostList : List HostName
deriving DecidableEq

def xbenchLockFile : String := "/var/lock/xbench.lock"

/-- `kind == "*" or kind in host`. -/
def Suits (kind : Value) (host : HostName) : Prop :=
  ∃ k, kind = .str k ∧ (k = "*" ∨ Within k host.text)

/-- `sum(kind in host for host in hosts)`; only a string can be in a string. -/
def countKind (kind : Value) : List HostName → Except Exn Nat
  | [] => .ok 0
  | host :: hosts =>
      match kind with
      | .str k => (countKind kind hosts).map (fun n => if Within k host.text then n + 1 else n)
      | _ => .error ⟨.typeError, "'in <string>' requires string as left operand"⟩

/-- `count > available`; only a number can be compared with one. -/
def exceeds (count : Value) (available : Nat) : Except Exn Bool :=
  match count with
  | .int n => .ok (n > available)
  | .bool b => .ok ((if b then 1 else 0) > available)
  | _ => .error ⟨.typeError, "'>' not supported between instances"⟩

/-- `_check_node_availability`. -/
def checkNodeAvailability (self : Sproutsys) (count kind : Value) : Except Exn Unit := do
  let available ← countKind kind self.availableHosts
  if ← exceeds count available then
    .error ⟨.coloCloudProvisioning,
      "Not enough host available.  Requested " ++ count.text ++ " '" ++ kind.text
        ++ "' instances, but " ++ toString available
        ++ " are available.  Check your inventory file at " ++ self.coloHostsFilePath
        ++ " or the currently in-use nodes at " ++ xbenchLockFile⟩
  else .ok ()

/-- `kind == "*" or kind in host`, as it is evaluated. -/
def kindMatches (kind : Value) (host : HostName) : Except Exn Bool :=
  match kind with
  | .str k => .ok (k == "*" || decide (Within k host.text))
  | _ => .error ⟨.typeError, "'in <string>' requires string as left operand"⟩

/-- A host was found: the instance with its `colo_host`, the host, and the
    queue that is left. -/
structure Found where
  instanceParams : Params
  host : HostName
  hostList : List HostName

/-- `_get_host_for_instance`. The bound is Python's on the depth of a
    recursion. -/
def getHostForInstance (self : Sproutsys) : Nat → List HostName → Params → Except Exn Found
  | _, [], params =>
      .error ⟨.coloCloudProvisioning,
        "No hosts available left to provision '" ++ (params.read "name").text
          ++ "' for instance type '" ++ (params.read "instance_type").text
          ++ "'.  Check your config for '" ++ (params.read "region").text ++ "' at "
          ++ self.coloHostsFilePath⟩
  | 0, _ :: _, _ => .error ⟨.recursionError, "maximum recursion depth exceeded"⟩
  | depth + 1, maybeHost :: queue, params => do
      checkNodeAvailability self (params.read "count") (params.read "instance_type")
      let params := params.set "colo_host" (.str maybeHost.text)
      if ← kindMatches (params.read "instance_type") maybeHost then
        .ok ⟨params, maybeHost, queue⟩
      else getHostForInstance self depth (queue ++ [maybeHost]) params

/-- What the loop under the PID file leaves: the lock file, the queue, the
    hosts it recorded, and the instances or the exception. -/
structure LockRun where
  file : String
  hostList : List HostName
  hosts : List HostName
  result : Except Exn (List Params)

/-- The loop of `launch_instances` under the PID file. -/
def lockHosts (self : Sproutsys) (depth : Nat) : List Params → List HostName → String → LockRun
  | [], queue, file => ⟨file, queue, [], .ok []⟩
  | params :: rest, queue, file =>
      match getHostForInstance self depth queue params with
      | .error e => ⟨file, queue, [], .error e⟩
      | .ok found =>
          let run := lockHosts self depth rest found.hostList
            (lock file ⟨found.host, self.clusterName⟩)
          ⟨run.file, run.hostList, found.host :: run.hosts,
            run.result.map (found.instanceParams :: ·)⟩

theorem kindMatches_suits (kind : Value) (host : HostName)
    (h : kindMatches kind host = .ok true) : Suits kind host := by
  unfold kindMatches at h
  cases kind with
  | str k =>
      have hor := Except.ok.inj h
      rw [Bool.or_eq_true, beq_iff_eq, decide_eq_true_iff] at hor
      exact ⟨k, rfl, hor⟩
  | _ => exact nomatch h

/-- All a caller needs to know about the selection. -/
theorem getHostForInstance_spec (self : Sproutsys) (depth : Nat) (queue : List HostName)
    (params : Params) (found : Found)
    (h : getHostForInstance self depth queue params = .ok found) :
    found.host ∈ queue ∧ Suits (params.read "instance_type") found.host
      ∧ ∀ x ∈ found.hostList, x ∈ queue := by
  induction depth generalizing queue params with
  | zero =>
      cases queue with
      | nil => exact nomatch h
      | cons x queue => exact nomatch h
  | succ depth ih =>
      cases queue with
      | nil => exact nomatch h
      | cons x queue =>
          rw [getHostForInstance] at h
          have hkind : (params.set "colo_host" (.str x.text)).read "instance_type"
              = params.read "instance_type" :=
            Dict.read_set_other params "colo_host" "instance_type" _ (by decide)
          rcases except_bind_eq_ok _ _ _ h with ⟨_, _, hrest⟩
          simp only [hkind] at hrest
          rcases except_bind_eq_ok _ _ _ hrest with ⟨b, hmatch, hbranch⟩
          cases b with
          | true =>
              have hfound := Except.ok.inj hbranch
              rw [← hfound]
              exact ⟨List.mem_cons_self, kindMatches_suits _ _ hmatch,
                fun y hy => List.mem_cons_of_mem x hy⟩
          | false =>
              -- the host goes to the back of the queue, which holds the same hosts
              have hrec := ih (queue ++ [x]) _ hbranch
              rw [hkind] at hrec
              have hsub : ∀ y ∈ queue ++ [x], y ∈ x :: queue := by
                intro y hy
                rcases List.mem_append.mp hy with hq | hx
                · exact List.mem_cons_of_mem x hq
                · rw [List.mem_singleton.mp hx]
                  exact List.mem_cons_self
              exact ⟨hsub _ hrec.1, hrec.2.1, fun y hy => hsub y (hrec.2.2 y hy)⟩

/-- Finding a host writes `colo_host` and no other key. -/
theorem getHostForInstance_params (self : Sproutsys) (depth : Nat) (queue : List HostName)
    (params : Params) (found : Found)
    (h : getHostForInstance self depth queue params = .ok found) (key : String)
    (hkey : key ≠ "colo_host") : found.instanceParams.get? key = params.get? key := by
  induction depth generalizing queue params with
  | zero =>
      cases queue with
      | nil => exact nomatch h
      | cons x queue => exact nomatch h
  | succ depth ih =>
      cases queue with
      | nil => exact nomatch h
      | cons x queue =>
          rw [getHostForInstance] at h
          have hset : (params.set "colo_host" (.str x.text)).get? key = params.get? key :=
            Dict.get?_set_other params "colo_host" key _ hkey
          rcases except_bind_eq_ok _ _ _ h with ⟨_, _, hrest⟩
          rcases except_bind_eq_ok _ _ _ hrest with ⟨b, _, hbranch⟩
          cases b with
          | true =>
              rw [← Except.ok.inj hbranch]
              exact hset
          | false => exact (ih _ _ hbranch).trans hset

/-- The instances that come out of the loop are those that went in, up to
    `colo_host`. -/
theorem lockHosts_params (self : Sproutsys) (depth : Nat) (instances : List Params)
    (queue : List HostName) (file : String) (locked : List Params)
    (h : (lockHosts self depth instances queue file).result = .ok locked) :
    List.Forall₂ (fun p q => ∀ key, key ≠ "colo_host" → q.get? key = p.get? key)
      instances locked := by
  induction instances generalizing queue file locked with
  | nil =>
      rw [lockHosts] at h
      rw [← Except.ok.inj h]
      exact List.Forall₂.nil
  | cons params rest ih =>
      rw [lockHosts] at h
      cases hfound : getHostForInstance self depth queue params with
      | error e =>
          rw [hfound] at h
          exact nomatch h
      | ok found =>
          simp only [hfound] at h
          cases hrest : (lockHosts self depth rest found.hostList
              (lock file ⟨found.host, self.clusterName⟩)).result with
          | error e =>
              rw [hrest] at h
              exact nomatch h
          | ok others =>
              rw [hrest] at h
              rw [← Except.ok.inj h]
              -- each launch sets the host alone
              exact List.Forall₂.cons
                (getHostForInstance_params self depth queue params found hfound)
                (ih _ _ others hrest)

/-- The loop appends the lines of the hosts it took, whether it ends well or
    not. -/
theorem lockHosts_file (self : Sproutsys) (depth : Nat) (instances : List Params)
    (queue : List HostName) (es : List Entry) :
    (lockHosts self depth instances queue (render es)).file
      = render (es ++ (lockHosts self depth instances queue (render es)).hosts.map
          (fun host => ⟨host, self.clusterName⟩)) := by
  induction instances generalizing queue es with
  | nil => rw [lockHosts, List.map_nil, List.append_nil]
  | cons params rest ih =>
      rw [lockHosts]
      cases hfound : getHostForInstance self depth queue params with
      | error e => simp only [List.map_nil, List.append_nil]
      | ok found =>
          have hrest := ih found.hostList (es ++ [⟨found.host, self.clusterName⟩])
          simp only [lock_render]
          rw [hrest, List.map_cons, List.append_assoc, List.singleton_append]

/-- The hosts it took suit an instance and come from the queue. -/
theorem lockHosts_hosts (self : Sproutsys) (depth : Nat) (instances : List Params)
    (queue : List HostName) (file : String) :
    ∀ host ∈ (lockHosts self depth instances queue file).hosts,
      host ∈ queue ∧ ∃ params ∈ instances, Suits (params.read "instance_type") host := by
  induction instances generalizing queue file with
  | nil => exact fun host hh => absurd hh List.not_mem_nil
  | cons params rest ih =>
      intro host hh
      rw [lockHosts] at hh
      cases hfound : getHostForInstance self depth queue params with
      | error e =>
          rw [hfound] at hh
          exact absurd hh List.not_mem_nil
      | ok found =>
          rw [hfound] at hh
          have hspec := getHostForInstance_spec self depth queue params found hfound
          rcases List.mem_cons.mp hh with hfirst | hlater
          · rw [hfirst]
            exact ⟨hspec.1, params, List.mem_cons_self, hspec.2.1⟩
          · rcases ih found.hostList _ host hlater with ⟨hq, p, hp, hsuits⟩
            exact ⟨hspec.2.2 host hq, p, List.mem_cons_of_mem params hp, hsuits⟩

/-- The lock files that launches leave behind, with the entries meant. -/
inductive Produced : String → List Entry → Prop
  | touched : Produced "" []
  | launched (file : String) (es : List Entry) (self : Sproutsys) (depth : Nat)
      (instances : List Params) (h : Produced file es) :
      Produced (lockHosts self depth instances self.hostList file).file
        (es ++ (lockHosts self depth instances self.hostList file).hosts.map
          (fun host => ⟨host, self.clusterName⟩))

theorem produced_render (file : String) (es : List Entry) (h : Produced file es) :
    file = render es := by
  induction h with
  | touched => rfl
  | launched file es self depth instances _ ih =>
      rw [ih]
      exact lockHosts_file self depth instances self.hostList es

/-- The three readers agree with the entries about a host and a cluster. -/
structure Decoded (file : String) (es : List Entry) (host : HostName)
    (cluster : ClusterName) : Prop where
  locked : nodeIsLocked file host = true ↔ ∃ e ∈ es, e.host = host
  running : isRunning file cluster = true ↔ ∃ e ∈ es, e.cluster = cluster
  unlocked : unlock file cluster = render (es.filter (fun e => decide (e.cluster ≠ cluster)))

/-- No line holds the name of a free host, and no line of another cluster
    holds the cluster's name. -/
def Unambiguous (es : List Entry) (host : HostName) (cluster : ClusterName) : Prop :=
  ((∀ e ∈ es, e.host ≠ host) → ∀ e ∈ es, ¬ Within host.text e.line)
    ∧ ∀ e ∈ es, e.cluster ≠ cluster → ¬ Within cluster.text e.line

theorem nodeIsLocked_exact_iff (es : List Entry) (host : HostName) :
    (nodeIsLocked (render es) host = true ↔ ∃ e ∈ es, e.host = host)
      ↔ ((∀ e ∈ es, e.host ≠ host) → ∀ e ∈ es, ¬ Within host.text e.line) := by
  rw [nodeIsLocked_iff]
  constructor
  · intro hiff hfree e he hw
    rcases hiff.mp ⟨e, he, hw⟩ with ⟨e', he', hhost⟩
    exact hfree e' he' hhost
  · intro hfree
    constructor
    · rintro ⟨e, he, hw⟩
      by_contra hnone
      exact hfree (fun e' he' hhost => hnone ⟨e', he', hhost⟩) e he hw
    · rintro ⟨e, he, rfl⟩
      exact ⟨e, he, within_line_host e⟩

/-- When no line of another cluster holds the name, a line that holds it is
    the cluster's own. -/
theorem isRunning_exact (es : List Entry) (cluster : ClusterName)
    (h : ∀ e ∈ es, e.cluster ≠ cluster → ¬ Within cluster.text e.line) :
    isRunning (render es) cluster = true ↔ ∃ e ∈ es, e.cluster = cluster := by
  rw [isRunning_iff]
  constructor
  · rintro ⟨e, he, hw⟩
    by_cases hc : e.cluster = cluster
    · exact ⟨e, he, hc⟩
    · exact absurd hw (h e he hc)
  · rintro ⟨e, he, rfl⟩
    exact ⟨e, he, within_line_cluster e⟩

/-- Unlocking keeps no line of the cluster itself. -/
theorem own_of_kept (es : List Entry) (cluster : ClusterName) (e : Entry)
    (h : e ∈ es.filter (fun e => !decide (Within cluster.text e.line))) : e.cluster ≠ cluster := by
  have hkept := (List.mem_filter.mp h).2
  intro hc
  rw [← hc, Bool.not_eq_true', decide_eq_false_iff_not] at hkept
  exact hkept (within_line_cluster e)

theorem unlock_exact_iff (es : List Entry) (cluster : ClusterName) :
    unlock (render es) cluster = render (es.filter (fun e => decide (e.cluster ≠ cluster)))
      ↔ ∀ e ∈ es, e.cluster ≠ cluster → ¬ Within cluster.text e.line := by
  rw [unlock_render]
  constructor
  · -- a line lost too many makes the two texts differ in length
    intro htext e he hne hw
    have hlen := render_inj_length _ _ htext
    have hsub : (es.filter (fun e => !decide (Within cluster.text e.line)))
        = (es.filter (fun e => decide (e.cluster ≠ cluster))).filter
          (fun e => !decide (Within cluster.text e.line)) := by
      rw [List.filter_filter]
      refine List.filter_congr (fun x hx => ?_)
      cases hwx : decide (Within cluster.text x.line) with
      | true => rfl
      | false =>
          have hcx := own_of_kept es cluster x (List.mem_filter.mpr ⟨hx, by rw [hwx]; rfl⟩)
          rw [decide_eq_true hcx]
          rfl
    rw [hsub] at hlen
    have hall := List.length_filter_eq_length_iff.mp hlen e
      (List.mem_filter.mpr ⟨he, decide_eq_true hne⟩)
    rw [decide_eq_true hw] at hall
    exact nomatch hall
  · intro h
    congr 1
    refine List.filter_congr (fun e he => ?_)
    by_cases hc : e.cluster = cluster
    · have hw : Within cluster.text e.line := by
        rw [← hc]
        exact within_line_cluster e
      rw [decide_eq_true hw, decide_eq_false (fun hne => hne hc)]
      rfl
    · rw [decide_eq_false (h e he hc), decide_eq_true hc]
      rfl

/-- The readers decode a produced file as it was written exactly when no line
    holds the name of something it is not about. -/
theorem decoded_iff_unambiguous (file : String) (es : List Entry) (h : Produced file es)
    (host : HostName) (cluster : ClusterName) :
    Decoded file es host cluster ↔ Unambiguous es host cluster := by
  rw [produced_render file es h]
  constructor
  · intro hd
    exact ⟨(nodeIsLocked_exact_iff es host).mp hd.locked,
      (unlock_exact_iff es cluster).mp hd.unlocked⟩
  · intro hu
    exact ⟨(nodeIsLocked_exact_iff es host).mpr hu.1, isRunning_exact es cluster hu.2,
      (unlock_exact_iff es cluster).mpr hu.2⟩

section Yang

def yang1 : HostName := ⟨"yang1", by decide⟩

def yang10 : HostName := ⟨"yang10", by decide⟩

def dev : ClusterName := ⟨"dev", rfl⟩

def dev2 : ClusterName := ⟨"dev2", rfl⟩

/-- A cloud object that found one host free. -/
def colo (cluster : ClusterName) (host : HostName) : Sproutsys :=
  { clusterName := cluster
    coloHostsFilePath := "colo.yaml"
    availableHosts := [host]
    hostList := [host] }

/-- One instance on any host of the kind. -/
def yangRequest : Params :=
  Dict.ofList [("name", .str "driver-0"), ("instance_type", .str "yang"), ("count", .int 1)]

theorem produced_dev2 : Produced "yang10-dev2\n" [⟨yang10, dev2⟩] := by
  have h := Produced.launched "" [] (colo dev2 yang10) 1 [yangRequest] Produced.touched
  have hfile : (lockHosts (colo dev2 yang10) 1 [yangRequest] (colo dev2 yang10).hostList "").file
      = "yang10-dev2\n" := by decide
  have hhosts : (lockHosts (colo dev2 yang10) 1 [yangRequest] (colo dev2 yang10).hostList "").hosts
      = [yang10] := by decide
  rw [hfile, hhosts] at h
  exact h

/-- One line, and all three readers are wrong: `yang1` reads as locked, `dev`
    reads as running, and terminating `dev` unlocks the host of `dev2`. -/
theorem dev_reads_dev2 :
    Produced "yang10-dev2\n" [⟨yang10, dev2⟩]
      ∧ nodeIsLocked "yang10-dev2\n" yang1 = true
      ∧ isRunning "yang10-dev2\n" dev = true
      ∧ unlock "yang10-dev2\n" dev = ""
      ∧ ¬ Decoded "yang10-dev2\n" [⟨yang10, dev2⟩] yang1 dev := by
  refine ⟨produced_dev2, by decide, by decide, by decide, fun hd => ?_⟩
  rcases hd.locked.mp (by decide) with ⟨e, he, hhost⟩
  rw [List.mem_singleton.mp he] at hhost
  exact absurd hhost (by decide)

/-- With names that do not occur in one another the file decodes. -/
theorem decoded_yang1 : Unambiguous [⟨yang10, dev2⟩] yang10 dev2
    ∧ Decoded "yang10-dev2\n" [⟨yang10, dev2⟩] yang10 dev2 := by
  have hu : Unambiguous [⟨yang10, dev2⟩] yang10 dev2 := by
    constructor
    · intro hfree
      exact absurd rfl (hfree ⟨yang10, dev2⟩ List.mem_cons_self)
    · intro e he hne
      rw [List.mem_singleton.mp he] at hne
      exact absurd rfl hne
  exact ⟨hu, (decoded_iff_unambiguous "yang10-dev2\n" _ produced_dev2 yang10 dev2).mpr hu⟩

end Yang

end Colo

end Xbench
