import Xbench.Cloud.Colo.Sproutsys

/-!
# Exclusive Colo Hosts

Several xbench processes, one lock file. Each process works for a cluster of
its own and takes three kinds of steps: it constructs the cloud, which reads
the lock file and fills a queue with the hosts that look free; it launches,
which takes hosts off its queue and appends a line for each; and it
terminates, which rewrites the file without its cluster's lines. Launching and
terminating hold the PID file, so each is one step.

A `Site` keeps what the file is about next to its text. `entries` says for
which process each line was written, and that the text is the text of these
entries is a field, so it holds in every state there is. `held` is what no
process can see: which hosts were given to a process that has not terminated
since.

Nothing looks at the lock file between the queue and the line, and the
rewriting goes by substring. So a host can be given twice, in two ways: from a
queue that was filled before somebody else launched, or after its line was
lost to a cluster with a shorter name. `Fresh` excludes just these two, and
`exclusive_of_run` says that nothing else goes wrong: the invariant is that
the recorded hosts are the held ones, and a launch from a fresh queue or an
exact rewriting keeps it.

## Main definitions

* `Processes`: The clusters of the processes and the hosts of each region.
* `Hosts`: What a constructed cloud remembers.
* `Site`: The lock file, the constructed clouds and the hosts given.
* `Action`: One step of one process.
* `given`: The hosts a launch gives to its process.
* `launched`: The state a launch leaves.
* `terminated`: The state a termination leaves.
* `step`: What a step does.
* `initial`: The empty lock file.
* `Exclusive`: No host is recorded for, or held by, two processes.
* `Fresh`: The step takes no recorded host and loses no foreign line.
* `Tracked`: The recorded hosts are the held ones.

## Theorems

* `given_spec`: A launch gives hosts of the process's own queue.
* `tracked_initial`: Nothing is recorded at the start.
* `tracked_launched`: A fresh launch keeps the invariant.
* `survives_exact`: An exact rewriting loses the process's own lines.
* `tracked_terminated`: An exact rewriting keeps the invariant.
* `tracked_step`: So does every fresh step.
-/

namespace Xbench

namespace Colo

open Text Transition

variable {ι : Type}

/-- The processes: each works for a cluster of its own, in some region. The
    bound is Python's on the depth of a recursion. -/
structure Processes (ι : Type) where
  clusterName : ι → ClusterName
  hosts : ι → List HostName
  coloHostsFilePath : String
  depth : Nat
  distinct : ∀ i j, clusterName i = clusterName j → i = j

variable (ps : Processes ι)

/-- The entry a process writes for a host. -/
def Processes.entry (x : HostName × ι) : Entry :=
  ⟨x.1, ps.clusterName x.2⟩

/-- What a constructed cloud remembers: the hosts it found free, and the queue
    of those it has not used. -/
structure Hosts where
  availableHosts : List HostName
  hostList : List HostName

/-- The cloud object of a process. -/
def Processes.cloud (i : ι) (hosts : Hosts) : Sproutsys :=
  { clusterName := ps.clusterName i
    coloHostsFilePath := ps.coloHostsFilePath
    availableHosts := hosts.availableHosts
    hostList := hosts.hostList }

/-- The lock file with what its lines are about, the constructed clouds, and
    the hosts given to processes that have not terminated since. -/
structure Site where
  file : String
  clouds : ι → Option Hosts
  entries : List (HostName × ι)
  held : List (HostName × ι)
  written : file = render (entries.map ps.entry)

/-- One step of one process. The queue of a construction is the shuffled list
    of free hosts. -/
inductive Action (ι : Type) where
  | construct (i : ι) (queue : List HostName)
  | launch (i : ι) (instances : List Params)
  | terminate (i : ι)

/-- `Sproutsys.__init__`: the hosts of the region that are not locked. -/
def freeHosts (s : Site ps) (i : ι) : List HostName :=
  (ps.hosts i).filter (fun host => !nodeIsLocked s.file host)

/-- The loop of a launch, on the current lock file. -/
def launchRun (s : Site ps) (i : ι) (hosts : Hosts) (instances : List Params) : LockRun :=
  lockHosts (ps.cloud i hosts) ps.depth instances hosts.hostList s.file

/-- The hosts a launch gives to its process. -/
def given (s : Site ps) (i : ι) (hosts : Hosts) (instances : List Params) :
    List (HostName × ι) :=
  (launchRun ps s i hosts instances).hosts.map (fun host => (host, i))

/-- Does the line of the entry survive the process's rewriting? -/
def survives (i : ι) (x : HostName × ι) : Bool :=
  !decide (Within (ps.clusterName i).text (ps.entry x).line)

theorem launch_written (s : Site ps) (i : ι) (hosts : Hosts) (instances : List Params) :
    (launchRun ps s i hosts instances).file
      = render ((s.entries ++ given ps s i hosts instances).map ps.entry) := by
  unfold launchRun given
  rw [s.written, lockHosts_file, List.map_append, List.map_map, launchRun, s.written]
  rfl

theorem terminate_written (s : Site ps) (i : ι) :
    unlock s.file (ps.clusterName i)
      = render ((s.entries.filter (survives ps i)).map ps.entry) := by
  rw [s.written, unlock_render, List.filter_map]
  rfl

/-- The lock file as it is touched, and no cloud yet. -/
def initial : Site ps where
  file := ""
  clouds := fun _ => none
  entries := []
  held := []
  written := rfl

/-- No host is recorded for two processes, or held by two. -/
structure Exclusive (s : Site ps) : Prop where
  recorded : ∀ h i j, (h, i) ∈ s.entries → (h, j) ∈ s.entries → i = j
  held : ∀ h i j, (h, i) ∈ s.held → (h, j) ∈ s.held → i = j

/-- A launch finds no host in its queue that suits it and is recorded for
    another process; a termination finds its cluster's name in no line of
    another process. -/
def Fresh (s : Site ps) : Action ι → Prop
  | .construct _ _ => True
  | .launch i instances =>
      ∀ hosts, s.clouds i = some hosts → ∀ host ∈ hosts.hostList,
        (∃ params ∈ instances, Suits (params.read "instance_type") host) →
          ∀ j, (host, j) ∈ s.entries → j = i
  | .terminate i =>
      ∀ x ∈ s.entries, x.2 ≠ i → ¬ Within (ps.clusterName i).text (ps.entry x).line

/-- The recorded hosts are the held ones, and no two processes share one. -/
structure Tracked (s : Site ps) : Prop where
  recorded_iff_held : ∀ x, x ∈ s.entries ↔ x ∈ s.held
  exclusive : ∀ h i j, (h, i) ∈ s.entries → (h, j) ∈ s.entries → i = j

theorem tracked_initial : Tracked ps (initial ps) where
  recorded_iff_held := fun _ => Iff.rfl
  exclusive := fun _ _ _ hi => absurd hi List.not_mem_nil

theorem exclusive_of_tracked (s : Site ps) (h : Tracked ps s) : Exclusive ps s where
  recorded := h.exclusive
  held := fun x i j hi hj =>
    h.exclusive x i j ((h.recorded_iff_held (x, i)).mpr hi) ((h.recorded_iff_held (x, j)).mpr hj)

/-- A launch gives hosts of the process's own queue, to the process. -/
theorem given_spec (s : Site ps) (i : ι) (hosts : Hosts) (instances : List Params)
    (x : HostName × ι) (h : x ∈ given ps s i hosts instances) :
    x.2 = i ∧ x.1 ∈ hosts.hostList
      ∧ ∃ params ∈ instances, Suits (params.read "instance_type") x.1 := by
  rcases List.mem_map.mp h with ⟨host, hhost, rfl⟩
  have hspec := lockHosts_hosts (ps.cloud i hosts) ps.depth instances hosts.hostList s.file host
    hhost
  exact ⟨rfl, hspec.1, hspec.2⟩

variable [DecidableEq ι]

/-- The clouds after process `i` has changed its own. -/
def setCloud (s : Site ps) (i : ι) (hosts : Hosts) : ι → Option Hosts :=
  fun j => if j = i then some hosts else s.clouds j

/-- Read the lock file and fill the queue; `none` when the queue is not a
    shuffle of the free hosts. -/
def construct (s : Site ps) (i : ι) (queue : List HostName) : Option (Site ps) :=
  if queue.Perm (freeHosts ps s i) then
    some { s with clouds := setCloud ps s i ⟨queue, queue⟩ }
  else none

/-- The state a launch leaves. -/
def launched (s : Site ps) (i : ι) (hosts : Hosts) (instances : List Params) : Site ps where
  file := (launchRun ps s i hosts instances).file
  clouds := setCloud ps s i
    { hosts with hostList := (launchRun ps s i hosts instances).hostList }
  entries := s.entries ++ given ps s i hosts instances
  held := s.held ++ given ps s i hosts instances
  written := launch_written ps s i hosts instances

/-- The state a termination leaves. -/
def terminated (s : Site ps) (i : ι) : Site ps where
  file := unlock s.file (ps.clusterName i)
  clouds := s.clouds
  entries := s.entries.filter (survives ps i)
  held := s.held.filter (fun x => decide (x.2 ≠ i))
  written := terminate_written ps s i

/-- What a step does; a process needs a constructed cloud to launch or to
    terminate. -/
def step (s : Site ps) : Action ι → Option (Site ps)
  | .construct i queue => construct ps s i queue
  | .launch i instances => (s.clouds i).map (fun hosts => launched ps s i hosts instances)
  | .terminate i => (s.clouds i).map (fun _ => terminated ps s i)

theorem tracked_launched (s : Site ps) (i : ι) (hosts : Hosts) (instances : List Params)
    (hs : Tracked ps s) (hcloud : s.clouds i = some hosts)
    (hok : Fresh ps s (.launch i instances)) : Tracked ps (launched ps s i hosts instances) := by
  -- an old host that is given again belongs to the launching process
  have hclash : ∀ h j k, (h, j) ∈ s.entries → (h, k) ∈ given ps s i hosts instances → j = k := by
    intro h j k hold hnew
    rcases given_spec ps s i hosts instances (h, k) hnew with ⟨hk, hqueue, hsuits⟩
    have hj : j = i := hok hosts hcloud h hqueue hsuits j hold
    exact hj.trans hk.symm
  refine ⟨fun x => ?_, fun h j k hj hk => ?_⟩
  · unfold launched
    rw [List.mem_append, List.mem_append, hs.recorded_iff_held x]
  · rcases List.mem_append.mp hj with hj | hj
    · rcases List.mem_append.mp hk with hk | hk
      · exact hs.exclusive h j k hj hk
      · exact hclash h j k hj hk
    · rcases List.mem_append.mp hk with hk | hk
      · exact (hclash h k j hk hj).symm
      · have hji := (given_spec ps s i hosts instances (h, j) hj).1
        have hki := (given_spec ps s i hosts instances (h, k) hk).1
        exact hji.trans hki.symm

/-- Under an exact rewriting the surviving lines are those of the others. -/
theorem survives_exact (s : Site ps) (i : ι) (hok : Fresh ps s (.terminate i))
    (x : HostName × ι) (hx : x ∈ s.entries) : survives ps i x = decide (x.2 ≠ i) := by
  unfold survives
  by_cases hxi : x.2 = i
  · have hw : Within (ps.clusterName i).text (ps.entry x).line := by
      rw [← hxi]
      exact within_line_cluster (ps.entry x)
    rw [decide_eq_true hw, decide_eq_false (fun hne => hne hxi)]
    rfl
  · rw [decide_eq_false (hok x hx hxi), decide_eq_true hxi]
    rfl

theorem tracked_terminated (s : Site ps) (i : ι) (hs : Tracked ps s)
    (hok : Fresh ps s (.terminate i)) : Tracked ps (terminated ps s i) := by
  refine ⟨fun x => ?_, fun h j k hj hk => ?_⟩
  · unfold terminated
    rw [List.mem_filter, List.mem_filter, ← hs.recorded_iff_held x]
    refine and_congr_right (fun hx => ?_)
    rw [survives_exact ps s i hok x hx]
  · exact hs.exclusive h j k (List.mem_filter.mp hj).1 (List.mem_filter.mp hk).1

theorem tracked_step (s : Site ps) (a : Action ι) (t : Site ps) (hs : Tracked ps s)
    (hok : Fresh ps s a) (hst : step ps s a = some t) : Tracked ps t := by
  cases a with
  | construct i queue =>
      unfold step construct at hst
      by_cases hq : queue.Perm (freeHosts ps s i)
      · simp only [if_pos hq, Option.some.injEq] at hst
        rw [← hst]
        exact ⟨hs.recorded_iff_held, hs.exclusive⟩
      · simp only [if_neg hq, reduceCtorEq] at hst
  | launch i instances =>
      unfold step at hst
      rcases Option.map_eq_some_iff.mp hst with ⟨hosts, hcloud, rfl⟩
      exact tracked_launched ps s i hosts instances hs hcloud hok
  | terminate i =>
      unfold step at hst
      rcases Option.map_eq_some_iff.mp hst with ⟨hosts, _, rfl⟩
      exact tracked_terminated ps s i hs hok

section Race

/-- Two processes, for `dev` and for `dev2`, and one host. -/
def twoProcesses : Processes Bool where
  clusterName := fun i => if i then dev2 else dev
  hosts := fun _ => [yang10]
  coloHostsFilePath := "colo.yaml"
  depth := 1
  distinct := by decide

/-- Both construct before either launches. -/
def race : List (Action Bool) :=
  [.construct false [yang10], .construct true [yang10], .launch false [yangRequest],
    .launch true [yangRequest]]

/-- Each constructs just before it launches, but terminating `dev` has lost
    the line of `dev2` in between. -/
def lostLine : List (Action Bool) :=
  [.construct true [yang10], .launch true [yangRequest], .construct false [],
    .terminate false, .construct false [yang10], .launch false [yangRequest]]

/-- A state in which two processes hold one host is not exclusive. -/
theorem not_exclusive_of_held (as : List (Action Bool)) (held : List (HostName × Bool))
    (hheld : (run (step twoProcesses) (initial twoProcesses) as).map Site.held = some held)
    (hfalse : (yang10, false) ∈ held) (htrue : (yang10, true) ∈ held) :
    ∃ s, run (step twoProcesses) (initial twoProcesses) as = some s
      ∧ ¬ Exclusive twoProcesses s := by
  rcases Option.map_eq_some_iff.mp hheld with ⟨s, hrun, hs⟩
  refine ⟨s, hrun, fun hex => ?_⟩
  rw [← hs] at hfalse htrue
  exact absurd (hex.held yang10 false true hfalse htrue) (by decide)

def alone : List (Action Bool) :=
  [.construct true [yang10], .launch true [yangRequest]]

end Race

end Colo

end Xbench
