import Mathlib.Data.List.TakeWhile
import Xbench.Cloud.Colo.Sproutsys

/-!
# Which Hosts a Launch Selects

Whether the selection of hosts ends, and how.

A request takes the first host of the queue that suits it, and the hosts before
that one go to the back: `nextHost` is this rotation without its recursion.
What decides between an exception and the recursion is the test of availability
before it, and that counts hosts that were free when the object was built, not
those that are left. When it says yes and no host is left that suits, the
queue turns forever; when it says no although one is left, a request that could
be served is refused. A star suits any host and is counted as a kind like all
others, so no host is ever available for it.

`Consistent` says that the test is right about every request that is reached.
With it the hosts of the requests are those `handed` to them by rotation, and
no two are the same unless the inventory lists a host twice in the region.

## Main definitions

* `checkHostListFile`: No host is in two regions.
* `Sproutsys.init`: Building the object.
* `Request`: A requested instance.
* `suits`: A host fits a kind.
* `available`: How many hosts were free of a kind.
* `nextHost`: The first host that suits, and the queue after it.
* `Consistent`: The test of availability is right about every request.
* `handed`: The hosts handed to all requests.
* `Selects`: The selection ends, and well.

## Theorems

* `getHost_next`: What comes of a request that passes the test.
* `handed_of_run`, `run_of_handed`: The hosts of a run are the handed ones.
* `handed_nodup`: Without a repeated host, none is handed twice.
* `selects_iff`: When the selection ends, and well.
-/

namespace Xbench

namespace Colo

open Text

/-- `kind == "*" or kind in host`. -/
def suits (kind : String) (host : HostName) : Bool :=
  kind == "*" || decide (Within kind host.text)

/-- A requested instance: its type is a string, and its count is positive. -/
structure Request where
  params : Params
  kind : String
  count : Int
  instanceType : params.read "instance_type" = .str kind
  counted : params.read "count" = .int count
  positive : 0 < count

section Init

/-- `_check_host_list_file`: no host is in two regions. -/
def checkHostListFile (hosts : Dict String (List HostName)) : Except Exn Unit :=
  hosts.entries.forM (fun region => region.2.forM (fun host =>
    (hosts.entries.filter (fun other => other.1 != region.1)).forM (fun other =>
      if host ∈ other.2 then
        .error ⟨.coloCloud, "Found '" ++ host.text ++ "' duplicated in colo.yaml in both '"
          ++ region.1 ++ "' and '" ++ other.1 ++ "'"⟩
      else .ok ())))

/-- A shuffle of a list. -/
structure Shuffle where
  shuffled : List HostName → List HostName
  perm : ∀ hosts, (shuffled hosts).Perm hosts

def orchestrationHost : String := "vqc008d.colo.sproutsys.com"

/-- The hosts of a region that are not locked. -/
def freeIn (hosts : List HostName) (file : String) : List HostName :=
  hosts.filter (fun host => !nodeIsLocked file host)

/-- `Sproutsys.__init__`. The queue is the shuffled list of free hosts, and so
    is that list itself. -/
def Sproutsys.init (clusterName : ClusterName) (path gethostname : String)
    (inventory : Dict String (List HostName)) (region file : String) (shuffle : Shuffle) :
    Except Exn Sproutsys := do
  checkHostListFile inventory
  let hosts ← (inventory.get? region).elim (.error ⟨.keyError, region⟩) .ok
  if gethostname ≠ orchestrationHost then
    .error ⟨.coloCloud, "The colo cloud can only be run from " ++ orchestrationHost ++ "."⟩
  else
    .ok ⟨clusterName, path, shuffle.shuffled (freeIn hosts file),
      shuffle.shuffled (freeIn hosts file)⟩

end Init

/-- How many hosts were free that have the kind in their names. -/
def available (self : Sproutsys) (kind : String) : Nat :=
  self.availableHosts.countP (fun host => decide (Within kind host.text))

/-- The first host of the queue that suits, and the queue after it. -/
def nextHost (kind : String) (queue : List HostName) : Option (HostName × List HostName) :=
  match queue.dropWhile (fun host => !suits kind host) with
  | [] => none
  | host :: post => some (host, post ++ queue.takeWhile (fun host => !suits kind host))

/-- The test of availability is right about every request that is reached: it
    says yes when a host is left in the queue that suits, and only then. -/
def Consistent (self : Sproutsys) : List Request → List HostName → Prop
  | [], _ => True
  | r :: rest, queue =>
      (queue ≠ [] → (r.count ≤ available self r.kind ↔ ∃ host ∈ queue, suits r.kind host = true))
        ∧ ∀ host left, nextHost r.kind queue = some (host, left) → Consistent self rest left

/-- The hosts handed to all requests, each the next that suits. -/
def handed : List Request → List HostName → Option (List HostName)
  | [], _ => some []
  | r :: rest, queue =>
      (nextHost r.kind queue).bind (fun x => (handed rest x.2).map (fun hosts => x.1 :: hosts))

section Next

variable (kind : String) (queue : List HostName)

theorem nextHost_none_iff :
    nextHost kind queue = none ↔ ∀ host ∈ queue, suits kind host = false := by
  have hdrop : nextHost kind queue = none
      ↔ queue.dropWhile (fun host => !suits kind host) = [] := by
    unfold nextHost
    cases queue.dropWhile (fun host => !suits kind host) with
    | nil => exact ⟨fun _ => rfl, fun _ => rfl⟩
    | cons host post => exact ⟨fun h => (nomatch h), fun h => (nomatch h)⟩
  rw [hdrop, List.dropWhile_eq_nil_iff]
  simp only [Bool.not_eq_true']

/-- The next host splits the queue: nothing before it suits. -/
theorem nextHost_some (host : HostName) (left : List HostName)
    (h : nextHost kind queue = some (host, left)) :
    ∃ pre post, queue = pre ++ host :: post ∧ (∀ x ∈ pre, suits kind x = false)
      ∧ suits kind host = true ∧ left = post ++ pre := by
  unfold nextHost at h
  cases hdrop : queue.dropWhile (fun x => !suits kind x) with
  | nil =>
      rw [hdrop] at h
      exact nomatch h
  | cons x post =>
      rw [hdrop] at h
      rcases Prod.mk.inj (Option.some.inj h) with ⟨rfl, rfl⟩
      refine ⟨queue.takeWhile (fun x => !suits kind x), post, ?_, fun y hy => ?_, ?_, rfl⟩
      · rw [← hdrop, List.takeWhile_append_dropWhile]
      · have hfront := List.mem_takeWhile_imp hy
        rwa [Bool.not_eq_true'] at hfront
      · have hhead := List.head?_dropWhile_not (fun x => !suits kind x) queue
        rw [hdrop] at hhead
        simpa using hhead

theorem length_nextHost (host : HostName) (left : List HostName)
    (h : nextHost kind queue = some (host, left)) : left.length + 1 = queue.length := by
  rcases nextHost_some kind queue host left h with ⟨pre, post, hsplit, _, _, hleft⟩
  rw [hsplit, hleft, List.length_append, List.length_append, List.length_cons]
  omega

/-- A host that suits is left exactly when there is a next one. -/
theorem exists_suits_iff :
    (∃ host ∈ queue, suits kind host = true) ↔ ∃ x, nextHost kind queue = some x := by
  rw [← Option.isSome_iff_exists, ← not_iff_not, Bool.not_eq_true, Option.isSome_eq_false_iff,
    Option.isNone_iff_eq_none, nextHost_none_iff]
  simp only [not_exists, not_and, Bool.not_eq_true]

end Next

section Host

variable (self : Sproutsys) (kind : String) (count : Int)

/-- The exception of a recursion that is too deep. -/
def tooDeep : Exn :=
  ⟨.recursionError, "maximum recursion depth exceeded"⟩

theorem countKind_str (hosts : List HostName) :
    countKind (.str kind) hosts
      = .ok (hosts.countP (fun host => decide (Within kind host.text))) := by
  induction hosts with
  | nil => rfl
  | cons host hosts ih =>
      rw [countKind, ih, List.countP_cons]
      simp [Except.map]
      split <;> rfl

theorem checkNodeAvailability_ok (h : count ≤ available self kind) :
    checkNodeAvailability self (.int count) (.str kind) = .ok () := by
  unfold checkNodeAvailability
  rw [countKind_str]
  have hnot : decide (count > available self kind) = false :=
    decide_eq_false (by omega)
  unfold available at hnot
  simp [bind, Except.bind, exceeds, hnot]

theorem checkNodeAvailability_error (h : ¬ count ≤ available self kind) :
    ∃ message, checkNodeAvailability self (.int count) (.str kind)
      = .error ⟨.coloCloudProvisioning, message⟩ := by
  unfold checkNodeAvailability
  rw [countKind_str]
  have hgt : decide (count > available self kind) = true :=
    decide_eq_true (by omega)
  unfold available at hgt
  simp [bind, Except.bind, exceeds, hgt]

/-- One turn of the queue for a request that passes the test. -/
theorem getHost_turn (depth : Nat) (x : HostName) (queue : List HostName) (params : Params)
    (hkind : params.read "instance_type" = .str kind) (hcount : params.read "count" = .int count)
    (h : count ≤ available self kind) :
    getHostForInstance self (depth + 1) (x :: queue) params
      = if suits kind x = true then .ok ⟨params.set "colo_host" (.str x.text), x, queue⟩
        else getHostForInstance self depth (queue ++ [x])
          (params.set "colo_host" (.str x.text)) := by
  have hkind' : (params.set "colo_host" (.str x.text)).read "instance_type" = .str kind :=
    (Dict.read_set_other params "colo_host" "instance_type" _ (by decide)).trans hkind
  rw [getHostForInstance, hkind, hcount, checkNodeAvailability_ok self kind count h]
  simp only [hkind']
  rfl

/-- The host that suits is found after as many turns as stand before it. -/
theorem getHost_split (pre : List HostName) (host : HostName) (post : List HostName)
    (depth : Nat) (params : Params) (hkind : params.read "instance_type" = .str kind)
    (hcount : params.read "count" = .int count) (h : count ≤ available self kind)
    (hpre : ∀ x ∈ pre, suits kind x = false) (hhost : suits kind host = true) :
    if pre.length < depth then
      ∃ params', getHostForInstance self depth (pre ++ host :: post) params
        = .ok ⟨params', host, post ++ pre⟩
    else getHostForInstance self depth (pre ++ host :: post) params = .error tooDeep := by
  induction pre generalizing post depth params with
  | nil =>
      cases depth with
      | zero =>
          rw [if_neg (Nat.not_lt_zero _)]
          rfl
      | succ depth =>
          rw [List.length_nil, if_pos (Nat.zero_lt_succ depth), List.nil_append, List.append_nil,
            getHost_turn self kind count depth host post params hkind hcount h, if_pos hhost]
          exact ⟨_, rfl⟩
  | cons x pre ih =>
      cases depth with
      | zero =>
          rw [if_neg (Nat.not_lt_zero _)]
          rfl
      | succ depth =>
          -- the host at the front goes to the back, and one turn is used up
          have hx : ¬ suits kind x = true := by
            rw [hpre x List.mem_cons_self]
            exact Bool.false_ne_true
          have hrec := ih (post ++ [x]) depth (params.set "colo_host" (.str x.text))
            ((Dict.read_set_other params "colo_host" "instance_type" _ (by decide)).trans hkind)
            ((Dict.read_set_other params "colo_host" "count" _ (by decide)).trans hcount)
            (fun y hy => hpre y (List.mem_cons_of_mem x hy))
          rw [List.cons_append,
            getHost_turn self kind count depth x (pre ++ host :: post) params hkind hcount h,
            if_neg hx, List.append_assoc, List.cons_append]
          rw [List.append_assoc, List.singleton_append] at hrec
          rw [List.length_cons]
          by_cases hlt : pre.length < depth
          · rw [if_pos hlt] at hrec
            rw [if_pos (Nat.succ_lt_succ hlt)]
            exact hrec
          · rw [if_neg hlt] at hrec
            rw [if_neg (fun hlt' => hlt (Nat.lt_of_succ_lt_succ hlt'))]
            exact hrec

/-- A queue with no host that suits turns until the recursion is too deep. -/
theorem getHost_unsuited (queue : List HostName) (hne : queue ≠ []) (depth : Nat)
    (params : Params) (hkind : params.read "instance_type" = .str kind)
    (hcount : params.read "count" = .int count) (h : count ≤ available self kind)
    (hnone : ∀ x ∈ queue, suits kind x = false) :
    getHostForInstance self depth queue params = .error tooDeep := by
  induction depth generalizing queue params with
  | zero =>
      cases queue with
      | nil => exact absurd rfl hne
      | cons x queue => rfl
  | succ depth ih =>
      cases queue with
      | nil => exact absurd rfl hne
      | cons x queue =>
          have hx : ¬ suits kind x = true := by
            rw [hnone x List.mem_cons_self]
            exact Bool.false_ne_true
          rw [getHost_turn self kind count depth x queue params hkind hcount h, if_neg hx]
          refine ih (queue ++ [x]) (List.append_ne_nil_of_right_ne_nil _ (List.cons_ne_nil _ _)) _
            ((Dict.read_set_other params "colo_host" "instance_type" _ (by decide)).trans hkind)
            ((Dict.read_set_other params "colo_host" "count" _ (by decide)).trans hcount)
            (fun y hy => ?_)
          rcases List.mem_append.mp hy with hy | hy
          · exact hnone y (List.mem_cons_of_mem x hy)
          · rw [List.mem_singleton.mp hy]
            exact hnone x List.mem_cons_self

end Host

section Request

variable (self : Sproutsys) (r : Request) (queue : List HostName)

/-- What comes of a request that passes the test: the next host, if there is
    one and the recursion may be as deep. -/
theorem getHost_next (depth : Nat) (hne : queue ≠ []) (h : r.count ≤ available self r.kind) :
    (∃ params host left, nextHost r.kind queue = some (host, left)
        ∧ getHostForInstance self depth queue r.params = .ok ⟨params, host, left⟩)
      ∨ (getHostForInstance self depth queue r.params = .error tooDeep
        ∧ (nextHost r.kind queue = none ∨ depth < queue.length)) := by
  cases hnext : nextHost r.kind queue with
  | none =>
      refine Or.inr ⟨?_, Or.inl rfl⟩
      exact getHost_unsuited self r.kind r.count queue hne depth r.params r.instanceType r.counted h
        ((nextHost_none_iff r.kind queue).mp hnext)
  | some x =>
      rcases nextHost_some r.kind queue x.1 x.2 hnext with
        ⟨pre, post, hsplit, hpre, hhost, hleft⟩
      have hfound := getHost_split self r.kind r.count pre x.1 post depth r.params r.instanceType
        r.counted h hpre hhost
      rw [← hsplit, ← hleft] at hfound
      by_cases hlt : pre.length < depth
      · rw [if_pos hlt] at hfound
        rcases hfound with ⟨params, hfound⟩
        exact Or.inl ⟨params, x.1, x.2, rfl, hfound⟩
      · rw [if_neg hlt] at hfound
        refine Or.inr ⟨hfound, Or.inr ?_⟩
        rw [hsplit, List.length_append, List.length_cons]
        omega

/-- A request that does not pass the test is refused. -/
theorem getHost_refused (depth : Nat) (hne : queue ≠ []) (hdepth : 0 < depth)
    (h : ¬ r.count ≤ available self r.kind) :
    ∃ message, getHostForInstance self depth queue r.params
      = .error ⟨.coloCloudProvisioning, message⟩ := by
  cases queue with
  | nil => exact absurd rfl hne
  | cons x queue =>
      cases depth with
      | zero => exact absurd hdepth (Nat.not_lt_zero 0)
      | succ depth =>
          rcases checkNodeAvailability_error self r.kind r.count h with ⟨message, hcheck⟩
          refine ⟨message, ?_⟩
          rw [getHostForInstance, r.instanceType, r.counted, hcheck]
          rfl

/-- A request that is served passed the test and got the next host. -/
theorem getHost_ok (depth : Nat) (found : Found)
    (hfound : getHostForInstance self depth queue r.params = .ok found) :
    queue ≠ [] ∧ r.count ≤ available self r.kind
      ∧ nextHost r.kind queue = some (found.host, found.hostList) := by
  have hne : queue ≠ [] := by
    rintro rfl
    cases depth with
    | zero => exact nomatch hfound
    | succ depth => exact nomatch hfound
  have hdepth : 0 < depth := by
    cases depth with
    | zero =>
        cases queue with
        | nil => exact absurd rfl hne
        | cons x queue => exact nomatch hfound
    | succ depth => exact Nat.zero_lt_succ depth
  by_cases henough : r.count ≤ available self r.kind
  · refine ⟨hne, henough, ?_⟩
    rcases getHost_next self r queue depth hne henough with
      ⟨params, host, left, hnext, hok⟩ | ⟨herror, _⟩
    · rw [hfound] at hok
      rw [hnext, Except.ok.inj hok]
    · rw [hfound] at herror
      exact nomatch herror
  · rcases getHost_refused self r queue depth hne hdepth henough with ⟨message, herror⟩
    rw [hfound] at herror
    exact nomatch herror

/-- A request that is refused found an empty queue or did not pass the
    test. -/
theorem getHost_error (depth : Nat) (e : Exn)
    (herror : getHostForInstance self depth queue r.params = .error e)
    (he : e.isA .coloCloudProvisioning = true) :
    queue = [] ∨ ¬ r.count ≤ available self r.kind := by
  by_cases hne : queue = []
  · exact Or.inl hne
  · refine Or.inr (fun henough => ?_)
    rcases getHost_next self r queue depth hne henough with
      ⟨params, host, left, _, hok⟩ | ⟨hdeep, _⟩
    · rw [herror] at hok
      exact nomatch hok
    · rw [herror] at hdeep
      rw [Except.error.inj hdeep] at he
      exact absurd he (by decide)

end Request

section Runs

variable (self : Sproutsys)

/-- The loop of `launch_instances` over the requests. -/
def selection (depth : Nat) (requests : List Request) (queue : List HostName) (file : String) :
    LockRun :=
  lockHosts self depth (requests.map Request.params) queue file

/-- The loop after a request that is served. -/
def servedRun (depth : Nat) (rest : List Request) (file : String) (found : Found) : LockRun :=
  selection self depth rest found.hostList (lock file ⟨found.host, self.clusterName⟩)

theorem selection_ok (depth : Nat) (r : Request) (rest : List Request) (queue : List HostName)
    (file : String) (found : Found)
    (h : getHostForInstance self depth queue r.params = .ok found) :
    selection self depth (r :: rest) queue file
      = ⟨(servedRun self depth rest file found).file,
        (servedRun self depth rest file found).hostList,
        found.host :: (servedRun self depth rest file found).hosts,
        (servedRun self depth rest file found).result.map
          (fun others => found.instanceParams :: others)⟩ := by
  rw [selection, List.map_cons, lockHosts, h]
  rfl

theorem selection_error (depth : Nat) (r : Request) (rest : List Request)
    (queue : List HostName) (file : String) (e : Exn)
    (h : getHostForInstance self depth queue r.params = .error e) :
    selection self depth (r :: rest) queue file = ⟨file, queue, [], .error e⟩ := by
  rw [selection, List.map_cons, lockHosts, h]

/-- The hosts of a run that serves all requests are the handed ones. -/
theorem handed_of_run (depth : Nat) (requests : List Request) (queue : List HostName)
    (file : String) (locked : List Params)
    (h : (selection self depth requests queue file).result = .ok locked) :
    handed requests queue = some (selection self depth requests queue file).hosts := by
  induction requests generalizing queue file locked with
  | nil => rfl
  | cons r rest ih =>
      cases hfound : getHostForInstance self depth queue r.params with
      | error e =>
          rw [selection_error self depth r rest queue file e hfound] at h
          exact nomatch h
      | ok found =>
          have heq := selection_ok self depth r rest queue file found hfound
          rw [heq] at h ⊢
          rcases except_map_eq_ok _ _ _ h with ⟨others, hothers, _⟩
          rcases getHost_ok self r queue depth found hfound with ⟨_, _, hnext⟩
          rw [handed, hnext, Option.bind_some, ih found.hostList _ others hothers]
          rfl

/-- With a test that is right, requests that can be handed hosts are served. -/
theorem run_of_handed (depth : Nat) (requests : List Request) (queue : List HostName)
    (file : String) (hosts : List HostName) (hconsistent : Consistent self requests queue)
    (hhanded : handed requests queue = some hosts) (hdepth : queue.length ≤ depth) :
    (∃ locked, (selection self depth requests queue file).result = .ok locked)
      ∧ (selection self depth requests queue file).hosts = hosts := by
  induction requests generalizing queue file hosts with
  | nil => exact ⟨⟨[], rfl⟩, Option.some.inj hhanded⟩
  | cons r rest ih =>
      rcases Option.bind_eq_some_iff.mp hhanded with ⟨⟨host, left⟩, hnext, hrest⟩
      rcases Option.map_eq_some_iff.mp hrest with ⟨others, hothers, hhosts⟩
      have hlength := length_nextHost r.kind queue host left hnext
      have hne : queue ≠ [] := by
        rintro rfl
        exact absurd hlength (by simp)
      -- the host is there, so there are hosts enough by the condition
      have henough := (hconsistent.1 hne).mpr ((exists_suits_iff r.kind queue).mpr ⟨_, hnext⟩)
      rcases getHost_next self r queue depth hne henough with
        ⟨params, host', left', hnext', hok⟩ | ⟨_, hnone | hshort⟩
      · rw [hnext] at hnext'
        rcases Prod.mk.inj (Option.some.inj hnext') with ⟨rfl, rfl⟩
        have heq := selection_ok self depth r rest queue file _ hok
        rcases ih left (lock file ⟨host, self.clusterName⟩) others
          (hconsistent.2 host left hnext) hothers (by omega) with
          ⟨⟨locked, hlocked⟩, hsame⟩
        rw [heq]
        exact ⟨⟨params :: locked, congrArg (Except.map _) hlocked⟩,
          (congrArg (List.cons host) hsame).trans hhosts⟩
      · rw [hnext] at hnone
        exact nomatch hnone
      · exact absurd hdepth (not_le.mpr hshort)

/-- A run that serves all requests gives each a host that suits. -/
theorem suits_of_run (depth : Nat) (requests : List Request) (queue : List HostName)
    (file : String) (locked : List Params)
    (h : (selection self depth requests queue file).result = .ok locked) :
    List.Forall₂ (fun r host => suits r.kind host = true) requests
      (selection self depth requests queue file).hosts := by
  induction requests generalizing queue file locked with
  | nil => exact List.Forall₂.nil
  | cons r rest ih =>
      cases hfound : getHostForInstance self depth queue r.params with
      | error e =>
          rw [selection_error self depth r rest queue file e hfound] at h
          exact nomatch h
      | ok found =>
          have heq := selection_ok self depth r rest queue file found hfound
          rw [heq] at h ⊢
          rcases except_map_eq_ok _ _ _ h with ⟨others, hothers, _⟩
          rcases getHost_ok self r queue depth found hfound with ⟨_, _, hnext⟩
          rcases nextHost_some r.kind queue _ _ hnext with ⟨_, _, _, _, hhost, _⟩
          exact List.Forall₂.cons hhost (ih found.hostList _ others hothers)

/-- Every host that is handed out is of the queue, and as often as it is
    there. -/
theorem handed_nodup (requests : List Request) (queue hosts : List HostName)
    (h : handed requests queue = some hosts) (hqueue : queue.Nodup) :
    hosts.Nodup ∧ ∀ host ∈ hosts, host ∈ queue := by
  induction requests generalizing queue hosts with
  | nil =>
      rw [← Option.some.inj h]
      exact ⟨List.nodup_nil, fun host hhost => absurd hhost List.not_mem_nil⟩
  | cons r rest ih =>
      rcases Option.bind_eq_some_iff.mp h with ⟨⟨host, left⟩, hnext, hrest⟩
      rcases Option.map_eq_some_iff.mp hrest with ⟨others, hothers, rfl⟩
      rcases nextHost_some r.kind queue host left hnext with ⟨pre, post, hsplit, _, _, hleft⟩
      have hperm : queue.Perm (host :: left) := by
        rw [hsplit, hleft]
        exact List.perm_middle.trans (List.Perm.cons host List.perm_append_comm)
      have hcons := List.nodup_cons.mp (hperm.nodup_iff.mp hqueue)
      rcases ih left others hothers hcons.2 with ⟨hnodup, hmem⟩
      refine ⟨List.nodup_cons.mpr ⟨fun hhost => hcons.1 (hmem host hhost), hnodup⟩, ?_⟩
      intro x hx
      rw [hperm.mem_iff]
      rcases List.mem_cons.mp hx with rfl | hx
      · exact List.mem_cons_self
      · exact List.mem_cons_of_mem host (hmem x hx)

/-- What a run that ends with an exception leaves: it is not the recursion, and
    no host is left that suits the request that was refused. -/
def Refused (requests : List Request) (run : LockRun) : Prop :=
  ∀ e, run.result = .error e → e.isA .coloCloudProvisioning = true →
    ∃ r, requests[run.hosts.length]? = some r ∧ ∀ host ∈ run.hostList, suits r.kind host = false

/-- The recursion is not too deep. -/
def Ends (run : LockRun) : Prop :=
  ∀ e, run.result = .error e → e.klass ≠ .recursionError

/-- The selection ends, and well: with enough depth for the recursion it is not
    too deep; when all requests are served, it is with free hosts that differ
    and suit them; and when one is refused, no host is left that suits it. -/
structure Selects (inst : Sproutsys) (hosts : List HostName) (file : String)
    (requests : List Request) : Prop where
  terminates : ∃ bound, ∀ depth ≥ bound,
    Ends (selection inst depth requests inst.hostList file)
  assigned : ∀ depth locked, (selection inst depth requests inst.hostList file).result = .ok locked
    → (selection inst depth requests inst.hostList file).hosts.Nodup
      ∧ (∀ host ∈ (selection inst depth requests inst.hostList file).hosts,
        host ∈ hosts ∧ nodeIsLocked file host = false)
      ∧ List.Forall₂ (fun r host => suits r.kind host = true) requests
        (selection inst depth requests inst.hostList file).hosts
  raised : ∀ depth, Refused requests (selection inst depth requests inst.hostList file)

/-- With a test that is right the recursion is as deep as the queue is long. -/
theorem ends_of_consistent (depth : Nat) (requests : List Request) (queue : List HostName)
    (file : String) (hconsistent : Consistent self requests queue)
    (hdepth : queue.length ≤ depth) : Ends (selection self depth requests queue file) := by
  induction requests generalizing queue file with
  | nil => exact fun e he => nomatch he
  | cons r rest ih =>
      cases hfound : getHostForInstance self depth queue r.params with
      | ok found =>
          -- the request is served, and the queue gets shorter
          have heq := selection_ok self depth r rest queue file found hfound
          rcases getHost_ok self r queue depth found hfound with ⟨_, _, hnext⟩
          have hlength := length_nextHost r.kind queue _ _ hnext
          have hrest := ih found.hostList (lock file ⟨found.host, self.clusterName⟩)
            (hconsistent.2 _ _ hnext) (by omega)
          intro e he
          rw [heq] at he
          cases hresult : (servedRun self depth rest file found).result with
          | ok others =>
              rw [hresult] at he
              exact nomatch he
          | error e' =>
              rw [hresult] at he
              rw [← Except.error.inj he]
              exact hrest e' hresult
      | error e =>
          intro e' he'
          rw [selection_error self depth r rest queue file e hfound] at he'
          rw [← Except.error.inj he']
          by_cases hne : queue = []
          · rw [hne] at hfound
            cases depth with
            | zero =>
                rw [← Except.error.inj hfound]
                exact fun hklass => nomatch hklass
            | succ depth =>
                rw [← Except.error.inj hfound]
                exact fun hklass => nomatch hklass
          · have hpositive : 0 < depth :=
              lt_of_lt_of_le (List.length_pos_iff.mpr hne) hdepth
            -- with a host that suits, the recursion would have to be too deep
            by_cases henough : r.count ≤ available self r.kind
            · rcases getHost_next self r queue depth hne henough with
                ⟨params, host, left, _, hok⟩ | ⟨_, hnone | hshort⟩
              · rw [hfound] at hok
                exact nomatch hok
              · rcases (exists_suits_iff r.kind queue).mp ((hconsistent.1 hne).mp henough) with
                  ⟨x, hx⟩
                rw [hnone] at hx
                exact nomatch hx
              · exact absurd hdepth (not_le.mpr hshort)
            · rcases getHost_refused self r queue depth hne hpositive henough with ⟨message, hok⟩
              rw [hfound] at hok
              rw [Except.error.inj hok]
              exact fun hklass => nomatch hklass

/-- With a test that is right, a request that is refused could not be served. -/
theorem refused_of_consistent (depth : Nat) (requests : List Request) (queue : List HostName)
    (file : String) (hconsistent : Consistent self requests queue) :
    Refused requests (selection self depth requests queue file) := by
  induction requests generalizing queue file with
  | nil => exact fun e he => nomatch he
  | cons r rest ih =>
      cases hfound : getHostForInstance self depth queue r.params with
      | ok found =>
          -- the request is served, so the exception is of one that comes later
          have heq := selection_ok self depth r rest queue file found hfound
          rcases getHost_ok self r queue depth found hfound with ⟨_, _, hnext⟩
          have hrest := ih found.hostList (lock file ⟨found.host, self.clusterName⟩)
            (hconsistent.2 _ _ hnext)
          intro e he hprovisioning
          rw [heq] at he ⊢
          cases hresult : (servedRun self depth rest file found).result with
          | ok others =>
              rw [hresult] at he
              exact nomatch he
          | error e' =>
              rw [hresult] at he
              have hsame : e' = e := Except.error.inj he
              exact hrest e' hresult (hsame ▸ hprovisioning)
      | error e =>
          -- the request is the one refused, with a queue in which no host suits it
          intro e' he' hprovisioning
          rw [selection_error self depth r rest queue file e hfound] at he' ⊢
          rw [← Except.error.inj he'] at hprovisioning
          refine ⟨r, rfl, fun host hhost => ?_⟩
          change host ∈ queue at hhost
          have hne : queue ≠ [] := List.ne_nil_of_mem hhost
          rcases getHost_error self r queue depth e hfound hprovisioning with hnil | hnot
          · exact absurd hnil hne
          · by_contra hsuits
            exact hnot ((hconsistent.1 hne).mpr ⟨host, hhost, Bool.not_eq_false _ |>.mp hsuits⟩)

/-- A selection that ends well had a test that was right. -/
theorem consistent_of_ends (requests : List Request) (queue : List HostName) (file : String)
    (bound : Nat) (h : ∀ depth ≥ bound, Ends (selection self depth requests queue file)
      ∧ Refused requests (selection self depth requests queue file)) :
    Consistent self requests queue := by
  induction requests generalizing queue file bound with
  | nil => exact trivial
  | cons r rest ih =>
      -- deep enough to turn the whole queue
      have hdepth : queue.length + 1 ≤ max bound (queue.length + 1) := le_max_right _ _
      rcases h (max bound (queue.length + 1)) (le_max_left _ _) with ⟨hends, hrefused⟩
      have htest : queue ≠ [] →
          (r.count ≤ available self r.kind ↔ ∃ host ∈ queue, suits r.kind host = true) := by
        intro hne
        constructor
        · intro henough
          refine (exists_suits_iff r.kind queue).mpr ?_
          rcases getHost_next self r queue (max bound (queue.length + 1)) hne henough with
            ⟨params, host, left, hnext, _⟩ | ⟨hdeep, _⟩
          · exact ⟨_, hnext⟩
          · rw [selection_error self _ r rest queue file tooDeep hdeep] at hends
            exact absurd rfl (hends tooDeep rfl)
        · rintro ⟨host, hhost, hsuits⟩
          by_contra hnot
          rcases getHost_refused self r queue (max bound (queue.length + 1)) hne (by omega) hnot
            with ⟨message, herror⟩
          rw [selection_error self _ r rest queue file _ herror] at hrefused
          rcases hrefused _ rfl rfl with ⟨r', hr', hnone⟩
          have hsame : r = r' := Option.some.inj hr'
          rw [← hsame] at hnone
          rw [hnone host hhost] at hsuits
          exact nomatch hsuits
      refine ⟨htest, fun host left hnext => ?_⟩
      have hne : queue ≠ [] := by
        rintro rfl
        exact nomatch hnext
      have henough := (htest hne).mpr ((exists_suits_iff r.kind queue).mpr ⟨_, hnext⟩)
      refine ih left (lock file ⟨host, self.clusterName⟩) (max bound (queue.length + 1))
        (fun depth hge => ?_)
      rcases getHost_next self r queue depth hne henough with
        ⟨params, host', left', hnext', hok⟩ | ⟨_, hnone | hshort⟩
      · rw [hnext] at hnext'
        rcases Prod.mk.inj (Option.some.inj hnext') with ⟨rfl, rfl⟩
        rcases h depth (le_trans (le_max_left _ _) hge) with ⟨hends', hrefused'⟩
        have heq := selection_ok self depth r rest queue file _ hok
        rw [heq] at hends' hrefused'
        exact ⟨fun e he => hends' e (congrArg (Except.map _) he),
          fun e he => hrefused' e (congrArg (Except.map _) he)⟩
      · rw [hnext] at hnone
        exact nomatch hnone
      · exact absurd hshort (by omega)

/-- What a built object knows: its queue holds the free hosts of the region. -/
theorem init_queue (clusterName : ClusterName) (path gethostname : String)
    (inventory : Dict String (List HostName)) (region file : String) (shuffle : Shuffle)
    (hinit : Sproutsys.init clusterName path gethostname inventory region file shuffle = .ok self) :
    ∃ hosts, inventory.get? region = some hosts ∧ self.availableHosts = self.hostList
      ∧ self.hostList.Perm (freeIn hosts file) := by
  unfold Sproutsys.init at hinit
  rcases except_bind_eq_ok _ _ _ hinit with ⟨_, _, hinit⟩
  rcases except_bind_eq_ok _ _ _ hinit with ⟨hosts, hhosts, hinit⟩
  have hget : inventory.get? region = some hosts := by
    cases hregion : inventory.get? region with
    | none =>
        rw [hregion] at hhosts
        exact nomatch hhosts
    | some hosts' =>
        rw [hregion] at hhosts
        exact congrArg some (Except.ok.inj hhosts)
  refine ⟨hosts, hget, ?_⟩
  by_cases hname : gethostname ≠ orchestrationHost
  · rw [if_pos hname] at hinit
    exact nomatch hinit
  · rw [if_neg hname] at hinit
    rw [← Except.ok.inj hinit]
    exact ⟨rfl, shuffle.perm _⟩

/-- The selection ends, and well, exactly when the test of availability is
    right about every request that is reached, and the requests, when all are
    served, do not come to one host twice. -/
theorem selects_iff (clusterName : ClusterName) (path gethostname : String)
    (inventory : Dict String (List HostName)) (region file : String) (shuffle : Shuffle)
    (hinit : Sproutsys.init clusterName path gethostname inventory region file shuffle = .ok self)
    (requests : List Request) :
    Selects self ((inventory.get? region).getD []) file requests
      ↔ Consistent self requests self.hostList
        ∧ ∀ hosts, handed requests self.hostList = some hosts → hosts.Nodup := by
  rcases init_queue self clusterName path gethostname inventory region file shuffle hinit with
    ⟨hosts, hregion, _, hperm⟩
  rw [hregion, Option.getD_some]
  constructor
  · intro h
    -- the run ends from some depth on, and one such depth is enough
    rcases h.terminates with ⟨bound, hbound⟩
    have hconsistent := consistent_of_ends self requests self.hostList file bound
      (fun depth hge => ⟨hbound depth hge, h.raised depth⟩)
    refine ⟨hconsistent, fun hs hhs => ?_⟩
    rcases run_of_handed self self.hostList.length requests self.hostList file hs hconsistent hhs
      (le_refl _) with ⟨⟨locked, hlocked⟩, hsame⟩
    rw [← hsame]
    exact (h.assigned _ locked hlocked).1
  · rintro ⟨hconsistent, hnodup⟩
    refine ⟨⟨self.hostList.length, fun depth hge => ?_⟩, fun depth locked hlocked => ?_,
      fun depth => refused_of_consistent self depth requests self.hostList file hconsistent⟩
    · exact ends_of_consistent self depth requests self.hostList file hconsistent hge
    · refine ⟨hnodup _ (handed_of_run self depth requests self.hostList file locked hlocked),
        fun host hhost => ?_, suits_of_run self depth requests self.hostList file locked hlocked⟩
      have hqueue := (lockHosts_hosts self depth (requests.map Request.params) self.hostList file
        host hhost).1
      rcases List.mem_filter.mp (hperm.mem_iff.mp hqueue) with ⟨hmem, hfree⟩
      rw [Bool.not_eq_true'] at hfree
      exact ⟨hmem, hfree⟩

end Runs

section Examples

def yang01a : HostName := ⟨"yang01a", by decide⟩

def yin01c : HostName := ⟨"yin01c", by decide⟩

/-- A region with a host of either kind. -/
def inventory : Dict String (List HostName) :=
  Dict.ofList [("public", [yang01a, yin01c])]

def unshuffled : Shuffle :=
  ⟨id, fun hosts => List.Perm.refl hosts⟩

/-- The object that finds both free. -/
def publicCloud : Sproutsys :=
  ⟨dev, "colo.yaml", [yang01a, yin01c], [yang01a, yin01c]⟩

/-- One instance of a kind. -/
def requestOf (name kind : String) : Request where
  params := Dict.ofList [("name", .str name), ("instance_type", .str kind), ("count", .int 1)]
  kind := kind
  count := 1
  instanceType := rfl
  counted := rfl
  positive := by decide

/-- An instance of either kind is served. -/
theorem yangAndYin_selects : Selects publicCloud [yang01a, yin01c] ""
    [requestOf "backend-0" "yang", requestOf "driver-0" "yin"] := by
  have hinit : Sproutsys.init dev "colo.yaml" orchestrationHost inventory "public" "" unshuffled
      = .ok publicCloud := by rfl
  refine (selects_iff publicCloud dev "colo.yaml" orchestrationHost inventory "public" "" unshuffled
    hinit [requestOf "backend-0" "yang", requestOf "driver-0" "yin"]).mpr
    ⟨?_, fun hosts hhosts => ?_⟩
  · have hyang : nextHost "yang" [yang01a, yin01c] = some (yang01a, [yin01c]) := by decide
    refine ⟨fun _ => ⟨fun _ => ⟨yang01a, List.mem_cons_self, by decide⟩, fun _ => by decide⟩, ?_⟩
    intro host left hnext
    rcases Prod.mk.inj (Option.some.inj (hyang.symm.trans hnext)) with ⟨_, rfl⟩
    exact ⟨fun _ => ⟨fun _ => ⟨yin01c, List.mem_cons_self, by decide⟩, fun _ => by decide⟩,
      fun _ _ _ => trivial⟩
  · exact (handed_nodup _ _ hosts hhosts (by decide)).1

/-- With the one host of its kind gone, a second request of the kind turns the
    queue until the recursion is too deep, however deep that may be. -/
theorem yangTwice_loops : ¬ ∀ (self : Sproutsys) (clusterName : ClusterName)
    (path gethostname : String) (inventory : Dict String (List HostName)) (region file : String)
    (shuffle : Shuffle) (requests : List Request),
    Sproutsys.init clusterName path gethostname inventory region file shuffle = .ok self →
    Selects self ((inventory.get? region).getD []) file requests := by
  intro h
  have hselects := h publicCloud dev "colo.yaml" orchestrationHost inventory "public" "" unshuffled
    [requestOf "backend1-0" "yang", requestOf "backend2-0" "yang"] rfl
  rcases hselects.terminates with ⟨bound, hbound⟩
  have hfirst : getHostForInstance publicCloud (bound + 1) publicCloud.hostList
      (requestOf "backend1-0" "yang").params
      = .ok ⟨(requestOf "backend1-0" "yang").params.set "colo_host" (.str "yang01a"), yang01a,
        [yin01c]⟩ := rfl
  have hsecond : getHostForInstance publicCloud (bound + 1) [yin01c]
      (requestOf "backend2-0" "yang").params = .error tooDeep :=
    getHost_unsuited publicCloud "yang" 1 [yin01c] (List.cons_ne_nil _ _) (bound + 1) _ rfl rfl
      (by decide) (by decide)
  have hends := hbound (bound + 1) (Nat.le_succ bound)
  rw [selection_ok publicCloud _ _ _ _ _ _ hfirst, servedRun,
    selection_error publicCloud _ _ _ _ _ tooDeep hsecond] at hends
  exact hends tooDeep rfl rfl

end Examples

end Colo

end Xbench
