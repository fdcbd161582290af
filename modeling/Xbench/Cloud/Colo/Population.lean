import Xbench.Cloud.Colo.Exclusion
import Xbench.Cloud.Colo.Selection
import Xbench.Common.Shuffle

/-!
# Filling the Queue of Hosts

How the colo cloud fills its queue, and that no host is lost there.

Building the object takes the hosts of its region that are not locked, shuffles
them in place and puts one after the other on the queue. As shuffling is a
permutation, a host is on the queue as many times as it is in the region, and
as no host is in two regions that is as many times as it is in the inventory.
Launching takes hosts off the queue or turns it, so what was taken and what is
left make up what was there at first.

`Sproutsys.init` leaves open what the shuffle is. With the loop of the source
for it the object comes out the same, and every shuffle is one that the loop
can make.

## Main definitions

* `Sproutsys.unpopulated`: The object before the queue is filled.
* `populateHosts`: Filling the queue.
* `Sproutsys.construct`: Building the object.
* `timesListed`: How many times the inventory lists a host.
* `shuffleOf`: The shuffle of some random numbers.
* `launches`: Several launches of one object.

## Theorems

* `populateHosts_spec`: What filling the queue does.
* `populateHosts_loses_none`: No host is lost or doubled.
* `construct_eq_init`, `init_eq_construct`: The shuffles are those of the loop.
* `construct_iff_populated`: The same for the processes that share the lock file.
* `lockHosts_conserves`: A launch loses no host.
* `launches_count`: Nor do several.
* `taken_once`: A host that is listed once is taken once at most.
-/

namespace Xbench

namespace Colo

section Populate

/-- `self.host_list.put(item=host)`. -/
def put (queue : List HostName) (host : HostName) : List HostName :=
  queue ++ [host]

/-- `_populate_hosts`. The list of free hosts is shuffled in place. -/
def populateHosts (randint : Randint) (self : Sproutsys) : Except Exn Sproutsys :=
  if self.availableHosts ≠ [] then do
    let shuffled ← shuffleListInplace randint self.availableHosts
    .ok { self with
      availableHosts := shuffled
      hostList := shuffled.foldl put self.hostList }
  else .ok self

/-- `Sproutsys.__init__` before the queue is filled. -/
def Sproutsys.unpopulated (clusterName : ClusterName) (path : String)
    (inventory : Dict String (List HostName)) (region file : String) : Except Exn Sproutsys := do
  checkHostListFile inventory
  let hosts ← (inventory.get? region).elim (.error ⟨.keyError, region⟩) .ok
  .ok ⟨clusterName, path, freeIn hosts file, []⟩

/-- `Sproutsys.__init__`. -/
def Sproutsys.construct (randint : Randint) (clusterName : ClusterName) (path gethostname : String)
    (inventory : Dict String (List HostName)) (region file : String) : Except Exn Sproutsys := do
  let self ← Sproutsys.unpopulated clusterName path inventory region file
  let self ← populateHosts randint self
  if gethostname ≠ orchestrationHost then
    .error ⟨.coloCloud, "The colo cloud can only be run from " ++ orchestrationHost ++ "."⟩
  else .ok self

theorem foldl_put (hosts queue : List HostName) : hosts.foldl put queue = queue ++ hosts := by
  induction hosts generalizing queue with
  | nil => exact (List.append_nil queue).symm
  | cons host hosts ih => rw [List.foldl_cons, ih, put, List.append_assoc, List.singleton_append]

/-- The queue gets the hosts that were free, in some order. -/
theorem populateHosts_spec (randint : Randint) (self : Sproutsys) :
    ∃ shuffled, populateHosts randint self = .ok { self with
        availableHosts := shuffled
        hostList := self.hostList ++ shuffled }
      ∧ shuffleListInplace randint self.availableHosts = .ok shuffled
      ∧ shuffled.Perm self.availableHosts := by
  rcases shuffleListInplace_perm randint self.availableHosts with ⟨shuffled, hrun, hperm⟩
  refine ⟨shuffled, ?_, hrun, hperm⟩
  unfold populateHosts
  by_cases hempty : self.availableHosts = []
  · rw [if_neg (fun h => h hempty)]
    rw [hempty] at hperm
    rw [hperm.eq_nil, List.append_nil, ← hempty]
  · rw [if_pos hempty, hrun]
    exact congrArg (fun queue => Except.ok { self with
      availableHosts := shuffled
      hostList := queue }) (foldl_put shuffled self.hostList)

end Populate

section Inventory

variable (inventory : Dict String (List HostName))

/-- How many times the inventory lists a host, over all regions. -/
def timesListed (host : HostName) : Nat :=
  inventory.values.flatten.count host

/-- The hosts of a region. -/
def regionHosts (region : String) : List HostName :=
  (inventory.get? region).getD []

/-- What the test of the inventory says: a host of a region is in no other. -/
theorem apart_of_check (h : checkHostListFile inventory = .ok ()) :
    ∀ region ∈ inventory.entries, ∀ other ∈ inventory.entries, other.1 ≠ region.1 →
      ∀ host ∈ region.2, host ∉ other.2 := by
  intro region hregion other hother hne host hhost hin
  unfold checkHostListFile at h
  have hhosts := (except_forM_ok_iff _ _).mp h region hregion
  have hothers := (except_forM_ok_iff _ _).mp hhosts host hhost
  have htest := (except_forM_ok_iff _ _).mp hothers other
    (List.mem_filter.mpr ⟨hother, bne_iff_ne.mpr hne⟩)
  rw [if_pos hin] at htest
  cases htest

/-- A host is listed as many times as its region lists it. -/
theorem timesListed_of_region (h : checkHostListFile inventory = .ok ()) (region : String)
    (host : HostName) (hhost : host ∈ regionHosts inventory region) :
    timesListed inventory host = (regionHosts inventory region).count host := by
  unfold regionHosts at hhost ⊢
  cases hget : inventory.get? region with
  | none =>
      rw [hget] at hhost
      exact absurd hhost List.not_mem_nil
  | some hosts =>
      rw [hget, Option.getD_some] at hhost
      rw [Option.getD_some]
      have hmem := Dict.mem_of_lookup inventory.entries region hosts hget
      have hnodup := inventory.nodup
      have hapart := apart_of_check inventory h (region, hosts) hmem
      -- the regions in front of it and those behind have none of its hosts
      rcases List.append_of_mem hmem with ⟨front, back, heq⟩
      rw [heq, List.map_append, List.map_cons, List.nodup_append] at hnodup
      rcases hnodup with ⟨_, hback, hfront⟩
      rw [List.nodup_cons] at hback
      have hnone : ∀ others : List (String × List HostName), others ⊆ inventory.entries →
          (∀ other ∈ others, other.1 ≠ region) →
          (others.map Prod.snd).flatten.count host = 0 := by
        intro others hsub hkeys
        refine List.count_eq_zero.mpr (fun hin => ?_)
        rcases List.mem_flatten.mp hin with ⟨hosts', hhosts', hin⟩
        rcases List.mem_map.mp hhosts' with ⟨other, hother, rfl⟩
        exact hapart other (hsub hother) (hkeys other hother) host hhost hin
      have hleft := hnone front (heq ▸ List.subset_append_left front _)
        (fun other hother => hfront _ (List.mem_map_of_mem hother) _ List.mem_cons_self)
      have hright := hnone back
        (heq ▸ List.subset_append_of_subset_right front (List.subset_cons_self _ back))
        (fun other hother hkey => hback.1 (List.mem_map.mpr ⟨other, hother, hkey⟩))
      rw [timesListed, Dict.values, heq, List.map_append, List.map_cons, List.flatten_append,
        List.flatten_cons, List.count_append, List.count_append, hleft, hright,
        Nat.zero_add, Nat.add_zero]

/-- How many times a host is free in its region. -/
theorem count_freeIn (hosts : List HostName) (file : String) (host : HostName) :
    (freeIn hosts file).count host
      = if host ∈ hosts ∧ nodeIsLocked file host = false then hosts.count host else 0 := by
  by_cases hfree : host ∈ hosts ∧ nodeIsLocked file host = false
  · rw [if_pos hfree, freeIn, List.count_filter (by rw [hfree.2]; rfl)]
  · rw [if_neg hfree, freeIn]
    refine List.count_eq_zero.mpr (fun hin => hfree ?_)
    rcases List.mem_filter.mp hin with ⟨hmem, hlocked⟩
    exact ⟨hmem, Bool.not_eq_true' _ |>.mp hlocked⟩

/-- What the object knows before the queue is filled. -/
theorem unpopulated_ok (clusterName : ClusterName) (path region file : String) (self : Sproutsys)
    (h : Sproutsys.unpopulated clusterName path inventory region file = .ok self) :
    checkHostListFile inventory = .ok ()
      ∧ self = ⟨clusterName, path, freeIn (regionHosts inventory region) file, []⟩ := by
  unfold Sproutsys.unpopulated at h
  rcases except_bind_eq_ok _ _ _ h with ⟨_, hcheck, h⟩
  rcases except_bind_eq_ok _ _ _ h with ⟨hosts, hhosts, h⟩
  refine ⟨hcheck, ?_⟩
  rw [← Except.ok.inj h, regionHosts]
  cases hget : inventory.get? region with
  | none =>
      rw [hget] at hhosts
      cases hhosts
  | some hosts' =>
      rw [hget] at hhosts
      rw [← Except.ok.inj hhosts]
      rfl

end Inventory

/-- The queue that is filled, by the hosts on it. -/
theorem count_populated (randint : Randint) (clusterName : ClusterName) (path : String)
    (inventory : Dict String (List HostName)) (region file : String) (self : Sproutsys)
    (h : Sproutsys.unpopulated clusterName path inventory region file = .ok self) :
    ∃ self', populateHosts randint self = .ok self'
      ∧ ∀ host, self'.hostList.count host
          = if host ∈ regionHosts inventory region ∧ nodeIsLocked file host = false then
              timesListed inventory host
            else 0 := by
  rcases unpopulated_ok inventory clusterName path region file self h with ⟨hcheck, rfl⟩
  rcases populateHosts_spec randint _ with ⟨shuffled, hrun, _, hperm⟩
  refine ⟨_, hrun, fun host => ?_⟩
  change ([] ++ shuffled).count host = _
  rw [List.nil_append, hperm.count_eq, count_freeIn]
  by_cases hfree : host ∈ regionHosts inventory region ∧ nodeIsLocked file host = false
  · rw [if_pos hfree, if_pos hfree, timesListed_of_region inventory hcheck region host hfree.1]
  · rw [if_neg hfree, if_neg hfree]

/-- Shuffling loses no host: a shuffled list is a permutation, and the queue that is
    filled holds the hosts of the region that are not locked as many times as the
    inventory lists them, and no others. -/
theorem populateHosts_loses_none (randint : Randint) :
    (∀ (α : Type) (l : List α), ∃ l', shuffleListInplace randint l = .ok l' ∧ l'.Perm l)
      ∧ ∀ (clusterName : ClusterName) (path : String) (inventory : Dict String (List HostName))
          (region file : String) (self : Sproutsys),
          Sproutsys.unpopulated clusterName path inventory region file = .ok self →
          ∃ self', populateHosts randint self = .ok self'
            ∧ ∀ host, self'.hostList.count host
                = if host ∈ regionHosts inventory region ∧ nodeIsLocked file host = false then
                    timesListed inventory host
                  else 0 :=
  ⟨fun _ l => shuffleListInplace_perm randint l,
    fun clusterName path inventory region file self h =>
      count_populated randint clusterName path inventory region file self h⟩

/-- Two hosts of one region, of which the first is swapped with itself. -/
theorem populateHosts_loses_none_inventory :
    ∃ self, populateHosts (Randint.ofIndices [0, 0])
        ⟨dev, "colo.yaml", [yang01a, yin01c], []⟩ = .ok self
      ∧ ∀ host, self.hostList.count host
          = if host ∈ regionHosts inventory "public" ∧ nodeIsLocked "" host = false then
              timesListed inventory host
            else 0 :=
  (populateHosts_loses_none (Randint.ofIndices [0, 0])).2 dev "colo.yaml" inventory "public" "" _
    rfl

section Refinement

variable (clusterName : ClusterName) (path gethostname : String)
    (inventory : Dict String (List HostName)) (region file : String)

theorem shuffled_perm (randint : Randint) (hosts : List HostName) :
    ((shuffleListInplace randint hosts).toOption.getD hosts).Perm hosts := by
  rcases shuffleListInplace_perm randint hosts with ⟨shuffled, hrun, hperm⟩
  rw [hrun]
  exact hperm

/-- The shuffle of some random numbers. -/
def shuffleOf (randint : Randint) : Shuffle :=
  ⟨fun hosts => (shuffleListInplace randint hosts).toOption.getD hosts, shuffled_perm randint⟩

/-- Filling the queue with some shuffle. -/
theorem construct_shuffled (randint : Randint) (shuffle : Shuffle)
    (h : ∀ hosts, inventory.get? region = some hosts →
      shuffleListInplace randint (freeIn hosts file) = .ok (shuffle.shuffled (freeIn hosts file))) :
    Sproutsys.construct randint clusterName path gethostname inventory region file
      = Sproutsys.init clusterName path gethostname inventory region file shuffle := by
  unfold Sproutsys.construct Sproutsys.init Sproutsys.unpopulated
  cases hcheck : checkHostListFile inventory with
  | error e => rfl
  | ok u =>
      cases hget : inventory.get? region with
      | none => rfl
      | some hosts =>
          rcases populateHosts_spec randint ⟨clusterName, path, freeIn hosts file, []⟩ with
            ⟨shuffled, hrun, hshuffle, _⟩
          have hsame : shuffle.shuffled (freeIn hosts file) = shuffled :=
            Except.ok.inj ((h hosts hget).symm.trans hshuffle)
          change (populateHosts randint ⟨clusterName, path, freeIn hosts file, []⟩ >>= _) = _
          rw [hrun, ← hsame]
          rfl

/-- The loop of the source is one of the shuffles. -/
theorem construct_eq_init (randint : Randint) :
    Sproutsys.construct randint clusterName path gethostname inventory region file
      = Sproutsys.init clusterName path gethostname inventory region file (shuffleOf randint) := by
  refine construct_shuffled clusterName path gethostname inventory region file randint _ ?_
  intro hosts _
  rcases shuffleListInplace_perm randint (freeIn hosts file) with ⟨shuffled, hrun, _⟩
  have hsame : (shuffleOf randint).shuffled (freeIn hosts file) = shuffled := by
    change (shuffleListInplace randint (freeIn hosts file)).toOption.getD _ = shuffled
    rw [hrun]
    rfl
  rw [hsame]
  exact hrun

/-- Every shuffle is one that the loop can make. -/
theorem init_eq_construct (shuffle : Shuffle) :
    ∃ randint, Sproutsys.construct randint clusterName path gethostname inventory region file
      = Sproutsys.init clusterName path gethostname inventory region file shuffle := by
  rcases (shuffleListInplace_iff (freeIn (regionHosts inventory region) file) _).mpr
    (shuffle.perm _) with ⟨randint, hrun⟩
  refine ⟨randint, construct_shuffled clusterName path gethostname inventory region file randint
    shuffle (fun hosts hget => ?_)⟩
  rw [regionHosts, hget, Option.getD_some] at hrun
  exact hrun

end Refinement

section Processes

variable {ι : Type} [DecidableEq ι] (ps : Processes ι)

/-- The steps by which a process builds its object are those of the loop. -/
theorem construct_iff_populated (s s' : Site ps) (i : ι) (queue : List HostName) :
    construct ps s i queue = some s'
      ↔ ∃ randint self, populateHosts randint (ps.cloud i ⟨freeHosts ps s i, []⟩) = .ok self
        ∧ self.hostList = queue
        ∧ s' = { s with clouds := setCloud ps s i ⟨self.availableHosts, self.hostList⟩ } := by
  unfold construct
  constructor
  · intro h
    by_cases hperm : queue.Perm (freeHosts ps s i)
    · rw [if_pos hperm] at h
      rcases (shuffleListInplace_iff _ _).mpr hperm with ⟨randint, hrun⟩
      rcases populateHosts_spec randint (ps.cloud i ⟨freeHosts ps s i, []⟩) with
        ⟨shuffled, hpopulated, hshuffle, _⟩
      have hsame : shuffled = queue := Except.ok.inj (hshuffle.symm.trans hrun)
      rw [hsame] at hpopulated
      exact ⟨randint, _, hpopulated, List.nil_append queue, (Option.some.inj h).symm⟩
    · rw [if_neg hperm] at h
      cases h
  · rintro ⟨randint, self, hrun, rfl, rfl⟩
    rcases populateHosts_spec randint (ps.cloud i ⟨freeHosts ps s i, []⟩) with
      ⟨shuffled, hpopulated, _, hperm⟩
    rw [← Except.ok.inj (hpopulated.symm.trans hrun)]
    exact if_pos hperm

end Processes

section Conservation

variable (self : Sproutsys) (depth : Nat)

/-- A host is taken off the queue, and the others are left. -/
theorem getHostForInstance_conserves (queue : List HostName) (params : Params) (found : Found)
    (h : getHostForInstance self depth queue params = .ok found) :
    (found.host :: found.hostList).Perm queue := by
  induction depth generalizing queue params with
  | zero =>
      cases queue with
      | nil => cases h
      | cons x queue => cases h
  | succ depth ih =>
      cases queue with
      | nil => cases h
      | cons x queue =>
          rw [getHostForInstance] at h
          rcases except_bind_eq_ok _ _ _ h with ⟨_, _, hrest⟩
          rcases except_bind_eq_ok _ _ _ hrest with ⟨b, _, hbranch⟩
          cases b with
          | true =>
              rw [← Except.ok.inj hbranch]
          | false =>
              -- the host in front goes to the back
              exact (ih (queue ++ [x]) _ hbranch).trans (List.perm_append_singleton x queue)

/-- A launch loses no host, whether it ends well or not. -/
theorem lockHosts_conserves (instances : List Params) (queue : List HostName) (file : String) :
    ((lockHosts self depth instances queue file).hosts
      ++ (lockHosts self depth instances queue file).hostList).Perm queue := by
  induction instances generalizing queue file with
  | nil => exact List.Perm.refl queue
  | cons params rest ih =>
      rw [lockHosts]
      cases hfound : getHostForInstance self depth queue params with
      | error e => exact List.Perm.refl queue
      | ok found =>
          have hrest := ih found.hostList (lock file ⟨found.host, self.clusterName⟩)
          have hfirst := getHostForInstance_conserves self depth queue params found hfound
          exact (hrest.cons found.host).trans hfirst

/-- Several launches of one object, each with the lock file that it finds: the hosts they
    take, and the queue that is left. -/
def launches : List (List Params × String) → List HostName → List HostName × List HostName
  | [], queue => ([], queue)
  | (instances, file) :: rest, queue =>
      let run := lockHosts self depth instances queue file
      let later := launches rest run.hostList
      (run.hosts ++ later.1, later.2)

theorem launches_conserve (batches : List (List Params × String)) (queue : List HostName) :
    ((launches self depth batches queue).1
      ++ (launches self depth batches queue).2).Perm queue := by
  induction batches generalizing queue with
  | nil => exact List.Perm.refl queue
  | cons batch batches ih =>
      rcases batch with ⟨instances, file⟩
      rw [launches, List.append_assoc]
      have hrest := ih (lockHosts self depth instances queue file).hostList
      exact (hrest.append_left _).trans (lockHosts_conserves self depth instances queue file)

theorem construct_count (randint : Randint) (clusterName : ClusterName)
    (path gethostname : String) (inventory : Dict String (List HostName)) (region file : String)
    (h : Sproutsys.construct randint clusterName path gethostname inventory region file = .ok self)
    (host : HostName) :
    self.hostList.count host
      = if host ∈ regionHosts inventory region ∧ nodeIsLocked file host = false then
          timesListed inventory host
        else 0 := by
  unfold Sproutsys.construct at h
  rcases except_bind_eq_ok _ _ _ h with ⟨before, hbefore, h⟩
  rcases except_bind_eq_ok _ _ _ h with ⟨after, hafter, h⟩
  rcases count_populated randint clusterName path inventory region file before hbefore with
    ⟨self', hpopulated, hcount⟩
  by_cases hname : gethostname ≠ orchestrationHost
  · rw [if_pos hname] at h
    cases h
  · rw [if_neg hname] at h
    rw [← Except.ok.inj h, ← Except.ok.inj (hpopulated.symm.trans hafter)]
    exact hcount host

/-- Over all launches of an object, what is taken and what is left are the free hosts of the
    region, as many times as the inventory lists them. -/
theorem launches_count (randint : Randint) (clusterName : ClusterName) (path gethostname : String)
    (inventory : Dict String (List HostName)) (region file : String)
    (h : Sproutsys.construct randint clusterName path gethostname inventory region file = .ok self)
    (batches : List (List Params × String)) (host : HostName) :
    (launches self depth batches self.hostList).1.count host
        + (launches self depth batches self.hostList).2.count host
      = if host ∈ regionHosts inventory region ∧ nodeIsLocked file host = false then
          timesListed inventory host
        else 0 := by
  rw [← List.count_append, (launches_conserve self depth batches self.hostList).count_eq]
  exact construct_count self randint clusterName path gethostname inventory region file h host

/-- A host that is listed once is taken at most once. -/
theorem taken_once (randint : Randint) (clusterName : ClusterName) (path gethostname : String)
    (inventory : Dict String (List HostName)) (region file : String)
    (h : Sproutsys.construct randint clusterName path gethostname inventory region file = .ok self)
    (batches : List (List Params × String)) (host : HostName)
    (hlisted : timesListed inventory host ≤ 1) :
    (launches self depth batches self.hostList).1.count host ≤ 1 := by
  have hcount := launches_count self depth randint clusterName path gethostname inventory region
    file h batches host
  split at hcount <;> omega

end Conservation

end Colo

end Xbench
