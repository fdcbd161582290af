import Xbench.Lib.Mounts
import Xbench.Lib.Session
import Xbench.Lib.Text

/-!
# Storage of a Driver

Configuring and cleaning a driver, as far as its storage goes. When a driver has
storage, configuring it makes the command that mounts it at the directory of the
driver. The command is not sent. Cleaning unmounts the directory, and takes
storage for granted.

Unmounting works at a mount point only. So the two undo each other just if the
storage was mounted by someone else, once, and no more than once is cleaned.

## Main definitions

* `Host`: How a machine answers.
* `BaseDriver`: A driver, as far as the two read it.
* `BaseDriver.configure`, `BaseDriver.clean`: The two.
* `afterCalls`: The mounts after some calls.
* `StorageHolds`: The storage is there when it should be, and gone.
* `MountedBefore`: The storage is mounted before the first call, and cleaned once.

## Theorems

* `mkdirCommand_mounts`: The command that is not sent mounts the storage.
* `configure_leaves`: Configuring mounts nothing.
* `clean_ok_iff`: When cleaning ends without exception.
* `storageHolds_iff`: When the two undo each other.
-/

namespace Xbench

open Mounts Session

/-- What comes of cleaning a benchmark. -/
inductive CleanOutcome where
  | done
  | benchmark (message : String)
  | other (message : String)
deriving DecidableEq

/-- How a machine answers during a call: whether a line of a script works apart
    from the mounts, what `lsof` prints, and what comes of the calls that are no
    commands of the driver. -/
structure Host where
  works : String → Bool
  openFiles : String
  deregisters : Bool
  cleans : String → CleanOutcome

inductive DriverExn where
  | ssh (line : String)
  | attribute (message : String)
  | driver (message : String)
  | other (message : String)
deriving DecidableEq

/-- A computation on the mounts of a machine. -/
abbrev OnMounts := Session (List Mount) DriverExn Unit

/-- A driver: the device of its storage, its benchmarks, and the commands of its
    package manager. -/
structure BaseDriver where
  storage : Option String
  driverBenchmarkList : List String
  installEpelCommand : String
  installPkgCmd : String
  removePkgCmd : String

def defaultDir : String := "/xbench"

/-- `node.run`, with a script. -/
def nodeRun (host : Host) (lines : List Line) : OnMounts :=
  fun ms =>
    match runScript host.works lines ms with
    | (none, ms') => (.ok (), ms')
    | (some line, ms') => (.error (.ssh line), ms')

/-- `mkdir_command`, at the directory itself. -/
def mkdirCommand (directory device : String) : List Line :=
  [.other ("mkdir -p " ++ directory),
    .umountIfMounted directory,
    .other ("mkfs.ext4 -F -j " ++ device),
    .mount device directory,
    .other ("mkdir -p " ++ directory),
    .other ("echo \"UUID=$(sudo blkid -s UUID -o value " ++ device ++ ") " ++ directory
      ++ " ext4 discard,defaults,nofail 0 2\" | sudo tee -a /etc/fstab"),
    .other "echo",
    .other ("tune2fs -m1 " ++ device)]

namespace BaseDriver

variable (self : BaseDriver) (host : Host)

/-- The commands that prepare the operating system. -/
def osCommands : List String :=
  [self.installEpelCommand ++ " || true",
    self.installPkgCmd ++ " irqbalance",
    "sudo systemctl start irqbalance",
    "sudo systemctl status irqbalance",
    "echo \"* soft nofile 20000\" | sudo tee -a /etc/security/limits.conf",
    "echo \"* hard nofile 20000\" | sudo tee -a /etc/security/limits.conf",
    "ulimit -n",
    "mkdir -p /xbench",
    "chmod 777 /xbench",
    self.installPkgCmd ++ " git openssl python3",
    self.removePkgCmd ++ " MariaDB-client MariaDB-shared",
    "wget https://downloads.mariadb.com/MariaDB/mariadb_repo_setup",
    "chmod +x mariadb_repo_setup",
    "./mariadb_repo_setup --mariadb-server-version=mariadb-10.7 --skip-maxscale --skip-tools",
    self.installPkgCmd ++ " MariaDB-client MariaDB-shared",
    self.installPkgCmd ++ " postgresql postgresql-devel"]

def environmentCommands : List String :=
  ["echo 'export XBENCH_HOME=" ++ defaultDir ++ "' >> ~/.bashrc",
    "echo 'export PYTHONPATH=$XBENCH_HOME/workload_exporter' >> ~/.bashrc"]

/-- `configure`. -/
def configure : OnMounts := do
  nodeRun host (self.osCommands.map Line.other)
  match self.storage with
  | some device =>
      -- the command is made, and that is all
      let _command := mkdirCommand defaultDir device
      pure ()
  | none => pure ()
  nodeRun host (environmentCommands.map Line.other)

/-- `clean_packages`. -/
def packageCommands : List String :=
  [self.removePkgCmd ++ " git openssl python3",
    self.removePkgCmd ++ " MariaDB-client MariaDB-shared",
    self.removePkgCmd ++ " postgresql"]

def exporterCommands : List String :=
  ["systemctl stop workload-exporter",
    "systemctl disable workload-exporter",
    "rm -rf /lib/systemd/system/workload-exporter.service",
    "pip uninstall -r /xbench/workload-exporter/requirements.txt",
    "rm -rf /xbench/workload-exporter"]

/-- `deregister_metric_target`. -/
def deregister : OnMounts :=
  if host.deregisters then pure () else raise (.other "deregister_metric_target")

def lsofCommand : String := "lsof -w -Fp " ++ defaultDir

/-- The command that kills the processes of a list. -/
def killCommand (pids : String) : String :=
  "kill -9 " ++ Text.join ' '
    ((Text.split '\n' pids).map (fun p => String.ofList (p.toList.drop 1)))

/-- `kill_xbench_procs`. -/
def killXbenchProcs : OnMounts := do
  nodeRun host ([lsofCommand].map Line.other)
  nodeRun host ([killCommand host.openFiles].map Line.other)

/-- `clean_storage`. -/
def cleanStorage : OnMounts :=
  match self.storage with
  | none => raise (.attribute "'NoneType' object has no attribute 'device'")
  | some _ => nodeRun host [.umount defaultDir]

/-- Cleaning the benchmarks, whose exceptions become the driver's. -/
def cleanBenchmarks : List String → OnMounts
  | [] => pure ()
  | klass :: rest =>
      match host.cleans klass with
      | .done => cleanBenchmarks rest
      | .benchmark message => raise (.driver message)
      | .other message => raise (.other message)

/-- What `clean` does before it comes to the storage. -/
def cleanBefore : OnMounts := do
  nodeRun host (self.packageCommands.map Line.other)
  nodeRun host (exporterCommands.map Line.other)
  deregister host
  killXbenchProcs host

/-- `clean`. -/
def clean : OnMounts := do
  self.cleanBefore host
  self.cleanStorage host
  cleanBenchmarks host self.driverBenchmarkList

end BaseDriver

/-- The calls. -/
inductive DriverCall where
  | configure
  | clean
deriving DecidableEq

def BaseDriver.call (self : BaseDriver) (c : DriverCall × Host) : OnMounts :=
  match c.1 with
  | .configure => self.configure c.2
  | .clean => self.clean c.2

/-- The mounts after some calls, each with the answers of the machine. A call
    that raises leaves what it has done. -/
def afterCalls (self : BaseDriver) : List (DriverCall × Host) → List Mount → List Mount
  | [], ms => ms
  | c :: cs, ms => afterCalls self cs (self.call c ms).2

/-- Behind a call to configure the storage is mounted, and a call to clean that
    follows one ends without exception and leaves nothing mounted. -/
structure StorageHolds (driver : BaseDriver) (calls : List (DriverCall × Host))
    (start : List Mount) : Prop where
  mounted : ∀ front host back, calls = front ++ (.configure, host) :: back →
    ∀ device, driver.storage = some device →
      ⟨device, defaultDir⟩ ∈ afterCalls driver (front ++ [(.configure, host)]) start
  cleaned : ∀ front host host' back,
    calls = front ++ (.configure, host) :: (.clean, host') :: back →
      (driver.clean host' (afterCalls driver (front ++ [(.configure, host)]) start)).1 = .ok ()
        ∧ ¬ IsMountPoint defaultDir
          (afterCalls driver (front ++ [(.configure, host), (.clean, host')]) start)

/-- The machine lets a driver clean: all lines work, and all calls. -/
structure LetsClean (driver : BaseDriver) (host : Host) : Prop where
  packages : ∀ text ∈ driver.packageCommands, host.works text = true
  exporter : ∀ text ∈ BaseDriver.exporterCommands, host.works text = true
  deregisters : host.deregisters = true
  lsof : host.works BaseDriver.lsofCommand = true
  kill : host.works (BaseDriver.killCommand host.openFiles) = true
  umount : host.works (Line.umount defaultDir).text = true
  benchmarks : ∀ klass ∈ driver.driverBenchmarkList, host.cleans klass = .done

/-- Without storage nothing is cleaned. Storage is mounted before the first call;
    and when something is cleaned, it is mounted once, the machine lets the first
    cleaning through, and nothing is configured afterwards. -/
structure MountedBefore (driver : BaseDriver) (calls : List (DriverCall × Host))
    (start : List Mount) : Prop where
  without : driver.storage = none → ∀ c ∈ calls, c.1 = .configure
  storage : ∀ device, driver.storage = some device → ⟨device, defaultDir⟩ ∈ start
  once : ∀ front host back, calls = front ++ (.clean, host) :: back →
    (∀ c ∈ front, c.1 = .configure) →
    (mountsAt defaultDir start).length = 1 ∧ LetsClean driver host ∧ ∀ c ∈ back, c.1 = .clean

section Scripts

/-- The command that is not sent mounts the storage, and nothing is over it. -/
theorem mkdirCommand_mounts (works : String → Bool) (directory device : String) (ms : List Mount)
    (h : ∀ line ∈ mkdirCommand directory device, works line.text = true) :
    runScript works (mkdirCommand directory device) ms
      = (none, ⟨device, directory⟩ :: unmounted directory ms) := by
  have hline : ∀ line rest ms ms', works line.text = true → line.run ms = some ms' →
      runScript works (line :: rest) ms = runScript works rest ms' := by
    intro line rest ms ms' hworks hrun
    rw [runScript, Line.attempt, if_pos hworks, hrun]
  simp only [mkdirCommand, List.forall_mem_cons] at h
  rcases h with ⟨h₁, h₂, h₃, h₄, h₅, h₆, h₇, h₈, _⟩
  rw [mkdirCommand, hline _ _ ms ms h₁ rfl, hline _ _ ms _ h₂ rfl, hline _ _ _ _ h₃ rfl,
    hline _ _ _ _ h₄ rfl, hline _ _ _ _ h₅ rfl, hline _ _ _ _ h₆ rfl, hline _ _ _ _ h₇ rfl,
    hline _ _ _ _ h₈ rfl, runScript]

/-- A computation leaves the mounts alone, and returns just if something holds. -/
def Leaves (x : OnMounts) (p : Prop) : Prop :=
  ∀ ms, (x ms).2 = ms ∧ ((x ms).1 = .ok () ↔ p)

/-- Such a computation in front of another. -/
theorem leaves_bind (x y : OnMounts) (p : Prop) (ms : List Mount) (hx : Leaves x p) :
    ((x >>= fun _ => y) ms = y ms ∧ p) ∨ ((∃ e, (x >>= fun _ => y) ms = (.error e, ms)) ∧ ¬ p) := by
  rcases hx ms with ⟨hleaves, hok⟩
  cases hresult : x ms with
  | mk result ms' =>
      rw [hresult] at hleaves hok
      dsimp only at hleaves hok
      rw [hleaves] at hresult
      cases result with
      | ok u =>
          exact Or.inl ⟨bind_of_ok x ms ms (fun _ => y) u hresult, hok.mp rfl⟩
      | error e =>
          refine Or.inr ⟨⟨e, bind_of_error x ms ms (fun _ => y) e hresult⟩, fun hp => ?_⟩
          cases hok.mpr hp

theorem leaves_seq (x y : OnMounts) (p q : Prop) (hx : Leaves x p) (hy : Leaves y q) :
    Leaves (x >>= fun _ => y) (p ∧ q) := by
  intro ms
  rcases leaves_bind x y p ms hx with ⟨heq, hp⟩ | ⟨⟨e, heq⟩, hp⟩
  · rw [heq]
    exact ⟨(hy ms).1, (hy ms).2.trans (and_iff_right hp).symm⟩
  · rw [heq]
    refine ⟨rfl, fun h => ?_, fun h => absurd h.1 hp⟩
    cases h

/-- A script that mounts nothing. -/
theorem leaves_nodeRun (host : Host) (texts : List String) :
    Leaves (nodeRun host (texts.map Line.other)) (∀ text ∈ texts, host.works text = true) := by
  intro ms
  rcases runScript_quiet host.works ms texts with ⟨hleaves, hok⟩
  unfold nodeRun
  cases hrun : runScript host.works (texts.map Line.other) ms with
  | mk failed ms' =>
      rw [hrun] at hleaves hok
      dsimp only at hleaves hok
      cases failed with
      | none => exact ⟨hleaves, fun _ => hok.mp rfl, fun _ => rfl⟩
      | some line =>
          refine ⟨hleaves, fun h => ?_, fun h => ?_⟩
          · cases h
          · cases hok.mpr h

end Scripts

section Calls

variable (self : BaseDriver) (host : Host)

/-- Configuring mounts nothing. -/
theorem configure_leaves (ms : List Mount) : (self.configure host ms).2 = ms := by
  have htail := leaves_nodeRun host BaseDriver.environmentCommands
  have hrest : Leaves (self.configure host)
      ((∀ text ∈ self.osCommands, host.works text = true)
        ∧ ∀ text ∈ BaseDriver.environmentCommands, host.works text = true) := by
    unfold BaseDriver.configure
    refine leaves_seq _ _ _ _ (leaves_nodeRun host self.osCommands) ?_
    cases self.storage with
    | some device => exact htail
    | none => exact htail
  exact (hrest ms).1

/-- What the machine has to let through before the storage. -/
theorem leaves_cleanBefore :
    Leaves (self.cleanBefore host)
      ((∀ text ∈ self.packageCommands, host.works text = true)
        ∧ (∀ text ∈ BaseDriver.exporterCommands, host.works text = true)
        ∧ host.deregisters = true
        ∧ (∀ text ∈ [BaseDriver.lsofCommand], host.works text = true)
        ∧ ∀ text ∈ [BaseDriver.killCommand host.openFiles], host.works text = true) := by
  have hderegister : Leaves (BaseDriver.deregister host) (host.deregisters = true) := by
    intro ms
    unfold BaseDriver.deregister
    by_cases h : host.deregisters = true
    · rw [if_pos h]
      exact ⟨rfl, fun _ => h, fun _ => rfl⟩
    · rw [if_neg h]
      refine ⟨rfl, fun hok => ?_, fun hyes => absurd hyes h⟩
      cases hok
  exact leaves_seq _ _ _ _ (leaves_nodeRun host _) (leaves_seq _ _ _ _ (leaves_nodeRun host _)
    (leaves_seq _ _ _ _ hderegister (leaves_seq _ _ _ _ (leaves_nodeRun host _)
      (leaves_nodeRun host _))))

/-- Cleaning the benchmarks. -/
theorem leaves_cleanBenchmarks (klasses : List String) :
    Leaves (BaseDriver.cleanBenchmarks host klasses)
      (∀ klass ∈ klasses, host.cleans klass = .done) := by
  induction klasses with
  | nil =>
      intro ms
      exact ⟨rfl, fun _ klass h => absurd h List.not_mem_nil, fun _ => rfl⟩
  | cons klass klasses ih =>
      intro ms
      unfold BaseDriver.cleanBenchmarks
      rw [List.forall_mem_cons]
      cases hclean : host.cleans klass with
      | done => exact ⟨(ih ms).1, (ih ms).2.trans (and_iff_right rfl).symm⟩
      | benchmark message =>
          refine ⟨rfl, fun h => ?_, fun h => ?_⟩
          · cases h
          · cases h.1
      | other message =>
          refine ⟨rfl, fun h => ?_, fun h => ?_⟩
          · cases h
          · cases h.1

/-- Unmounting needs storage, a machine that lets it through, and a mount point. -/
theorem cleanStorage_cases (ms : List Mount) :
    (self.cleanStorage host ms = (.ok (), unmounted defaultDir ms) ∧ self.storage.isSome = true
        ∧ host.works (Line.umount defaultDir).text = true ∧ IsMountPoint defaultDir ms)
      ∨ ((∃ e, self.cleanStorage host ms = (.error e, ms))
        ∧ ¬ (self.storage.isSome = true ∧ host.works (Line.umount defaultDir).text = true
          ∧ IsMountPoint defaultDir ms)) := by
  unfold BaseDriver.cleanStorage
  cases self.storage with
  | none =>
      right
      refine ⟨⟨_, rfl⟩, fun h => ?_⟩
      cases h.1
  | some device =>
      -- the script runs one line, which fails off a mount point
      have hattempt : (Line.umount defaultDir).attempt host.works ms
          = if host.works (Line.umount defaultDir).text = true then
              (if IsMountPoint defaultDir ms then some (unmounted defaultDir ms) else none)
            else none := rfl
      dsimp only
      rw [nodeRun, runScript, hattempt]
      by_cases hworks : host.works (Line.umount defaultDir).text = true
      · rw [if_pos hworks]
        by_cases hpoint : IsMountPoint defaultDir ms
        · rw [if_pos hpoint]
          exact Or.inl ⟨rfl, rfl, hworks, hpoint⟩
        · rw [if_neg hpoint]
          exact Or.inr ⟨⟨_, rfl⟩, fun h => hpoint h.2.2⟩
      · rw [if_neg hworks]
        exact Or.inr ⟨⟨_, rfl⟩, fun h => hworks h.2.1⟩

/-- The storage is unmounted: everything worked up to there, and what follows
    decides how cleaning ends. Or nothing is unmounted and it raises. -/
theorem clean_run (ms : List Mount) :
    (self.clean host ms
        = BaseDriver.cleanBenchmarks host self.driverBenchmarkList (unmounted defaultDir ms)
      ∧ self.storage.isSome = true ∧ IsMountPoint defaultDir ms
      ∧ (LetsClean self host ↔ ∀ klass ∈ self.driverBenchmarkList, host.cleans klass = .done))
      ∨ ((∃ e, self.clean host ms = (.error e, ms))
        ∧ ¬ (self.storage.isSome = true ∧ LetsClean self host ∧ IsMountPoint defaultDir ms)) := by
  unfold BaseDriver.clean
  rcases leaves_bind _ (self.cleanStorage host >>= fun _ =>
      BaseDriver.cleanBenchmarks host self.driverBenchmarkList) _ ms
      (leaves_cleanBefore self host) with ⟨heq, hbefore⟩ | ⟨herror, hbefore⟩
  · rw [heq]
    rcases cleanStorage_cases self host ms with ⟨hok, hstorage, hworks, hpoint⟩ | ⟨⟨e, he⟩, hnot⟩
    · left
      refine ⟨bind_of_ok _ _ _ _ _ hok, hstorage, hpoint, LetsClean.benchmarks, fun hbench => ?_⟩
      rcases hbefore with ⟨hpackages, hexporter, hderegisters, hlsof, hkill⟩
      exact ⟨hpackages, hexporter, hderegisters, hlsof _ List.mem_cons_self,
        hkill _ List.mem_cons_self, hworks, hbench⟩
    · refine Or.inr ⟨⟨e, bind_of_error _ _ _ _ e he⟩, fun h => hnot ?_⟩
      exact ⟨h.1, h.2.1.umount, h.2.2⟩
  · refine Or.inr ⟨herror, fun h => hbefore ?_⟩
    refine ⟨h.2.1.packages, h.2.1.exporter, h.2.1.deregisters, ?_, ?_⟩
    · rw [List.forall_mem_singleton]
      exact h.2.1.lsof
    · rw [List.forall_mem_singleton]
      exact h.2.1.kill

/-- Cleaning ends without exception just if there is storage, the machine lets it
    through, and the directory is a mount point. -/
theorem clean_ok_iff (ms : List Mount) :
    (self.clean host ms).1 = .ok () ↔
      self.storage.isSome = true ∧ LetsClean self host ∧ IsMountPoint defaultDir ms := by
  rcases clean_run self host ms with ⟨heq, hstorage, hpoint, hlets⟩ | ⟨⟨e, he⟩, hnot⟩
  · rw [heq, (leaves_cleanBenchmarks host _ _).2, ← hlets]
    exact ⟨fun h => ⟨hstorage, h, hpoint⟩, fun h => h.2.1⟩
  · rw [he]
    refine ⟨fun h => ?_, fun h => absurd h hnot⟩
    cases h

/-- Then the last mount is gone; otherwise it may be, and nothing else is. -/
theorem clean_mounts (ms : List Mount) :
    ((self.clean host ms).1 = .ok () → (self.clean host ms).2 = unmounted defaultDir ms)
      ∧ ∀ m ∈ (self.clean host ms).2, m ∈ ms := by
  rcases clean_run self host ms with ⟨heq, _⟩ | ⟨⟨e, he⟩, _⟩
  · rw [heq, (leaves_cleanBenchmarks host _ _).1]
    exact ⟨fun _ => rfl, fun m hm => mem_of_mem_unmounted defaultDir ms m hm⟩
  · rw [he]
    refine ⟨fun h => ?_, fun m hm => hm⟩
    cases h

end Calls

section Runs

variable (self : BaseDriver)

theorem afterCalls_append (front back : List (DriverCall × Host)) (ms : List Mount) :
    afterCalls self (front ++ back) ms = afterCalls self back (afterCalls self front ms) := by
  induction front generalizing ms with
  | nil => rfl
  | cons c front ih =>
      rw [List.cons_append, afterCalls, afterCalls]
      exact ih _

/-- The step: no call mounts anything. -/
theorem call_mounts (c : DriverCall × Host) (ms : List Mount) (m : Mount)
    (h : m ∈ (self.call c ms).2) : m ∈ ms := by
  rcases c with ⟨call, host⟩
  cases call with
  | configure =>
      rw [BaseDriver.call, configure_leaves] at h
      exact h
  | clean => exact (clean_mounts self host ms).2 m h

/-- The run: nothing is mounted that was not mounted at the start. -/
theorem afterCalls_mounts (calls : List (DriverCall × Host)) (ms : List Mount) (m : Mount)
    (h : m ∈ afterCalls self calls ms) : m ∈ ms := by
  induction calls generalizing ms with
  | nil => exact h
  | cons c calls ih => exact call_mounts self c ms m (ih _ h)

/-- Calls to configure leave everything as it is. -/
theorem afterCalls_configure (calls : List (DriverCall × Host)) (ms : List Mount)
    (h : ∀ c ∈ calls, c.1 = .configure) : afterCalls self calls ms = ms := by
  induction calls generalizing ms with
  | nil => rfl
  | cons c calls ih =>
      have hfirst : (self.call c ms).2 = ms := by
        rw [BaseDriver.call, h c List.mem_cons_self]
        exact configure_leaves self c.2 ms
      rw [afterCalls, hfirst]
      exact ih ms (fun c' hc' => h c' (List.mem_cons_of_mem c hc'))

/-- Either everything is configuring, or there is a first call to clean. -/
theorem first_clean (calls : List (DriverCall × Host)) :
    (∀ c ∈ calls, c.1 = .configure)
      ∨ ∃ front host back, calls = front ++ (.clean, host) :: back
        ∧ ∀ c ∈ front, c.1 = .configure := by
  induction calls with
  | nil => exact Or.inl (fun c hc => absurd hc List.not_mem_nil)
  | cons c calls ih =>
      rcases c with ⟨call, host⟩
      cases call with
      | clean =>
          exact Or.inr ⟨[], host, calls, rfl, fun c hc => absurd hc List.not_mem_nil⟩
      | configure =>
          rcases ih with hall | ⟨front, host', back, rfl, hfront⟩
          · exact Or.inl (List.forall_mem_cons.mpr ⟨rfl, hall⟩)
          · exact Or.inr ⟨(.configure, host) :: front, host', back, rfl,
              List.forall_mem_cons.mpr ⟨rfl, hfront⟩⟩

/-- The two undo each other just if the storage is mounted from the start, and
    what is cleaned is cleaned once. -/
theorem storageHolds_iff (calls : List (DriverCall × Host)) (start : List Mount)
    (h : ∃ host rest, calls = (.configure, host) :: rest) :
    StorageHolds self calls start ↔ MountedBefore self calls start := by
  rcases h with ⟨host₀, rest, hcalls⟩
  -- the call in front of the first call to clean configures
  have hlast : ∀ front host back, calls = front ++ (.clean, host) :: back →
      (∀ c ∈ front, c.1 = .configure) →
      ∃ before host', front = before ++ [(.configure, host')] := by
    intro front host back heq hfront
    rcases List.eq_nil_or_concat front with rfl | ⟨before, c, rfl⟩
    · rw [hcalls, List.nil_append, List.cons.injEq, Prod.mk.injEq] at heq
      cases heq.1.1
    · rw [List.concat_eq_append] at hfront ⊢
      have hc := hfront c (List.mem_append_right before List.mem_cons_self)
      exact ⟨before, c.2, by rw [← hc]⟩
  constructor
  · intro hholds
    have hstart : ∀ device, self.storage = some device → ⟨device, defaultDir⟩ ∈ start := by
      intro device hdevice
      have hmounted := hholds.mounted [] host₀ rest hcalls device hdevice
      rw [List.nil_append, afterCalls_configure self _ start (by simp)] at hmounted
      exact hmounted
    have hfirst : ∀ front host back, calls = front ++ (.clean, host) :: back →
        (∀ c ∈ front, c.1 = .configure) →
        (self.clean host start).1 = .ok ()
          ∧ ¬ IsMountPoint defaultDir (self.clean host start).2 := by
      intro front host back heq hfront
      rcases hlast front host back heq hfront with ⟨before, host', rfl⟩
      rw [List.append_assoc, List.singleton_append] at heq
      have hclean := hholds.cleaned before host' host back heq
      have htwo : before ++ [(DriverCall.configure, host'), (DriverCall.clean, host)]
          = (before ++ [(DriverCall.configure, host')]) ++ [(DriverCall.clean, host)] := by
        rw [List.append_assoc, List.singleton_append]
      have hstate := afterCalls_configure self _ start hfront
      have hafter : afterCalls self ((before ++ [(.configure, host')]) ++ [(.clean, host)]) start
          = (self.clean host start).2 := by
        rw [afterCalls_append, hstate]
        rfl
      rw [htwo, hafter, hstate] at hclean
      exact hclean
    refine ⟨fun hnone => ?_, hstart, fun front host back heq hfront => ?_⟩
    · rcases first_clean calls with hall | ⟨front, host, back, heq, hfront⟩
      · exact hall
      · have hok := (clean_ok_iff self host start).mp (hfirst front host back heq hfront).1
        rw [hnone] at hok
        cases hok.1
    · rcases hfirst front host back heq hfront with ⟨hok, hgone⟩
      rcases (clean_ok_iff self host start).mp hok with ⟨hstorage, hlets, hpoint⟩
      have hempty := hgone
      rw [(clean_mounts self host start).1 hok, ← mountsAt_eq_nil_iff,
        unmounted_gone_iff defaultDir start hpoint] at hgone
      refine ⟨hgone, hlets, fun c hc => ?_⟩
      by_contra hconfigure
      -- behind a later call to configure something would have to be mounted
      rcases c with ⟨call, host'⟩
      cases call with
      | clean => exact hconfigure rfl
      | configure =>
          rcases Option.isSome_iff_exists.mp hstorage with ⟨device, hdevice⟩
          rcases List.mem_iff_append.mp hc with ⟨middle, back', rfl⟩
          have hmounted := hholds.mounted (front ++ (.clean, host) :: middle) host' back'
            (by rw [heq, List.append_assoc, List.cons_append]) device hdevice
          rw [List.append_assoc, afterCalls_append, afterCalls_configure self front start hfront]
            at hmounted
          exact hempty ⟨_, afterCalls_mounts self _ _ _ hmounted, rfl⟩
  · rintro ⟨hwithout, hstart, honce⟩
    have hfront : ∀ front host back, calls = front ++ (.configure, host) :: back →
        ∀ c ∈ front, c.1 = .configure := by
      intro front host back heq
      rcases first_clean front with hall | ⟨front', host', back', rfl, hfirst⟩
      · exact hall
      · have hrest := (honce front' host' (back' ++ (.configure, host) :: back)
          (by rw [heq, List.append_assoc, List.cons_append]) hfirst).2.2
        cases hrest _ (List.mem_append_right back' List.mem_cons_self)
    have hstate : ∀ front host back, calls = front ++ (.configure, host) :: back →
        afterCalls self (front ++ [(.configure, host)]) start = start := by
      intro front host back heq
      refine afterCalls_configure self _ start (fun c hc => ?_)
      rcases List.mem_append.mp hc with hc | hc
      · exact hfront front host back heq c hc
      · rw [List.mem_singleton.mp hc]
    refine ⟨fun front host back heq device hdevice => ?_, fun front host host' back heq => ?_⟩
    · rw [hstate front host back heq]
      exact hstart device hdevice
    · have hconfigured : ∀ c ∈ front ++ [(DriverCall.configure, host)], c.1 = .configure := by
        intro c hc
        rcases List.mem_append.mp hc with hc | hc
        · exact hfront front host _ heq c hc
        · rw [List.mem_singleton.mp hc]
      rcases honce (front ++ [(.configure, host)]) host' back
        (by rw [heq, List.append_assoc, List.singleton_append]) hconfigured with ⟨hone, hlets, _⟩
      have hpoint : IsMountPoint defaultDir start := by
        by_contra hnot
        rw [(mountsAt_eq_nil_iff defaultDir start).mpr hnot] at hone
        cases hone
      have hstorage : self.storage.isSome = true := by
        cases hnone : self.storage with
        | some device => rfl
        | none =>
            have hmem : ((DriverCall.clean, host') : DriverCall × Host) ∈ calls := by
              rw [heq]
              exact List.mem_append_right front (List.mem_cons_of_mem _ List.mem_cons_self)
            cases hwithout hnone _ hmem
      have hok := (clean_ok_iff self host' start).mpr ⟨hstorage, hlets, hpoint⟩
      have htwo : afterCalls self (front ++ [(.configure, host), (.clean, host')]) start
          = (self.clean host' start).2 := by
        rw [← List.singleton_append (l := [(DriverCall.clean, host')]), ← List.append_assoc,
          afterCalls_append, hstate front host _ heq]
        rfl
      rw [htwo, hstate front host _ heq]
      refine ⟨hok, ?_⟩
      rw [(clean_mounts self host' start).1 hok, ← mountsAt_eq_nil_iff]
      exact (unmounted_gone_iff defaultDir start hpoint).mpr hone

/-- A machine on which everything works. -/
def obligingHost : Host :=
  ⟨fun _ => true, "p4711", true, fun _ => .done⟩

/-- A driver with storage. -/
def storedDriver : BaseDriver :=
  ⟨some "/dev/xvdb", ["benchmark.Sysbench"], "yum install -y epel-release", "yum install -y",
    "yum erase -y"⟩

theorem letsClean_oblige (driver : BaseDriver) : LetsClean driver obligingHost :=
  ⟨fun _ _ => rfl, fun _ _ => rfl, rfl, rfl, rfl, rfl, fun _ _ => rfl⟩

/-- Storage that was mounted before. -/
theorem storageHolds_mounted :
    StorageHolds storedDriver [(.configure, obligingHost), (.clean, obligingHost)]
      [⟨"/dev/xvdb", "/xbench"⟩] := by
  refine (storageHolds_iff storedDriver _ _ ⟨_, _, rfl⟩).mpr ⟨fun hnone => ?_, ?_, ?_⟩
  · cases hnone
  · intro device hdevice
    rw [← Option.some.inj hdevice]
    exact List.mem_cons_self
  · intro front host back heq hfront
    rcases front with _ | ⟨c, _ | ⟨c', front⟩⟩
    · cases heq
    · cases heq
      exact ⟨rfl, letsClean_oblige storedDriver, fun c hc => absurd hc List.not_mem_nil⟩
    · rw [List.cons_append, List.cons_append, List.cons.injEq, List.cons.injEq] at heq
      have hclean := hfront c' (List.mem_cons_of_mem c List.mem_cons_self)
      rw [← heq.2.1] at hclean
      cases hclean

/-- Storage that is to be mounted is not. -/
theorem storage_not_mounted :
    ¬ ∀ (driver : BaseDriver) (calls : List (DriverCall × Host)) (start : List Mount),
      (∃ host rest, calls = (.configure, host) :: rest) → StorageHolds driver calls start := by
  intro hall
  have hholds := hall storedDriver [(.configure, obligingHost)] [] ⟨_, _, rfl⟩
  have hmounted := hholds.mounted [] obligingHost [] rfl "/dev/xvdb" rfl
  exact absurd (afterCalls_mounts storedDriver _ _ _ hmounted) List.not_mem_nil

end Runs

end Xbench
