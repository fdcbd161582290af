import Xbench.Cloud.Termination

/-!
# Volumes a Launch Forgets

What becomes of the volumes of an instance that is launched. Each is created
and then attached, and either may fail with a cloud exception. The handler is
inside `launch_storage`, so the exception is swallowed where the volume may
already exist: the routine gives nothing, the single storage becomes `None`, a
volume of the list stays as it was requested, and the launch goes on.

The provider may answer differently about each volume, even about two volumes
that look the same. So the launch is stated here with an answer for each volume
in the order of their turns; with one provider for all of them it is
`launchInstance`.

A launch keeps its promise exactly when no volume runs into the handler:
every volume is created and attached, or the launch ends with an exception of
another kind, or no client can be made for the machine.

## Main definitions

* `launchVolumes`: The volumes of a list, each with its own answers.
* `launchMachine`: What is done with a created instance.
* `launchInstanceWith`: Launching an instance, each volume with its own answers.
* `createdVolume`: The outcome of creating a volume.
* `launchedVolume`: The outcome of creating and attaching it.
* `volumesAsked`: The volumes of a machine in the order of their turns.
* `Remembered`: No volume failed, and each is recorded at its place.
* `Alike`: A volume alone and in a list lead to the same outcome.
* `SshApart`: A client has nothing to do with the volumes.
* `Unswallowed`: No volume runs into the handler of a launch that goes on.
* `AwsEbs.create`, `AwsEbs.attachStorage`: The volumes of AWS.

## Theorems

* `launchInstanceWith_same`: One provider for all of them.
* `launchStorage_result`: A volume is there or it is nothing.
* `launchMachine_ok_iff`: When a node comes back, and which.
* `launch_remembers_iff`: When no volume is forgotten.
* `ebs_launched_iff`: When a volume of AWS is launched.
* `unattached_ebs_lost`: A volume that could not be attached is forgotten.
-/

namespace Xbench

open Effect

/-- A cloud with other answers. -/
def AbstractCloud.answering (self : AbstractCloud) (api : CloudApi) : AbstractCloud :=
  { self with api := api }

section Launch

variable (self : AbstractCloud) (answers : Nat → CloudApi)

/-- The volumes of a list, each with its own answers. -/
def launchVolumes (vm : VirtualMachine) : Nat → List VirtualStorage → Command (List VirtualStorage)
  | _, [] => pure []
  | i, s :: rest => do
      let ps ← launchStorage (self.answering (answers i)) (some vm) s
      let others ← launchVolumes vm (i + 1) rest
      pure (ps.getD (storageZone self (some vm) s) :: others)

/-- The turn of the first volume of the list. -/
def listTurn (vm : VirtualMachine) : Nat :=
  vm.storage.toList.length

/-- What is done with a created instance: its storage and its node. -/
def launchMachine (vm : VirtualMachine) : Command (Option Node) := do
  let storage ← vm.storage.elim (pure none)
    (launchStorage (self.answering (answers 0)) (some vm))
  let storageList ← launchVolumes self answers vm (listTurn vm) vm.storageList
  let node ← ofExcept (Node.ofVm self.api.sshOptions
    { vm with storage := storage, storageList := storageList })
  pure (some node)

/-- `launch_instance`, each volume with its own answers. -/
def launchInstanceWith (params : Params) : Command (Option Node) :=
  catching .cloud
    (do
      let klass ← ofExcept (createCompute self.cli)
      let vm ← ofExcept (computeVm self klass params)
      let created ← createInstance self klass 1 vm
      launchMachine self answers created)
    none

theorem storageZone_twice (vm : VirtualMachine) (s : VirtualStorage) :
    storageZone self (some vm) (storageZone self (some vm) s) = storageZone self (some vm) s := by
  unfold storageZone
  cases self.cloudType <;> rfl

theorem launchStorage_zoned (vm : VirtualMachine) (s : VirtualStorage) :
    launchStorage self (some vm) (storageZone self (some vm) s)
      = launchStorage self (some vm) s := by
  unfold launchStorage
  rw [storageZone_twice]

theorem launchVolumes_same (vm : VirtualMachine) (i : Nat) (ss : List VirtualStorage) :
    launchVolumes self (fun _ => self.api) vm i ss
      = processStorageInstances (launchStorage self (some vm))
          (ss.map (storageZone self (some vm))) := by
  induction ss generalizing i with
  | nil => rfl
  | cons s ss ih =>
      rw [launchVolumes, List.map_cons, processStorageInstances, launchStorage_zoned, ih]
      rfl

/-- With one provider for all of them it is `launch_instance`. -/
theorem launchInstanceWith_same (params : Params) :
    launchInstanceWith self (fun _ => self.api) params = launchInstance self params := by
  unfold launchInstanceWith launchInstance launchMachine
  simp only [launchVolumes_same, processStorage, zoned, bind_assoc]
  rfl

end Launch

section Outcomes

variable (cloud : AbstractCloud) (answers : Nat → CloudApi)

/-- The outcome of `gs.create()` for the volume whose turn it is. -/
def createdVolume (i : Nat) (vm : VirtualMachine) (s : VirtualStorage) :
    Except Exn VirtualStorage := do
  let gs ← (newStorage (cloud.answering (answers i)) (storageZone cloud (some vm) s)).result
  ((answers i).createVolume gs.1 gs.2).outcome

/-- The outcome of creating and attaching it. -/
def launchedVolume (i : Nat) (vm : VirtualMachine) (s : VirtualStorage) :
    Except Exn VirtualStorage := do
  let gs ← (newStorage (cloud.answering (answers i)) (storageZone cloud (some vm) s)).result
  let created ← ((answers i).createVolume gs.1 gs.2).outcome
  ((answers i).attach gs.1 vm.id vm.zone created).outcome

/-- The volumes of a machine in the order of their turns. -/
def volumesAsked (vm : VirtualMachine) : List VirtualStorage :=
  vm.storage.toList ++ vm.storageList

/-- Every volume is created and attached. -/
def AllLaunched (vm : VirtualMachine) : Prop :=
  ∀ i s, (volumesAsked vm)[i]? = some s → ∃ v, launchedVolume cloud answers i vm s = .ok v

/-- A volume ends the launch with an exception that is no cloud exception. -/
def Aborts (vm : VirtualMachine) : Prop :=
  ∃ i s e, (volumesAsked vm)[i]? = some s ∧ launchedVolume cloud answers i vm s = .error e
    ∧ e.isA .cloud = false

/-- No client can be made for the machine. -/
def Unreachable (vm : VirtualMachine) : Prop :=
  ∀ n, Node.ofVm cloud.api.sshOptions vm ≠ .ok n

/-- No volume runs into the handler of a launch that goes on. -/
def Unswallowed (vm : VirtualMachine) : Prop :=
  AllLaunched cloud answers vm ∨ Aborts cloud answers vm ∨ Unreachable cloud vm

/-- A volume that was created is recorded at its place, and no volume failed. -/
structure Remembered (vm : VirtualMachine) (n : Node) : Prop where
  storage : ∀ s v, vm.storage = some s → createdVolume cloud answers 0 vm s = .ok v →
    n.vm.storage.map (·.id) = some v.id
  storageList : ∀ i s v, vm.storageList[i]? = some s →
    createdVolume cloud answers (listTurn vm + i) vm s = .ok v →
    n.vm.storageList[i]?.map (·.id) = some v.id
  launched : AllLaunched cloud answers vm

/-- The machine with the volume alone. -/
def asStorage (vm : VirtualMachine) (s : VirtualStorage) : VirtualMachine :=
  { vm with storage := some s, storageList := [] }

/-- The machine with the volume as the only one of the list. -/
def asStorageList (vm : VirtualMachine) (s : VirtualStorage) : VirtualMachine :=
  { vm with storage := none, storageList := [s] }

/-- What a launch comes to: an exception, nothing, or the volumes of a node. -/
def launchOutcome (vm : VirtualMachine) : Except Exn (Option (List VirtualStorage)) :=
  (catching .cloud (launchMachine cloud answers vm) none).result.map
    (Option.map (fun n => n.vm.getAllStorage))

/-- A volume alone and in a list lead to the same outcome. -/
def Alike (vm : VirtualMachine) (s : VirtualStorage) : Prop :=
  launchOutcome cloud answers (asStorage vm s) = launchOutcome cloud answers (asStorageList vm s)

/-- A client is made of the address, the user and the key of a machine; it has
    nothing to do with the volumes. -/
def SshApart (api : CloudApi) : Prop :=
  ∀ vm storage storageList,
    api.sshOptions { vm with storage := storage, storageList := storageList } = api.sshOptions vm

end Outcomes

section Results

variable (self : AbstractCloud) (answers : Nat → CloudApi)

theorem createVolume_result (o : StorageObject) (s : VirtualStorage) :
    (createVolume self o s).result = (self.api.createVolume o s).outcome := by
  unfold createVolume
  cases (self.api.createVolume o s).made <;> rfl

/-- What `launch_storage` tries. -/
def tryLaunch (vm : VirtualMachine) (s : VirtualStorage) : Command (Option VirtualStorage) := do
  let gs ← newStorage self (storageZone self (some vm) s)
  let created ← createVolume self gs.1 gs.2
  let attached ← ofExcept (self.api.attach gs.1 vm.id vm.zone created).outcome
  pure (some attached)

theorem tryLaunch_result (i : Nat) (vm : VirtualMachine) (s : VirtualStorage) :
    (tryLaunch (self.answering (answers i)) vm s).result
      = some <$> launchedVolume self answers i vm s := by
  unfold tryLaunch launchedVolume
  simp only [result_bind, createVolume_result, result_ofExcept, result_pure, map_bind]
  rfl

theorem catching_result {α : Type} (c : ExnClass) (x : Command α) (v : α) :
    (catching c x v).result
      = match x.result with
        | .ok a => .ok a
        | .error e => if e.isA c then .ok v else .error e := by
  unfold catching
  cases hx : x.result with
  | ok a => rw [attempt_ok x _ a hx, hx]
  | error e =>
      rw [attempt_error x _ e hx]
      dsimp only
      by_cases hc : e.isA c = true
      · rw [if_pos hc, if_pos hc]
        rfl
      · rw [if_neg hc, if_neg hc]
        rfl

/-- A volume is there, or the handler makes it nothing. -/
theorem launchStorage_result (i : Nat) (vm : VirtualMachine) (s : VirtualStorage) :
    (launchStorage (self.answering (answers i)) (some vm) s).result
      = match launchedVolume self answers i vm s with
        | .ok v => .ok (some v)
        | .error e => if e.isA .cloud then .ok none else .error e := by
  have htry : launchStorage (self.answering (answers i)) (some vm) s
      = catching .cloud (tryLaunch (self.answering (answers i)) vm s) none := rfl
  rw [htry, catching_result, tryLaunch_result]
  cases launchedVolume self answers i vm s <;> rfl

theorem launchStorage_ok_iff (i : Nat) (vm : VirtualMachine) (s : VirtualStorage)
    (ps : Option VirtualStorage) :
    (launchStorage (self.answering (answers i)) (some vm) s).result = .ok ps
      ↔ (∀ e, launchedVolume self answers i vm s = .error e → e.isA .cloud = true)
        ∧ ps = (launchedVolume self answers i vm s).toOption := by
  rw [launchStorage_result]
  cases launchedVolume self answers i vm s with
  | ok v =>
      simp only [Except.ok.injEq, reduceCtorEq, false_implies, implies_true, true_and]
      exact ⟨fun h => h.symm, fun h => h.symm⟩
  | error e =>
      simp only [Except.error.injEq, forall_eq']
      by_cases hcloud : e.isA .cloud = true
      · rw [if_pos hcloud, Except.ok.injEq]
        exact ⟨fun h => ⟨hcloud, h.symm⟩, fun h => h.2.symm⟩
      · rw [if_neg hcloud]
        exact ⟨fun h => (by cases h), fun h => absurd h.1 hcloud⟩

/-- The volumes of the list as a launch leaves them. -/
def keptVolumes (vm : VirtualMachine) : Nat → List VirtualStorage → List VirtualStorage
  | _, [] => []
  | i, s :: rest =>
      (launchedVolume self answers i vm s).toOption.getD (storageZone self (some vm) s)
        :: keptVolumes vm (i + 1) rest

/-- Every exception about the volumes from a turn on is a cloud exception. -/
def OnlyCloud (vm : VirtualMachine) (i : Nat) (ss : List VirtualStorage) : Prop :=
  ∀ j s e, ss[j]? = some s → launchedVolume self answers (i + j) vm s = .error e →
    e.isA .cloud = true

theorem onlyCloud_cons (vm : VirtualMachine) (i : Nat) (s : VirtualStorage)
    (ss : List VirtualStorage) :
    OnlyCloud self answers vm i (s :: ss)
      ↔ (∀ e, launchedVolume self answers i vm s = .error e → e.isA .cloud = true)
        ∧ OnlyCloud self answers vm (i + 1) ss := by
  constructor
  · refine fun h => ⟨fun e he => h 0 s e rfl he, fun j s' e hs he => ?_⟩
    refine h (j + 1) s' e hs ?_
    rw [show i + (j + 1) = i + 1 + j by omega]
    exact he
  · rintro ⟨hfirst, hrest⟩ j s' e hs he
    cases j with
    | zero =>
        rw [← Option.some.inj hs] at he
        exact hfirst e he
    | succ j =>
        refine hrest j s' e hs ?_
        rw [show i + 1 + j = i + (j + 1) by omega]
        exact he

/-- The list is gone through when nothing but cloud exceptions is raised. -/
theorem launchVolumes_ok_iff (vm : VirtualMachine) (i : Nat) (ss l : List VirtualStorage) :
    (launchVolumes self answers vm i ss).result = .ok l
      ↔ OnlyCloud self answers vm i ss ∧ l = keptVolumes self answers vm i ss := by
  induction ss generalizing i l with
  | nil =>
      have hnone : OnlyCloud self answers vm i [] := fun j s e hs => by cases hs
      rw [and_iff_right hnone]
      exact ⟨fun h => (Except.ok.inj h).symm, fun h => congrArg Except.ok h.symm⟩
  | cons s ss ih =>
      rw [launchVolumes, result_bind, except_bind_ok_iff, onlyCloud_cons]
      simp only [launchStorage_ok_iff, result_bind, except_bind_ok_iff, ih, result_pure,
        Except.ok.injEq]
      constructor
      · rintro ⟨ps, ⟨hfirst, rfl⟩, others, ⟨hrest, rfl⟩, rfl⟩
        exact ⟨⟨hfirst, hrest⟩, rfl⟩
      · rintro ⟨⟨hfirst, hrest⟩, rfl⟩
        exact ⟨_, ⟨hfirst, rfl⟩, _, ⟨hrest, rfl⟩, rfl⟩

/-- The single storage as a launch leaves it. -/
def keptStorage (vm : VirtualMachine) : Option VirtualStorage :=
  vm.storage.bind (fun s => (launchedVolume self answers 0 vm s).toOption)

/-- The machine as a launch leaves it. -/
def storedMachine (vm : VirtualMachine) : VirtualMachine :=
  { vm with
    storage := keptStorage self answers vm
    storageList := keptVolumes self answers vm (listTurn vm) vm.storageList }

theorem single_ok_iff (vm : VirtualMachine) (o : Option VirtualStorage) :
    (vm.storage.elim (pure none) (launchStorage (self.answering (answers 0)) (some vm))
        : Command (Option VirtualStorage)).result = .ok o
      ↔ OnlyCloud self answers vm 0 vm.storage.toList ∧ o = keptStorage self answers vm := by
  unfold keptStorage
  cases vm.storage with
  | none =>
      have hnone : OnlyCloud self answers vm 0 [] := fun j s e hs => by cases hs
      rw [Option.toList_none, and_iff_right hnone]
      exact ⟨fun h => (Except.ok.inj h).symm, fun h => congrArg Except.ok h.symm⟩
  | some s =>
      have hnone : OnlyCloud self answers vm 1 [] := fun j s e hs => by cases hs
      rw [Option.toList_some, onlyCloud_cons, and_iff_left hnone]
      exact launchStorage_ok_iff self answers 0 vm s o

theorem onlyCloud_append (vm : VirtualMachine) (i : Nat) (ss rest : List VirtualStorage) :
    OnlyCloud self answers vm i (ss ++ rest)
      ↔ OnlyCloud self answers vm i ss ∧ OnlyCloud self answers vm (i + ss.length) rest := by
  induction ss generalizing i with
  | nil =>
      have hnone : OnlyCloud self answers vm i [] := fun j s e hs => by cases hs
      rw [List.nil_append, List.length_nil, Nat.add_zero, and_iff_right hnone]
  | cons s ss ih =>
      rw [List.cons_append, onlyCloud_cons, onlyCloud_cons, ih, and_assoc, List.length_cons,
        show i + 1 + ss.length = i + (ss.length + 1) by omega]

theorem onlyCloud_iff (vm : VirtualMachine) :
    OnlyCloud self answers vm 0 (volumesAsked vm) ↔ ¬ Aborts self answers vm := by
  unfold OnlyCloud Aborts
  constructor
  · rintro h ⟨i, s, e, hs, he, hother⟩
    rw [h i s e hs (by rw [Nat.zero_add]; exact he)] at hother
    cases hother
  · intro h i s e hs he
    rw [Nat.zero_add] at he
    by_contra hother
    exact h ⟨i, s, e, hs, he, Bool.eq_false_iff.mpr hother⟩

/-- When a node comes back, and which. -/
theorem launchMachine_ok_iff (vm : VirtualMachine) (o : Option Node) :
    (launchMachine self answers vm).result = .ok o
      ↔ ¬ Aborts self answers vm
        ∧ ∃ n, Node.ofVm self.api.sshOptions (storedMachine self answers vm) = .ok n
          ∧ o = some n := by
  rw [← onlyCloud_iff, volumesAsked, onlyCloud_append, Nat.zero_add, launchMachine]
  simp only [result_bind, except_bind_ok_iff, single_ok_iff, launchVolumes_ok_iff,
    result_ofExcept, result_pure, Except.ok.injEq]
  constructor
  · rintro ⟨_, ⟨hone, rfl⟩, _, ⟨hlist, rfl⟩, n, hn, rfl⟩
    exact ⟨⟨hone, hlist⟩, n, hn, rfl⟩
  · rintro ⟨⟨hone, hlist⟩, n, hn, rfl⟩
    exact ⟨_, ⟨hone, rfl⟩, _, ⟨hlist, rfl⟩, n, hn, rfl⟩

theorem keptVolumes_get (vm : VirtualMachine) (i j : Nat) (ss : List VirtualStorage) :
    (keptVolumes self answers vm i ss)[j]? = ss[j]?.map (fun s =>
      (launchedVolume self answers (i + j) vm s).toOption.getD (storageZone self (some vm) s)) := by
  induction ss generalizing i j with
  | nil => rfl
  | cons s ss ih =>
      cases j with
      | zero => rfl
      | succ j =>
          rw [keptVolumes, List.getElem?_cons_succ, List.getElem?_cons_succ, ih,
            show i + 1 + j = i + (j + 1) by omega]

/-- A volume that is attached has the identifier it was created with. -/
theorem launched_created (i : Nat) (vm : VirtualMachine) (s v c : VirtualStorage)
    (hv : launchedVolume self answers i vm s = .ok v)
    (hc : createdVolume self answers i vm s = .ok c) : v.id = c.id := by
  unfold launchedVolume at hv
  unfold createdVolume at hc
  rcases except_bind_eq_ok _ _ _ hv with ⟨gs, hgs, hv⟩
  rcases except_bind_eq_ok _ _ _ hv with ⟨c', hc', hv⟩
  rw [hgs] at hc
  rw [← Except.ok.inj (hc'.symm.trans hc), ((answers i).attach gs.1 vm.id vm.zone c').kept v hv]

/-- A launch without a failing volume records them all. -/
theorem remembered_of_launched (vm : VirtualMachine) (n : Node)
    (hn : n.vm = storedMachine self answers vm) (h : AllLaunched self answers vm) :
    Remembered self answers vm n := by
  refine ⟨fun s c hs hc => ?_, fun i s c hs hc => ?_, h⟩
  · have hfirst : (volumesAsked vm)[0]? = some s := by
      rw [volumesAsked, hs]
      rfl
    rcases h 0 s hfirst with ⟨v, hv⟩
    have hkept : n.vm.storage = some v := by
      rw [hn, storedMachine, keptStorage, hs, Option.bind_some, hv]
      rfl
    rw [hkept, Option.map_some, launched_created self answers 0 vm s v c hv hc]
  · have hturn : (volumesAsked vm)[listTurn vm + i]? = some s := by
      rw [volumesAsked, listTurn, List.getElem?_append_right (by omega), Nat.add_sub_cancel_left]
      exact hs
    rcases h _ s hturn with ⟨v, hv⟩
    have hkept : n.vm.storageList[i]? = some v := by
      rw [hn, storedMachine, keptVolumes_get, hs, Option.map_some, hv]
      rfl
    rw [hkept, Option.map_some, launched_created self answers _ vm s v c hv hc]

end Results

section Promise

variable (self : AbstractCloud) (answers : Nat → CloudApi)

/-- A client is made for a machine whatever its volumes. -/
theorem ofVm_apart (hssh : SshApart self.api) (vm : VirtualMachine)
    (storage : Option VirtualStorage) (storageList : List VirtualStorage) :
    Node.ofVm self.api.sshOptions { vm with storage := storage, storageList := storageList }
      = (Node.ofVm self.api.sshOptions vm).map
          (fun _ => ⟨{ vm with storage := storage, storageList := storageList }⟩) := by
  unfold Node.ofVm
  dsimp only
  by_cases hmanaged : vm.managed = true
  · rw [if_pos hmanaged, if_pos hmanaged]
    by_cases hos : vm.osType ∈ allOsTypes
    · rw [if_pos hos, if_pos hos, hssh vm storage storageList]
      cases vm.network with
      | none => rfl
      | some network => cases self.api.sshOptions vm <;> rfl
    · rw [if_neg hos, if_neg hos]
      rfl
  · rw [if_neg hmanaged, if_neg hmanaged]
    rfl

/-- The launch of a machine keeps its promise when no volume is swallowed, and
    only then. -/
theorem machine_remembers_iff (hssh : SshApart self.api) (vm : VirtualMachine) :
    (∀ n, (launchMachine self answers vm).result = .ok (some n) → Remembered self answers vm n)
      ↔ Unswallowed self answers vm := by
  constructor
  · intro h
    by_contra hswallowed
    unfold Unswallowed at hswallowed
    rw [not_or, not_or] at hswallowed
    rcases hswallowed with ⟨hfailed, hgoes, hreach⟩
    -- a client can be made, so a node comes back
    unfold Unreachable at hreach
    push Not at hreach
    rcases hreach with ⟨n, hn⟩
    have hstored : Node.ofVm self.api.sshOptions (storedMachine self answers vm)
        = .ok ⟨storedMachine self answers vm⟩ := by
      rw [storedMachine, ofVm_apart self hssh, hn]
      rfl
    exact hfailed (h _ ((launchMachine_ok_iff self answers vm _).mpr
      ⟨hgoes, _, hstored, rfl⟩)).launched
  · intro h n hn
    rcases (launchMachine_ok_iff self answers vm _).mp hn with ⟨hgoes, n', hn', hsome⟩
    rw [← Option.some.inj hsome] at hn'
    rcases h with hall | haborts | hreach
    · exact remembered_of_launched self answers vm n (ofVm_vm _ _ _ hn') hall
    · exact absurd haborts hgoes
    · rw [storedMachine, ofVm_apart self hssh] at hn'
      rcases except_map_eq_ok _ _ _ hn' with ⟨n₀, hn₀, _⟩
      exact absurd hn₀ (hreach n₀)

theorem storageZone_congr (vm vm' : VirtualMachine) (s : VirtualStorage)
    (hzone : vm.zone = vm'.zone) :
    storageZone self (some vm) s = storageZone self (some vm') s := by
  unfold storageZone
  cases self.cloudType with
  | aws =>
      dsimp only
      rw [hzone]
  | _ => rfl

/-- A volume is attached to a machine of an identifier and a zone. -/
theorem launchStorage_congr (vm vm' : VirtualMachine) (s : VirtualStorage)
    (hid : vm.id = vm'.id) (hzone : vm.zone = vm'.zone) :
    launchStorage self (some vm) s = launchStorage self (some vm') s := by
  unfold launchStorage
  rw [storageZone_congr self vm vm' s hzone]
  dsimp only
  rw [hid, hzone]

/-- A volume alone takes whatever its launch gives. -/
theorem storage_result (vm : VirtualMachine) (s : VirtualStorage) :
    (launchMachine self answers (asStorage vm s)).result = (do
      let ps ← (launchStorage (self.answering (answers 0)) (some vm) s).result
      let n ← Node.ofVm self.api.sshOptions { vm with storage := ps, storageList := [] }
      pure (some n)) := by
  rw [← launchStorage_congr _ (asStorage vm s) vm s rfl rfl]
  simp only [launchMachine, result_bind]
  rfl

/-- A volume of a list stays as it was requested. -/
theorem storageList_result (vm : VirtualMachine) (s : VirtualStorage) :
    (launchMachine self answers (asStorageList vm s)).result = (do
      let ps ← (launchStorage (self.answering (answers 0)) (some vm) s).result
      let n ← Node.ofVm self.api.sshOptions
        { vm with storage := none, storageList := [ps.getD (storageZone self (some vm) s)] }
      pure (some n)) := by
  have hlist : (launchVolumes self answers (asStorageList vm s) 0 [s]).result
      = (launchStorage (self.answering (answers 0)) (some vm) s).result
        >>= fun ps => pure [ps.getD (storageZone self (some vm) s)] := by
    rw [← launchStorage_congr _ (asStorageList vm s) vm s rfl rfl,
      ← storageZone_congr self (asStorageList vm s) vm s rfl]
    simp only [launchVolumes, result_bind]
    rfl
  simp only [launchMachine, result_bind]
  change (launchVolumes self answers (asStorageList vm s) 0 [s]).result >>= _ = _
  rw [hlist]
  cases (launchStorage (self.answering (answers 0)) (some vm) s).result <;> rfl

/-- A volume alone and in a list lead to the same outcome when it is not
    swallowed. -/
theorem alike_of_unswallowed (hssh : SshApart self.api) (vm : VirtualMachine)
    (s : VirtualStorage) (hs : volumesAsked vm = [s]) (h : Unswallowed self answers vm) :
    Alike self answers vm s := by
  unfold Alike launchOutcome
  rw [catching_result, catching_result, storage_result, storageList_result, launchStorage_result]
  have hnode := ofVm_apart self hssh vm
  simp only [fun ps => hnode ps [], fun ss => hnode none ss]
  cases hv : launchedVolume self answers 0 vm s with
  | ok v => cases Node.ofVm self.api.sshOptions vm <;> rfl
  | error e =>
      by_cases hcloud : e.isA .cloud = true
      · -- swallowed, so there is no client either way
        have hreach : Unreachable self vm := by
          rcases h with hall | ⟨i, s', e', hs', he', hother⟩ | hreach
          · rcases hall 0 s (by rw [hs]; rfl) with ⟨v, hok⟩
            rw [hv] at hok
            cases hok
          · rw [hs] at hs'
            cases i with
            | succ i => cases hs'
            | zero =>
                rw [← Option.some.inj hs', hv] at he'
                rw [← Except.error.inj he', hcloud] at hother
                cases hother
          · exact hreach
        simp only [hcloud, if_true]
        cases hclient : Node.ofVm self.api.sshOptions vm with
        | ok n => exact absurd hclient (hreach n)
        | error e' => rfl
      · simp only [hcloud, Bool.false_eq_true, if_false]
        rfl

/-- The instance that is created for a request. -/
def instanceFor (params : Params) : Except Exn VirtualMachine := do
  let klass ← createCompute self.cli
  let vm ← computeVm self klass params
  (self.api.create klass 1 vm).outcome

/-- What a launch promises: the node that comes back remembers the volumes of
    its instance, and a volume alone is treated as in a list. -/
def RemembersVolumes (params : Params) : Prop :=
  (∀ n, (launchInstanceWith self answers params).result = .ok (some n) →
    ∃ vm, instanceFor self params = .ok vm ∧ Remembered self answers vm n)
  ∧ ∀ vm s, instanceFor self params = .ok vm → volumesAsked vm = [s] → Alike self answers vm s

theorem createInstance_result (klass : ComputeKlass) (count : Nat) (vm : VirtualMachine) :
    (createInstance self klass count vm).result = (self.api.create klass count vm).outcome := by
  unfold createInstance
  cases (self.api.create klass count vm).made <;> rfl

/-- A node comes back when it does for the instance that is created. -/
theorem launchInstanceWith_ok_iff (params : Params) (n : Node) :
    (launchInstanceWith self answers params).result = .ok (some n)
      ↔ ∃ vm, instanceFor self params = .ok vm
        ∧ (launchMachine self answers vm).result = .ok (some n) := by
  unfold launchInstanceWith
  rw [catching_result]
  have hresult : (do
      let klass ← ofExcept (createCompute self.cli)
      let vm ← ofExcept (computeVm self klass params)
      let created ← createInstance self klass 1 vm
      launchMachine self answers created : Command (Option Node)).result
        = instanceFor self params >>= fun vm => (launchMachine self answers vm).result := by
    simp only [instanceFor, result_bind, createInstance_result, result_ofExcept]
    cases createCompute self.cli with
    | error e => rfl
    | ok klass =>
        change computeVm self klass params >>= _ = (computeVm self klass params >>= _) >>= _
        cases computeVm self klass params <;> rfl
  rw [hresult, ← except_bind_ok_iff]
  cases instanceFor self params >>= fun vm => (launchMachine self answers vm).result with
  | ok o => exact Iff.rfl
  | error e =>
      dsimp only
      by_cases hcloud : e.isA .cloud = true
      · rw [if_pos hcloud]
        exact ⟨fun h => (by cases h), fun h => (by cases h)⟩
      · rw [if_neg hcloud]

/-- No volume is forgotten exactly when none of an instance that is created is
    swallowed by the handler. -/
theorem launch_remembers_iff (hssh : SshApart self.api) (params : Params) :
    RemembersVolumes self answers params
      ↔ ∀ vm, instanceFor self params = .ok vm → Unswallowed self answers vm := by
  constructor
  · rintro ⟨hnode, _⟩ vm hvm
    refine (machine_remembers_iff self answers hssh vm).mp (fun n hn => ?_)
    rcases hnode n ((launchInstanceWith_ok_iff self answers params n).mpr ⟨vm, hvm, hn⟩)
      with ⟨vm', hvm', hremembered⟩
    rw [hvm] at hvm'
    rw [Except.ok.inj hvm']
    exact hremembered
  · intro h
    refine ⟨fun n hn => ?_, fun vm s hvm hs => ?_⟩
    · rcases (launchInstanceWith_ok_iff self answers params n).mp hn with ⟨vm, hvm, hmachine⟩
      exact ⟨vm, hvm, (machine_remembers_iff self answers hssh vm).mpr (h vm hvm) n hmachine⟩
    · exact alike_of_unswallowed self answers hssh vm s hs (h vm hvm)

end Promise

section Ebs

/-- The answers of the AWS command line about volumes: the `VolumeId` of a new
    one, waiting for an event, and attaching; and whether the instance type
    names its devices itself. -/
structure EbsCli where
  createVolume : VirtualStorage → Except Exn (Option String)
  wait : String → String → Except Exn Unit
  attachVolume : String → Option String → String → Except Exn Unit
  isNitroType : Bool

def volumeNotReady : Exn :=
  ⟨.cloudStorage, "volume is not ready!  It must first be created"⟩

theorem created_nothing (s v : VirtualStorage) (e : Exn)
    (h : (.error e : Except Exn VirtualStorage) = .ok v) :
    v.klass = s.klass ∧ v.name = s.name ∧ ∀ id, (none : Option String) = some id → v.id = id := by
  cases h

theorem created_identified (s v : VirtualStorage) (id : String) (waited : Except Exn Unit)
    (h : waited.map (fun _ => { s with id := id }) = .ok v) :
    v.klass = s.klass ∧ v.name = s.name ∧ ∀ id', some id = some id' → v.id = id' := by
  rcases except_map_eq_ok _ _ _ h with ⟨_, _, rfl⟩
  exact ⟨rfl, rfl, fun _ hid => Option.some.inj hid⟩

/-- `AwsEbs.create`: the volume exists before anything waits for it. -/
def AwsEbs.create (cli : EbsCli) (s : VirtualStorage) : VolumeCreation s :=
  match cli.createVolume s with
  | .error e => ⟨none, .error e, fun v => created_nothing s v e⟩
  | .ok none => ⟨none, .error volumeNotReady, fun v => created_nothing s v volumeNotReady⟩
  | .ok (some id) =>
      ⟨some id, (cli.wait "volume-available" id).map (fun _ => { s with id := id }),
        fun v => created_identified s v id (cli.wait "volume-available" id)⟩

/-- The device of an attached volume. -/
def AwsEbs.attached (cli : EbsCli) (s : VirtualStorage) : VirtualStorage :=
  if cli.isNitroType then { s with device := "/dev/nvme1n1" } else s

/-- `AwsEbs.attach_storage`. The tests of the device and of the zone make their
    exceptions but do not raise them. -/
def AwsEbs.attach (cli : EbsCli) (vmId : Option String) (s : VirtualStorage) :
    Except Exn VirtualStorage := do
  cli.attachVolume s.id vmId s.device
  cli.wait "volume-in-use" s.id
  .ok (AwsEbs.attached cli s)

theorem AwsEbs.attach_kept (cli : EbsCli) (vmId : Option String) (s v : VirtualStorage)
    (h : AwsEbs.attach cli vmId s = .ok v) : v = { s with device := v.device } := by
  unfold AwsEbs.attach at h
  rcases except_bind_eq_ok _ _ _ h with ⟨_, _, h⟩
  rcases except_bind_eq_ok _ _ _ h with ⟨_, _, h⟩
  rw [← Except.ok.inj h, AwsEbs.attached]
  cases cli.isNitroType <;> rfl

/-- A provider whose volumes are those of the AWS command line. -/
def ebsApi (cli : EbsCli) : CloudApi :=
  { obedientApi with
    createVolume := fun _ s => AwsEbs.create cli s
    attach := fun _ vmId _ s => ⟨AwsEbs.attach cli vmId s, AwsEbs.attach_kept cli vmId s⟩ }

theorem newStorage_ebs (self : AbstractCloud) (hcli : self.cli = some .aws) (cli : EbsCli)
    (s : VirtualStorage) (htype : s.type.any (fun t => decide (t ∈ awsEbsTypes)) = true) :
    (newStorage (self.answering (ebsApi cli)) s).result
      = .ok (.awsEbs, { s with klass := .virtualStorage }) := by
  have hlocal : s.type ≠ some "ephemeral" := by
    intro h
    rw [h] at htype
    exact absurd htype (by decide)
  have hclass : createStorage self.cli s = .ok .awsEbs := by
    rw [hcli, createStorage, if_neg hlocal, if_pos htype]
  change (ofExcept (createStorage self.cli s) >>= _ : Command _).result = _
  rw [hclass]
  rfl

/-- A volume of AWS is launched when all four commands succeed. -/
theorem ebs_launched_iff (self : AbstractCloud) (hcli : self.cli = some .aws) (cli : EbsCli)
    (i : Nat) (vm : VirtualMachine) (s : VirtualStorage)
    (htype : s.type.any (fun t => decide (t ∈ awsEbsTypes)) = true) :
    (∃ v, launchedVolume self (fun _ => ebsApi cli) i vm s = .ok v)
      ↔ ∃ id, cli.createVolume { storageZone self (some vm) s with klass := .virtualStorage }
            = .ok (some id)
          ∧ cli.wait "volume-available" id = .ok ()
          ∧ cli.attachVolume id vm.id s.device = .ok ()
          ∧ cli.wait "volume-in-use" id = .ok () := by
  -- the zone is all that is set before the volume is made
  have hzone : (storageZone self (some vm) s).type = s.type
      ∧ (storageZone self (some vm) s).device = s.device := by
    unfold storageZone
    cases self.cloudType <;> exact ⟨rfl, rfl⟩
  unfold launchedVolume
  rw [newStorage_ebs self hcli cli _ (by rw [hzone.1]; exact htype)]
  change (∃ v, (AwsEbs.create cli { storageZone self (some vm) s with klass := .virtualStorage }
    ).outcome >>= (fun c => AwsEbs.attach cli vm.id c) = .ok v) ↔ _
  simp only [except_bind_ok_iff, AwsEbs.attach]
  constructor
  · rintro ⟨v, c, hcreated, ⟨⟩, hattach, ⟨⟩, hwait, _⟩
    unfold AwsEbs.create at hcreated
    -- a volume without an id is none
    cases hid : cli.createVolume
        { storageZone self (some vm) s with klass := .virtualStorage } with
    | error e =>
        rw [hid] at hcreated
        cases hcreated
    | ok o =>
        rw [hid] at hcreated
        cases o with
        | none => cases hcreated
        | some id =>
            rcases except_map_eq_ok _ _ _ hcreated with ⟨⟨⟩, hready, rfl⟩
            rw [← hzone.2]
            exact ⟨id, rfl, hready, hattach, hwait⟩
  · rintro ⟨id, hid, hready, hattach, hwait⟩
    rw [← hzone.2] at hattach
    refine ⟨_, { storageZone self (some vm) s with klass := .virtualStorage, id := id }, ?_,
      (), hattach, (), hwait, rfl⟩
    unfold AwsEbs.create
    rw [hid]
    dsimp only
    rw [hready]
    rfl

/-- The command line creates volumes, and then refuses to attach them. -/
def refusingCli : EbsCli where
  createVolume := fun _ => .ok (some "vol-1")
  wait := fun _ _ => .ok ()
  attachVolume := fun _ _ _ =>
    .error ⟨.awsCli, "Instance 'i-1' is not 'running'."⟩
  isNitroType := true

/-- An AWS cloud with such a command line. -/
def refusingCloud : AbstractCloud :=
  { awsCloud with api := ebsApi refusingCli }

/-- A driver with one volume, as storage or as the only one of a list. -/
def driverWith (key : String) (v : Value) : Params :=
  Dict.ofList
    [("env", .str "env_0"),
      ("cloud", .str "aws"),
      ("cluster_name", .str "dev"),
      ("name", .str "driver-0"),
      ("role", .str "driver"),
      ("klass", .str "driver.Sysbench"),
      ("klass_config_label", .str "sysbench"),
      ("instance_type", .str "c5.xlarge"),
      ("zone", .str "us-west-2a"),
      ("os_type", .str "CentOS7"),
      ("managed", .bool true),
      ("provisioned", .bool true),
      ("network", .dict []),
      (key, v)]

def io2 : Value :=
  .dict [("type", .str "io2"), ("size", .int 500), ("iops", .int 10000)]

/-- The driver that is created, and its volume. -/
def refusedVolume : VirtualStorage :=
  ⟨.virtualStorage, 500, 10000, some "io2", "/dev/xvdb", "us_west_2a", "volume", "", 0⟩

def refusedVm : VirtualMachine :=
  { driverVm (some refusedVolume) with id := none, sshUser := "root" }

/-- The volume exists, and the node that comes back has no storage. -/
theorem unattached_ebs_lost :
    ¬ RemembersVolumes refusingCloud (fun _ => refusingCloud.api) (driverWith "storage" io2)
      ∧ (launchInstance refusingCloud (driverWith "storage" io2)).trace
          = [.createInstance "env_0" none, .createVolume "vol-1"] := by
  refine ⟨fun h => ?_, rfl⟩
  have hvm : instanceFor refusingCloud (driverWith "storage" io2) = .ok refusedVm := rfl
  have hnode : (launchInstanceWith refusingCloud (fun _ => refusingCloud.api)
      (driverWith "storage" io2)).result = .ok (some ⟨{ refusedVm with storage := none }⟩) := rfl
  rcases h.1 _ hnode with ⟨vm, hcreated, hremembered⟩
  rw [hvm] at hcreated
  rw [← Except.ok.inj hcreated] at hremembered
  rcases hremembered.launched 0 refusedVolume rfl with ⟨v, hv⟩
  cases hv

/-- With a provider that does what it is asked, the volume is remembered. -/
theorem obedient_volume_remembered :
    RemembersVolumes awsCloud (fun _ => obedientApi) (driverWith "storage" io2) := by
  refine (launch_remembers_iff awsCloud (fun _ => obedientApi) (fun _ _ _ => rfl)
    (driverWith "storage" io2)).mpr (fun vm hvm => Or.inl ?_)
  have hone : instanceFor awsCloud (driverWith "storage" io2) = .ok refusedVm := rfl
  rw [hone] at hvm
  rw [← Except.ok.inj hvm]
  intro i s hs
  cases i with
  | zero =>
      cases hs
      exact ⟨_, rfl⟩
  | succ i => cases hs

end Ebs

end Xbench
