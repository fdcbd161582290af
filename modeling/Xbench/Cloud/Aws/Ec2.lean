import Xbench.Lib.Session
import Xbench.Cloud.Clouds

/-!
# EC2 Instances and EBS Volumes

The steps of a machine on EC2, and attaching a volume to it.

Each step gives the provider a command and then waits for the state it aims at;
waiting is a command of the tool as well. A refused wait becomes an exception
object that nothing raises, in `wait_for_instance`, so the step goes on as if
the state was reached. In the same way attaching a volume makes two exceptions
about the device and the zone and goes on.

What a step returns is told by the answers to its commands. `Meets` is read off
them: a wait is refused and everything else the step does succeeds.

## Main definitions

* `AwsCommand`: A command for the tool.
* `awsRun`: Running it.
* `waitForInstance`: Waiting for a state.
* `describe`: Asking for an instance.
* `create`, `start`, `stop`, `destroy`: The steps of a machine.
* `attachStorage`: Attaching a volume.
* `Confirmed`: A step that returns has reached what it aims at.
* `Meets`: When it has.

## Theorems

* `waitForInstance_eq`: Waiting returns whatever the answer is.
* `describe_eq`: Describing is one command.
* `stop_eq`, `start_eq`, `destroy_eq`: What a step returns, and its commands.
* `create_ok_iff`, `attachStorage_ok_iff`: When creating and attaching return.
* `confirmed_iff`: When a step that returns has reached what it aims at.
-/

namespace Xbench

namespace Ec2

open Session Text

/-- The states a machine is waited for. -/
inductive ComputeState where
  | running
  | terminated
  | stopped
deriving DecidableEq

/-- The states a volume is waited for. -/
inductive StorageState where
  | ready
  | inUse
  | deleted
deriving DecidableEq

/-- What stands in a command to create a machine. -/
structure RunInstances where
  instanceType : String
  imageId : String
  keyName : Option String
  subnetId : String
  placementGroup : Option String
  securityGroup : Option String
  tag : String

/-- A command for the tool. -/
inductive AwsCommand where
  | runInstances (r : RunInstances)
  | wait (state : ComputeState) (instanceId : String)
  | describeInstances (instanceId : String)
  | terminateInstances (instanceId : String)
  | stopInstances (instanceId : String)
  | startInstances (instanceId : String)
  | attachVolume (volumeId : String) (instanceId : Option String) (device : String)
  | waitVolume (state : StorageState) (volumeId : String)

/-- An answer of the tool: its output, or the message of the exception. -/
abbrev Answer := Except String String

/-- The commands that were given, with the answers. -/
abbrev Calls := List (AwsCommand × Answer)

/-- What is read of an instance in an output: its identifier, and its addresses
    or empty strings. -/
structure InstanceEntry where
  id : Option String
  publicIp : String
  privateIp : String

/-- What the environment has for its region. -/
structure RegionConfig where
  zones : Option (Dict String String)
  images : Option (Dict String (Dict String (Dict String String)))
  securityGroup : Option String
  keyName : Option String
  keyFile : Option String

/-- The compute object of a machine. -/
structure AwsEc2 where
  regionConfig : RegionConfig
  vm : VirtualMachine

/-- `self.tag`. -/
def AwsEc2.tag (self : AwsEc2) : String :=
  self.vm.clusterName ++ "-" ++ self.vm.name

/-- The storage object of a volume, whose identifier is that of `vs` once it is
    known. -/
structure AwsEbs where
  vs : VirtualStorage
  id : Option String
  isNitroType : Bool

section Steps

variable (answers : Nat → Answer) (loads : String → Option (List InstanceEntry))

/-- `cli.run`. -/
def awsRun (command : AwsCommand) : Session Calls Exn String := do
  match ← ask answers command with
  | .ok stdout => pure stdout
  | .error message => raise ⟨.cloudCli, message⟩

/-- `json.loads`. -/
def jsonLoads (stdout : String) : Except Exn (List InstanceEntry) :=
  match loads stdout with
  | some instances => .ok instances
  | none => .error ⟨.valueError, "Expecting value"⟩

/-- `self.instance_id`. -/
def instanceId (vm : VirtualMachine) : Except Exn String :=
  match vm.id with
  | some id => .ok id
  | none => .error noInstanceId

/-- `wait_for_instance`. -/
def waitForInstance (vm : VirtualMachine) (waitForStatus : ComputeState) :
    Session Calls Exn Unit := do
  let id ← ofExcept (instanceId vm)
  attempt
    (do
      let _ ← awsRun answers (.wait waitForStatus id)
      pure ())
    (fun e =>
      if e.isA .cloudCli then
        if Within "InvalidInstanceID.Malformed" e.message then pure ()
        -- an `AwsEc2Exception` is made here, and not raised
        else pure ()
      else raise e)

/-- `describe`. -/
def describe (vm : VirtualMachine) : Session Calls Exn InstanceEntry := do
  let id ← ofExcept (instanceId vm)
  let instances ← attempt
    (do
      let stdout ← awsRun answers (.describeInstances id)
      ofExcept (jsonLoads loads stdout))
    (fun e =>
      if e.isA .cloudCli then
        if Within "InvalidInstanceID.NotFound" e.message then
          raise ⟨.awsEc2, "Instance " ++ id ++ " does not exist"⟩
        else raise ⟨.awsCli, "aws command failed with " ++ e.message⟩
      else raise e)
  match instances with
  | [] => raise ⟨.awsEc2, "Instance " ++ id ++ " doesn't exist"⟩
  | first :: _ => pure first

/-- `d[k]`, where `d` may be `None`. -/
def subscript {ν : Type} (d : Option (Dict String ν)) (k : String) : Except Exn ν :=
  match d with
  | none => .error ⟨.typeError, "'NoneType' object is not subscriptable"⟩
  | some d =>
      match d.get? k with
      | none => .error ⟨.keyError, (Value.str k).repr⟩
      | some v => .ok v

/-- The subnet, the image and the user, as the region has them. -/
def lookups (self : AwsEc2) : Except Exn (String × String × String) := do
  let subnetId ← subscript self.regionConfig.zones self.vm.zone
  let arches ← subscript self.regionConfig.images self.vm.osType
  let image ← subscript (some arches) self.vm.arch
  let imageId ← subscript (some image) "image_id"
  let sshUser ← subscript (some image) "ssh_user"
  .ok (subnetId, imageId, sshUser)

/-- The same, where a missing key is a problem of the configuration. -/
def configuration (self : AwsEc2) : Except Exn (String × String × String) :=
  match lookups self with
  | .ok found => .ok found
  | .error e =>
      if e.isA .keyError then .error ⟨.awsEc2, "problem with configuration: " ++ e.message⟩
      else .error e

/-- The addresses of a machine that was described. -/
def networkOf (i : InstanceEntry) : VirtualNetwork :=
  { VirtualNetwork.default with publicIp := i.publicIp, privateIp := i.privateIp }

/-- `create`. -/
def create (self : AwsEc2) : Session Calls Exn VirtualMachine := do
  let (subnetId, imageId, sshUser) ← ofExcept (configuration self)
  let keyFile :=
    if self.vm.keyFile = "" then self.regionConfig.keyFile.getD "" else self.vm.keyFile
  attempt
    (do
      let stdout ← awsRun answers (.runInstances
        { instanceType := self.vm.instanceType
          imageId := imageId
          keyName := self.regionConfig.keyName
          subnetId := subnetId
          placementGroup := self.vm.placementGroup.filter (fun group => group != "")
          securityGroup := self.regionConfig.securityGroup
          tag := self.tag })
      let instances ← ofExcept (jsonLoads loads stdout)
      match instances with
      | [] => raise ⟨.indexError, "list index out of range"⟩
      | created :: _ => do
          let vm := { self.vm with keyFile := keyFile, sshUser := sshUser, id := created.id }
          waitForInstance answers vm .running
          let described ← describe answers loads vm
          pure { vm with network := some (networkOf described) })
    (fun e =>
      if e.isA .cloudCli then raise ⟨.awsEc2, "aws command failed with " ++ e.message⟩
      else raise e)

/-- `start`. -/
def start (vm : VirtualMachine) : Session Calls Exn (Option VirtualMachine) := do
  let id ← ofExcept (instanceId vm)
  if awsManaged id then
    let _ ← awsRun answers (.startInstances id)
    waitForInstance answers vm .running
    let described ← describe answers loads vm
    pure (some { vm with network := some (networkOf described) })
  else pure none

/-- `stop`. -/
def stop (vm : VirtualMachine) : Session Calls Exn Unit := do
  let id ← ofExcept (instanceId vm)
  if awsManaged id then
    let _ ← awsRun answers (.stopInstances id)
    waitForInstance answers vm .stopped
  else pure ()

/-- `destroy`. An instance that is not there is left alone. -/
def destroy (vm : VirtualMachine) : Session Calls Exn Unit := do
  let id ← ofExcept (instanceId vm)
  if awsManaged id then
    let there ← attempt
      (do
        let _ ← describe answers loads vm
        pure true)
      (fun e => if e.isA .awsEc2 then pure false else raise e)
    if there then
      let _ ← awsRun answers (.terminateInstances id)
      waitForInstance answers vm .terminated
    else pure ()
  else pure ()

/-- `self.volume_id`. -/
def volumeId (ebs : AwsEbs) : Except Exn String :=
  match ebs.id with
  | some id => .ok id
  | none => .error ⟨.cloudStorage, "volume is not ready!  It must first be created"⟩

/-- `wait_for_storage`. -/
def waitForStorage (ebs : AwsEbs) (event : StorageState) : Session Calls Exn Unit := do
  let id ← ofExcept (volumeId ebs)
  let _ ← awsRun answers (.waitVolume event id)
  pure ()

/-- `attach_storage`. Of an empty device and of another zone an
    `AwsStorageException` is made, and not raised. -/
def attachStorage (ebs : AwsEbs) (vm : VirtualMachine) : Session Calls Exn VirtualStorage := do
  let id ← ofExcept (volumeId ebs)
  let _ ← awsRun answers (.attachVolume id vm.id ebs.vs.device)
  waitForStorage answers ebs .inUse
  pure { ebs.vs with device := if ebs.isNitroType then "/dev/nvme1n1" else ebs.vs.device }

end Steps

section Law

variable (answers : Nat → Answer) (loads : String → Option (List InstanceEntry))

/-- The wait for a state succeeded, or was refused as one for no identifier. -/
def Reached (state : ComputeState) (id : String) (calls : Calls) : Prop :=
  (∃ out, (AwsCommand.wait state id, Except.ok out) ∈ calls)
    ∨ ∃ message, (AwsCommand.wait state id, Except.error message) ∈ calls
      ∧ Within "InvalidInstanceID.Malformed" message

/-- An answer by which the instance does not exist. -/
def NotExisting (answer : Answer) : Prop :=
  (∃ message, answer = .error message ∧ Within "InvalidInstanceID.NotFound" message)
    ∨ ∃ out, answer = .ok out ∧ loads out = some []

/-- An instance that is managed. -/
structure ManagedInstance where
  vm : VirtualMachine
  id : String
  hasId : vm.id = some id
  managed : awsManaged id = true

/-- A step of EC2 and EBS. -/
inductive Ec2Step where
  | create (self : AwsEc2)
  | start (i : ManagedInstance)
  | stop (i : ManagedInstance)
  | destroy (i : ManagedInstance)
  | attachStorage (ebs : AwsEbs) (vm : VirtualMachine)

/-- A step that returns has reached what it aims at. -/
def Confirmed : Ec2Step → Prop
  | .create self => ∀ vm calls, create answers loads self [] = (.ok vm, calls) →
      ∃ id, vm.id = some id ∧ Reached .running id calls
  | .start i => ∀ vm calls, start answers loads i.vm [] = (.ok vm, calls) →
      Reached .running i.id calls
  | .stop i => ∀ u calls, stop answers i.vm [] = (.ok u, calls) → Reached .stopped i.id calls
  | .destroy i => ∀ u calls, destroy answers loads i.vm [] = (.ok u, calls) →
      Reached .terminated i.id calls
        ∨ ∃ answer, (AwsCommand.describeInstances i.id, answer) ∈ calls
          ∧ NotExisting loads answer
  | .attachStorage ebs vm => ∀ vs calls, attachStorage answers ebs vm [] = (.ok vs, calls) →
      ebs.vs.device ≠ "" ∧ vm.zone = ebs.vs.zone
        ∧ ∃ id out, ebs.id = some id ∧ (AwsCommand.waitVolume .inUse id, Except.ok out) ∈ calls

/-- A wait that is refused, and not as one for no identifier. -/
def Refused (answer : Answer) : Prop :=
  ∃ message, answer = .error message ∧ ¬ Within "InvalidInstanceID.Malformed" message

/-- An answer with an output. -/
def Succeeds (answer : Answer) : Prop :=
  ∃ out, answer = .ok out

/-- An answer that describes an instance. -/
def Describes (answer : Answer) (first : InstanceEntry) : Prop :=
  ∃ out rest, answer = .ok out ∧ loads out = some (first :: rest)

/-- The step does not come to a refused wait, or fails at something else; and
    no volume is attached without a device or from another zone. -/
def Meets : Ec2Step → Prop
  | .create self =>
      ¬ ((∃ found, configuration self = .ok found)
        ∧ (∃ first id, Describes loads (answers 0) first ∧ first.id = some id)
        ∧ Refused (answers 1) ∧ ∃ first, Describes loads (answers 2) first)
  | .start _ =>
      ¬ (Succeeds (answers 0) ∧ Refused (answers 1) ∧ ∃ first, Describes loads (answers 2) first)
  | .stop _ => ¬ (Succeeds (answers 0) ∧ Refused (answers 1))
  | .destroy _ =>
      ¬ ((∃ first, Describes loads (answers 0) first) ∧ Succeeds (answers 1)
        ∧ Refused (answers 2))
  | .attachStorage ebs vm =>
      ebs.vs.device ≠ "" ∧ vm.zone = ebs.vs.zone
        ∨ ¬ (ebs.id ≠ none ∧ Succeeds (answers 0) ∧ Succeeds (answers 1))

end Law

section Spec

variable (answers : Nat → Answer) (loads : String → Option (List InstanceEntry))

theorem awsRun_apply (command : AwsCommand) (calls : Calls) :
    awsRun answers command calls
      = ((answers calls.length).mapError (fun message => ⟨.cloudCli, message⟩),
          calls ++ [(command, answers calls.length)]) := by
  unfold awsRun
  rw [bind_apply]
  change (match answers calls.length with
    | .ok stdout => pure stdout
    | .error message => raise ⟨.cloudCli, message⟩ : Session Calls Exn String) _ = _
  cases answers calls.length <;> rfl

theorem isA_cloudCli (message : String) : (⟨.cloudCli, message⟩ : Exn).isA .cloudCli = true :=
  rfl

theorem instanceId_eq (vm : VirtualMachine) (id : String) (hid : vm.id = some id) :
    instanceId vm = .ok id := by
  rw [instanceId, hid]

/-- Waiting returns whatever the answer is. -/
theorem waitForInstance_eq (vm : VirtualMachine) (id : String) (hid : vm.id = some id)
    (state : ComputeState) (calls : Calls) :
    waitForInstance answers vm state calls
      = (.ok (), calls ++ [(.wait state id, answers calls.length)]) := by
  simp only [waitForInstance, bind_apply, attempt_apply, ofExcept_apply, instanceId_eq vm id hid,
    awsRun_apply]
  cases answers calls.length with
  | error message =>
      simp only [Except.mapError, if_pos (isA_cloudCli message), ite_self, pure_apply]
  | ok out => rfl

/-- What `describe` makes of the answer. -/
def described (id : String) : Answer → Except Exn InstanceEntry
  | .error message =>
      if Within "InvalidInstanceID.NotFound" message then
        .error ⟨.awsEc2, "Instance " ++ id ++ " does not exist"⟩
      else .error ⟨.awsCli, "aws command failed with " ++ message⟩
  | .ok out =>
      match loads out with
      | none => .error ⟨.valueError, "Expecting value"⟩
      | some [] => .error ⟨.awsEc2, "Instance " ++ id ++ " doesn't exist"⟩
      | some (first :: _) => .ok first

/-- Describing is one command. -/
theorem describe_eq (vm : VirtualMachine) (id : String) (hid : vm.id = some id) (calls : Calls) :
    describe answers loads vm calls
      = (described loads id (answers calls.length),
          calls ++ [(.describeInstances id, answers calls.length)]) := by
  simp only [describe, bind_apply, attempt_apply, ofExcept_apply, instanceId_eq vm id hid,
    awsRun_apply]
  cases hanswer : answers calls.length with
  | error message =>
      simp only [Except.mapError, if_pos (isA_cloudCli message), if_apply, raise_apply, described]
      by_cases hfound : Within "InvalidInstanceID.NotFound" message
      · rw [if_pos hfound, if_pos hfound]
      · rw [if_neg hfound, if_neg hfound]
  | ok out =>
      simp only [Except.mapError, jsonLoads, described]
      cases loads out with
      | none => rfl
      | some instances =>
          cases instances with
          | nil => rfl
          | cons first rest => rfl

theorem described_ok_iff (id : String) (answer : Answer) (first : InstanceEntry) :
    described loads id answer = .ok first ↔ Describes loads answer first := by
  constructor
  · intro h
    unfold described at h
    split at h
    · split at h <;> cases h
    · rename_i out
      split at h
      · cases h
      · cases h
      · rename_i i rest hloads
        rw [Except.ok.inj h] at hloads
        exact ⟨out, rest, rfl, hloads⟩
  · rintro ⟨out, rest, rfl, hloads⟩
    simp only [described, hloads]

/-- The exception that `destroy` catches tells that the instance does not exist. -/
theorem described_absent_iff (id : String) (answer : Answer) :
    (∃ e : Exn, described loads id answer = .error e ∧ e.isA .awsEc2 = true)
      ↔ NotExisting loads answer := by
  constructor
  · rintro ⟨e, h, hclass⟩
    unfold described at h
    split at h
    · rename_i message
      by_cases hfound : Within "InvalidInstanceID.NotFound" message
      · exact .inl ⟨message, rfl, hfound⟩
      · rw [if_neg hfound] at h
        rw [← Except.error.inj h] at hclass
        cases hclass
    · rename_i out
      split at h
      · rw [← Except.error.inj h] at hclass
        cases hclass
      · rename_i hloads
        exact .inr ⟨out, rfl, hloads⟩
      · cases h
  · rintro (⟨message, rfl, hfound⟩ | ⟨out, rfl, hloads⟩)
    · refine ⟨_, if_pos hfound, rfl⟩
    · refine ⟨⟨.awsEc2, "Instance " ++ id ++ " doesn't exist"⟩, ?_, rfl⟩
      simp only [described, hloads]

/-- A wait that was made in a step. -/
theorem reached_iff (state : ComputeState) (id : String) (calls : Calls) (answer : Answer)
    (h : ∀ a, (AwsCommand.wait state id, a) ∈ calls ↔ a = answer) :
    Reached state id calls ↔ ¬ Refused answer := by
  simp only [Reached, Refused, h]
  cases answer with
  | ok out =>
      refine ⟨fun _ hrefused => ?_, fun _ => .inl ⟨out, rfl⟩⟩
      rcases hrefused with ⟨message, hmessage, _⟩
      cases hmessage
  | error message =>
      constructor
      · rintro (⟨out, hout⟩ | ⟨message', hmessage, hwithin⟩) ⟨message'', hmessage', hnot⟩
        · cases hout
        · cases hmessage
          cases hmessage'
          exact hnot hwithin
      · intro h
        refine .inr ⟨message, rfl, ?_⟩
        by_contra hnot
        exact h ⟨message, rfl, hnot⟩

/-- Stopping is a command and a wait. -/
theorem stop_eq (i : ManagedInstance) (calls : Calls) :
    stop answers i.vm calls
      = match answers calls.length with
        | .error message =>
            (.error ⟨.cloudCli, message⟩, calls ++ [(.stopInstances i.id, .error message)])
        | .ok out =>
            (.ok (), calls ++ [(.stopInstances i.id, .ok out),
              (.wait .stopped i.id, answers (calls.length + 1))]) := by
  simp only [stop, bind_apply, ofExcept_apply, instanceId_eq i.vm i.id i.hasId, i.managed, if_true,
    awsRun_apply]
  cases answers calls.length with
  | error message => rfl
  | ok out =>
      simp only [Except.mapError, waitForInstance_eq answers i.vm i.id i.hasId,
        List.length_append, List.length_singleton, List.append_assoc, List.cons_append,
        List.nil_append]

/-- Starting is a command, a wait and a description. -/
theorem start_eq (i : ManagedInstance) (calls : Calls) :
    start answers loads i.vm calls
      = match answers calls.length with
        | .error message =>
            (.error ⟨.cloudCli, message⟩, calls ++ [(.startInstances i.id, .error message)])
        | .ok out =>
            ((described loads i.id (answers (calls.length + 2))).map
                (fun first => some { i.vm with network := some (networkOf first) }),
              calls ++ [(.startInstances i.id, .ok out),
                (.wait .running i.id, answers (calls.length + 1)),
                (.describeInstances i.id, answers (calls.length + 2))]) := by
  simp only [start, bind_apply, ofExcept_apply, instanceId_eq i.vm i.id i.hasId, i.managed, if_true,
    awsRun_apply]
  cases answers calls.length with
  | error message => rfl
  | ok out =>
      simp only [Except.mapError, waitForInstance_eq answers i.vm i.id i.hasId,
        describe_eq answers loads i.vm i.id i.hasId, List.length_append, List.length_singleton,
        List.append_assoc, List.cons_append, List.nil_append]
      cases described loads i.id (answers (calls.length + 1 + 1)) <;> rfl

/-- Destroying begins with a description, which may end it. -/
theorem destroy_eq (i : ManagedInstance) (calls : Calls) :
    destroy answers loads i.vm calls
      = match described loads i.id (answers calls.length) with
        | .error e =>
            (if e.isA .awsEc2 then .ok () else .error e,
              calls ++ [(.describeInstances i.id, answers calls.length)])
        | .ok _ =>
            match answers (calls.length + 1) with
            | .error message =>
                (.error ⟨.cloudCli, message⟩,
                  calls ++ [(.describeInstances i.id, answers calls.length),
                    (.terminateInstances i.id, .error message)])
            | .ok out =>
                (.ok (), calls ++ [(.describeInstances i.id, answers calls.length),
                  (.terminateInstances i.id, .ok out),
                  (.wait .terminated i.id, answers (calls.length + 2))]) := by
  -- an instance that is not there is as good as terminated
  simp only [destroy, bind_apply, attempt_apply, ofExcept_apply, instanceId_eq i.vm i.id i.hasId,
    i.managed, if_true, describe_eq answers loads i.vm i.id i.hasId]
  cases described loads i.id (answers calls.length) with
  | error e =>
      by_cases habsent : e.isA .awsEc2 = true
      · simp only [if_pos habsent]
        rfl
      · simp only [if_neg habsent]
        rfl
  | ok first =>
      simp only [pure_apply, if_true, bind_apply, awsRun_apply, List.length_append,
        List.length_singleton, List.append_assoc, List.cons_append, List.nil_append]
      cases answers (calls.length + 1) with
      | error message => rfl
      | ok out =>
          simp only [Except.mapError, waitForInstance_eq answers i.vm i.id i.hasId,
            List.length_append, List.length_cons, List.length_nil, List.append_assoc,
            List.cons_append, List.nil_append]

/-- The command that creates a machine. -/
def runCommand (self : AwsEc2) (found : String × String × String) : AwsCommand :=
  .runInstances
    { instanceType := self.vm.instanceType
      imageId := found.2.1
      keyName := self.regionConfig.keyName
      subnetId := found.1
      placementGroup := self.vm.placementGroup.filter (fun group => group != "")
      securityGroup := self.regionConfig.securityGroup
      tag := self.tag }

theorem mapError_ok_iff (answer : Answer) (out : String) :
    (answer.mapError (fun message => (⟨.cloudCli, message⟩ : Exn))) = .ok out
      ↔ answer = .ok out := by
  cases answer with
  | ok out' => exact Iff.of_eq ((Except.ok.injEq out' out).trans (Except.ok.injEq out' out).symm)
  | error message => exact ⟨fun h => (by cases h), fun h => (by cases h)⟩

theorem jsonLoads_ok_iff (out : String) (instances : List InstanceEntry) :
    jsonLoads loads out = .ok instances ↔ loads out = some instances := by
  unfold jsonLoads
  cases loads out with
  | none => exact ⟨fun h => (by cases h), fun h => (by cases h)⟩
  | some l => rw [Except.ok.injEq, Option.some.injEq]

/-- Waiting for a machine and describing it. -/
theorem waited_described_ok_iff (vm vm' : VirtualMachine) (calls calls' : Calls) :
    (do
        waitForInstance answers vm .running
        let described ← describe answers loads vm
        pure { vm with network := some (networkOf described) } :
          Session Calls Exn VirtualMachine) calls = (.ok vm', calls')
      ↔ ∃ id d, vm.id = some id ∧ Describes loads (answers (calls.length + 1)) d
        ∧ vm' = { vm with network := some (networkOf d) }
        ∧ calls' = calls ++ [(.wait .running id, answers calls.length),
            (.describeInstances id, answers (calls.length + 1))] := by
  -- without an id nothing is called
  cases hid : vm.id with
  | none =>
      have hnone : (waitForInstance answers vm .running) calls = (.error noInstanceId, calls) := by
        simp only [waitForInstance, bind_apply, ofExcept_apply, instanceId, hid]
      rw [bind_of_error _ _ _ _ _ hnone]
      constructor
      · intro h
        cases h
      · rintro ⟨id, _, h, _⟩
        cases h
  | some id =>
      rw [bind_of_ok _ _ _ _ _ (waitForInstance_eq answers vm id hid .running calls), bind_apply,
        describe_eq answers loads vm id hid, List.length_append, List.length_singleton,
        List.append_assoc]
      constructor
      · intro h
        cases hd : described loads id (answers (calls.length + 1)) with
        | error e =>
            rw [hd] at h
            cases h
        | ok d =>
            rw [hd] at h
            rcases (pure_ok_iff _ _ _ _).mp h with ⟨rfl, rfl⟩
            exact ⟨id, d, rfl, (described_ok_iff loads id _ d).mp hd, rfl, rfl⟩
      · rintro ⟨id', d, hsame, hd, rfl, rfl⟩
        cases hsame
        rw [(described_ok_iff loads id _ d).mpr hd]
        rfl

/-- Creating is a command, a wait and a description, when each of its parts
    succeeds. -/
theorem create_ok_iff (self : AwsEc2) (vm : VirtualMachine) (calls : Calls) :
    create answers loads self [] = (.ok vm, calls)
      ↔ ∃ found first id d out, configuration self = .ok found
        ∧ answers 0 = .ok out ∧ (∃ rest, loads out = some (first :: rest)) ∧ first.id = some id
        ∧ Describes loads (answers 2) d
        ∧ vm = { self.vm with
            keyFile :=
              if self.vm.keyFile = "" then self.regionConfig.keyFile.getD ""
              else self.vm.keyFile
            sshUser := found.2.2
            id := some id
            network := some (networkOf d) }
        ∧ calls = [(runCommand self found, .ok out), (.wait .running id, answers 1),
            (.describeInstances id, answers 2)] := by
  -- the handler raises whatever it is given
  have hraises : ∀ (e : Exn) (t : Calls) (vm : VirtualMachine) (t' : Calls),
      (if e.isA .cloudCli then raise ⟨.awsEc2, "aws command failed with " ++ e.message⟩
        else raise e : Session Calls Exn VirtualMachine) t ≠ (.ok vm, t') := by
    intro e t vm t' h
    split at h <;> cases h
  unfold create
  simp only [bind_ok_iff, ofExcept_ok_iff, attempt_raising_iff _ _ _ _ hraises]
  constructor
  · rintro ⟨found, _, ⟨hfound, rfl⟩, out, _, hrun, instances, _, ⟨hloads, rfl⟩, h⟩
    rw [awsRun_apply, Prod.mk.injEq, mapError_ok_iff] at hrun
    rcases hrun with ⟨hout, rfl⟩
    -- the first instance of the answer is the one that is made
    cases instances with
    | nil => cases h
    | cons first rest =>
        rcases (waited_described_ok_iff answers loads _ _ _ _).mp h with ⟨id, d, hid, hd, rfl, rfl⟩
        refine ⟨found, first, id, d, out, hfound, hout,
          ⟨rest, (jsonLoads_ok_iff loads out _).mp hloads⟩, hid, hd, ?_, ?_⟩
        · rw [hid]
        · change _ = [(runCommand self found, Except.ok out), _, _]
          rw [← hout]
          rfl
  · rintro ⟨found, first, id, d, out, hfound, hout, ⟨rest, hloads⟩, hid, hd, rfl, rfl⟩
    refine ⟨found, [], ⟨hfound, rfl⟩, out, [(runCommand self found, .ok out)], ?_, first :: rest, _,
      ⟨(jsonLoads_ok_iff loads out _).mpr hloads, rfl⟩, ?_⟩
    · rw [awsRun_apply, Prod.mk.injEq, mapError_ok_iff]
      refine ⟨hout, ?_⟩
      rw [← hout]
      rfl
    · refine (waited_described_ok_iff answers loads _ _ _ _).mpr ⟨id, d, hid, hd, ?_, rfl⟩
      rw [hid]

/-- Attaching is a command and a wait, whatever the device and the zone are. -/
theorem attachStorage_ok_iff (ebs : AwsEbs) (vm : VirtualMachine) (vs : VirtualStorage)
    (calls : Calls) :
    attachStorage answers ebs vm [] = (.ok vs, calls)
      ↔ ∃ id out out', ebs.id = some id ∧ answers 0 = .ok out ∧ answers 1 = .ok out'
        ∧ vs = { ebs.vs with device := if ebs.isNitroType then "/dev/nvme1n1" else ebs.vs.device }
        ∧ calls = [(.attachVolume id vm.id ebs.vs.device, .ok out),
            (.waitVolume .inUse id, .ok out')] := by
  -- the id is asked for twice, and is there both times or not at all
  have hid : ∀ id, volumeId ebs = .ok id ↔ ebs.id = some id := by
    intro id
    unfold volumeId
    cases ebs.id with
    | none => exact ⟨fun h => (by cases h), fun h => (by cases h)⟩
    | some id' => rw [Except.ok.injEq, Option.some.injEq]
  unfold attachStorage waitForStorage
  simp only [bind_ok_iff, ofExcept_ok_iff, hid, pure_ok_iff, awsRun_apply, Prod.mk.injEq,
    mapError_ok_iff]
  constructor
  · rintro ⟨id, _, ⟨hsome, rfl⟩, out, _, ⟨hout, rfl⟩, _, _,
      ⟨id', _, ⟨hsome', rfl⟩, out', _, ⟨hout', rfl⟩, _, rfl⟩, rfl, rfl⟩
    rw [hsome] at hsome'
    cases hsome'
    have hfirst : answers 0 = .ok out := hout
    have hsecond : answers 1 = .ok out' := hout'
    refine ⟨id, out, out', hsome, hfirst, hsecond, rfl, ?_⟩
    rw [← hfirst, ← hsecond]
    rfl
  · rintro ⟨id, out, out', hsome, hout, hout', rfl, rfl⟩
    refine ⟨id, [], ⟨hsome, rfl⟩, out, [(.attachVolume id vm.id ebs.vs.device, .ok out)],
      ⟨hout, ?_⟩, (), _, ⟨id, _, ⟨hsome, rfl⟩, out', _, ⟨hout', rfl⟩, trivial, rfl⟩, rfl, ?_⟩
    · rw [List.length_nil, hout]
      rfl
    · rw [List.length_singleton, hout']
      rfl

end Spec

section Main

variable (answers : Nat → Answer) (loads : String → Option (List InstanceEntry))

/-- The wait is the second of three commands. -/
theorem mem_wait_iff (state : ComputeState) (id : String) (first third : AwsCommand × Answer)
    (answer a : Answer) (hfirst : ∀ a, first ≠ (.wait state id, a))
    (hthird : ∀ a, third ≠ (.wait state id, a)) :
    (AwsCommand.wait state id, a) ∈ [first, (.wait state id, answer), third] ↔ a = answer := by
  simp only [List.mem_cons, List.not_mem_nil, or_false, Prod.mk.injEq, true_and]
  constructor
  · rintro (h | h | h)
    · exact absurd h.symm (hfirst a)
    · exact h
    · exact absurd h.symm (hthird a)
  · exact fun h => .inr (.inl h)

theorem stop_confirmed_iff (i : ManagedInstance) :
    Confirmed answers loads (.stop i) ↔ Meets answers loads (.stop i) := by
  rw [Confirmed, Meets, Succeeds]
  have heq := stop_eq answers i []
  simp only [List.length_nil, List.nil_append, Nat.zero_add] at heq
  rw [heq]
  cases answers 0 with
  | error message =>
      refine ⟨fun _ h => ?_, fun _ u calls h => ?_⟩
      · rcases h.1 with ⟨out, hout⟩
        cases hout
      · cases h
  | ok out =>
      have hreached := reached_iff .stopped i.id
        [(.stopInstances i.id, .ok out), (.wait .stopped i.id, answers 1)] (answers 1)
        (fun a => by
          simp only [List.mem_cons, List.not_mem_nil, or_false, Prod.mk.injEq, reduceCtorEq,
            false_and, false_or, true_and])
      constructor
      · intro h hrefused
        exact hreached.mp (h () _ rfl) hrefused.2
      · intro h u calls heq
        cases heq
        exact hreached.mpr (fun hrefused => h ⟨⟨out, rfl⟩, hrefused⟩)

theorem start_confirmed_iff (i : ManagedInstance) :
    Confirmed answers loads (.start i) ↔ Meets answers loads (.start i) := by
  rw [Confirmed, Meets, Succeeds]
  have heq := start_eq answers loads i []
  simp only [List.length_nil, List.nil_append, Nat.zero_add] at heq
  rw [heq]
  cases answers 0 with
  | error message =>
      refine ⟨fun _ h => ?_, fun _ vm calls h => ?_⟩
      · rcases h.1 with ⟨out, hout⟩
        cases hout
      · cases h
  | ok out =>
      -- three calls were made, and only the wait can confirm the state
      have hreached := reached_iff .running i.id
        [(.startInstances i.id, .ok out), (.wait .running i.id, answers 1),
          (.describeInstances i.id, answers 2)] (answers 1)
        (fun a => mem_wait_iff .running i.id _ _ (answers 1) a (fun _ h => by cases h)
          (fun _ h => by cases h))
      constructor
      · rintro h ⟨_, hrefused, first, hfirst⟩
        rw [← described_ok_iff loads i.id] at hfirst
        refine hreached.mp
          (h (some { i.vm with network := some (networkOf first) }) _ ?_) hrefused
        rw [hfirst]
        rfl
      · intro h vm calls heq
        dsimp only at heq
        rw [Prod.mk.injEq] at heq
        rcases heq with ⟨hvm, rfl⟩
        rcases except_map_eq_ok _ _ _ hvm with ⟨first, hfirst, _⟩
        exact hreached.mpr (fun hrefused => h
          ⟨⟨out, rfl⟩, hrefused, first, (described_ok_iff loads i.id _ first).mp hfirst⟩)

theorem create_confirmed_iff (self : AwsEc2) :
    Confirmed answers loads (.create self) ↔ Meets answers loads (.create self) := by
  rw [Confirmed, Meets]
  have hreached : ∀ found id out, Reached .running id
      [(runCommand self found, .ok out), (.wait .running id, answers 1),
        (.describeInstances id, answers 2)] ↔ ¬ Refused (answers 1) :=
    fun found id out => reached_iff .running id _ (answers 1)
      (fun a => mem_wait_iff .running id _ _ (answers 1) a (fun _ h => by cases h)
        (fun _ h => by cases h))
  constructor
  · rintro h ⟨⟨found, hfound⟩, ⟨first, id, ⟨out, rest, hout, hloads⟩, hid⟩, hrefused, d, hd⟩
    have hcreate := (create_ok_iff answers loads self _ _).mpr
      ⟨found, first, id, d, out, hfound, hout, ⟨rest, hloads⟩, hid, hd, rfl, rfl⟩
    rcases h _ _ hcreate with ⟨id', hsame, hrunning⟩
    cases hsame
    exact (hreached found id out).mp hrunning hrefused
  · intro h vm calls hcreate
    rcases (create_ok_iff answers loads self vm calls).mp hcreate with
      ⟨found, first, id, d, out, hfound, hout, ⟨rest, hloads⟩, hid, hd, rfl, rfl⟩
    refine ⟨id, rfl, (hreached found id out).mpr (fun hrefused => h ?_)⟩
    exact ⟨⟨found, hfound⟩, ⟨first, id, ⟨out, rest, hout, hloads⟩, hid⟩, hrefused, d, hd⟩

theorem destroy_confirmed_iff (i : ManagedInstance) :
    Confirmed answers loads (.destroy i) ↔ Meets answers loads (.destroy i) := by
  rw [Confirmed, Meets, Succeeds]
  have heq := destroy_eq answers loads i []
  simp only [List.length_nil, List.nil_append, Nat.zero_add] at heq
  rw [heq]
  simp only [← described_ok_iff loads i.id]
  cases hdescribed : described loads i.id (answers 0) with
  | error e =>
      refine ⟨fun _ h => ?_, fun _ u calls h => .inr ?_⟩
      · rcases h.1 with ⟨first, hfirst⟩
        cases hfirst
      · dsimp only at h
        rw [Prod.mk.injEq] at h
        rcases h with ⟨hreturns, rfl⟩
        refine ⟨answers 0, List.mem_singleton_self _, ?_⟩
        refine (described_absent_iff loads i.id _).mp ⟨e, hdescribed, ?_⟩
        by_contra habsent
        rw [if_neg habsent] at hreturns
        cases hreturns
  | ok first =>
      -- an instance that is there is none that does not exist
      have hthere : ¬ NotExisting loads (answers 0) := by
        rw [← described_absent_iff loads i.id]
        rintro ⟨e, he, _⟩
        rw [hdescribed] at he
        cases he
      cases hterminate : answers 1 with
      | error message =>
          refine ⟨fun _ h => ?_, fun _ u calls h => ?_⟩
          · rcases h.2.1 with ⟨out, hout⟩
            cases hout
          · cases h
      | ok out =>
          have hreached := reached_iff .terminated i.id
            [(.describeInstances i.id, answers 0), (.terminateInstances i.id, .ok out),
              (.wait .terminated i.id, answers 2)] (answers 2)
            (fun a => by
              simp only [List.mem_cons, List.not_mem_nil, or_false, Prod.mk.injEq, reduceCtorEq,
                false_and, false_or, true_and])
          constructor
          · rintro h ⟨_, _, hrefused⟩
            rcases h () _ rfl with hterminated | ⟨answer, hmem, hnot⟩
            · exact hreached.mp hterminated hrefused
            · simp only [List.mem_cons, List.not_mem_nil, or_false, Prod.mk.injEq, reduceCtorEq,
                false_and, true_and] at hmem
              rw [hmem] at hnot
              exact hthere hnot
          · intro h u calls heq
            cases heq
            exact .inl (hreached.mpr (fun hrefused => h ⟨⟨first, rfl⟩, ⟨out, rfl⟩, hrefused⟩))

theorem attachStorage_confirmed_iff (ebs : AwsEbs) (vm : VirtualMachine) :
    Confirmed answers loads (.attachStorage ebs vm)
      ↔ Meets answers loads (.attachStorage ebs vm) := by
  rw [Confirmed, Meets]
  constructor
  · intro h
    by_cases hreturns : ebs.id ≠ none ∧ Succeeds (answers 0) ∧ Succeeds (answers 1)
    · rcases hreturns with ⟨hid, ⟨out, hout⟩, out', hout'⟩
      rcases Option.ne_none_iff_exists'.mp hid with ⟨id, hid⟩
      have hattach := (attachStorage_ok_iff answers ebs vm _ _).mpr
        ⟨id, out, out', hid, hout, hout', rfl, rfl⟩
      rcases h _ _ hattach with ⟨hdevice, hzone, _⟩
      exact .inl ⟨hdevice, hzone⟩
    · exact .inr hreturns
  · intro h vs calls hattach
    rcases (attachStorage_ok_iff answers ebs vm vs calls).mp hattach with
      ⟨id, out, out', hid, hout, hout', _, rfl⟩
    have hreturns : ebs.id ≠ none ∧ Succeeds (answers 0) ∧ Succeeds (answers 1) := by
      refine ⟨?_, ⟨out, hout⟩, out', hout'⟩
      rw [hid]
      exact Option.some_ne_none id
    rcases h with ⟨hdevice, hzone⟩ | hnot
    · exact ⟨hdevice, hzone, id, out', hid, List.mem_cons_of_mem _ List.mem_cons_self⟩
    · exact absurd hreturns hnot

/-- When a step that returns has reached what it aims at. -/
theorem confirmed_iff (step : Ec2Step) :
    Confirmed answers loads step ↔ Meets answers loads step := by
  cases step with
  | create self => exact create_confirmed_iff answers loads self
  | start i => exact start_confirmed_iff answers loads i
  | stop i => exact stop_confirmed_iff answers loads i
  | destroy i => exact destroy_confirmed_iff answers loads i
  | attachStorage ebs vm => exact attachStorage_confirmed_iff answers loads ebs vm

end Main

section Stopped

/-- A machine of EC2. -/
def stoppedMachine : ManagedInstance where
  vm :=
    { env := "dev", cloud := "aws", clusterName := "dev", name := "driver-0", role := "driver"
      klass := "driver.Driver", klassConfigLabel := "", instanceType := "m5.large"
      zone := "us-west-2a", osType := "CentOS7", managed := true, provisioned := true
      arch := "x86_64", keyFile := "key.pem", pubFile := "", storage := none, storageList := []
      network := none, placementGroup := none, id := some "i-086b29dc402f383f2"
      sshUser := "centos" }
  id := "i-086b29dc402f383f2"
  hasId := rfl
  managed := rfl

/-- The command is taken, and the wait runs out of time. -/
def timesOut : Nat → Answer
  | 1 => .error "CLI command failed with Waiter InstanceStopped failed: Max attempts exceeded"
  | _ => .ok ""

/-- A volume of another zone without a device. -/
def looseVolume : AwsEbs where
  vs :=
    { klass := .virtualStorage, size := 100, iops := 0, type := some "gp2", device := ""
      zone := "us-west-2b", name := "volume", id := "vol-0f209c91b7e82ce9c", numEphemeral := 0 }
  id := some "vol-0f209c91b7e82ce9c"
  isNitroType := false

/-- Stopping returns though the machine was never seen stopped, and the volume
    is attached. -/
theorem stop_unconfirmed :
    stop timesOut stoppedMachine.vm []
        = (.ok (), [(.stopInstances stoppedMachine.id, .ok ""),
          (.wait .stopped stoppedMachine.id, timesOut 1)])
      ∧ ¬ Confirmed timesOut (fun _ => some []) (.stop stoppedMachine)
      ∧ ¬ Confirmed (fun _ => .ok "") (fun _ => some [])
        (.attachStorage looseVolume stoppedMachine.vm) := by
  refine ⟨stop_eq timesOut stoppedMachine [], fun h => ?_, fun h => ?_⟩
  · rw [stop_confirmed_iff] at h
    have hother : ¬ Within "InvalidInstanceID.Malformed"
        "CLI command failed with Waiter InstanceStopped failed: Max attempts exceeded" := by
      decide +kernel
    exact h ⟨⟨"", rfl⟩, _, rfl, hother⟩
  · rcases (attachStorage_confirmed_iff _ _ looseVolume stoppedMachine.vm).mp h with h | h
    · exact absurd rfl h.1
    · exact h ⟨Option.some_ne_none _, ⟨"", rfl⟩, "", rfl⟩

end Stopped

end Ec2

end Xbench
