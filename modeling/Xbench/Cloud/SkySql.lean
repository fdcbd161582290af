import Xbench.Common
import Xbench.Config.Value
import Xbench.Lib.Effect

/-!
# The Name of a SkySQL Database

How a database is created at SkySQL, and how it is looked for.

SkySQL has one list of services for an account, so a database is known by its
name. The name that is sent when one is created is that of the cluster with a
prefix, cut off at twenty-four characters. There are two places that look for
it. One puts the prefix before the name in the list as well, and so compares
the name of the cluster with a name that has the prefix already. The other
compares with the name of the cluster behind the prefix, without cutting it
off.

The first one finds a database whose name is that of the cluster, and the
second one a database whose name is seven characters longer. No database is
found by both.

## Main definitions

* `SkySQLDeployment`: The kinds of databases.
* `SkyApi`: What the API answers.
* `Service`: A database in the list.
* `convertDbName`, `checkDbName`: The name of a database.
* `createDbCluster`: Creating a database.
* `isRunning`: Is the database of a cluster up?
* `checkForDatabases`: The database of a cluster.
* `Finds`: A cluster finds its database, and no other one does.

## Theorems

* `isRunning_iff`: Whose database the first one finds.
* `checkForDatabases_iff`: Whose database the second one finds.
* `name_sent`: The name a database is created with.
* `found_iff_short`: The second one finds the databases with short names.
* `running_iff_same`: The first one finds those of clusters called like them.
* `not_found_twice`: No database is found by both.
* `finds_never`: A database that was created is not found in both ways.
-/

namespace Xbench

namespace SkySql

/-- The kinds of databases. -/
inductive SkySQLDeployment where
  | xpand
  | standaloneMariadb
  | replicatedMariadb
  | columnstore
  | standaloneColumnstore
deriving DecidableEq

def SkySQLDeployment.value : SkySQLDeployment → String
  | .xpand => "Distributed Transactions"
  | .standaloneMariadb => "Single Node Transactions"
  | .replicatedMariadb => "Replicated Transactions"
  | .columnstore => "Multi-Node Analytics"
  | .standaloneColumnstore => "Single Node Analytics"

def skysqlDbIsUpAndRunning : String := "Installed"

def skysqlDbIsInstalling : String := "Pending Install"

def skysqlDbIsBusy : List String := ["In Maintenance", "Pending Repair", "Retired"]

def skysqlAccountTier : String := "Power"

/-- A provider that is offered. -/
structure Provider where
  active : String
  name : String
  value : String

/-- A database in the list of services. -/
structure Service where
  id : String
  name : String
  installStatus : String
deriving DecidableEq

/-- What is sent to create a database. -/
structure Request where
  name : String
  provider : String
  region : String
  releaseVersion : String
  replicas : String
  size : String
  sslTls : String
  tier : String
  topology : String
  txStorage : String
  volumeIops : String

/-- What the API answers: the offering, and a service for a request. The regions
    are those of a provider, the sizes those of a provider, a topology and a
    region. -/
structure SkyApi where
  providers : Except Exn (List Provider)
  regions : String → Except Exn (List String)
  activeTopologies : Except Exn (List String)
  sizes : String → String → String → Except Exn (List String)
  createService : Request → Except Exn Service

/-- An answer that is an error: of the four hundreds with its status, or
    another one. -/
inductive ApiError where
  | client (statusCode : Nat) (e : Exn)
  | other (e : Exn)

section Names

def maxDatabaseNameLength : Nat := 24

/-- `check_db_name`. -/
def checkDbName (dbName : String) : String :=
  if maxDatabaseNameLength < dbName.length then
    String.ofList (dbName.toList.take maxDatabaseNameLength)
  else dbName

/-- `convert_db_name`. -/
def convertDbName (name : String) : String :=
  "mdbint-" ++ Text.replace '_' '-' name

/-- The name of a cluster is cut off behind the prefix. -/
theorem toList_checkDbName (name : String) :
    (checkDbName name).toList = name.toList.take maxDatabaseNameLength := by
  rw [checkDbName]
  by_cases h : maxDatabaseNameLength < name.length
  · rw [if_pos h, String.toList_ofList]
  · rw [if_neg h, List.take_of_length_le (by rw [String.length_toList]; omega)]

/-- The prefix has seven characters. -/
theorem length_convertDbName (name : String) : (convertDbName name).length = 7 + name.length := by
  have hlen : (Text.replace '_' '-' name).length = name.length := by
    rw [Text.replace, ← String.length_toList, String.toList_ofList, List.length_map,
      String.length_toList]
  rw [convertDbName, String.length_append, hlen]
  rfl

/-- The name of a database holds no underscore. -/
theorem underscore_notMem_convert (name : String) : '_' ∉ (convertDbName name).toList := by
  intro h
  rw [convertDbName, String.toList_append, List.mem_append] at h
  rcases h with hprefix | hname
  · exact absurd hprefix (by decide)
  · exact Text.replace_notMem '_' '-' (by decide) name hname

theorem underscore_notMem_of_valid (name : String) (h : validateNameRfc1035 name = true) :
    '_' ∉ name.toList := by
  intro hmem
  rcases nameChar_of_valid name h '_' hmem with hchar | hline
  · exact absurd hchar (by decide)
  · exact absurd hline (by decide)

/-- Without underscores, the name of a cluster can be read off. -/
theorem convertDbName_inj (name other : String) (hname : '_' ∉ name.toList)
    (hother : '_' ∉ other.toList) (h : convertDbName name = convertDbName other) :
    name = other := by
  rw [convertDbName, convertDbName, Text.replace_of_notMem _ _ name hname,
    Text.replace_of_notMem _ _ other hother] at h
  have hlist := congrArg String.toList h
  rw [String.toList_append, String.toList_append] at hlist
  exact String.toList_inj.mp (List.append_cancel_left hlist)

end Names

section Create

/-- `lower`. -/
def lower (s : String) : String :=
  String.ofList (s.toList.map Char.toLower)

/-- `capitalize`. -/
def capitalize (s : String) : String :=
  match s.toList with
  | [] => s
  | c :: cs => String.ofList (c.toUpper :: cs.map Char.toLower)

/-- `SkySQLAPIException`: its text is made of keyword arguments that are never
    given. -/
def skySQLAPIException : Exn :=
  ⟨.skySQLAPI, "HTTP error: None None"⟩

variable (api : SkyApi)

def checkProvider (cloud : String) : Except Exn Bool := do
  let providers ← api.providers
  .ok (providers.any (fun p => p.active == "true" && (p.name == cloud || p.value == cloud)))

def checkRegion (region provider : String) : Except Exn Bool := do
  let regions ← api.regions provider
  .ok (regions.contains region)

def checkDeployment (deploy : String) : Except Exn Bool := do
  let serviceTypes ← api.activeTopologies
  .ok (serviceTypes.any (fun s => (Text.splitAll ", " s).contains deploy))

def checkSize (size cloud kind region : String) : Except Exn Bool := do
  let sizes ← api.sizes cloud kind region
  .ok (sizes.contains size)

/-- `check_aws_iops`. -/
def checkAwsIops (diskSize iops : Int) : Int :=
  if diskSize < 2000 ∧ iops > 50 * diskSize then diskSize * 50
  else if diskSize > 2000 ∧ iops > 60000 * diskSize then diskSize * 60000
  else iops

def checkDbClusterCreateParams (cloud region : String) (kind : SkySQLDeployment) (size : String)
    (replicas : Int) : Except Exn Unit := do
  if !(← checkProvider api cloud) then .error skySQLAPIException
  if !(← checkRegion api region cloud) then .error skySQLAPIException
  if !(← checkDeployment api kind.value) then .error skySQLAPIException
  if !(← checkSize api size cloud kind.value region) then .error skySQLAPIException
  if replicas < 3 ∧ kind = .xpand then .error skySQLAPIException

/-- The arguments of `_create_db_cluster`. -/
structure CreateArgs where
  version : String
  region : String
  cloud : String
  name : String
  replicas : Int
  size : String
  kind : SkySQLDeployment
  diskSize : Int
  iops : Int
  ssl : Bool

/-- What `_create_db_cluster` sends. -/
def CreateArgs.request (args : CreateArgs) : Request :=
  let cloud := lower args.cloud
  let iops := if cloud = "aws" then checkAwsIops args.diskSize args.iops else args.iops
  let replicas := if args.kind = .standaloneMariadb then 0 else args.replicas
  { name := checkDbName (convertDbName args.name)
    provider := cloud
    region := args.region
    releaseVersion := args.version
    replicas := toString replicas
    size := capitalize args.size
    sslTls := if args.ssl then "Enabled" else "Disabled"
    tier := skysqlAccountTier
    topology := args.kind.value
    txStorage := toString args.diskSize
    volumeIops := toString iops }

/-- `_create_db_cluster`. -/
def createDbCluster (args : CreateArgs) : Except Exn Service := do
  checkDbClusterCreateParams api (lower args.cloud) args.region args.kind (capitalize args.size)
    (if args.kind = .standaloneMariadb then 0 else args.replicas)
  api.createService args.request

end Create

section Find

variable (databases : Except ApiError (List Service))

/-- The loop of `is_running`. -/
def anyUp (clusterName : String) (dbs : List Service) : Bool :=
  dbs.any (fun db => convertDbName db.name == convertDbName clusterName
    && db.installStatus == skysqlDbIsUpAndRunning)

/-- `is_running`: any error of the four hundreds means that there are none. -/
def isRunning (clusterName : String) : Except Exn Bool :=
  match databases with
  | .ok dbs => .ok (anyUp clusterName dbs)
  | .error (.client statusCode _) =>
      if statusCode = 404 then .ok false else .ok (anyUp clusterName [])
  | .error (.other e) => .error e

/-- The loop of `check_for_databases`. -/
def findDatabase (clusterName : String) : List Service → Except Exn (Option Service)
  | [] => .ok none
  | db :: dbs =>
      if db.name = convertDbName clusterName then
        if db.installStatus = skysqlDbIsUpAndRunning then .ok (some db)
        else if db.installStatus = skysqlDbIsInstalling then .error ⟨.skySQLCloud, ""⟩
        else if db.installStatus ∈ skysqlDbIsBusy then .error ⟨.skySQLCloud, ""⟩
        else findDatabase clusterName dbs
      else findDatabase clusterName dbs

/-- `check_for_databases`, for the cluster of an instance. -/
def checkForDatabases (clusterName : String) : Except Exn (Option Service) :=
  match databases with
  | .ok dbs => findDatabase clusterName dbs
  | .error (.client _ _) => .ok none
  | .error (.other e) => .error e

/-- A cluster finds the database in both ways, and no other cluster does. -/
def Finds (clusterName : String) (db : Service) : Prop :=
  isRunning databases clusterName = .ok true ∧
    checkForDatabases databases clusterName = .ok (some db) ∧
    ∀ other, validateNameRfc1035 other = true → other ≠ clusterName →
      isRunning databases other = .ok false ∧ checkForDatabases databases other = .ok none

variable (db : Service) (hup : db.installStatus = skysqlDbIsUpAndRunning)

include hup in
/-- The first one compares the names with the prefix on both sides. -/
theorem isRunning_iff (clusterName : String) :
    isRunning (.ok [db]) clusterName = .ok true ↔
      convertDbName db.name = convertDbName clusterName := by
  rw [isRunning, Except.ok.injEq, anyUp, List.any_cons, List.any_nil, Bool.or_false,
    Bool.and_eq_true, beq_iff_eq, beq_iff_eq]
  exact ⟨fun h => h.1, fun h => ⟨h, hup⟩⟩

include hup in
/-- The second one compares with the prefix on one side. -/
theorem checkForDatabases_iff (clusterName : String) :
    checkForDatabases (.ok [db]) clusterName = .ok (some db) ↔
      db.name = convertDbName clusterName := by
  rw [checkForDatabases, findDatabase]
  by_cases h : db.name = convertDbName clusterName
  · rw [if_pos h, if_pos hup]
    exact ⟨fun _ => h, fun _ => rfl⟩
  · rw [if_neg h, findDatabase]
    exact ⟨fun hnone => absurd (Except.ok.inj hnone).symm (Option.some_ne_none db),
      fun heq => absurd heq h⟩

end Find

section Both

variable (api : SkyApi) (args : CreateArgs) (created db : Service)
  (hstores : ∀ request s, api.createService request = .ok s → s.name = request.name)
  (hcreated : createDbCluster api args = .ok created)

include hstores hcreated in
/-- The name a database is created with. -/
theorem name_sent : created.name = checkDbName (convertDbName args.name) := by
  rw [createDbCluster] at hcreated
  rcases except_bind_eq_ok _ _ _ hcreated with ⟨_, _, hservice⟩
  rw [hstores args.request created hservice, CreateArgs.request]

variable (hname : db.name = created.name)
  (hup : db.installStatus = skysqlDbIsUpAndRunning)

include hstores hcreated hname hup in
/-- The second one finds a database when its name was not cut off. -/
theorem found_iff_short :
    checkForDatabases (.ok [db]) args.name = .ok (some db) ↔ args.name.length ≤ 17 := by
  have hsent := hname.trans (name_sent api args created hstores hcreated)
  have hlen := length_convertDbName args.name
  rw [checkForDatabases_iff db hup, hsent, checkDbName]
  by_cases hlong : maxDatabaseNameLength < (convertDbName args.name).length
  · rw [if_pos hlong]
    constructor
    · intro heq
      have hcut := congrArg String.length heq
      rw [← String.length_toList, String.toList_ofList, List.length_take, String.length_toList,
        maxDatabaseNameLength] at hcut
      rw [maxDatabaseNameLength] at hlong
      omega
    · intro hshort
      rw [maxDatabaseNameLength] at hlong
      omega
  · rw [if_neg hlong]
    rw [maxDatabaseNameLength] at hlong
    exact ⟨fun _ => by omega, fun _ => rfl⟩

include hup in
/-- No cluster finds its database in both ways: one asks for a name with one
    prefix where the other asks for a name with none. -/
theorem not_found_twice (clusterName : String)
    (hrunning : isRunning (.ok [db]) clusterName = .ok true) :
    checkForDatabases (.ok [db]) clusterName ≠ .ok (some db) := by
  intro hfound
  rw [isRunning_iff db hup] at hrunning
  rw [checkForDatabases_iff db hup] at hfound
  have hone := congrArg String.length hrunning
  have htwo := congrArg String.length hfound
  rw [length_convertDbName, length_convertDbName] at hone
  rw [length_convertDbName] at htwo
  omega

include hstores hcreated hname hup in
/-- The first one finds a database when its cluster is called like it. -/
theorem running_iff_same (hvalid : validateNameRfc1035 args.name = true) :
    isRunning (.ok [db]) args.name = .ok true ↔
      args.name = checkDbName (convertDbName args.name) := by
  have hsent := hname.trans (name_sent api args created hstores hcreated)
  have hargs := underscore_notMem_of_valid args.name hvalid
  rw [isRunning_iff db hup, hsent]
  constructor
  · intro heq
    refine (convertDbName_inj _ _ (fun hmem => ?_) hargs heq).symm
    rw [toList_checkDbName] at hmem
    exact underscore_notMem_convert args.name (List.mem_of_mem_take hmem)
  · intro heq
    rw [← heq]

include hstores hcreated hname hup in
/-- A database that was created is found in one way at most, and which one it is
    depends on the name of the cluster. -/
theorem finds_never (hvalid : validateNameRfc1035 args.name = true) :
    (isRunning (.ok [db]) args.name = .ok true ↔
      args.name = checkDbName (convertDbName args.name)) ∧
    (checkForDatabases (.ok [db]) args.name = .ok (some db) ↔ args.name.length ≤ 17) ∧
    ¬ Finds (.ok [db]) args.name db := by
  refine ⟨running_iff_same api args created db hstores hcreated hname hup hvalid,
    found_iff_short api args created db hstores hcreated hname hup, ?_⟩
  rintro ⟨hrunning, hfound, _⟩
  exact not_found_twice db hup args.name hrunning hfound

/-- An API that offers one size of one database. -/
def oneOffer : SkyApi where
  providers := .ok [⟨"true", "aws", "Amazon AWS"⟩]
  regions := fun _ => .ok ["us-west-2"]
  activeTopologies := .ok ["Distributed Transactions"]
  sizes := fun _ _ _ => .ok ["Sky-4x16"]
  createService := fun request => .ok ⟨"db00000001", request.name, "Pending Install"⟩

/-- Three nodes of it, for a cluster called `xpand`. -/
def threeNodes : CreateArgs :=
  ⟨"MariaDB Xpand 5.3.21", "us-west-2", "aws", "xpand", 3, "sky-4x16", .xpand, 100, 1000, false⟩

def threeNodesCreated : Service :=
  ⟨"db00000001", "mdbint-xpand", "Pending Install"⟩

def threeNodesUp : Service :=
  ⟨"db00000001", "mdbint-xpand", "Installed"⟩

theorem oneOffer_stores (request : Request) (s : Service)
    (h : oneOffer.createService request = .ok s) : s.name = request.name := by
  have hs : (⟨"db00000001", request.name, "Pending Install"⟩ : Service) = s := Except.ok.inj h
  rw [← hs]

theorem threeNodes_created : createDbCluster oneOffer threeNodes = .ok threeNodesCreated := by
  rfl

/-- The database of `xpand` is found by the second one only. -/
theorem xpand_found_once :
    (isRunning (.ok [threeNodesUp]) "xpand" = .ok true ↔
      "xpand" = checkDbName (convertDbName "xpand")) ∧
    (checkForDatabases (.ok [threeNodesUp]) "xpand" = .ok (some threeNodesUp) ↔
      "xpand".length ≤ 17) ∧
    ¬ Finds (.ok [threeNodesUp]) "xpand" threeNodesUp :=
  finds_never oneOffer threeNodes threeNodesCreated threeNodesUp oneOffer_stores
    threeNodes_created rfl rfl (by decide)

/-- A cluster called `xpand` does not see its database running. -/
theorem xpand_not_running : ¬ ∀ (api : SkyApi) (args : CreateArgs) (created db : Service),
    (∀ request s, api.createService request = .ok s → s.name = request.name) →
    createDbCluster api args = .ok created → db.name = created.name →
    db.installStatus = skysqlDbIsUpAndRunning → validateNameRfc1035 args.name = true →
    Finds (.ok [db]) args.name db := by
  intro h
  have hfinds := h oneOffer threeNodes threeNodesCreated threeNodesUp oneOffer_stores
    threeNodes_created rfl rfl (by decide)
  have hrunning : isRunning (.ok [threeNodesUp]) "xpand" = .ok false := rfl
  have hclaimed : isRunning (.ok [threeNodesUp]) "xpand" = .ok true := hfinds.1
  rw [hrunning] at hclaimed
  exact absurd (Except.ok.inj hclaimed) (by decide)

end Both

end SkySql

end Xbench
