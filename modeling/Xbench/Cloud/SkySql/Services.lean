import Xbench.Cloud.SkySql
import Xbench.Lib.Session

/-!
# The Services of an Account

How a service is created with the second version of the API at SkySQL. A service
of the same name is used if there is one. The name that is looked for is cut
off at twenty-four characters, and the name that is sent is not.

The API stores what it is sent under a new id, and lists everything it has.

## Main definitions

* `ServicesApi`: How the API stores a service.
* `Account`: The services, and those that were created.
* `ServiceArgs`: The arguments for a service.
* `serviceName`: The name that is looked for.
* `serviceParams`: What is sent.
* `createService`: Creating a service.
* `CreatesOnce`: Creating a service twice is creating it once.

## Theorems

* `name_sent`: The name that is sent.
* `serviceParams_ok_iff`: When there is something to send.
* `createService_found`, `createService_created`: What comes of a call.
* `createsOnce_iff`: When creating twice is creating once.
-/

namespace Xbench

namespace SkySql2

open Session

/-- What is looked at of a service in the list. -/
structure Service where
  id : String
  name : String

/-- What an object of the API is made with, and how the API stores a service:
    under an id, at a place in its list. -/
structure ServicesApi where
  projectId : Value
  region : Value
  provider : Value
  newId : List Service → Params → String
  store : Service → List Service → List Service
  mem_store : ∀ s services x, x ∈ store s services ↔ x = s ∨ x ∈ services

/-- The services of the account, and those that calls have created. -/
structure Account where
  services : List Service
  created : List Service

/-- The arguments for a service: its name and the others. -/
structure ServiceArgs where
  name : String
  others : Params

def maxServiceNameLength : Nat := 24

/-- The name that is looked for. -/
def serviceName (name : String) : String :=
  if maxServiceNameLength < name.length then
    String.ofList (name.toList.take maxServiceNameLength)
  else name

def serviceParamNames : List String :=
  ["name", "service_type", "version", "nodes", "size", "topology", "storage", "volume_iops",
    "volume_type", "ssl_enabled"]

/-- `kwargs[key]`. -/
def ServiceArgs.get (args : ServiceArgs) (key : String) : Except Exn Value :=
  if key = "name" then .ok (.str args.name)
  else
    match args.others.get? key with
    | none => .error ⟨.keyError, (Value.str key).repr⟩
    | some v => .ok v

/-- `service_params.get("architecture", None) or "amd64"`. -/
def architecture (params : Params) : Value :=
  if (params.read "architecture").truthy then params.read "architecture" else .str "amd64"

/-- What is sent to create a service. -/
def serviceParams (api : ServicesApi) (args : ServiceArgs) : Except Exn Params := do
  let entries ← serviceParamNames.mapM (fun key => (args.get key).map (fun v => (key, v)))
  let params := Dict.ofList entries
  .ok ((((params.set "architecture" (architecture params)).set "project_id" api.projectId).set
    "region" api.region).set "provider" api.provider)

/-- `get_services`. -/
def getServices : Session Account Exn (List Service) :=
  fun s => (.ok s.services, s)

/-- `get_service_id_by_name`, in what was listed. -/
def getServiceIdByName (services : List Service) (name : String) : Option String :=
  (services.find? (fun s => s.name == name)).map Service.id

/-- The post: the API stores the service under the name it is sent. -/
def post (api : ServicesApi) (params : Params) : Session Account Exn String :=
  fun s =>
    let service : Service := ⟨api.newId s.services params, (params.read "name").text⟩
    (.ok service.id, ⟨api.store service s.services, s.created ++ [service]⟩)

/-- `create_service`. -/
def createService (api : ServicesApi) (args : ServiceArgs) : Session Account Exn String := do
  let services ← getServices
  match getServiceIdByName services (serviceName args.name) with
  | some id => pure id
  | none => do
      let params ← Session.ofExcept (serviceParams api args)
      post api params

/-- Creating a service twice gives one id, and creates one at most, with the name
    that is looked for. -/
def CreatesOnce (api : ServicesApi) (args : ServiceArgs) (services : List Service) : Prop :=
  ∃ id s s', createService api args ⟨services, []⟩ = (.ok id, s)
    ∧ createService api args s = (.ok id, s')
    ∧ s'.created.length ≤ 1 ∧ ∀ x ∈ s'.created, x.name = serviceName args.name

/-- Nothing that is to be sent is missing. -/
def ServiceArgs.Complete (args : ServiceArgs) : Prop :=
  ∀ key ∈ serviceParamNames, key ≠ "name" → ∃ v, args.others.get? key = some v

section Params

variable (api : ServicesApi) (args : ServiceArgs)

/-- The entries have the keys that were asked for, with the arguments' values. -/
theorem entries_spec (keys : List String) (entries : List (String × Value))
    (h : keys.mapM (fun key => (args.get key).map (fun v => (key, v))) = .ok entries) :
    entries.map Prod.fst = keys ∧ ∀ e ∈ entries, args.get e.1 = .ok e.2 := by
  have hall := (except_mapM_ok_iff _ _ _).mp h
  clear h
  induction hall with
  | nil => exact ⟨rfl, fun e he => absurd he List.not_mem_nil⟩
  | cons hentry _ ih =>
      rcases except_map_eq_ok _ _ _ hentry with ⟨v, hv, rfl⟩
      refine ⟨by rw [List.map_cons, ih.1], fun e he => ?_⟩
      rcases List.mem_cons.mp he with rfl | he
      · exact hv
      · exact ih.2 e he

/-- The name that is sent is the one that is given. -/
theorem name_sent (params : Params) (h : serviceParams api args = .ok params) :
    params.read "name" = .str args.name := by
  rcases except_bind_eq_ok _ _ _ h with ⟨entries, hentries, hparams⟩
  rcases entries_spec args _ entries hentries with ⟨hkeys, hvalues⟩
  have hname : "name" ∈ entries.map Prod.fst := by
    rw [hkeys]
    exact List.mem_cons_self
  rcases List.mem_map.mp hname with ⟨e, he, hkey⟩
  have hget := hvalues e he
  rw [hkey, ServiceArgs.get, if_pos rfl] at hget
  have hnodup : (entries.map Prod.fst).Nodup := by
    rw [hkeys]
    decide
  have hread : (Dict.ofList entries).get? "name" = some e.2 :=
    Dict.get?_setAll_of_nodup Dict.empty entries hnodup "name" e.2 (by rw [← hkey]; exact he)
  rw [← Except.ok.inj hparams, Dict.read_set_other _ _ _ _ (by decide),
    Dict.read_set_other _ _ _ _ (by decide), Dict.read_set_other _ _ _ _ (by decide),
    Dict.read_set_other _ _ _ _ (by decide), Dict.read, hread, Option.getD_some]
  exact (Except.ok.inj hget).symm

/-- There is something to send when no argument is missing. -/
theorem serviceParams_ok_iff :
    (∃ params, serviceParams api args = .ok params) ↔ args.Complete := by
  constructor
  · rintro ⟨params, h⟩ key hkey hne
    rcases except_bind_eq_ok _ _ _ h with ⟨entries, hentries, _⟩
    rcases entries_spec args _ entries hentries with ⟨hkeys, hvalues⟩
    rw [← hkeys] at hkey
    rcases List.mem_map.mp hkey with ⟨e, he, rfl⟩
    have hget := hvalues e he
    rw [ServiceArgs.get, if_neg hne] at hget
    cases hread : args.others.get? e.1 with
    | none =>
        rw [hread] at hget
        cases hget
    | some v => exact ⟨v, rfl⟩
  · intro h
    have hentries : ∃ entries, serviceParamNames.mapM
        (fun key => (args.get key).map (fun v => (key, v))) = .ok entries := by
      refine except_mapM_ok _ _ (fun key hkey => ?_)
      rw [ServiceArgs.get]
      by_cases hname : key = "name"
      · exact ⟨_, by rw [if_pos hname]; rfl⟩
      · rcases h key hkey hname with ⟨v, hv⟩
        exact ⟨(key, v), by rw [if_neg hname, hv]; rfl⟩
    rcases hentries with ⟨entries, hentries⟩
    rw [serviceParams, hentries]
    exact ⟨_, rfl⟩

end Params

section Calls

variable (api : ServicesApi) (args : ServiceArgs) (s : Account)

/-- A service with the name is used. -/
theorem createService_found (id : String)
    (h : getServiceIdByName s.services (serviceName args.name) = some id) :
    createService api args s = (.ok id, s) := by
  have hlist : getServices s = (.ok s.services, s) := rfl
  unfold createService
  rw [bind_of_ok _ s s _ _ hlist, h]
  rfl

/-- Without one the arguments are sent. -/
theorem createService_none (h : getServiceIdByName s.services (serviceName args.name) = none) :
    createService api args s
      = (Session.ofExcept (serviceParams api args) >>= post api :
          Session Account Exn String) s := by
  have hlist : getServices s = (.ok s.services, s) := rfl
  unfold createService
  rw [bind_of_ok _ s s _ _ hlist, h]

/-- What a call creates has the name it was given. -/
theorem createService_created (h : getServiceIdByName s.services (serviceName args.name) = none)
    (params : Params) (hparams : serviceParams api args = .ok params) :
    createService api args s
      = (.ok (api.newId s.services params),
          ⟨api.store ⟨api.newId s.services params, args.name⟩ s.services,
            s.created ++ [⟨api.newId s.services params, args.name⟩]⟩) := by
  have hsent : Session.ofExcept (serviceParams api args) s = (.ok params, s) := by
    rw [hparams]
    rfl
  rw [createService_none api args s h, bind_of_ok _ s s _ _ hsent, post,
    name_sent api args params hparams]
  rfl

/-- Without one, and with an argument missing, a call raises. -/
theorem createService_raises (h : getServiceIdByName s.services (serviceName args.name) = none)
    (e : Exn) (hparams : serviceParams api args = .error e) :
    createService api args s = (.error e, s) := by
  have hsent : Session.ofExcept (serviceParams api args) s = (.error e, s) := by
    rw [hparams]
    rfl
  rw [createService_none api args s h, bind_of_error _ s s _ _ hsent]

/-- The search finds the service of a name that only one has. -/
theorem getServiceIdByName_of_unique (services : List Service) (x : Service) (hx : x ∈ services)
    (h : ∀ y ∈ services, y.name = x.name → y = x) :
    getServiceIdByName services x.name = some x.id := by
  rw [getServiceIdByName]
  cases hfind : services.find? (fun s => s.name == x.name) with
  | none => exact absurd (beq_self_eq_true x.name) (List.find?_eq_none.mp hfind x hx)
  | some y =>
      have hname := List.find?_some hfind
      rw [h y (List.mem_of_find?_eq_some hfind) (beq_iff_eq.mp hname), Option.map_some]

theorem getServiceIdByName_none_iff (services : List Service) (name : String) :
    getServiceIdByName services name = none ↔ ∀ x ∈ services, x.name ≠ name := by
  rw [getServiceIdByName, Option.map_eq_none_iff, List.find?_eq_none]
  simp only [beq_iff_eq, ne_eq]

/-- A short name is not cut off. -/
theorem serviceName_eq_iff (name : String) :
    name = serviceName name ↔ name.length ≤ maxServiceNameLength := by
  rw [serviceName]
  by_cases h : maxServiceNameLength < name.length
  · rw [if_pos h]
    refine ⟨fun heq => ?_, fun hle => by omega⟩
    have hlen := congrArg String.length heq
    rw [String.length_ofList, List.length_take, String.length_toList] at hlen
    omega
  · rw [if_neg h]
    exact ⟨fun _ => by omega, fun _ => rfl⟩

/-- When creating twice is creating once: there is a service of the name that is
    looked for, or the name is short and no argument is missing. -/
theorem createsOnce_iff (services : List Service) :
    CreatesOnce api args services ↔
      (∃ x ∈ services, x.name = serviceName args.name)
        ∨ (args.name.length ≤ maxServiceNameLength ∧ args.Complete) := by
  cases hfirst : getServiceIdByName services (serviceName args.name) with
  | some id =>
      have hthere : ∃ x ∈ services, x.name = serviceName args.name := by
        by_contra hnone
        rw [(getServiceIdByName_none_iff services _).mpr
          (fun x hx hname => hnone ⟨x, hx, hname⟩)] at hfirst
        cases hfirst
      have hcall := createService_found api args ⟨services, []⟩ id hfirst
      refine ⟨fun _ => Or.inl hthere, fun _ => ⟨id, _, _, hcall, hcall, Nat.zero_le 1, ?_⟩⟩
      exact fun x hx => absurd hx List.not_mem_nil
  | none =>
      have hnone := (getServiceIdByName_none_iff services _).mp hfirst
      constructor
      · rintro ⟨id, s, s', hcall, hagain, hone, hnames⟩
        right
        cases hparams : serviceParams api args with
        | error e =>
            rw [createService_raises api args ⟨services, []⟩ hfirst e hparams] at hcall
            cases hcall
        | ok params =>
            refine ⟨?_, (serviceParams_ok_iff api args).mp ⟨params, hparams⟩⟩
            rw [createService_created api args ⟨services, []⟩ hfirst params hparams] at hcall
            cases hcall
            by_contra hlong
            have hname : args.name ≠ serviceName args.name :=
              fun heq => hlong ((serviceName_eq_iff args.name).mp heq)
            -- the search misses what was created, so the second call creates again
            have hmissed : getServiceIdByName
                (api.store ⟨api.newId services params, args.name⟩ services)
                (serviceName args.name) = none := by
              rw [getServiceIdByName_none_iff]
              intro x hx
              rcases (api.mem_store _ _ x).mp hx with rfl | hx
              · exact hname
              · exact hnone x hx
            rw [createService_created api args _ hmissed params hparams] at hagain
            have htwo := congrArg (fun r => r.2.created.length) hagain
            simp only [List.nil_append, List.length_append, List.length_singleton] at htwo
            omega
      · rintro (⟨x, hx, hname⟩ | ⟨hshort, hcomplete⟩)
        · exact absurd hname (hnone x hx)
        · have hname := (serviceName_eq_iff args.name).mpr hshort
          rcases (serviceParams_ok_iff api args).mpr hcomplete with ⟨params, hparams⟩
          have hcall := createService_created api args ⟨services, []⟩ hfirst params hparams
          have hfound : getServiceIdByName (api.store
              ⟨api.newId services params, args.name⟩ services) (serviceName args.name)
              = some (api.newId services params) := by
            rw [← hname]
            refine getServiceIdByName_of_unique _ ⟨api.newId services params, args.name⟩
              ((api.mem_store _ _ _).mpr (Or.inl rfl)) (fun y hy hsame => ?_)
            rcases (api.mem_store _ _ y).mp hy with heq | hold
            · exact heq
            · exact absurd (hsame.trans hname) (hnone y hold)
          refine ⟨_, _, _, hcall, createService_found api args _ _ hfound, Nat.le_refl 1, ?_⟩
          intro x hx
          rw [List.nil_append, List.mem_singleton] at hx
          rw [hx]
          exact hname

end Calls

theorem mem_listing (s : Service) (services : List Service) (x : Service) :
    x ∈ services ++ [s] ↔ x = s ∨ x ∈ services := by
  rw [List.mem_append, List.mem_singleton, or_comm]

/-- An API that lists services as they were created. -/
def listingApi : ServicesApi where
  projectId := .str "p1"
  region := .str "us-west-2"
  provider := .str "aws"
  newId services _ := "dbtwf" ++ toString services.length
  store s services := services ++ [s]
  mem_store := mem_listing

/-- The arguments for a service with a name of twenty-five characters. -/
def longArgs : ServiceArgs where
  name := "performance-of-standalone"
  others := Dict.ofList (serviceParamNames.map (fun key => (key, Value.none)))

theorem longArgs_complete : longArgs.Complete := by
  intro key hkey _
  have hkeys : (serviceParamNames.map (fun key => (key, Value.none))).map Prod.fst
      = serviceParamNames := by rw [List.map_map]; exact List.map_id _
  have hnodup : ((serviceParamNames.map (fun key => (key, Value.none))).map Prod.fst).Nodup := by
    rw [hkeys]
    decide
  exact ⟨Value.none, Dict.get?_setAll_of_nodup Dict.empty _ hnodup key Value.none
    (List.mem_map.mpr ⟨key, hkey, rfl⟩)⟩

/-- A name of twenty-five characters is looked for in vain, again and again. -/
theorem created_again : ¬ CreatesOnce listingApi longArgs [] := by
  rintro ⟨id, s, s', hcall, hagain, hone, -⟩
  have hlong : longArgs.name ≠ serviceName longArgs.name :=
    fun heq => absurd ((serviceName_eq_iff longArgs.name).mp heq) (by decide)
  rcases (serviceParams_ok_iff listingApi longArgs).mpr longArgs_complete with ⟨params, hparams⟩
  rw [createService_created listingApi longArgs ⟨[], []⟩ rfl params hparams] at hcall
  cases hcall
  have hmissed : getServiceIdByName ([] ++ [⟨listingApi.newId [] params, longArgs.name⟩])
      (serviceName longArgs.name) = none := by
    rw [getServiceIdByName_none_iff]
    intro x hx
    rw [List.nil_append, List.mem_singleton] at hx
    rw [hx]
    exact hlong
  rw [createService_created listingApi longArgs _ hmissed params hparams] at hagain
  have htwo := congrArg (fun r => r.2.created.length) hagain
  simp only [List.nil_append, List.length_append, List.length_singleton] at htwo
  omega

end SkySql2

end Xbench
