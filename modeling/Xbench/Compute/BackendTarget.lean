import Xbench.Cloud.Types

/-!
# Backend Targets

What a workload connects to.

The class declares its fields as strings and integers, and nothing holds a
program to that: a parameter from the command line is set as it was evaluated.
So a field is a value, and `Typed` says that all of them are what the class
declares.

A target is saved as a dictionary, in which whatever is no integer and no
dictionary is turned into text, and built again from it with a check of the
types. `fromDict_asDict_iff` says which targets come back.

## Main definitions

* `BackendTarget`: A target.
* `BackendTarget.new`: The constructor with its defaults.
* `BackendTarget.asDict`: The dictionary that is saved.
* `BackendTarget.fromDict`: Building a target.
* `BackendTarget.attributes`: The attributes of a target.
* `BackendTarget.update`: Setting attributes by name.
* `BackendTarget.asdict`: The fields of a target from its attributes.
* `BackendTarget.Typed`: The fields are what the class declares.

## Theorems

* `BackendTarget.fromDict_asDict_iff`: The targets that come back.
* `BackendTarget.mem_fieldNames_of_asdict`: Only fields are taken from a target.
-/

namespace Xbench

/-- `BackendDialect` and `BackendProduct`, by value. -/
def backendDialects : List String :=
  ["pgsql", "mysql"]

def backendProducts : List String :=
  ["mariadb", "mysql", "aurora-mysql", "aurora-postgres", "postgres", "xpand", "tidb", "xgres"]

/-- What a workload connects to. -/
structure BackendTarget where
  host : Value
  user : Value
  password : Value
  database : Value
  port : Value
  ssl : Value
  dialect : Value
  product : Value
  connectTimeout : Value
  readTimeout : Value

namespace BackendTarget

/-- The constructor; the other fields have defaults. -/
def new (host user password database : String) (port : Int) : BackendTarget where
  host := .str host
  user := .str user
  password := .str password
  database := .str database
  port := .int port
  ssl := .dict []
  dialect := .str "mysql"
  product := .str "mariadb"
  connectTimeout := .int 5
  readTimeout := .int 5

/-- What `as_dict` makes of a field: an integer, which a boolean is as well, and
    a dictionary stay what they are. -/
def savedField : Value → Value
  | .int n => .int n
  | .bool b => .bool b
  | .dict entries => .dict entries
  | v => .str v.text

/-- `as_dict`. -/
def asDict (bt : BackendTarget) : List (String × Value) :=
  [("host", savedField bt.host), ("user", savedField bt.user),
    ("password", savedField bt.password), ("database", savedField bt.database),
    ("port", savedField bt.port), ("ssl", savedField bt.ssl),
    ("dialect", savedField bt.dialect), ("product", savedField bt.product),
    ("connect_timeout", savedField bt.connectTimeout),
    ("read_timeout", savedField bt.readTimeout)]

def isStr : Value → Bool
  | .str _ => true
  | _ => false

/-- A boolean is an integer. -/
def isInt : Value → Bool
  | .int _ => true
  | .bool _ => true
  | _ => false

def isEnum (names : List String) : Value → Bool
  | .str s => decide (s ∈ names)
  | _ => false

/-- A field of `from_dict`: the value, if it has the type. -/
def field (d : Params) (key : String) (hasType : Value → Bool) (dflt : Option Value) :
    Except Exn Value :=
  match d.get? key with
  | some v => if hasType v then .ok v else .error (wrongType key)
  | none => dflt.elim (.error (missingValue key)) .ok

/-- A field that is cast to an enumeration. -/
def enumField (d : Params) (key klass : String) (names : List String) (dflt : Value) :
    Except Exn Value :=
  match d.get? key with
  | some v =>
      if isEnum names v then .ok v
      else .error ⟨.valueError, v.repr ++ " is not a valid " ++ klass⟩
  | none => .ok dflt

/-- `from_dict(data_class=BackendTarget, .., config=Config(cast=[Enum]))`. -/
def fromDict (d : Params) : Except Exn BackendTarget := do
  let host ← field d "host" isStr none
  let user ← field d "user" isStr none
  let password ← field d "password" isStr none
  let database ← field d "database" isStr none
  let port ← field d "port" isInt none
  let ssl ← field d "ssl" Value.isDict (some (.dict []))
  let dialect ← enumField d "dialect" "BackendDialect" backendDialects (.str "mysql")
  let product ← enumField d "product" "BackendProduct" backendProducts (.str "mariadb")
  let connectTimeout ← field d "connect_timeout" isInt (some (.int 5))
  let readTimeout ← field d "read_timeout" isInt (some (.int 5))
  .ok ⟨host, user, password, database, port, ssl, dialect, product, connectTimeout, readTimeout⟩

/-- The fields are what the class declares. -/
structure Typed (bt : BackendTarget) : Prop where
  host : isStr bt.host = true
  user : isStr bt.user = true
  password : isStr bt.password = true
  database : isStr bt.database = true
  port : isInt bt.port = true
  ssl : bt.ssl.isDict = true
  dialect : isEnum backendDialects bt.dialect = true
  product : isEnum backendProducts bt.product = true
  connectTimeout : isInt bt.connectTimeout = true
  readTimeout : isInt bt.readTimeout = true

/-- A target as its dictionary shows it. -/
def asSaved (bt : BackendTarget) : BackendTarget where
  host := savedField bt.host
  user := savedField bt.user
  password := savedField bt.password
  database := savedField bt.database
  port := savedField bt.port
  ssl := savedField bt.ssl
  dialect := savedField bt.dialect
  product := savedField bt.product
  connectTimeout := savedField bt.connectTimeout
  readTimeout := savedField bt.readTimeout

section RoundTrip

theorem savedField_of_isStr (v : Value) (h : isStr v = true) : savedField v = v := by
  cases v with
  | str s => rfl
  | _ => exact nomatch h

theorem savedField_of_isInt (v : Value) (h : isInt v = true) : savedField v = v := by
  cases v with
  | int n => rfl
  | bool b => rfl
  | _ => exact nomatch h

theorem savedField_of_isDict (v : Value) (h : v.isDict = true) : savedField v = v := by
  cases v with
  | dict entries => rfl
  | _ => exact nomatch h

theorem savedField_of_isEnum (names : List String) (v : Value) (h : isEnum names v = true) :
    savedField v = v := by
  cases v with
  | str s => rfl
  | _ => exact nomatch h

/-- A typed target is saved as it is. -/
theorem asSaved_of_typed (bt : BackendTarget) (h : bt.Typed) : bt.asSaved = bt := by
  unfold asSaved
  rw [savedField_of_isStr _ h.host, savedField_of_isStr _ h.user, savedField_of_isStr _ h.password,
    savedField_of_isStr _ h.database, savedField_of_isInt _ h.port, savedField_of_isDict _ h.ssl,
    savedField_of_isEnum _ _ h.dialect, savedField_of_isEnum _ _ h.product,
    savedField_of_isInt _ h.connectTimeout, savedField_of_isInt _ h.readTimeout]

theorem field_ok_iff (d : Params) (key : String) (hasType : Value → Bool) (dflt : Option Value)
    (v w : Value) (h : d.get? key = some v) :
    field d key hasType dflt = .ok w ↔ hasType v = true ∧ v = w := by
  unfold field
  rw [h]
  by_cases htype : hasType v = true
  · simp [htype]
  · simp [htype]

theorem enumField_ok_iff (d : Params) (key klass : String) (names : List String) (dflt v w : Value)
    (h : d.get? key = some v) :
    enumField d key klass names dflt = .ok w ↔ isEnum names v = true ∧ v = w := by
  unfold enumField
  rw [h]
  by_cases htype : isEnum names v = true
  · simp [htype]
  · simp [htype]

theorem get?_asDict (bt : BackendTarget) (key : String) :
    (Dict.ofList bt.asDict).get? key = bt.asDict.lookup key := by
  have hkeys : bt.asDict.map Prod.fst = ["host", "user", "password", "database", "port", "ssl",
      "dialect", "product", "connect_timeout", "read_timeout"] := rfl
  refine Dict.get?_ofList_of_nodup _ ?_ key
  rw [hkeys]
  decide

/-- The dictionary of a target builds what it shows, when that is typed. -/
theorem fromDict_asDict_ok_iff (bt bt' : BackendTarget) :
    fromDict (Dict.ofList bt.asDict) = .ok bt' ↔ bt.asSaved.Typed ∧ bt' = bt.asSaved := by
  -- all that is used of the dictionary is what its keys give
  have hget := bt.get?_asDict
  generalize Dict.ofList bt.asDict = d at hget
  have hfield : ∀ key v hasType dflt, d.get? key = some v →
      ∀ w, field d key hasType dflt = .ok w ↔ hasType v = true ∧ v = w :=
    fun key v hasType dflt h w => field_ok_iff d key hasType dflt v w h
  have henum : ∀ key klass names dflt v, d.get? key = some v →
      ∀ w, enumField d key klass names dflt = .ok w ↔ isEnum names v = true ∧ v = w :=
    fun key klass names dflt v h w => enumField_ok_iff d key klass names dflt v w h
  constructor
  · intro h
    -- each field is read from its own key
    unfold fromDict at h
    rcases except_bind_eq_ok _ _ _ h with ⟨_, hhost, h⟩
    rcases except_bind_eq_ok _ _ _ h with ⟨_, huser, h⟩
    rcases except_bind_eq_ok _ _ _ h with ⟨_, hpassword, h⟩
    rcases except_bind_eq_ok _ _ _ h with ⟨_, hdatabase, h⟩
    rcases except_bind_eq_ok _ _ _ h with ⟨_, hport, h⟩
    rcases except_bind_eq_ok _ _ _ h with ⟨_, hssl, h⟩
    rcases except_bind_eq_ok _ _ _ h with ⟨_, hdialect, h⟩
    rcases except_bind_eq_ok _ _ _ h with ⟨_, hproduct, h⟩
    rcases except_bind_eq_ok _ _ _ h with ⟨_, hconnectTimeout, h⟩
    rcases except_bind_eq_ok _ _ _ h with ⟨_, hreadTimeout, h⟩
    rw [← Except.ok.inj h]
    rcases (hfield "host" (savedField bt.host) _ _ (hget _) _).mp hhost with ⟨thost, rfl⟩
    rcases (hfield "user" (savedField bt.user) _ _ (hget _) _).mp huser with ⟨tuser, rfl⟩
    rcases (hfield "password" (savedField bt.password) _ _ (hget _) _).mp hpassword with
      ⟨tpassword, rfl⟩
    rcases (hfield "database" (savedField bt.database) _ _ (hget _) _).mp hdatabase with
      ⟨tdatabase, rfl⟩
    rcases (hfield "port" (savedField bt.port) _ _ (hget _) _).mp hport with ⟨tport, rfl⟩
    rcases (hfield "ssl" (savedField bt.ssl) _ _ (hget _) _).mp hssl with ⟨tssl, rfl⟩
    rcases (henum "dialect" _ _ _ (savedField bt.dialect) (hget _) _).mp hdialect with
      ⟨tdialect, rfl⟩
    rcases (henum "product" _ _ _ (savedField bt.product) (hget _) _).mp hproduct with
      ⟨tproduct, rfl⟩
    rcases (hfield "connect_timeout" (savedField bt.connectTimeout) _ _ (hget _) _).mp
      hconnectTimeout with ⟨tconnectTimeout, rfl⟩
    rcases (hfield "read_timeout" (savedField bt.readTimeout) _ _ (hget _) _).mp hreadTimeout with
      ⟨treadTimeout, rfl⟩
    exact ⟨⟨thost, tuser, tpassword, tdatabase, tport, tssl, tdialect, tproduct, tconnectTimeout,
      treadTimeout⟩, rfl⟩
  · rintro ⟨htyped, rfl⟩
    unfold fromDict
    rw [(hfield "host" _ _ _ (hget _) _).mpr ⟨htyped.host, rfl⟩]
    rw [(hfield "user" _ _ _ (hget _) _).mpr ⟨htyped.user, rfl⟩]
    rw [(hfield "password" _ _ _ (hget _) _).mpr ⟨htyped.password, rfl⟩]
    rw [(hfield "database" _ _ _ (hget _) _).mpr ⟨htyped.database, rfl⟩]
    rw [(hfield "port" _ _ _ (hget _) _).mpr ⟨htyped.port, rfl⟩]
    rw [(hfield "ssl" _ _ _ (hget _) _).mpr ⟨htyped.ssl, rfl⟩]
    rw [(henum "dialect" _ _ _ _ (hget _) _).mpr ⟨htyped.dialect, rfl⟩]
    rw [(henum "product" _ _ _ _ (hget _) _).mpr ⟨htyped.product, rfl⟩]
    rw [(hfield "connect_timeout" _ _ _ (hget _) _).mpr ⟨htyped.connectTimeout, rfl⟩]
    rw [(hfield "read_timeout" _ _ _ (hget _) _).mpr ⟨htyped.readTimeout, rfl⟩]
    rfl

/-- The targets that come back: those whose fields have their types. -/
theorem fromDict_asDict_iff (bt : BackendTarget) :
    fromDict (Dict.ofList bt.asDict) = .ok bt ↔ bt.Typed := by
  rw [fromDict_asDict_ok_iff]
  constructor
  · rintro ⟨htyped, hsame⟩
    rw [hsame]
    exact htyped
  · intro h
    rw [asSaved_of_typed bt h]
    exact ⟨h, rfl⟩

end RoundTrip

section Attributes

/-- The fields, in the order they are declared. -/
def fieldNames : List String :=
  ["host", "user", "password", "database", "port", "ssl", "dialect", "product",
    "connect_timeout", "read_timeout"]

/-- The attributes of a target, `vars(self)`. -/
def attributes (bt : BackendTarget) : Dict String Value :=
  Dict.ofList
    [("host", bt.host), ("user", bt.user), ("password", bt.password), ("database", bt.database),
      ("port", bt.port), ("ssl", bt.ssl), ("dialect", bt.dialect), ("product", bt.product),
      ("connect_timeout", bt.connectTimeout), ("read_timeout", bt.readTimeout)]

/-- What the class has for a field that a target does not have. -/
def classDefault : String → Option Value
  | "dialect" => some (.str "mysql")
  | "product" => some (.str "mariadb")
  | "connect_timeout" => some (.int 5)
  | "read_timeout" => some (.int 5)
  | _ => none

/-- The other attributes of the class. -/
def classAttributes : List String :=
  ["as_dict", "get_backup_type", "update", "__annotations__", "__class__",
    "__dataclass_fields__", "__dataclass_params__", "__delattr__", "__dict__", "__dir__",
    "__doc__", "__eq__", "__format__", "__ge__", "__getattribute__", "__gt__", "__hash__",
    "__init__", "__init_subclass__", "__le__", "__lt__", "__match_args__", "__module__",
    "__ne__", "__new__", "__reduce__", "__reduce_ex__", "__repr__", "__setattr__",
    "__sizeof__", "__str__", "__subclasshook__", "__weakref__"]

/-- `hasattr(self, key)`. -/
def hasattr (attrs : Dict String Value) (key : String) : Bool :=
  (attrs.get? key).isSome || (classDefault key).isSome || decide (key ∈ classAttributes)

/-- `setattr(self, key, value)`. Three names are of the object itself. -/
def setattr (attrs : Dict String Value) (key : String) (value : Value) :
    Except Exn (Dict String Value) :=
  if key = "__dict__" then
    match value with
    | .dict entries => .ok (Dict.ofList entries)
    | _ => .error ⟨.typeError, "__dict__ must be set to a dictionary"⟩
  else if key = "__class__" then
    .error ⟨.typeError, "__class__ must be set to a class"⟩
  else if key = "__weakref__" then
    .error ⟨.attributeError, "attribute '__weakref__' is not writable"⟩
  else .ok (attrs.set key value)

/-- `update`: what the target has no attribute for is left out. -/
def update (attrs : Dict String Value) : List (String × Value) → Except Exn (Dict String Value)
  | [] => .ok attrs
  | (key, value) :: rest =>
      if hasattr attrs key then do
        let attrs ← setattr attrs key value
        update attrs rest
      else update attrs rest

/-- `getattr(obj, name)`. -/
def getattr (attrs : Dict String Value) (name : String) : Except Exn Value :=
  match (attrs.get? name).or (classDefault name) with
  | some v => .ok v
  | none => .error ⟨.attributeError, "'BackendTarget' object has no attribute '" ++ name ++ "'"⟩

/-- `asdict(obj)`. The fields are those the object itself says it has, when it
    has something to say about that. -/
def asdict (attrs : Dict String Value) : Except Exn (Dict String Value) :=
  match attrs.get? "__dataclass_fields__" with
  | none => do
      let entries ← fieldNames.mapM
        (fun name => (getattr attrs name).map (fun v => (name, v)))
      .ok (Dict.ofList entries)
  | some (.dict []) => .ok Dict.empty
  | some _ => .error ⟨.attributeError, "object has no attribute '_field_type'"⟩

/-- Only fields are taken from a target. -/
theorem mem_fieldNames_of_asdict (attrs fields : Dict String Value)
    (h : asdict attrs = .ok fields) (name : String) (v : Value)
    (hname : fields.get? name = some v) : name ∈ fieldNames := by
  unfold asdict at h
  split at h
  · rcases except_bind_eq_ok _ _ _ h with ⟨entries, hentries, h⟩
    rw [← Except.ok.inj h] at hname
    have hkey : name ∈ (Dict.ofList entries).keys := by
      rw [Dict.mem_keys_iff, hname]
      rfl
    rcases (Dict.mem_keys_setAll Dict.empty entries name).mp hkey with hmem | hnone
    · rcases List.mem_map.mp hmem with ⟨e, he, rfl⟩
      rcases exists_of_forall₂ _ _ _ ((except_mapM_ok_iff _ _ _).mp hentries) e he with
        ⟨field, hfield, heq⟩
      cases hget : getattr attrs field with
      | error x =>
          rw [hget] at heq
          exact nomatch heq
      | ok w =>
          rw [hget] at heq
          rw [← Except.ok.inj heq]
          exact hfield
    · exact absurd hnone List.not_mem_nil
  · rw [← Except.ok.inj h] at hname
    exact nomatch hname
  · exact nomatch h

end Attributes

end BackendTarget

end Xbench
