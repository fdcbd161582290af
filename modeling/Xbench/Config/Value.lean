import Xbench.Lib.Dict

/-!
# Parameters and Exceptions

The dynamic values that come out of a YAML file, the parameter dictionaries
made of them, and the exceptions the code raises and tells apart.

An `except` clause catches a class with its subclasses, so an exception is
kept as its class, its ancestors and its text. `Exn.isA` is the test a clause
makes. The difference matters here more than the messages do: launching an
instance turns a `CloudException` into a missing node, and lets everything
else through.

## Main definitions

* `Value`: What a YAML scalar, sequence or mapping loads as.
* `Value.truthy`: Python's truth test.
* `Value.text`: Python's `str(..)`.
* `Params`: A parameter dictionary.
* `Dict.read`: Reading a key that may be missing.
* `ExnClass`: The exception classes an `except` clause names.
* `ExnClass.ancestors`: A class with its base classes.
* `Exn`: An exception with its text.
* `Exn.isA`: Does an `except` clause catch it?
* `pyInt`: Python's `int(..)`.

## Theorems

* `Dict.read_set_self`: A written key reads back.
* `Dict.read_set_other`: Other keys read as before.
-/

namespace Xbench

/-- What a YAML scalar, sequence or mapping loads as. -/
inductive Value where
  | none
  | bool (b : Bool)
  | int (n : Int)
  | str (s : String)
  | list (items : List Value)
  | dict (entries : List (String × Value))

/-- Python's truth test. -/
def Value.truthy : Value → Bool
  | .none => false
  | .bool b => b
  | .int n => n != 0
  | .str s => s != ""
  | .list items => !items.isEmpty
  | .dict entries => !entries.isEmpty

mutual

/-- Python's `repr(..)`. -/
def Value.repr : Value → String
  | .none => "None"
  | .bool b => if b then "True" else "False"
  | .int n => toString n
  | .str s => "'" ++ s ++ "'"
  | .list items => "[" ++ Value.reprItems items ++ "]"
  | .dict entries => "\x7b" ++ Value.reprEntries entries ++ "\x7d"

def Value.reprItems : List Value → String
  | [] => ""
  | [v] => v.repr
  | v :: vs => v.repr ++ ", " ++ Value.reprItems vs

def Value.reprEntries : List (String × Value) → String
  | [] => ""
  | [(k, v)] => "'" ++ k ++ "': " ++ v.repr
  | (k, v) :: es => "'" ++ k ++ "': " ++ v.repr ++ ", " ++ Value.reprEntries es

end

/-- Python's `str(..)`: only a string differs from its `repr`. -/
def Value.text : Value → String
  | .str s => s
  | v => v.repr

def Value.isDict : Value → Bool
  | .dict _ => true
  | _ => false

/-- A parameter dictionary. -/
abbrev Params := Dict String Value

/-- `params.get(key)`: a missing key reads as `None`. -/
def Dict.read (params : Dict String Value) (key : String) : Value :=
  (params.get? key).getD .none

theorem Dict.read_set_self (params : Params) (key : String) (v : Value) :
    (params.set key v).read key = v := by
  rw [Dict.read, Dict.get?_set_self, Option.getD_some]

theorem Dict.read_set_other (params : Params) (key other : String) (v : Value)
    (h : other ≠ key) : (params.set key v).read other = params.read other := by
  rw [Dict.read, Dict.read, Dict.get?_set_other _ _ _ _ h]

/-- The exception classes an `except` clause names, and the built-in ones the
    code runs into. -/
inductive ExnClass where
  | cloud
  | cloudCli
  | cloudCompute
  | cloudStorage
  | awsCloud
  | awsCli
  | awsEc2
  | awsStorage
  | awsRdsCli
  | awsRdsCliWait
  | awsRdsCompute
  | awsAuroraCompute
  | gcpCloud
  | gcpCli
  | gcpStorage
  | gcpAlloyDBCloud
  | coloCloud
  | coloCloudProvisioning
  | skySQLAPI
  | skySQLAPIServer
  | skySQLCloud
  | node
  | shellSSHClient
  | driver
  | backend
  | columnstore
  | cluster
  | xbench
  | yamlConfig
  | yaml
  | vault
  | fileNotFound
  | dacite
  | typeError
  | attributeError
  | keyError
  | indexError
  | valueError
  | recursionError
  | other
deriving DecidableEq

/-- A class with its base classes below `Exception`. -/
def ExnClass.ancestors : ExnClass → List ExnClass
  | .cloudCli => [.cloudCli, .cloud]
  | .cloudCompute => [.cloudCompute, .cloud]
  | .cloudStorage => [.cloudStorage, .cloud]
  | .awsCloud => [.awsCloud, .cloud]
  | .awsCli => [.awsCli, .cloudCli, .cloud]
  | .awsEc2 => [.awsEc2, .cloudCompute, .cloud]
  | .awsStorage => [.awsStorage, .cloudStorage, .cloud]
  | .awsRdsCli => [.awsRdsCli, .cloudCli, .cloud]
  | .awsRdsCompute => [.awsRdsCompute, .cloudCompute, .cloud]
  | .awsAuroraCompute => [.awsAuroraCompute, .cloudCompute, .cloud]
  | .gcpCloud => [.gcpCloud, .cloud]
  | .gcpCli => [.gcpCli, .cloudCli, .cloud]
  | .gcpStorage => [.gcpStorage, .cloudStorage, .cloud]
  | .gcpAlloyDBCloud => [.gcpAlloyDBCloud, .gcpCloud, .cloud]
  | .coloCloud => [.coloCloud, .cloud]
  | .coloCloudProvisioning => [.coloCloudProvisioning, .coloCloud, .cloud]
  | .skySQLAPI => [.skySQLAPI, .cloud]
  | .skySQLAPIServer => [.skySQLAPIServer, .skySQLAPI, .cloud]
  | .columnstore => [.columnstore, .backend]
  | c => [c]

structure Exn where
  klass : ExnClass
  message : String
deriving DecidableEq

/-- Does `except c` catch it? -/
def Exn.isA (e : Exn) (c : ExnClass) : Bool :=
  c ∈ e.klass.ancestors

/-- Python's `int(..)` on a loaded value. A string may carry a sign and blanks
    around its digits. -/
def pyInt : Value → Except Exn Int
  | .int n => .ok n
  | .bool b => .ok (if b then 1 else 0)
  | .str s =>
      match s.trimAscii.toString.toInt? with
      | some n => .ok n
      | Option.none => .error ⟨.valueError, s!"invalid literal for int() with base 10: '{s}'"⟩
  | _ => .error ⟨.typeError, "int() argument must be a string or a number"⟩

end Xbench
