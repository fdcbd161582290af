import Xbench.Config.Value
import Xbench.Lib.Effect
import Xbench.Lib.Text

/-!
# Loading YAML Files

How a configuration file becomes a dictionary.

A file goes through two passes. The first one is on its text: what stands
behind an include marker is taken for the name of a file, and the whole
expression is replaced with the text of that file. What comes out of this is
written to a temporary file, with the separators of documents taken out. A file
without the marker is left alone.

The second pass is PyYAML's, with what has been registered there: a reader for
the values of the environment, one for the secrets of a vault, and a
constructor for the include marker, which loads the file that it finds from the
file at hand. PyYAML keeps the three in tables of its own, and the class keeps
a list of the readers. Neither is ever emptied, so both are the state of the
process.

## Main definitions

* `Reader`: A reader of values.
* `Process`: What has been registered in a process.
* `YamlNode`: What PyYAML makes of a document before it constructs values.
* `Surroundings`: PyYAML, the files and the environment.
* `Reader.substitute`: A scalar with its values read.
* `includeFile`: Constructing an include.
* `construct`: Constructing a document.
* `analyzeIncludes`: The pass on the text.
* `loadVault`: The secrets of a vault.
* `Process.register`: Registering the readers and the constructor.
* `yamlConfig`: Loading a file.
-/

namespace Xbench

open Text

/-- A reader of values: from the environment, or from a vault with its
    secrets. -/
inductive Reader where
  | env
  | vault (secrets : Value)

def Reader.name : Reader → String
  | .env => "ENV"
  | .vault _ => "VAULT"

/-- A constructor for a tag. -/
inductive Handler where
  | reader (r : Reader)
  | include

def includeMarker : String := "!include"

/-- What has been registered in a process: the readers of the class, and the
    resolvers and constructors in the tables of PyYAML. A resolver is the name of
    its reader, which gives its pattern. -/
structure Process where
  readers : List Reader
  resolvers : List String
  constructors : Dict String Handler

/-- A process that has loaded nothing. -/
def Process.fresh : Process :=
  ⟨[], [], Dict.empty⟩

/-- What PyYAML makes of a document before it constructs values: a plain scalar
    that its own resolvers do not know, a scalar with a tag, something that it
    constructs without the tables, and collections. -/
inductive YamlNode where
  | plain (text : String)
  | tagged (tag text : String)
  | own (v : Value)
  | list (items : List YamlNode)
  | map (entries : List (YamlNode × YamlNode))

/-- What PyYAML makes of a text: the documents up to a mistake, if there is one;
    and the single document that is expected of an include. -/
structure PyYaml where
  composeAll : String → List YamlNode × Except Exn Unit
  composeSingle : String → Except Exn (Option YamlNode)

/-- PyYAML, the files, the environment, the name of the temporary file, and
    Python's bound on the depth of a recursion. -/
structure Surroundings where
  yaml : PyYaml
  file : String → Option String
  getenv : String → Option String
  temp : String
  depth : Nat

section Paths

/-- `os.path.split(path)[0]`. -/
def dirname (path : String) : String :=
  let head := (path.toList.reverse.dropWhile (fun c => c != '/')).reverse
  if head.all (fun c => c == '/') then String.ofList head
  else String.ofList (head.reverse.dropWhile (fun c => c == '/')).reverse

/-- `os.path.join(root, name)`. -/
def joinPath (root name : String) : String :=
  if StartsWith name "/" then name
  else if root = "" then name
  else if root.toList.getLast? = some '/' then root ++ name
  else root ++ "/" ++ name

end Paths

section Scalars

/-- The characters up to `']`, and those behind it. -/
def keyOf : List Char → Option (List Char × List Char)
  | [] => none
  | c :: cs =>
      match afterPrefix ['\'', ']'] (c :: cs) with
      | some rest => some ([], rest)
      | none =>
          if c = '\n' then none
          else (keyOf cs).map (fun found => (c :: found.1, found.2))

/-- The pattern `NAME['(.*?)']` at the beginning. -/
def matchHere (name : String) (cs : List Char) : Option (List Char × List Char) :=
  (afterPrefix (name.toList ++ ['[', '\'']) cs).bind keyOf

/-- Does a resolver take the scalar? It matches at the beginning. -/
def Matches (name text : String) : Prop :=
  (matchHere name text.toList).isSome = true

instance (name text : String) : Decidable (Matches name text) :=
  inferInstanceAs (Decidable (_ = true))

variable (w : Surroundings)

def noString : Exn :=
  ⟨.typeError, "sequence item: expected str instance"⟩

/-- `read_value`; what is missing is `None`, of which `re.sub` makes nothing. -/
def Reader.readValue (key : String) : Reader → Except Exn String
  | .env => .ok ((w.getenv key).getD "")
  | .vault (.dict entries) =>
      match (entries.lookup key).filter Value.truthy with
      | none => .ok ""
      | some (.str s) => .ok s
      | some _ => .error noString
  | .vault _ => .error ⟨.attributeError, "object has no attribute 'get'"⟩

/-- `re.sub` on characters; `fuel` is for those that are left. -/
def Reader.substituteList (r : Reader) : Nat → List Char → Except Exn (List Char)
  | 0, cs => .ok cs
  | _ + 1, [] => .ok []
  | fuel + 1, c :: cs =>
      match matchHere r.name (c :: cs) with
      | some (key, rest) => do
          let value ← r.readValue w (String.ofList key)
          let others ← r.substituteList fuel rest
          .ok (value.toList ++ others)
      | none => do
          let others ← r.substituteList fuel cs
          .ok (c :: others)

/-- `pathex_constructor`. -/
def Reader.substitute (r : Reader) (text : String) : Except Exn Value := do
  let cs ← r.substituteList w text.toList.length text.toList
  .ok (.str (String.ofList cs))

end Scalars

section Construct

variable (w : Surroundings)

def unknownTag (tag : String) : Exn :=
  ⟨.yaml, "could not determine a constructor for the tag '" ++ tag ++ "'"⟩

/-- A scalar with a tag, `loadInclude` being the constructor of the include
    marker. -/
def Process.tagged (p : Process) (loadInclude : String → Except Exn Value) (tag text : String) :
    Except Exn Value :=
  match p.constructors.get? tag with
  | some (.reader r) => r.substitute w text
  | some .include => loadInclude text
  | none => .error (unknownTag tag)

/-- A plain scalar: the first resolver that takes it gives the tag. -/
def Process.plain (p : Process) (loadInclude : String → Except Exn Value) (text : String) :
    Except Exn Value :=
  match p.resolvers.find? (fun name => decide (Matches name text)) with
  | some name => p.tagged w loadInclude name text
  | none => .ok (.str text)

/-- A key of a mapping. One that is no string is kept by its text. -/
def keyText : Value → Except Exn String
  | .str s => .ok s
  | .list _ => .error ⟨.yaml, "found unhashable key"⟩
  | .dict _ => .error ⟨.yaml, "found unhashable key"⟩
  | v => .ok v.text

mutual

/-- Constructing a document. -/
def construct (p : Process) (loadInclude : String → Except Exn Value) :
    YamlNode → Except Exn Value
  | .plain text => p.plain w loadInclude text
  | .tagged tag text => p.tagged w loadInclude tag text
  | .own v => .ok v
  | .list items => do
      let vs ← constructItems p loadInclude items
      .ok (.list vs)
  | .map entries => do
      let es ← constructEntries p loadInclude entries
      .ok (.dict (Dict.ofList es).entries)

def constructItems (p : Process) (loadInclude : String → Except Exn Value) :
    List YamlNode → Except Exn (List Value)
  | [] => .ok []
  | n :: ns => do
      let v ← construct p loadInclude n
      let vs ← constructItems p loadInclude ns
      .ok (v :: vs)

def constructEntries (p : Process) (loadInclude : String → Except Exn Value) :
    List (YamlNode × YamlNode) → Except Exn (List (String × Value))
  | [] => .ok []
  | (k, n) :: es => do
      let key ← construct p loadInclude k
      let key ← keyText key
      let v ← construct p loadInclude n
      let vs ← constructEntries p loadInclude es
      .ok ((key, v) :: vs)

end

def notSupported (filename : String) : Exn :=
  ⟨.yamlConfig, "Recursion is not supported with " ++ includeMarker
    ++ " tags. File includes itself: " ++ filename⟩

def noSuchFile (filename : String) : Exn :=
  ⟨.fileNotFound, "No such file or directory: '" ++ filename ++ "'"⟩

/-- `include`, from the file of the given name. -/
def includeFile (p : Process) : Nat → String → String → Except Exn Value
  | 0, _, _ => .error ⟨.recursionError, "maximum recursion depth exceeded"⟩
  | depth + 1, stream, text =>
      let filename := joinPath (dirname stream) text
      if filename = stream then .error (notSupported filename)
      else
        match w.file filename with
        | none => .error (noSuchFile filename)
        | some content => do
            match ← w.yaml.composeSingle content with
            | none => .ok .none
            | some node => construct w p (includeFile p depth filename) node

/-- Constructing a node of a file. -/
def constructIn (p : Process) (stream : String) (node : YamlNode) : Except Exn Value :=
  construct w p (includeFile w p w.depth stream) node

end Construct

section Includes

/-- The class `\s`. -/
def spaceChar (c : Char) : Bool :=
  c == ' ' || c == '\t' || c == '\n' || c == '\r' || c == '\x0b' || c == '\x0c'

/-- `\s+(.+)`: the blanks and the rest of the line. When blanks are all there
    is, the last one that is no newline is given back. -/
def includeArg (cs : List Char) : Option (List Char × List Char) :=
  let blanks := cs.takeWhile spaceChar
  match blanks, cs.dropWhile spaceChar with
  | [], _ => none
  | _ :: _, c :: rest => some (blanks, (c :: rest).takeWhile (fun c => c != '\n'))
  | _ :: _, [] =>
      match blanks.reverse.dropWhile (fun c => c == '\n') with
      | last :: front :: before => some ((front :: before).reverse, [last])
      | _ => none

/-- The matches of `!include\s+(.+)` with their groups; `fuel` is for the
    characters that are left. -/
def findIncludes : Nat → List Char → List (String × String)
  | 0, _ => []
  | _ + 1, [] => []
  | fuel + 1, c :: cs =>
      match (afterPrefix includeMarker.toList (c :: cs)).bind includeArg with
      | some (blanks, arg) =>
          let expr := includeMarker.toList ++ blanks ++ arg
          (String.ofList expr, String.ofList arg)
            :: findIncludes fuel ((c :: cs).drop expr.length)
      | none => findIncludes fuel cs

/-- `ext_files_dict`: the names of the files, by the expressions. -/
def extFilesDict (content : String) : Dict String String :=
  Dict.ofList (findIncludes content.toList.length content.toList)

variable (w : Surroundings)

/-- The text of a file to include; one that is not there is empty. -/
def fileContent (basePath fn : String) : String :=
  (w.file (basePath ++ "/" ++ fn)).getD ""

/-- The text with the files in the places of the expressions. -/
def replaceIncludes (basePath : String) : List (String × String) → String → String
  | [], content => content
  | (expr, fn) :: rest, content =>
      replaceIncludes basePath rest (replaceAll expr (fileContent w basePath fn) content)

/-- `analyze_includes`: the file that is loaded, and its text. -/
def analyzeIncludes (yamlFilename content : String) : String × String :=
  let extFiles := extFilesDict content
  if extFiles.entries.isEmpty then (yamlFilename, content)
  else
    (w.temp,
      replaceIncludes w (dirname yamlFilename) extFiles.entries (replaceAll "---" "" content))

end Includes

section Load

variable (w : Surroundings)

/-- `res.update(y)`. -/
def updateDocument : Value → Value → Except Exn Value
  | .dict es, .dict es' => .ok (.dict ((Dict.ofList es).setAll es').entries)
  | .dict es, .str "" => .ok (.dict es)
  | .dict es, .list [] => .ok (.dict es)
  | .dict _, _ => .error ⟨.typeError, "cannot convert dictionary update sequence"⟩
  | _, _ => .error ⟨.attributeError, "object has no attribute 'update'"⟩

/-- The documents of a file, one over the other. -/
def mergeDocuments (p : Process) (stream : String) (res : Value) :
    List YamlNode → Except Exn Value
  | [] => .ok res
  | node :: rest => do
      let y ← constructIn w p stream node
      let res ← if res.truthy then updateDocument res y else .ok y
      mergeDocuments p stream res rest

/-- The two passes, from the text of a file. -/
def loadText (p : Process) (yamlConfigFile content : String) : Except Exn Value := do
  let (stream, text) := analyzeIncludes w yamlConfigFile content
  let (nodes, ended) := w.yaml.composeAll text
  let loaded : Except Exn Value := do
    let res ← mergeDocuments w p stream .none nodes
    ended
    .ok res
  match loaded with
  | .ok res => .ok res
  | .error e =>
      if e.isA .yaml then
        .error ⟨.yamlConfig,
          "En error occurred during the " ++ stream ++ " parsing: " ++ e.message⟩
      else .error e

/-- `Vault(vault_file)`: its dictionary. -/
def loadVault (p : Process) (vaultFile : String) : Except Exn Value :=
  match w.file vaultFile with
  | none => .error ⟨.vault, "Config file " ++ vaultFile ++ " not found"⟩
  | some content =>
      let loaded : Except Exn Value := do
        match ← w.yaml.composeSingle content with
        | none => .ok .none
        | some node => constructIn w p vaultFile node
      match loaded with
      | .ok secrets => .ok secrets
      | .error e =>
          if e.isA .yaml then
            .error ⟨.vault,
              "En error " ++ e.message ++ " occurred during the parsing " ++ vaultFile⟩
          else .error e

/-- Registering the readers, and the constructor of the include marker. -/
def Process.register (p : Process) : Process :=
  { p with
    resolvers := p.resolvers ++ p.readers.map Reader.name
    constructors :=
      (p.readers.foldl (fun d r => d.set r.name (.reader r)) p.constructors).set
        includeMarker .include }

/-- The vault of a load; a name that is empty is none. -/
def vaultOf (p : Process) (vaultFile : Option String) : Except Exn (List Reader) :=
  match vaultFile.filter (fun name => name != "") with
  | none => .ok []
  | some name => (loadVault w p name).map (fun secrets => [.vault secrets])

/-- `_yaml_config_dict.get("defaults", None)`, which a dictionary has to be
    for. -/
def withGet : Value → Except Exn Value
  | .dict entries => .ok (.dict entries)
  | _ => .error ⟨.attributeError, "object has no attribute 'get'"⟩

/-- `YamlConfig(yaml_config_file, vault_file)`: what is registered at the end,
    and the dictionary. -/
def yamlConfig (p : Process) (yamlConfigFile : String) (vaultFile : Option String) :
    Process × Except Exn Value :=
  match vaultOf w p vaultFile with
  | .error e => (p, .error e)
  | .ok vault =>
      let p := { p with readers := p.readers ++ .env :: vault }
      match w.file yamlConfigFile with
      | none =>
          (p, .error ⟨.yamlConfig, "Config file " ++ yamlConfigFile ++ " not found"⟩)
      | some content => (p.register, loadText w p.register yamlConfigFile content >>= withGet)

end Load

end Xbench
