import Xbench.Config.Value
import Xbench.Lib.Effect
import Xbench.Lib.Nested
import Xbench.Lib.Text

/-!
# Parameters of the Command Line

What `xb` makes of the arguments that its own parser does not know.

An argument is `--p1...pn=v`. It is cut at the equals sign into two parts,
which fails when the value has an equals sign as well. The hyphens are taken
out of the first part, those in front and those inside of a name alike, and
what is left is cut at the dots.

So an argument means what it says when it has one equals sign and the names
have no hyphen. `TakesEffect` is what it says: the path leads to the value, and
no other path is led elsewhere.

## Main definitions

* `Mapping`: Parameters, by the path that leads to them.
* `helperSplitter`: The mapping of one argument.
* `parseUnknown`: The mapping of all arguments.
* `ParameterPath`: The names of a parameter.
* `IllFormed`: An argument that is none of a parameter.
* `TakesEffect`: An argument at the end means what it says.
* `extraImplParams`: The dictionary that the commands get.
* `MeansIt`: It does, and arguments that are none are rejected.

## Theorems

* `parseArg_argument`: What becomes of an argument.
* `parseFrom_hyphenless`: No name of a parameter has a hyphen.
* `rejectedFrom_of_illFormed`: Arguments that are none are rejected.
* `meansIt_iff`: When arguments mean what they say.
-/

namespace Xbench

open Text

/-- Parameters, by the path that leads to them. -/
abbrev Mapping (σ : Type) := List (String × Nested String σ)

section Parse

variable {σ : Type} (internalEval : String → σ)

/-- `helper_splitter`, on the parts at the separator. -/
def helperSplitter (val : String) : List String → Mapping σ
  | [] => []
  | [k] => [(k, .leaf (internalEval val))]
  | k :: ks => [(k, .node (helperSplitter val ks))]

def notOfTheForm (arg : String) : Exn :=
  ⟨.xbench, "Additional parameter: " ++ arg ++ " must be in the form --component.param=value"⟩

/-- One round of the loop; `extender` is a merge. -/
def parseArg (extraImplParams : Mapping σ) (arg : String) : Except Exn (Mapping σ) :=
  if StartsWith arg "-" then
    match split '=' arg with
    | [k, v] =>
        .ok (Nested.merge extraImplParams
          (helperSplitter internalEval v (split '.' (without '-' k))))
    | _ => .error (notOfTheForm arg)
  else .error (notOfTheForm arg)

/-- `parse_unknown`. -/
def parseUnknown (unknown : List String) : Except Exn (Mapping σ) :=
  unknown.foldlM (parseArg internalEval) []

end Parse

/-- The names of a parameter, which are cut at dots and end at an equals
    sign. -/
structure ParameterPath where
  first : String
  rest : List String
  plain : ∀ name ∈ first :: rest, '.' ∉ name.toList ∧ '=' ∉ name.toList

namespace ParameterPath

variable (p : ParameterPath)

def names : List String :=
  p.first :: p.rest

/-- `--p1...pn=v`. -/
def argument (v : String) : String :=
  "--" ++ join '.' p.names ++ "=" ++ v

end ParameterPath

/-- An argument that is none of a parameter. -/
def IllFormed (arg : String) : Prop :=
  ¬ StartsWith arg "-" ∨ '=' ∉ arg.toList

namespace ParameterPath

variable (p : ParameterPath)

theorem names_ne_nil : p.names ≠ [] :=
  List.cons_ne_nil _ _

/-- What stands before the equals sign. -/
theorem toList_argument (v : String) :
    (p.argument v).toList = ("--" ++ join '.' p.names).toList ++ '=' :: v.toList := by
  rw [argument, String.toList_append, String.toList_append, List.append_assoc]
  rfl

theorem startsWith_argument (v : String) : StartsWith (p.argument v) "-" := by
  rw [StartsWith, toList_argument, String.toList_append, List.append_assoc]
  exact ⟨'-' :: ((join '.' p.names).toList ++ '=' :: v.toList), rfl⟩

theorem equals_notMem : '=' ∉ ("--" ++ join '.' p.names).toList := by
  rw [String.toList_append, List.mem_append, not_or]
  refine ⟨by decide, fun h => ?_⟩
  rcases mem_join '.' '=' p.names h with hdot | ⟨name, hname, hmem⟩
  · exact absurd hdot (by decide)
  · exact (p.plain name hname).2 hmem

/-- The names that are left when the hyphens are taken out. -/
theorem split_names :
    split '.' (without '-' ("--" ++ join '.' p.names)) = p.names.map (without '-') := by
  have hdashes : without '-' "--" = "" := rfl
  rw [without_append, hdashes, String.empty_append, without_join '-' '.' (by decide)]
  refine split_join '.' _ ?_ (fun name hname => ?_)
  · rw [ne_eq, List.map_eq_nil_iff]
    exact p.names_ne_nil
  · rcases List.mem_map.mp hname with ⟨name, hmem, rfl⟩
    exact fun hdot => (p.plain name hmem).1 (mem_without '-' '.' name hdot)

end ParameterPath

section Meaning

variable {σ : Type} (internalEval : String → σ)

theorem helperSplitter_cons (val k : String) (ks : List String) :
    helperSplitter internalEval val (k :: ks)
      = [(k, Nested.single ks (internalEval val))] := by
  induction ks generalizing k with
  | nil => rfl
  | cons j ks ih =>
      rw [helperSplitter, ih j, Nested.single]
      exact List.cons_ne_nil j ks

/-- What becomes of an argument: its value is put under the names that are left
    of the path. -/
theorem parseArg_argument (base : Mapping σ) (p : ParameterPath) (v : String)
    (hv : '=' ∉ v.toList) :
    parseArg internalEval base (p.argument v)
      = .ok (Nested.put base (without '-' p.first) (p.rest.map (without '-'))
          (internalEval v)) := by
  have hsplit : split '=' (p.argument v) = ["--" ++ join '.' p.names, v] := by
    rw [split_first '=' _ _ v (p.toList_argument v) p.equals_notMem, split_of_notMem '=' v hv]
  rw [parseArg, if_pos (p.startsWith_argument v), hsplit]
  dsimp only
  rw [p.split_names, ParameterPath.names, List.map_cons, helperSplitter_cons]
  rfl

/-- A second equals sign is one too many. -/
theorem parseArg_equals (base : Mapping σ) (p : ParameterPath) (v : String)
    (hv : '=' ∈ v.toList) :
    parseArg internalEval base (p.argument v) = .error (notOfTheForm (p.argument v)) := by
  rcases split_of_mem '=' v hv with ⟨a, b, rest, hsplit⟩
  rw [parseArg, if_pos (p.startsWith_argument v),
    split_first '=' _ _ v (p.toList_argument v) p.equals_notMem, hsplit]

theorem parseArg_illFormed (base : Mapping σ) (arg : String) (h : IllFormed arg) :
    parseArg internalEval base arg = .error (notOfTheForm arg) := by
  unfold parseArg
  by_cases hstart : StartsWith arg "-"
  · have hequals : '=' ∉ arg.toList := h.resolve_left (not_not_intro hstart)
    rw [if_pos hstart, split_of_notMem '=' arg hequals]
  · rw [if_neg hstart]

theorem parseArg_error (base : Mapping σ) (arg : String) (e : Exn)
    (h : parseArg internalEval base arg = .error e) : e = notOfTheForm arg := by
  unfold parseArg at h
  by_cases hstart : StartsWith arg "-"
  · rw [if_pos hstart] at h
    split at h
    · exact nomatch h
    · exact (Except.error.inj h).symm
  · rw [if_neg hstart] at h
    exact (Except.error.inj h).symm

/-- Every argument that is taken is one leaf more, under names that have no
    hyphen. -/
theorem parseArg_ok (base base' : Mapping σ) (arg : String)
    (h : parseArg internalEval base arg = .ok base') :
    ∃ k ks v, base' = Nested.put base k ks (internalEval v)
      ∧ ∀ name ∈ k :: ks, '-' ∉ name.toList := by
  unfold parseArg at h
  by_cases hstart : StartsWith arg "-"
  · rw [if_pos hstart] at h
    split at h
    · rename_i k v hsplit
      have hnames : ∀ name ∈ split '.' (without '-' k), '-' ∉ name.toList :=
        fun name hname hmem => without_notMem '-' k (mem_split '.' '-' _ name hname hmem)
      cases hparts : split '.' (without '-' k) with
      | nil => exact absurd hparts (split_ne_nil '.' _)
      | cons first rest =>
          rw [hparts] at h hnames
          rw [helperSplitter_cons] at h
          exact ⟨first, rest, v, (Except.ok.inj h).symm, hnames⟩
    · exact nomatch h
  · rw [if_neg hstart] at h
    exact nomatch h

/-- No name of a parameter has a hyphen. -/
def Hyphenless (m : Mapping σ) : Prop :=
  (Nested.node m).Keyed (fun name => '-' ∉ name.toList)

theorem hyphenless_nil : Hyphenless ([] : Mapping σ) := by
  intro q x hx name hname
  cases q with
  | nil => exact absurd hname List.not_mem_nil
  | cons k q => exact nomatch hx

/-- One round of the loop. -/
theorem parseArg_hyphenless (base base' : Mapping σ) (arg : String) (hbase : Hyphenless base)
    (h : parseArg internalEval base arg = .ok base') : Hyphenless base' := by
  rcases parseArg_ok internalEval base base' arg h with ⟨k, ks, v, rfl, hnames⟩
  exact Nested.keyed_of_overwritten _ _ _ _ _
    (Nested.overwritten_put base k ks (internalEval v)) hbase hnames

/-- All rounds. -/
theorem parseFrom_hyphenless (base base' : Mapping σ) (unknown : List String)
    (hbase : Hyphenless base) (h : unknown.foldlM (parseArg internalEval) base = .ok base') :
    Hyphenless base' := by
  induction unknown generalizing base with
  | nil =>
      rw [← Except.ok.inj h]
      exact hbase
  | cons arg unknown ih =>
      rw [List.foldlM_cons] at h
      rcases except_bind_eq_ok _ _ _ h with ⟨mid, hmid, hrest⟩
      exact ih mid (parseArg_hyphenless internalEval base mid arg hbase hmid) hrest

/-- An argument that is none of a parameter is rejected, or one before it. -/
theorem rejectedFrom_of_illFormed (base : Mapping σ) (unknown : List String)
    (h : ∃ arg ∈ unknown, IllFormed arg) :
    ∃ arg ∈ unknown, unknown.foldlM (parseArg internalEval) base = .error (notOfTheForm arg) := by
  induction unknown generalizing base with
  | nil =>
      rcases h with ⟨arg, harg, _⟩
      exact absurd harg List.not_mem_nil
  | cons first unknown ih =>
      rw [List.foldlM_cons]
      cases hfirst : parseArg internalEval base first with
      | error e =>
          refine ⟨first, List.mem_cons_self, ?_⟩
          rw [parseArg_error internalEval base first e hfirst]
          rfl
      | ok mid =>
          have hrest : ∃ arg ∈ unknown, IllFormed arg := by
            rcases h with ⟨arg, harg, hill⟩
            rcases List.mem_cons.mp harg with rfl | harg
            · rw [parseArg_illFormed internalEval base arg hill] at hfirst
              exact nomatch hfirst
            · exact ⟨arg, harg, hill⟩
          rcases ih mid hrest with ⟨arg, harg, herror⟩
          exact ⟨arg, List.mem_cons_of_mem _ harg, herror⟩

/-- The argument at the end means what it says. -/
def TakesEffect (unknown : List String) (base : Mapping σ) (p : ParameterPath) (v : String) :
    Prop :=
  ∃ result, parseUnknown internalEval (unknown ++ [p.argument v]) = .ok result
    ∧ Nested.Overwritten (.node base) (.node result) p.names (internalEval v)

/-- It does, and arguments that are none of parameters are rejected. -/
structure MeansIt (unknown : List String) (base : Mapping σ) (p : ParameterPath) (v : String) :
    Prop where
  takesEffect : TakesEffect internalEval unknown base p v
  rejected : ∀ bad : List String, (∃ arg ∈ bad, IllFormed arg) →
    ∃ arg ∈ bad, parseUnknown internalEval bad = .error (notOfTheForm arg)

/-- When arguments mean what they say. -/
theorem meansIt_iff (unknown : List String) (base : Mapping σ)
    (h : parseUnknown internalEval unknown = .ok base) (p : ParameterPath) (v : String) :
    MeansIt internalEval unknown base p v
      ↔ '=' ∉ v.toList ∧ ∀ name ∈ p.names, '-' ∉ name.toList := by
  have hlast : parseUnknown internalEval (unknown ++ [p.argument v])
      = parseArg internalEval base (p.argument v) := by
    have hgo : ∀ f : Mapping σ → Except Exn (Mapping σ), (Except.ok base >>= f) = f base :=
      fun _ => rfl
    unfold parseUnknown at h ⊢
    rw [List.foldlM_append, h, hgo, List.foldlM_cons]
    exact bind_pure _
  have hput := Nested.overwritten_put base (without '-' p.first) (p.rest.map (without '-'))
    (internalEval v)
  constructor
  · rintro ⟨⟨result, hresult, heffect⟩, _⟩
    rw [hlast] at hresult
    by_cases hv : '=' ∈ v.toList
    · rw [parseArg_equals internalEval base p v hv] at hresult
      exact nomatch hresult
    · refine ⟨hv, fun name hname => ?_⟩
      -- the path leads to the value, and the keys of the result have no hyphen
      have hbase := parseFrom_hyphenless internalEval [] base unknown hyphenless_nil h
      exact parseArg_hyphenless internalEval base result _ hbase hresult p.names _ heffect.here
        name hname
  · rintro ⟨hv, hnames⟩
    refine ⟨⟨_, hlast.trans (parseArg_argument internalEval base p v hv), ?_⟩,
      fun bad hbad => rejectedFrom_of_illFormed internalEval [] bad hbad⟩
    have hsame : without '-' p.first :: p.rest.map (without '-') = p.names := by
      rw [← List.map_cons (f := without '-')]
      refine (List.map_congr_left (fun name hname => ?_)).trans (List.map_id _)
      exact without_of_notMem '-' name (hnames name hname)
    rw [hsame] at hput
    exact hput

end Meaning

section Values

mutual

/-- Parameters as a value. -/
def nestedValue : Nested String Value → Value
  | .leaf v => v
  | .node entries => .dict (nestedEntries entries)

def nestedEntries : Mapping Value → List (String × Value)
  | [] => []
  | (k, t) :: rest => (k, nestedValue t) :: nestedEntries rest

end

/-- The dictionary that the commands get. -/
def extraImplParams (m : Mapping Value) : Dict String Value :=
  Dict.ofList (nestedEntries m)

end Values

section Misread

/-- Values that are taken as they are. -/
def asText (v : String) : Value :=
  .str v

/-- A path of the second backend of a comparison. -/
def backendA : ParameterPath :=
  ⟨"backend-a", ["version"], by decide⟩

def driverOptions : ParameterPath :=
  ⟨"driver", ["options"], by decide⟩

/-- A single argument. -/
theorem parse_argument (p : ParameterPath) (v : String) (hv : '=' ∉ v.toList) :
    parseUnknown asText [p.argument v]
      = .ok (Nested.put [] (without '-' p.first) (p.rest.map (without '-')) (.str v)) := by
  rw [parseUnknown, List.foldlM_cons, parseArg_argument asText [] p v hv]
  rfl

/-- `--driver.options=fast` after `--driver.options=slow`. -/
theorem driver_options_meant :
    MeansIt asText [driverOptions.argument "slow"]
      [("driver", .node [("options", .leaf (.str "slow"))])] driverOptions "fast" :=
  (meansIt_iff asText _ _ (parse_argument driverOptions "slow" (by decide)) driverOptions
    "fast").mpr (by decide)

/-- The hyphen of a component is lost, and a value with an equals sign is
    rejected. -/
theorem hyphen_and_equals_misread :
    backendA.argument "8" = "--backend-a.version=8"
      ∧ parseUnknown asText ["--backend-a.version=8"]
        = .ok [("backenda", .node [("version", .leaf (.str "8"))])]
      ∧ ¬ MeansIt asText [] [] backendA "8"
      ∧ driverOptions.argument "a=b" = "--driver.options=a=b"
      ∧ parseUnknown asText ["--driver.options=a=b"]
        = .error (notOfTheForm "--driver.options=a=b")
      ∧ ¬ MeansIt asText [] [] driverOptions "a=b" := by
  have hhyphen : parseUnknown asText [backendA.argument "8"]
      = .ok [("backenda", .node [("version", .leaf (.str "8"))])] :=
    parse_argument backendA "8" (by decide)
  have hequals : parseUnknown asText [driverOptions.argument "a=b"]
      = .error (notOfTheForm (driverOptions.argument "a=b")) := by
    rw [parseUnknown, List.foldlM_cons, parseArg_equals asText [] driverOptions "a=b" (by decide)]
    rfl
  refine ⟨rfl, hhyphen, fun h => ?_, rfl, hequals, fun h => ?_⟩
  · rcases h.takesEffect with ⟨result, hresult, heffect⟩
    have hsame := Except.ok.inj (hhyphen.symm.trans hresult)
    have hnone := heffect.here
    rw [← hsame] at hnone
    exact nomatch hnone
  · rcases h.takesEffect with ⟨result, hresult, _⟩
    exact nomatch hequals.symm.trans hresult

end Misread

end Xbench
