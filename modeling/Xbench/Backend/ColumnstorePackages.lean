import Xbench.Config.Value
import Xbench.Lib.Effect

/-!
# Packages of Columnstore

Where the packages of a build are. A build is the latest, or one of a kind with
its number behind a separator, and the path has a part for it.

The number of the tokens of a build is compared before it is taken: what `len`
gets is the outcome of a comparison, which has no length. So nothing but the
latest build has a path, and what is raised for the others is not what the
installers catch.

A separator occurs in one of the kinds too. A build of a pull request has three
tokens.

## Main definitions

* `splitBuildTokens`: `split_build_tokens`.
* `getBuildSubpath`: `get_build_subpath`.
* `DroneBuild`: The grammar of the builds that are not the latest.
* `ParsesBuild`: A build is parsed by the grammar.
* `getEngineDroneBuildBucket`: Where the engine is.
* `getCmapiBuildBucket`: Where the interface of the cluster is.

## Theorems

* `splitBuildTokens_pullRequest`: The tokens of a pull request.
* `getBuildSubpath_eq`: What becomes of a build.
* `engineBucket_latest`: Only the latest build has a place.
* `parsesBuild_iff`: Which builds are parsed by the grammar.
-/

namespace Xbench

/-- The class `[-:_]`. -/
def separatorChar (c : Char) : Bool :=
  c == '-' || c == ':' || c == '_'

/-- `split_build_tokens`. -/
def splitBuildTokens (build : String) : List String :=
  (build.toList.splitOnP separatorChar).map String.ofList

/-- Python's `len(..)`. -/
def pyLen : Value → Except Exn Int
  | .str s => .ok s.length
  | .list items => .ok items.length
  | .dict entries => .ok entries.length
  | .bool _ => .error ⟨.typeError, "object of type 'bool' has no len()"⟩
  | .int _ => .error ⟨.typeError, "object of type 'int' has no len()"⟩
  | .none => .error ⟨.typeError, "object of type 'NoneType' has no len()"⟩

/-- Python's `v != n` for a number. -/
def differs : Value → Int → Bool
  | .int m, n => m != n
  | .bool b, n => (if b then 1 else 0) != n
  | _, _ => true

/-- `tokens[i]`. -/
def tokenAt (tokens : List String) (i : Nat) : Except Exn String :=
  match tokens[i]? with
  | some token => .ok token
  | none => .error ⟨.indexError, "list index out of range"⟩

def droneKinds : List String := ["pull_request", "cron", "custom"]

def wrongBuild : Exn :=
  ⟨.columnstore, "Wrong build set for drone: \x7bbuild\x7d"⟩

section Subpath

variable (numeric : Char → Bool)

/-- The test on the tokens, from left to right; `numeric` is the property of
    Unicode that `isnumeric` goes by. -/
def wrongTokens (tokens : List String) : Except Exn Bool := do
  let length ← pyLen (.bool (differs (.list (tokens.map Value.str)) 2))
  if length ≠ 0 then .ok true
  else
    let number ← tokenAt tokens 1
    if number = "" ∨ ¬ number.toList.all numeric then .ok true
    else
      let kind ← tokenAt tokens 0
      .ok (decide (kind ∉ droneKinds))

/-- `get_build_subpath`. -/
def getBuildSubpath (build : String) : Except Exn String :=
  if build = "latest" then .ok build
  else do
    let tokens := splitBuildTokens build
    let wrong ← wrongTokens numeric tokens
    if wrong then .error wrongBuild
    else
      let kind ← tokenAt tokens 0
      let number ← tokenAt tokens 1
      .ok (kind ++ "/" ++ number)

def osMapping : Dict String String := Dict.ofList [("Rocky8", "rockylinux8")]

def archMapping : Dict String String :=
  Dict.ofList [("aarch64", "arm64"), ("x86_64", "amd64")]

/-- `mapping[key]`. -/
def mapped (mapping : Dict String String) (key : String) : Except Exn String :=
  match mapping.get? key with
  | some branch => .ok branch
  | none => .error ⟨.keyError, key⟩

/-- `get_engine_drone_build_bucket`. -/
def getEngineDroneBuildBucket (branch arch os serverVersion build : String) :
    Except Exn String := do
  let osBranch ← mapped osMapping os
  let archBranch ← mapped archMapping arch
  let subpath ← getBuildSubpath numeric build
  .ok ("s3://cspkg/" ++ branch ++ "/" ++ subpath ++ "/" ++ serverVersion ++ "/" ++ archBranch
    ++ "/" ++ osBranch)

/-- `get_cmapi_build_bucket`; the branch is not used. -/
def getCmapiBuildBucket (_branch arch build : String) : Except Exn String := do
  let archBranch ← mapped archMapping arch
  let subpath ← getBuildSubpath numeric build
  .ok ("s3://cspkg/cmapi/develop/" ++ subpath ++ "/" ++ archBranch ++ "/")

end Subpath

/-- A build of a kind with its number, and the part of the path for it. -/
def DroneBuild (build subpath : String) : Prop :=
  ∃ kind ∈ droneKinds, ∃ sep number, separatorChar sep = true ∧ number ≠ []
    ∧ (∀ c ∈ number, c.isDigit = true) ∧ build.toList = kind.toList ++ sep :: number
    ∧ subpath.toList = kind.toList ++ '/' :: number

/-- A build is parsed by its grammar, and refused with the one exception. -/
structure ParsesBuild (build : String) (result : Except Exn String) : Prop where
  latest : build = "latest" → result = .ok "latest"
  drone : ∀ subpath, DroneBuild build subpath → result = .ok subpath
  other : build ≠ "latest" → (∀ subpath, ¬ DroneBuild build subpath) →
    ∃ e, result = .error e ∧ e.klass = .columnstore

section Parsing

variable (numeric : Char → Bool)

/-- A pull request has three tokens, since its kind is cut as well. -/
theorem splitBuildTokens_pullRequest (build : String) (sep : Char) (number : List Char)
    (hsep : separatorChar sep = true) (hnumber : ∀ c ∈ number, c.isDigit = true)
    (hbuild : build.toList = "pull_request".toList ++ sep :: number) :
    splitBuildTokens build = ["pull", "request", String.ofList number] := by
  have hplain : ∀ c ∈ number, separatorChar c = false := by
    intro c hc
    have hdigit := hnumber c hc
    rw [separatorChar, Bool.or_eq_false_iff, Bool.or_eq_false_iff, beq_eq_false_iff_ne,
      beq_eq_false_iff_ne, beq_eq_false_iff_ne]
    refine ⟨⟨?_, ?_⟩, ?_⟩ <;> rintro rfl <;> exact absurd hdigit (by decide)
  have hword : ∀ l : List Char, l.all (fun c => !separatorChar c) = true →
      ∀ c ∈ l, separatorChar c = false :=
    fun l hl c hc => (Bool.not_eq_true' _).mp (List.all_eq_true.mp hl c hc)
  have hkind : "pull_request".toList ++ sep :: number
      = "pull".toList ++ '_' :: ("request".toList ++ sep :: number) := rfl
  rw [splitBuildTokens, hbuild, hkind,
    List.splitOnP_append_cons_of_forall_mem (hword "pull".toList (by decide)) '_' rfl,
    List.splitOnP_append_cons_of_forall_mem (hword "request".toList (by decide)) sep hsep,
    List.splitOnP_eq_singleton hplain]
  rfl

/-- What becomes of a build: the latest is taken, and `len` fails for the others. -/
theorem getBuildSubpath_eq (build : String) :
    getBuildSubpath numeric build
      = if build = "latest" then .ok "latest"
        else .error ⟨.typeError, "object of type 'bool' has no len()"⟩ := by
  unfold getBuildSubpath
  by_cases h : build = "latest"
  · rw [if_pos h, if_pos h, h]
  · rw [if_neg h, if_neg h]
    rfl

/-- Only the latest build has a place. -/
theorem engineBucket_latest (branch arch os serverVersion build bucket : String)
    (h : getEngineDroneBuildBucket numeric branch arch os serverVersion build = .ok bucket) :
    build = "latest" := by
  unfold getEngineDroneBuildBucket at h
  rcases except_bind_eq_ok _ _ _ h with ⟨_, _, h⟩
  rcases except_bind_eq_ok _ _ _ h with ⟨_, _, h⟩
  rcases except_bind_eq_ok _ _ _ h with ⟨subpath, hsubpath, _⟩
  rw [getBuildSubpath_eq] at hsubpath
  by_contra hother
  rw [if_neg hother] at hsubpath
  cases hsubpath

/-- The latest build is none of a kind. -/
theorem not_droneBuild_latest (subpath : String) : ¬ DroneBuild "latest" subpath := by
  rintro ⟨kind, hkind, sep, number, _, _, _, hbuild, _⟩
  have hlatest : "latest".toList = ['l', 'a', 't', 'e', 's', 't'] := rfl
  rw [hlatest] at hbuild
  simp only [droneKinds, List.mem_cons, List.not_mem_nil, or_false] at hkind
  rcases hkind with rfl | rfl | rfl <;> cases hbuild

/-- The latest build is parsed by the grammar, and no other. -/
theorem parsesBuild_iff (build : String) :
    ParsesBuild build (getBuildSubpath numeric build) ↔ build = "latest" := by
  rw [getBuildSubpath_eq]
  constructor
  · intro h
    by_contra hother
    rw [if_neg hother] at h
    by_cases hdrone : ∃ subpath, DroneBuild build subpath
    · rcases hdrone with ⟨subpath, hsubpath⟩
      cases h.drone subpath hsubpath
    · rcases h.other hother (fun subpath hsubpath => hdrone ⟨subpath, hsubpath⟩) with
        ⟨e, he, hclass⟩
      rw [← Except.error.inj he] at hclass
      cases hclass
  · rintro rfl
    rw [if_pos rfl]
    refine ⟨fun _ => rfl, fun subpath hsubpath => ?_, fun hne => absurd rfl hne⟩
    exact absurd hsubpath (not_droneBuild_latest subpath)

/-- A build that runs by the clock. -/
theorem cron_fails :
    ¬ ∀ (numeric : Char → Bool) (build : String),
      ParsesBuild build (getBuildSubpath numeric build) := by
  intro hall
  have hdigits : ['1', '2'].all Char.isDigit = true := by decide
  have hdrone : DroneBuild "cron-12" "cron/12" :=
    ⟨"cron", by decide, '-', ['1', '2'], rfl, List.cons_ne_nil _ _, List.all_eq_true.mp hdigits,
      rfl, rfl⟩
  have hpath := (hall Char.isDigit "cron-12").drone _ hdrone
  have herror : getBuildSubpath Char.isDigit "cron-12"
      = .error ⟨.typeError, "object of type 'bool' has no len()"⟩ := rfl
  rw [herror] at hpath
  cases hpath

end Parsing

end Xbench
