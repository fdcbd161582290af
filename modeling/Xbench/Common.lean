import Xbench.Lib.Text

/-!
# Names

The grammar of cluster names and the host names of an inventory. A name that
is part of a line of text must not hold a newline, and both kinds are
structures that carry that fact, so nothing that reads or writes such lines
needs to ask for it again.

The pattern for cluster names is the one `xb` checks its `--cluster` argument
with: a lower-case letter, then up to sixty-one letters, digits and hyphens,
and a letter or a digit at the end.

## Main definitions

* `nameChar`: The class `[-a-z0-9]`.
* `matchesRfc1035`: The pattern, on the characters of a name.
* `validateNameRfc1035`: The check of a name.
* `ClusterName`: A name the pattern accepts.
* `HostName`: A host of the inventory.

## Theorems

* `nameChar_of_valid`: The characters of a valid name.
* `newline_notMem_of_matches`: An accepted name is one line.
-/

namespace Xbench

/-- The class `[a-z]`. -/
def lowerChar (c : Char) : Bool :=
  'a' ≤ c && c ≤ 'z'

/-- The class `[a-z0-9]`. -/
def alnumChar (c : Char) : Bool :=
  lowerChar c || c.isDigit

/-- The class `[-a-z0-9]`. -/
def nameChar (c : Char) : Bool :=
  c == '-' || alnumChar c

/-- The pattern `[a-z](?:[-a-z0-9]{0,61}[a-z0-9])?`. -/
def matchesRfc1035 : List Char → Bool
  | [] => false
  | c :: cs =>
      lowerChar c
        && (cs.isEmpty
          || (cs.length ≤ 62 && cs.all nameChar && cs.getLast?.any alnumChar))

/-- `validate_name_rfc1035`: the end of the pattern is also before a newline at
    the end of the name. -/
def validateNameRfc1035 (name : String) : Bool :=
  matchesRfc1035 name.toList
    || (name.toList.getLast? == some '\n' && matchesRfc1035 name.toList.dropLast)

/-- An accepted name has the characters of the class. -/
theorem nameChar_of_matches (cs : List Char) (h : matchesRfc1035 cs = true) (x : Char)
    (hx : x ∈ cs) : nameChar x = true := by
  cases cs with
  | nil => exact absurd hx List.not_mem_nil
  | cons c cs =>
      rw [matchesRfc1035, Bool.and_eq_true, Bool.or_eq_true, Bool.and_eq_true,
        Bool.and_eq_true] at h
      rcases List.mem_cons.mp hx with hc | hcs
      · rw [hc, nameChar, alnumChar, h.1]
        exact Bool.or_true _
      · rcases h.2 with hnil | ⟨⟨_, hall⟩, _⟩
        · rw [List.isEmpty_iff.mp hnil] at hcs
          exact absurd hcs List.not_mem_nil
        · exact List.all_eq_true.mp hall x hcs

theorem newline_notMem_of_matches (cs : List Char) (h : matchesRfc1035 cs = true) :
    '\n' ∉ cs :=
  fun hmem => absurd (nameChar_of_matches cs h '\n' hmem) (by decide)

/-- A valid name has the characters of the class, and maybe a newline. -/
theorem nameChar_of_valid (name : String) (h : validateNameRfc1035 name = true) (x : Char)
    (hx : x ∈ name.toList) : nameChar x = true ∨ x = '\n' := by
  rw [validateNameRfc1035, Bool.or_eq_true, Bool.and_eq_true, beq_iff_eq] at h
  rcases h with hmatch | ⟨hlast, hmatch⟩
  · exact Or.inl (nameChar_of_matches _ hmatch x hx)
  · rw [← List.dropLast_append_getLast? '\n' hlast] at hx
    rcases List.mem_append.mp hx with hfront | hend
    · exact Or.inl (nameChar_of_matches _ hmatch x hfront)
    · exact Or.inr (List.mem_singleton.mp hend)

/-- A cluster name the pattern accepts. -/
structure ClusterName where
  text : String
  valid : matchesRfc1035 text.toList = true
deriving DecidableEq

theorem ClusterName.newline_notMem (c : ClusterName) : '\n' ∉ c.text.toList :=
  newline_notMem_of_matches c.text.toList c.valid

/-- A host of the inventory: a name on one line. -/
structure HostName where
  text : String
  line : '\n' ∉ text.toList
deriving DecidableEq

end Xbench
