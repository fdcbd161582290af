import Mathlib.Data.List.Basic

/-!
# Mounted Devices

A machine as what is mounted on it, and scripts that mount and unmount. A later
mount at a directory hides an earlier one, and unmounting takes the last away.
Unmounting a directory that is no mount point fails, and a script ends with the
first line that does.

## Main definitions

* `Mount`: A device at a directory.
* `IsMountPoint`: Something is mounted at a directory.
* `unmounted`: What is left when the last mount at a directory is taken away.
* `Line`: A line of a script.
* `runScript`: A script.

## Theorems

* `mem_of_mem_unmounted`: Unmounting mounts nothing.
* `unmounted_gone_iff`: Nothing is left when there was one mount.
* `runScript_quiet`: A script that mounts nothing.
-/

namespace Xbench

namespace Mounts

/-- A device at a directory. -/
structure Mount where
  device : String
  directory : String
deriving DecidableEq

/-- Something is mounted at the directory. -/
def IsMountPoint (directory : String) (ms : List Mount) : Prop :=
  ∃ m ∈ ms, m.directory = directory

instance (directory : String) (ms : List Mount) : Decidable (IsMountPoint directory ms) :=
  inferInstanceAs (Decidable (∃ m ∈ ms, m.directory = directory))

/-- The last mount at the directory, which is the first in the list, is gone. -/
def unmounted (directory : String) : List Mount → List Mount
  | [] => []
  | m :: ms => if m.directory = directory then ms else m :: unmounted directory ms

/-- The mounts at a directory. -/
def mountsAt (directory : String) (ms : List Mount) : List Mount :=
  ms.filter (fun m => m.directory == directory)

/-- A line of a script; some do not touch what is mounted. -/
inductive Line where
  | mount (device directory : String)
  | umount (directory : String)
  | umountIfMounted (directory : String)
  | other (text : String)
deriving DecidableEq

def Line.text : Line → String
  | .mount device directory => "mount " ++ device ++ " " ++ directory
  | .umount directory => "umount -f " ++ directory
  | .umountIfMounted directory =>
      "! mountpoint -q " ++ directory ++ " || umount -f " ++ directory
  | .other text => text

/-- What a line does when it works; `none` if it cannot. -/
def Line.run : Line → List Mount → Option (List Mount)
  | .mount device directory, ms => some (⟨device, directory⟩ :: ms)
  | .umount directory, ms =>
      if IsMountPoint directory ms then some (unmounted directory ms) else none
  | .umountIfMounted directory, ms => some (unmounted directory ms)
  | .other _, ms => some ms

/-- A line that may not work for another reason, which is given. -/
def Line.attempt (works : String → Bool) (line : Line) (ms : List Mount) : Option (List Mount) :=
  if works line.text then line.run ms else none

/-- A script under `set -e`: the line it ends with, if one fails, and what is
    mounted then. -/
def runScript (works : String → Bool) : List Line → List Mount → Option String × List Mount
  | [], ms => (none, ms)
  | line :: rest, ms =>
      match line.attempt works ms with
      | some ms' => runScript works rest ms'
      | none => (some line.text, ms)

section Unmounting

variable (directory : String) (ms : List Mount)

/-- Unmounting mounts nothing. -/
theorem mem_of_mem_unmounted (m : Mount) (h : m ∈ unmounted directory ms) : m ∈ ms := by
  induction ms with
  | nil => exact h
  | cons a ms ih =>
      rw [unmounted] at h
      by_cases ha : a.directory = directory
      · rw [if_pos ha] at h
        exact List.mem_cons_of_mem a h
      · rw [if_neg ha] at h
        rcases List.mem_cons.mp h with rfl | h
        · exact List.mem_cons_self
        · exact List.mem_cons_of_mem a (ih h)

theorem mountsAt_eq_nil_iff : mountsAt directory ms = [] ↔ ¬ IsMountPoint directory ms := by
  rw [mountsAt, List.filter_eq_nil_iff, IsMountPoint]
  simp only [beq_iff_eq, not_exists, not_and]

/-- One mount less at the directory. -/
theorem length_mountsAt_unmounted :
    (mountsAt directory (unmounted directory ms)).length
      = (mountsAt directory ms).length - 1 := by
  induction ms with
  | nil => rfl
  | cons m ms ih =>
      rw [unmounted]
      by_cases hm : m.directory = directory
      · have hkeep : (m.directory == directory) = true := beq_iff_eq.mpr hm
        rw [if_pos hm, mountsAt, mountsAt, List.filter_cons, if_pos hkeep, List.length_cons]
        rfl
      · have hskip : ¬ (m.directory == directory) = true := fun h => hm (beq_iff_eq.mp h)
        rw [if_neg hm, mountsAt, mountsAt, List.filter_cons, List.filter_cons,
          if_neg hskip, if_neg hskip]
        exact ih

/-- Nothing is left at a mount point when there was one mount. -/
theorem unmounted_gone_iff (h : IsMountPoint directory ms) :
    mountsAt directory (unmounted directory ms) = [] ↔ (mountsAt directory ms).length = 1 := by
  have hlength := length_mountsAt_unmounted directory ms
  have hpos : (mountsAt directory ms).length ≠ 0 := by
    rw [ne_eq, List.length_eq_zero_iff, mountsAt_eq_nil_iff, not_not]
    exact h
  rw [← List.length_eq_zero_iff, hlength]
  omega

end Unmounting

section Scripts

variable (works : String → Bool) (ms : List Mount)

/-- A script that mounts nothing leaves the mounts alone, and ends when all its
    lines work. -/
theorem runScript_quiet (texts : List String) :
    (runScript works (texts.map Line.other) ms).2 = ms
      ∧ ((runScript works (texts.map Line.other) ms).1 = none ↔
        ∀ text ∈ texts, works text = true) := by
  induction texts with
  | nil => exact ⟨rfl, fun _ text h => absurd h List.not_mem_nil, fun _ => rfl⟩
  | cons text texts ih =>
      have hattempt : (Line.other text).attempt works ms
          = if works text = true then some ms else none := rfl
      rw [List.map_cons, runScript, hattempt, List.forall_mem_cons]
      by_cases hworks : works text = true
      · rw [if_pos hworks]
        refine ⟨ih.1, ih.2.trans ?_⟩
        exact ⟨fun h => ⟨hworks, h⟩, fun h => h.2⟩
      · rw [if_neg hworks]
        refine ⟨rfl, ?_⟩
        constructor
        · intro h
          cases h
        · exact fun h => absurd h.1 hworks

end Scripts

end Mounts

end Xbench
