import Mathlib.Data.List.Basic
import Mathlib.Data.List.DropRight
import Mathlib.Data.List.Infix

/-!
# Text

The string operations a configuration tool leans on: the substring and prefix
tests, splitting and joining on one character, reading a text back line by
line, and numbering a name.

Every operation is stated on `String` and proved on its list of characters.
The three formats built from them have one round trip each. Joining parts that
do not hold the separator and splitting again gives the parts; writing lines
that hold no newline and reading them back gives the lines; and a numbered
name determines both the name and the number, because decimal digits hold no
hyphen.

The substring test has no such property, and nothing here pretends it does: a
line holds every one of its infixes.

## Main definitions

* `Within`: One string occurs somewhere in another.
* `StartsWith`: One string is a prefix of another.
* `split`: Cutting a string at every occurrence of a character.
* `join`: Putting a character between parts.
* `without`: A string without a character.
* `afterPrefix`: What follows a prefix.
* `replaceAll`: One string for another.
* `splitAll`: Cutting a string at every occurrence of another.
* `replace`: One character for another.
* `lineList`: Cutting characters after every newline.
* `readlines`: The lines of a text, each with its newline.
* `writelines`: The text made of lines.
* `numbered`: A name with a number behind a hyphen.
* `splitlines`: The lines of a text, without their ends.
* `strip`: A text without the space around it.
* `universalNewlines`: A text file as it is read.

## Theorems

* `within_append`: A string holds its middle part.
* `within_append_newline`: A line's newline matters to no name.
* `split_join`: Splitting undoes joining.
* `split_first`: The first part is cut off whole.
* `split_of_mem`: A string with the separator has two parts or more.
* `without_join`: Taking a character out of the parts.
* `split_empty`: The empty string splits into one empty part.
* `flatten_lineList`: Cutting into lines loses no character.
* `lineList_line`: A leading line is cut off whole.
* `readlines_writelines`: Reading undoes writing.
* `hyphen_notMem_toString`: Decimal digits hold no hyphen.
* `numbered_inj`: A numbered name determines the name and the number.
* `cutLines_append_left`: A text before another goes to its first line.
* `cutLines_append_right`: A text behind another goes to its last line.
* `flatten_cutLines`: Cutting into lines adds nothing.
-/

namespace Xbench

namespace Text

/-- Python's `needle in hay`. -/
def Within (needle hay : String) : Prop :=
  needle.toList <:+: hay.toList

instance (needle hay : String) : Decidable (Within needle hay) :=
  inferInstanceAs (Decidable (_ <:+: _))

/-- Python's `s.startswith(p)`. -/
def StartsWith (s p : String) : Prop :=
  p.toList <+: s.toList

instance (s p : String) : Decidable (StartsWith s p) :=
  inferInstanceAs (Decidable (_ <+: _))

/-- Python's `s.split(sep)` for a separator of one character. -/
def split (sep : Char) (s : String) : List String :=
  (s.toList.splitOn sep).map String.ofList

/-- Python's `sep.join(parts)` for a separator of one character. -/
def join (sep : Char) (parts : List String) : String :=
  String.ofList ([sep].intercalate (parts.map String.toList))

theorem within_append (pre name post : String) : Within name (pre ++ name ++ post) := by
  refine ⟨pre.toList, post.toList, ?_⟩
  rw [String.toList_append, String.toList_append]

/-- A name without a newline occurs in a line only before the line's newline. -/
theorem within_append_newline (name line : String) (h : '\n' ∉ name.toList) :
    Within name (line ++ "\n") ↔ Within name line := by
  have hnl : ("\n" : String).toList = ['\n'] := rfl
  rw [Within, Within, String.toList_append, hnl, List.infix_concat_iff, List.suffix_concat_iff]
  constructor
  · rintro ((hnil | ⟨front, hfront, _⟩) | hinfix)
    · rw [hnil]
      exact List.nil_infix
    · -- an occurrence at the very end would end in the newline
      rw [hfront] at h
      exact absurd (List.mem_append_right front List.mem_cons_self) h
    · exact hinfix
  · exact Or.inr

theorem split_join (sep : Char) (parts : List String) (hne : parts ≠ [])
    (hsep : ∀ p ∈ parts, sep ∉ p.toList) : split sep (join sep parts) = parts := by
  have hmem : ∀ l ∈ parts.map String.toList, sep ∉ l := by
    intro l hl
    rcases List.mem_map.mp hl with ⟨p, hp, rfl⟩
    exact hsep p hp
  have hback : String.ofList ∘ String.toList = id := funext fun p => String.ofList_toList
  rw [split, join, String.toList_ofList,
    List.splitOn_intercalate sep hmem (by simpa only [ne_eq, List.map_eq_nil_iff] using hne),
    List.map_map, hback, List.map_id]

/-- A join holds what its parts hold, and separators. -/
theorem mem_join (sep c : Char) (parts : List String) (h : c ∈ (join sep parts).toList) :
    c = sep ∨ ∃ p ∈ parts, c ∈ p.toList := by
  rw [join, String.toList_ofList] at h
  induction parts with
  | nil => exact absurd h List.not_mem_nil
  | cons p parts ih =>
      cases parts with
      | nil =>
          rw [List.map_cons, List.map_nil, List.intercalate_singleton] at h
          exact Or.inr ⟨p, List.mem_cons_self, h⟩
      | cons q parts =>
          rw [List.map_cons, List.map_cons, List.intercalate_cons_cons, List.append_assoc,
            List.mem_append, List.mem_append, List.mem_singleton] at h
          rcases h with hp | hsep | hrest
          · exact Or.inr ⟨p, List.mem_cons_self, hp⟩
          · exact Or.inl hsep
          · rcases ih hrest with hsep | ⟨r, hr, hc⟩
            · exact Or.inl hsep
            · exact Or.inr ⟨r, List.mem_cons_of_mem p hr, hc⟩

theorem mem_intercalate (sep : Char) (ls : List (List Char)) (l : List Char) (hl : l ∈ ls)
    (c : Char) (hc : c ∈ l) : c ∈ [sep].intercalate ls := by
  induction ls with
  | nil => exact absurd hl List.not_mem_nil
  | cons a ls ih =>
      cases ls with
      | nil =>
          rw [List.intercalate_singleton, ← List.mem_singleton.mp hl]
          exact hc
      | cons b ls =>
          rw [List.intercalate_cons_cons, List.append_assoc, List.mem_append]
          rcases List.mem_cons.mp hl with rfl | hl
          · exact Or.inl hc
          · exact Or.inr (List.mem_append_right _ (ih hl))

theorem split_ne_nil (sep : Char) (s : String) : split sep s ≠ [] := by
  rw [split, ne_eq, List.map_eq_nil_iff]
  exact List.splitOn_ne_nil sep _

/-- A string holds what its parts hold. -/
theorem mem_split (sep c : Char) (s part : String) (hpart : part ∈ split sep s)
    (h : c ∈ part.toList) : c ∈ s.toList := by
  rw [split] at hpart
  rcases List.mem_map.mp hpart with ⟨l, hl, rfl⟩
  rw [String.toList_ofList] at h
  have hall : [sep].intercalate (s.toList.splitOn sep) = s.toList := List.intercalate_splitOn sep
  rw [← hall]
  exact mem_intercalate sep _ l hl c h

theorem split_of_notMem (sep : Char) (s : String) (h : sep ∉ s.toList) : split sep s = [s] := by
  rw [split, List.splitOn_eq_singleton h, List.map_cons, String.ofList_toList, List.map_nil]

/-- The first part is cut off whole. -/
theorem split_first (sep : Char) (s first rest : String)
    (hs : s.toList = first.toList ++ sep :: rest.toList) (h : sep ∉ first.toList) :
    split sep s = first :: split sep rest := by
  rw [split, hs, List.splitOn_append_cons_self_of_not_mem h, List.map_cons, String.ofList_toList]
  rfl

/-- A string that holds the separator has two parts or more. -/
theorem split_of_mem (sep : Char) (s : String) (h : sep ∈ s.toList) :
    ∃ a b rest, split sep s = a :: b :: rest := by
  rcases List.mem_iff_append.mp h with ⟨front, back, hs⟩
  rw [split, hs, List.splitOn_append_cons_self]
  have hfront := List.splitOn_ne_nil sep front
  have hback := List.splitOn_ne_nil sep back
  cases hf : front.splitOn sep with
  | nil => exact absurd hf hfront
  | cons a as =>
      cases hb : back.splitOn sep with
      | nil => exact absurd hb hback
      | cons b bs =>
          cases as with
          | nil => exact ⟨_, _, _, rfl⟩
          | cons a' as => exact ⟨_, _, _, rfl⟩

/-- Python's `s.replace(c, "")`. -/
def without (c : Char) (s : String) : String :=
  String.ofList (s.toList.filter (fun x => x != c))

theorem without_notMem (c : Char) (s : String) : c ∉ (without c s).toList := by
  rw [without, String.toList_ofList, List.mem_filter]
  exact fun h => absurd h.2 (by simp)

theorem without_of_notMem (c : Char) (s : String) (h : c ∉ s.toList) : without c s = s := by
  have hall : s.toList.filter (fun x => x != c) = s.toList := by
    rw [List.filter_eq_self]
    exact fun x hx => bne_iff_ne.mpr (fun heq => h (heq ▸ hx))
  rw [without, hall, String.ofList_toList]

theorem mem_without (c x : Char) (s : String) (h : x ∈ (without c s).toList) : x ∈ s.toList := by
  rw [without, String.toList_ofList] at h
  exact List.mem_of_mem_filter h

theorem without_append (c : Char) (s t : String) :
    without c (s ++ t) = without c s ++ without c t := by
  rw [← String.toList_inj, String.toList_append]
  simp only [without, String.toList_ofList, String.toList_append, List.filter_append]

/-- Taking a character out of the parts takes it out of the whole. -/
theorem without_join (c sep : Char) (hsep : sep ≠ c) (parts : List String) :
    without c (join sep parts) = join sep (parts.map (without c)) := by
  have hkeep : [sep].filter (fun x => x != c) = [sep] := by
    rw [List.filter_eq_self]
    intro x hx
    rw [List.mem_singleton.mp hx]
    exact bne_iff_ne.mpr hsep
  have hpart : ∀ p : String, (without c p).toList = p.toList.filter (fun x => x != c) :=
    fun p => String.toList_ofList
  rw [← String.toList_inj, without, join, join, String.toList_ofList, String.toList_ofList,
    String.toList_ofList]
  induction parts with
  | nil => rfl
  | cons p parts ih =>
      cases parts with
      | nil =>
          simp only [List.map_cons, List.map_nil, List.intercalate_singleton, hpart]
      | cons q parts =>
          simp only [List.map_cons, List.intercalate_cons_cons, List.filter_append, hkeep] at ih ⊢
          rw [ih, hpart p]

/-- What follows a prefix. -/
def afterPrefix : List Char → List Char → Option (List Char)
  | [], cs => some cs
  | _ :: _, [] => none
  | p :: ps, c :: cs => if p = c then afterPrefix ps cs else none

theorem afterPrefix_eq_some_iff (ps cs rest : List Char) :
    afterPrefix ps cs = some rest ↔ cs = ps ++ rest := by
  induction ps generalizing cs with
  | nil =>
      rw [afterPrefix, Option.some.injEq]
      exact Iff.rfl
  | cons p ps ih =>
      cases cs with
      | nil => simp [afterPrefix]
      | cons c cs =>
          rw [afterPrefix]
          by_cases h : p = c
          · rw [if_pos h, ih, h, List.cons_append, List.cons.injEq]
            simp
          · rw [if_neg h, List.cons_append, List.cons.injEq]
            simp [Ne.symm h]

/-- Python's `s.replace(old, new)` with an `old` that is not empty, on
    characters; `fuel` is for those that are left. -/
def replaceAllList (old new : List Char) : Nat → List Char → List Char
  | 0, cs => cs
  | _ + 1, [] => []
  | fuel + 1, c :: cs =>
      match afterPrefix old (c :: cs) with
      | some rest => new ++ replaceAllList old new fuel rest
      | none => c :: replaceAllList old new fuel cs

/-- Python's `s.replace(old, new)`. -/
def replaceAll (old new s : String) : String :=
  String.ofList (replaceAllList old.toList new.toList s.toList.length s.toList)

/-- Python's `s.split(sep)` with a `sep` that is not empty, on characters;
    `fuel` is for those that are left. -/
def splitAllList (sep : List Char) : Nat → List Char → List (List Char)
  | 0, cs => [cs]
  | _ + 1, [] => [[]]
  | fuel + 1, c :: cs =>
      match afterPrefix sep (c :: cs) with
      | some rest => [] :: splitAllList sep fuel rest
      | none =>
          match splitAllList sep fuel cs with
          | [] => [[c]]
          | part :: parts => (c :: part) :: parts

/-- Python's `s.split(sep)` for a separator of any length. -/
def splitAll (sep s : String) : List String :=
  (splitAllList sep.toList s.toList.length s.toList).map String.ofList

/-- Python's `s.replace(old, new)` for single characters. -/
def replace (old new : Char) (s : String) : String :=
  String.ofList (s.toList.map (fun c => if c = old then new else c))

theorem replace_of_notMem (old new : Char) (s : String) (h : old ∉ s.toList) :
    replace old new s = s := by
  have hsame : s.toList.map (fun c => if c = old then new else c) = s.toList := by
    refine (List.map_congr_left (fun c hc => ?_)).trans (List.map_id _)
    have hne : c ≠ old := fun heq => h (heq ▸ hc)
    rw [if_neg hne]
    rfl
  rw [replace, hsame, String.ofList_toList]

/-- What is replaced is gone. -/
theorem replace_notMem (old new : Char) (hne : old ≠ new) (s : String) :
    old ∉ (replace old new s).toList := by
  intro h
  rw [replace, String.toList_ofList] at h
  rcases List.mem_map.mp h with ⟨c, _, hc⟩
  by_cases heq : c = old
  · rw [if_pos heq] at hc
    exact hne hc.symm
  · rw [if_neg heq] at hc
    exact heq hc

/-- An empty join is not an empty list: splitting it gives one empty part. -/
theorem split_empty (sep : Char) : split sep (join sep []) = [""] := by
  simp only [split, join, List.map_nil, List.intercalate_nil, String.toList_ofList,
    List.splitOn_nil, List.map_cons]

/-- Cut after every newline, keeping it, as `readlines` does. -/
def lineList : List Char → List (List Char)
  | [] => []
  | c :: cs =>
      if c = '\n' then [c] :: lineList cs
      else match lineList cs with
        | [] => [[c]]
        | l :: ls => (c :: l) :: ls

theorem flatten_lineList (cs : List Char) : (lineList cs).flatten = cs := by
  induction cs with
  | nil => rfl
  | cons c cs ih =>
      rw [lineList]
      by_cases hc : c = '\n'
      · rw [if_pos hc, List.flatten_cons, ih, List.singleton_append]
      · rw [if_neg hc]
        cases hl : lineList cs with
        | nil =>
            rw [hl, List.flatten_nil] at ih
            simp only [← ih, List.flatten_cons, List.flatten_nil, List.append_nil]
        | cons l ls =>
            rw [hl] at ih
            simp only [← ih, List.flatten_cons, List.cons_append]

theorem lineList_line (l rest : List Char) (hl : '\n' ∉ l) :
    lineList (l ++ '\n' :: rest) = (l ++ ['\n']) :: lineList rest := by
  induction l with
  | nil => simp only [List.nil_append, lineList, if_true]
  | cons c l ih =>
      have hc : c ≠ '\n' := fun h => hl (by rw [h]; exact List.mem_cons_self)
      have hrest := ih (fun h => hl (List.mem_cons_of_mem c h))
      rw [List.cons_append, lineList, if_neg hc, hrest]
      rfl

/-- The lines of a text, each with its newline. -/
def readlines (text : String) : List String :=
  (lineList text.toList).map String.ofList

/-- The text made of the given lines. -/
def writelines (ls : List String) : String :=
  String.join ls

theorem writelines_append (ls ls' : List String) :
    writelines (ls ++ ls') = writelines ls ++ writelines ls' := by
  rw [← String.toList_inj, String.toList_append]
  simp only [writelines, String.toList_join, List.flatMap_append]

theorem readlines_writelines (ls : List String) (hls : ∀ l ∈ ls, '\n' ∉ l.toList) :
    readlines (writelines (ls.map (· ++ "\n"))) = ls.map (· ++ "\n") := by
  have hcut : lineList ((ls.map (· ++ "\n")).flatMap String.toList)
      = ls.map (fun l => l.toList ++ ['\n']) := by
    induction ls with
    | nil => rfl
    | cons l ls ih =>
        have hnl : ("\n" : String).toList = ['\n'] := rfl
        rw [List.map_cons, List.flatMap_cons, String.toList_append, hnl, List.append_assoc,
          List.singleton_append, lineList_line l.toList _ (hls l List.mem_cons_self),
          ih (fun m hm => hls m (List.mem_cons_of_mem l hm)), List.map_cons]
  rw [readlines, writelines, String.toList_join, hcut, List.map_map]
  refine List.map_congr_left (fun l _ => ?_)
  rw [Function.comp_apply, ← String.toList_inj, String.toList_ofList, String.toList_append]
  rfl

/-- `f"{name}-{i}"`. -/
def numbered (name : String) (i : Nat) : String :=
  name ++ "-" ++ toString i

theorem toList_toString (i : Nat) : (toString i).toList = Nat.toDigits 10 i := by
  rw [Nat.toString_eq_ofList_toDigits, String.toList_ofList]

theorem isDigit_of_mem_toString (i : Nat) (c : Char) (hc : c ∈ (toString i).toList) :
    c.isDigit = true := by
  rw [toList_toString] at hc
  exact Nat.isDigit_of_mem_toDigits (by omega) (by omega) hc

theorem hyphen_notMem_toString (i : Nat) : '-' ∉ (toString i).toList := by
  intro h
  exact absurd (isDigit_of_mem_toString i '-' h) (by decide)

theorem toString_inj (i j : Nat) (h : toString i = toString j) : i = j := by
  have hd : Nat.toDigits 10 i = Nat.toDigits 10 j := by
    rw [← toList_toString, ← toList_toString, h]
  have hi := Nat.ofDigitChars_ten_toDigits (n := i)
  rw [hd, Nat.ofDigitChars_ten_toDigits] at hi
  exact hi.symm

theorem toList_numbered (name : String) (i : Nat) :
    (numbered name i).toList = name.toList ++ '-' :: (toString i).toList := by
  rw [numbered, String.toList_append, String.toList_append, List.append_assoc]
  rfl

/-- Two cuts at the first occurrence of a character are the same cut. -/
theorem cut_unique (c : Char) (x y s t : List Char) (hx : c ∉ x) (hy : c ∉ y)
    (h : x ++ c :: s = y ++ c :: t) : x = y ∧ s = t := by
  induction x generalizing y with
  | nil =>
      cases y with
      | nil => exact ⟨rfl, (List.cons.inj h).2⟩
      | cons d y => exact absurd ((List.cons.inj h).1 ▸ List.mem_cons_self) hy
  | cons b x ih =>
      cases y with
      | nil => exact absurd ((List.cons.inj h).1 ▸ List.mem_cons_self) hx
      | cons d y =>
          rcases List.cons.inj h with ⟨hbd, hrest⟩
          rcases ih y (fun hm => hx (List.mem_cons_of_mem b hm))
            (fun hm => hy (List.mem_cons_of_mem d hm)) hrest with ⟨hxy, hst⟩
          exact ⟨by rw [hbd, hxy], hst⟩

/-- The last hyphen is the one the number stands behind. -/
theorem numbered_inj (a b : String) (i j : Nat) (h : numbered a i = numbered b j) :
    a = b ∧ i = j := by
  have hl := congrArg String.toList h
  rw [toList_numbered, toList_numbered] at hl
  have hrev := congrArg List.reverse hl
  rw [List.reverse_append, List.reverse_append, List.reverse_cons, List.reverse_cons,
    List.append_assoc, List.append_assoc, List.singleton_append, List.singleton_append] at hrev
  rcases cut_unique '-' _ _ _ _ (fun hm => hyphen_notMem_toString i (List.mem_reverse.mp hm))
    (fun hm => hyphen_notMem_toString j (List.mem_reverse.mp hm)) hrev with ⟨hdigits, hname⟩
  exact ⟨String.toList_inj.mp (List.reverse_inj.mp hname),
    toString_inj i j (String.toList_inj.mp (List.reverse_inj.mp hdigits))⟩

section Lines

/-- The characters that end a line for `splitlines`. -/
def isLineBreak (c : Char) : Bool :=
  c == '\n' || c == '\r' || c == '\x0b' || c == '\x0c' || c == '\x1c' || c == '\x1d'
    || c == '\x1e' || c == '\u0085' || c == '\u2028' || c == '\u2029'

/-- The parts between the ends of lines; a carriage return and a newline are
    one end. -/
def cutLines : List Char → List (List Char)
  | [] => [[]]
  | '\r' :: '\n' :: cs => [] :: cutLines cs
  | c :: cs =>
      if isLineBreak c then [] :: cutLines cs
      else match cutLines cs with
        | [] => [[c]]
        | l :: ls => (c :: l) :: ls

/-- `splitlines`: an end of a line at the end begins no other. -/
def splitlines (cs : List Char) : List (List Char) :=
  if (cutLines cs).getLast? = some [] then (cutLines cs).dropLast else cutLines cs

/-- The characters that `strip` takes away. -/
def isSpace (c : Char) : Bool :=
  c == ' ' || c == '\t' || isLineBreak c || c == '\x1f' || c == '\u00a0' || c == '\u1680'
    || ('\u2000' ≤ c && c ≤ '\u200a') || c == '\u202f' || c == '\u205f' || c == '\u3000'

def lstrip (cs : List Char) : List Char :=
  cs.dropWhile isSpace

def rstrip (cs : List Char) : List Char :=
  cs.rdropWhile isSpace

def strip (cs : List Char) : List Char :=
  rstrip (lstrip cs)

theorem cutLines_ne_nil (cs : List Char) : cutLines cs ≠ [] := by
  fun_cases cutLines cs <;> simp_all

/-- A character that is not a carriage return in front of a newline. -/
theorem cutLines_of_no_pair (c : Char) (cs : List Char)
    (h : ∀ cs', c = '\r' → cs = '\n' :: cs' → False) :
    cutLines (c :: cs)
      = if isLineBreak c then [] :: cutLines cs
        else match cutLines cs with
          | [] => [[c]]
          | l :: ls => (c :: l) :: ls := by
  conv_lhs => unfold cutLines
  split
  · rename_i heq
    cases heq
  · rename_i cs' heq
    rcases List.cons.inj heq with ⟨hc, hcs⟩
    exact (h cs' hc hcs).elim
  · rename_i heq
    cases heq
    rfl

/-- A character that ends no line goes to the first one. -/
theorem cutLines_cons (c : Char) (cs : List Char) (hc : isLineBreak c = false) :
    cutLines (c :: cs) = (cutLines cs).modifyHead (c :: ·) := by
  have hreturn : c ≠ '\r' := by
    rintro rfl
    cases hc
  rcases List.exists_cons_of_ne_nil (cutLines_ne_nil cs) with ⟨l, ls, hls⟩
  rw [cutLines_of_no_pair c cs (fun _ hr _ => hreturn hr),
    if_neg (by rw [hc]; exact Bool.false_ne_true), hls]
  rfl

theorem cutLines_append_left (a l : List Char) (ha : ∀ c ∈ a, isLineBreak c = false) :
    cutLines (a ++ l) = (cutLines l).modifyHead (a ++ ·) := by
  rcases List.exists_cons_of_ne_nil (cutLines_ne_nil l) with ⟨p, ps, hps⟩
  induction a with
  | nil => rw [hps]; rw [List.nil_append, hps]; rfl
  | cons c a ih =>
      rw [List.cons_append, cutLines_cons c _ (ha c List.mem_cons_self),
        ih fun c' hc' => ha c' (List.mem_cons_of_mem c hc'), hps]
      rfl

theorem cutLines_append_right (l b : List Char) (hb : ∀ c ∈ b, isLineBreak c = false) :
    cutLines (l ++ b) = (cutLines l).dropLast ++ [(cutLines l).getLastD [] ++ b] := by
  have hcons : ∀ (x : List Char) (ps : List (List Char)), ps ≠ [] →
      (x :: ps).dropLast ++ [(x :: ps).getLastD [] ++ b]
        = x :: (ps.dropLast ++ [ps.getLastD [] ++ b]) := by
    intro x ps hps
    rcases List.exists_cons_of_ne_nil hps with ⟨q, qs, rfl⟩
    rfl
  -- a carriage return at the end of the first part meets no newline
  have hapart : ∀ (c : Char) (cs : List Char), (∀ cs', c = '\r' → cs = '\n' :: cs' → False) →
      ∀ cs', c = '\r' → cs ++ b = '\n' :: cs' → False := by
    intro c cs hpair cs' hc heq
    cases cs with
    | nil =>
        rw [List.nil_append] at heq
        have hnewline := hb '\n' (heq ▸ List.mem_cons_self)
        cases hnewline
    | cons d cs =>
        rw [List.cons_append, List.cons.injEq] at heq
        exact hpair cs hc (heq.1 ▸ rfl)
  fun_induction cutLines l with
  | case1 =>
      have hleft := cutLines_append_left b [] hb
      rw [List.append_nil] at hleft
      rw [List.nil_append, hleft]
      exact congrArg (fun x => [x]) (List.append_nil b)
  | case2 cs ih =>
      rw [hcons [] _ (cutLines_ne_nil cs), ← ih]
      rfl
  | case3 c cs hpair hbreak ih =>
      rw [hcons [] _ (cutLines_ne_nil cs), ← ih, List.cons_append,
        cutLines_of_no_pair c _ (hapart c cs hpair), if_pos hbreak]
  | case4 c cs hpair hbreak hnil ih => exact absurd hnil (cutLines_ne_nil cs)
  | case5 c cs hpair hbreak part parts hcut ih =>
      rw [List.cons_append, cutLines_cons c _ (Bool.eq_false_iff.mpr hbreak), ih, hcut]
      cases parts with
      | nil => rfl
      | cons q qs => rfl

/-- A text that does not end a line has its parts as lines. -/
theorem splitlines_concat (cs : List Char) (ls : List (List Char)) (l : List Char)
    (h : cutLines cs = ls ++ [l]) (hl : l ≠ []) : splitlines cs = ls ++ [l] := by
  rw [splitlines, h, List.getLast?_concat, if_neg (fun heq => hl (Option.some.inj heq))]

/-- Cutting into lines takes characters away, and adds none. -/
theorem flatten_cutLines (cs : List Char) : (cutLines cs).flatten.Sublist cs := by
  fun_induction cutLines cs with
  | case1 => exact List.Sublist.refl _
  | case2 cs ih => exact (ih.cons '\n').cons '\r'
  | case3 c cs hpair hbreak ih => exact ih.cons c
  | case4 c cs hpair hbreak hnil ih => exact absurd hnil (cutLines_ne_nil cs)
  | case5 c cs hpair hbreak part parts hcut ih =>
      rw [hcut] at ih
      exact ih.cons_cons c

theorem dropWhile_append_neg {α : Type} (p : α → Bool) (l r : List α) (x : α) (hx : p x = false) :
    (l ++ x :: r).dropWhile p = l.dropWhile p ++ x :: r := by
  induction l with
  | nil => rw [List.nil_append, List.dropWhile_cons_of_neg (by simp [hx])]; rfl
  | cons y l ih =>
      rw [List.cons_append, List.dropWhile_cons, List.dropWhile_cons, ih]
      split_ifs
      · rfl
      · rfl

/-- Space is stripped up to a character that is none. -/
theorem lstrip_append (l r : List Char) (x : Char) (hx : isSpace x = false) :
    lstrip (l ++ x :: r) = lstrip l ++ x :: r :=
  dropWhile_append_neg isSpace l r x hx

theorem rstrip_append (l r : List Char) (x : Char) (hx : isSpace x = false) :
    rstrip (l ++ x :: r) = l ++ x :: rstrip r := by
  have hrev : (l ++ x :: r).reverse = r.reverse ++ x :: l.reverse := by
    rw [List.reverse_append, List.reverse_cons, List.append_assoc]
    rfl
  rw [rstrip, List.rdropWhile, hrev, dropWhile_append_neg isSpace _ _ x hx, List.reverse_append,
    List.reverse_cons, List.reverse_reverse, List.append_assoc]
  rfl

theorem strip_sublist (cs : List Char) : (strip cs).Sublist cs :=
  (List.rdropWhile_prefix _ _).sublist.trans (List.dropWhile_sublist _)

end Lines

end Text

/-- What reading a text file makes of the ends of its lines. -/
def universalNewlines : List Char → List Char
  | [] => []
  | '\r' :: '\n' :: cs => '\n' :: universalNewlines cs
  | c :: cs => (if c = '\r' then '\n' else c) :: universalNewlines cs

end Xbench
