import Xbench.Commands.Membership
import Xbench.Commands.Renaming
import Xbench.Common.Rfc1035
import Xbench.Lib.Numbering

/-!
# Names of Instances on GCP

The names that the machines of a configured cluster are created with on GCP: the
cluster's name, a hyphen and the machine's name, with hyphens for underscores.

The name of the cluster is checked before anything else. The name of a machine
is that of its component with a number behind it and is never checked, and the
length of the whole is not either.

## Main definitions

* `instanceName`: The name an instance is created with.
* `Cluster.machineNames`: The machines of a configured cluster.
* `LegalNames`: Every name is legal, and no two are one.
* `LegalWith`: A machine's name that is legal behind a cluster's.
* `Provisioning.machinesOf`: The machines of a component.
* `componentsOf`: The components of a topology.
* `Provisioning.Fits`: The components have names that are legal.

## Theorems

* `matches_joined_iff`: What may stand behind a cluster's name and a hyphen.
* `valid_instanceName_iff`: When the name of an instance is legal.
* `legal_numbered_iff`: The same for a component without commas.
* `machineNames_configured`: The machines are those of the components.
* `legalNames_iff`: When the names of all instances are legal and apart.
-/

namespace Xbench

open Effect

open Text

/-- A character of a name as it is sent. -/
def formatChar (c : Char) : Char :=
  if c = '_' then '-' else c

/-- `format_arg`. -/
def formatArg (a : String) : String :=
  replace '_' '-' a

/-- The name `GcpCli.create` sends. -/
def instanceName (clusterName name : String) : String :=
  formatArg (clusterName ++ "-" ++ name)

/-- The machines a configured cluster stands for. -/
def Cluster.machineNames (c : Cluster) : List String :=
  c.topoMap.entries.flatMap (fun e => split ',' e.2)

/-- Every name is accepted, and every instance has its own. -/
structure LegalNames (c : Cluster) : Prop where
  valid : ∀ name ∈ c.machineNames, validateNameRfc1035 (instanceName c.clusterName name) = true
  distinct : (c.machineNames.map (instanceName c.clusterName)).Nodup

/-- What stands behind a cluster's name: characters of a name or underscores, with
    a letter or a digit at the end, few enough. The cluster's name is one line. -/
def EndsName (cluster name : List Char) : Prop :=
  '\n' ∉ cluster
    ∧ ∃ front x, name = front ++ [x] ∧ (∀ y ∈ front, y = '_' ∨ nameChar y = true)
      ∧ alnumChar x = true ∧ cluster.length + front.length + 2 ≤ 63

/-- A machine's name that is legal behind that of the cluster. A newline at its end
    passes. -/
def LegalWith (clusterName name : String) : Prop :=
  EndsName clusterName.toList name.toList
    ∨ ∃ front, name.toList = front ++ ['\n'] ∧ EndsName clusterName.toList front

/-- The number of instances of a component. -/
def Provisioning.countOf (self : Provisioning) (component : String) : Int :=
  match self.getComponentParams component with
  | .error _ => 0
  | .ok params => match pyInt (params.read "count") with
    | .error _ => 0
    | .ok count => count

/-- The machines of a component. Commas in its name cut them; without instances
    there is one that is called nothing. -/
def Provisioning.machinesOf (self : Provisioning) (component : String) : List String :=
  if self.countOf component ≤ 0 then [""]
  else (List.range (self.countOf component).toNat).flatMap
    (fun i => split ',' (numbered component i))

/-- The components of a topology. -/
def componentsOf (topo : Value) : List String :=
  ((buildTreeFromDict topo).names.filterMap (fun name =>
    match name with
    | .str component => if component = rootName then none else some component
    | _ => none)).eraseDups

/-- The components have instances with names that are legal behind that of the
    cluster, and apart when underscores are read as hyphens. -/
structure Provisioning.Fits (self : Provisioning) (components : List String) : Prop where
  counted : ∀ component ∈ components, 0 < self.countOf component
  legal : ∀ component ∈ components, ∀ i : Nat, (i : Int) < self.countOf component →
    ∀ part ∈ split ',' (numbered component i), LegalWith self.clusterName part
  apart : ((components.flatMap self.machinesOf).map formatArg).Nodup

section Names

theorem toList_formatArg (a : String) : (formatArg a).toList = a.toList.map formatChar := by
  rw [formatArg, replace, String.toList_ofList]
  rfl

/-- An underscore counts as a hyphen. -/
theorem nameChar_format (c : Char) :
    nameChar (formatChar c) = true ↔ c = '_' ∨ nameChar c = true := by
  rw [formatChar]
  by_cases h : c = '_'
  · rw [if_pos h]
    exact ⟨fun _ => Or.inl h, fun _ => by decide⟩
  · rw [if_neg h]
    exact ⟨Or.inr, fun hor => hor.resolve_left h⟩

theorem alnumChar_format (c : Char) : alnumChar (formatChar c) = true ↔ alnumChar c = true := by
  rw [formatChar]
  by_cases h : c = '_'
  · rw [if_pos h, h]
    decide
  · rw [if_neg h]

theorem formatChar_newline (c : Char) : formatChar c = '\n' ↔ c = '\n' := by
  rw [formatChar]
  by_cases h : c = '_'
  · rw [if_pos h, h]
    decide
  · rw [if_neg h]

/-- The parts of a name are changed apart. -/
theorem formatArg_append (a b : String) : formatArg (a ++ b) = formatArg a ++ formatArg b := by
  rw [← String.toList_inj]
  simp only [toList_formatArg, String.toList_append, List.map_append]

theorem instanceName_eq (clusterName name : String) :
    instanceName clusterName name = formatArg (clusterName ++ "-") ++ formatArg name :=
  formatArg_append (clusterName ++ "-") name

/-- Names are apart when the machines' are. -/
theorem nodup_instanceNames_iff (clusterName : String) (names : List String) :
    (names.map (instanceName clusterName)).Nodup ↔ (names.map formatArg).Nodup := by
  have hmap : names.map (instanceName clusterName)
      = (names.map formatArg).map (fun n => formatArg (clusterName ++ "-") ++ n) := by
    rw [List.map_map]
    exact List.map_congr_left (fun name _ => instanceName_eq clusterName name)
  rw [hmap]
  refine List.nodup_map_iff (fun a b h => ?_)
  have hlist := congrArg String.toList h
  simp only [String.toList_append] at hlist
  exact String.toList_inj.mp (List.append_cancel_left hlist)

/-- A list with one more element ends in a letter or a digit just if that is one. -/
theorem exists_last_iff (l : List Char) (b : Char) :
    (∃ front x, l ++ [b] = front ++ [x] ∧ alnumChar x = true) ↔ alnumChar b = true := by
  constructor
  · rintro ⟨front, x, heq, hx⟩
    have hlast : b = x := (List.cons.inj (List.append_inj' heq rfl).2).1
    rw [hlast]
    exact hx
  · exact fun hb => ⟨l, b, rfl, hb⟩

/-- A name with one more character behind it. -/
theorem endsName_concat_iff (cluster init : List Char) (y : Char) :
    EndsName cluster (init ++ [y]) ↔
      '\n' ∉ cluster ∧ (∀ x ∈ init, x = '_' ∨ nameChar x = true) ∧ alnumChar y = true
        ∧ cluster.length + init.length + 2 ≤ 63 := by
  rw [EndsName]
  refine and_congr_right (fun _ => ?_)
  constructor
  · rintro ⟨front, x, heq, hrest⟩
    rcases List.append_inj' heq rfl with ⟨hfront, hlast⟩
    rw [hfront, (List.cons.inj hlast).1]
    exact hrest
  · exact fun h => ⟨init, y, rfl, h⟩

theorem not_endsName_nil (cluster : List Char) : ¬ EndsName cluster [] := by
  rintro ⟨_, front, x, heq, _⟩
  exact List.append_ne_nil_of_right_ne_nil front (List.cons_ne_nil x []) heq.symm

/-- What follows a cluster's name and a hyphen makes a legal name. -/
theorem matches_joined_iff (cluster name : List Char)
    (hfirst : ∃ c, cluster.head? = some c ∧ lowerChar c = true)
    (hchars : ∀ x ∈ cluster, nameChar x = true ∨ x = '\n') :
    matchesRfc1035 ((cluster ++ '-' :: name).map formatChar) = true ↔ EndsName cluster name := by
  have hall : ∀ l : List Char,
      (∀ x ∈ l.map formatChar, nameChar x = true) ↔ ∀ y ∈ l, y = '_' ∨ nameChar y = true := by
    intro l
    simp only [List.forall_mem_map, nameChar_format]
  have hline : (∀ y ∈ cluster, y = '_' ∨ nameChar y = true) ↔ '\n' ∉ cluster := by
    constructor
    · intro h hmem
      exact absurd (h '\n' hmem) (by decide)
    · intro h y hy
      refine Or.inr ((hchars y hy).resolve_right ?_)
      rintro rfl
      exact h hy
  have hhead : ∃ c, ((cluster ++ '-' :: name).map formatChar).head? = some c
      ∧ lowerChar c = true := by
    rcases hfirst with ⟨c, hc, hlower⟩
    rcases List.head?_eq_some_iff.mp hc with ⟨rest, rfl⟩
    have hne : c ≠ '_' := by
      rintro rfl
      exact absurd hlower (by decide)
    refine ⟨c, ?_, hlower⟩
    rw [List.cons_append, List.map_cons, List.head?_cons, formatChar, if_neg hne]
  rcases List.eq_nil_or_concat name with rfl | ⟨init, y, hname⟩
  · -- without a name the last character is the hyphen
    have hlast : ¬ ∃ front x, (cluster ++ ['-']).map formatChar = front ++ [x]
        ∧ alnumChar x = true := by
      rw [List.map_append, List.map_singleton, exists_last_iff]
      decide
    rw [matchesRfc1035_iff]
    exact iff_of_false (fun h => hlast h.2.2.1) (not_endsName_nil cluster)
  · rw [List.concat_eq_append] at hname
    have hshape : (cluster ++ '-' :: name).map formatChar
        = (cluster ++ '-' :: init).map formatChar ++ [formatChar y] := by
      rw [hname, ← List.cons_append, ← List.append_assoc, List.map_append, List.map_singleton]
    have hlength : ((cluster ++ '-' :: name).map formatChar).length
        = cluster.length + init.length + 2 := by
      rw [hname, List.length_map, List.length_append, List.length_cons, List.length_append,
        List.length_singleton]
      omega
    rw [matchesRfc1035_iff, hall, hlength, hshape, exists_last_iff, alnumChar_format, hname,
      endsName_concat_iff, ← hshape, List.forall_mem_append, hline, List.forall_mem_cons,
      List.forall_mem_append]
    constructor
    · rintro ⟨_, ⟨hcluster, _, hinit, _⟩, hy, hlen⟩
      exact ⟨hcluster, hinit, hy, hlen⟩
    · rintro ⟨hcluster, hinit, hy, hlen⟩
      refine ⟨hhead, ⟨hcluster, Or.inr (by decide), hinit, ?_⟩, hy, hlen⟩
      intro x hx
      rw [List.mem_singleton.mp hx]
      exact Or.inr ((alnumChar_iff y).mp hy).1

/-- An accepted name begins with a letter. -/
theorem first_of_valid (name : String) (h : validateNameRfc1035 name = true) :
    ∃ c, name.toList.head? = some c ∧ lowerChar c = true := by
  rw [validate_eq_match, rfc1035_iff] at h
  rcases h with hname | ⟨front, hcs, hname⟩
  · exact ((matchesRfc1035_iff _).mp hname).1
  · rcases ((matchesRfc1035_iff _).mp hname).1 with ⟨c, hc, hlower⟩
    refine ⟨c, ?_, hlower⟩
    rcases List.head?_eq_some_iff.mp hc with ⟨rest, rfl⟩
    rw [hcs, List.cons_append, List.head?_cons]

/-- When the name of an instance is legal. -/
theorem valid_instanceName_iff (clusterName name : String)
    (h : validateNameRfc1035 clusterName = true) :
    validateNameRfc1035 (instanceName clusterName name) = true ↔ LegalWith clusterName name := by
  have hjoined := fun l => matches_joined_iff clusterName.toList l (first_of_valid clusterName h)
    (nameChar_of_valid clusterName h)
  have hhyphen : "-".toList = ['-'] := rfl
  have hcs : (instanceName clusterName name).toList
      = (clusterName.toList ++ '-' :: name.toList).map formatChar := by
    rw [instanceName, toList_formatArg, String.toList_append, String.toList_append, hhyphen,
      List.append_assoc, List.singleton_append]
  have hsplit : ∀ l y, (clusterName.toList ++ '-' :: (l ++ [y])).map formatChar
      = (clusterName.toList ++ '-' :: l).map formatChar ++ [formatChar y] := by
    intro l y
    rw [← List.cons_append, ← List.append_assoc, List.map_append, List.map_singleton]
  rw [validate_eq_match, rfc1035_iff, hcs, hjoined, LegalWith]
  refine or_congr_right ?_
  constructor
  · rintro ⟨front, heq, hname⟩
    -- the newline at the end is that of the machine's name
    rcases List.eq_nil_or_concat name.toList with hnil | ⟨init, y, hy⟩
    · rw [hnil, List.map_append, List.map_singleton] at heq
      exact absurd (List.cons.inj (List.append_inj' heq rfl).2).1 (by decide)
    · rw [List.concat_eq_append] at hy
      rw [hy, hsplit] at heq
      rcases List.append_inj' heq rfl with ⟨hfront, hlast⟩
      have hnewline := (formatChar_newline y).mp (List.cons.inj hlast).1
      rw [← hfront, hjoined] at hname
      exact ⟨init, by rw [hy, hnewline], hname⟩
  · rintro ⟨front, hname, hends⟩
    refine ⟨(clusterName.toList ++ '-' :: front).map formatChar, ?_, (hjoined front).mpr hends⟩
    rw [hname, hsplit]
    rfl

/-- The same for a component without commas: it has characters of a name or
    underscores, and the number behind it is not too long. -/
theorem legal_numbered_iff (clusterName component : String) (i : Nat) :
    LegalWith clusterName (numbered component i) ↔
      '\n' ∉ clusterName.toList ∧ (∀ y ∈ component.toList, y = '_' ∨ nameChar y = true)
        ∧ clusterName.length + component.length + (toString i).length + 2 ≤ 63 := by
  -- a number has digits, and the name ends in the last of them
  rcases List.eq_nil_or_concat (toString i).toList with hnil | ⟨ds, d, hdigits⟩
  · rw [toList_toString] at hnil
    exact absurd hnil Nat.toDigits_ne_nil
  · rw [List.concat_eq_append] at hdigits
    have hdigit : ∀ y ∈ ds ++ [d], alnumChar y = true := by
      intro y hy
      rw [alnumChar, isDigit_of_mem_toString i y (hdigits ▸ hy), Bool.or_true]
    have hd : alnumChar d = true := hdigit d (List.mem_append_right _ List.mem_cons_self)
    have hname : (numbered component i).toList = component.toList ++ '-' :: ds ++ [d] := by
      rw [toList_numbered, hdigits, List.append_assoc, List.cons_append]
    have hlength : (toString i).length = ds.length + 1 := by
      rw [← String.length_toList, hdigits, List.length_append, List.length_singleton]
    have hnewline : ¬ ∃ front, (numbered component i).toList = front ++ ['\n']
        ∧ EndsName clusterName.toList front := by
      rintro ⟨front, heq, _⟩
      rw [hname] at heq
      have hlast : d = '\n' := (List.cons.inj (List.append_inj' heq rfl).2).1
      rw [hlast] at hd
      exact absurd hd (by decide)
    rw [LegalWith, or_iff_left hnewline, hname, endsName_concat_iff, List.forall_mem_append,
      List.forall_mem_cons, List.length_append, List.length_cons, hlength, String.length_toList,
      String.length_toList]
    constructor
    · rintro ⟨hcluster, ⟨hcomponent, _⟩, _, hlen⟩
      exact ⟨hcluster, hcomponent, by omega⟩
    · rintro ⟨hcluster, hcomponent, hlen⟩
      refine ⟨hcluster, ⟨hcomponent, Or.inr (by decide), fun y hy => Or.inr ?_⟩, hd, by omega⟩
      exact ((alnumChar_iff y).mp (hdigit y (List.mem_append_left _ hy))).1

end Names

section Configured

/-- Splitting a join splits its parts. -/
theorem split_join_flatMap (sep : Char) (parts : List String) (hne : parts ≠ []) :
    split sep (join sep parts) = parts.flatMap (split sep) := by
  induction parts with
  | nil => exact absurd rfl hne
  | cons p parts ih =>
      cases parts with
      | nil =>
          rw [List.flatMap_singleton, split, split, join, List.map_singleton,
            List.intercalate_singleton, String.toList_ofList]
      | cons q parts =>
          rw [List.flatMap_cons, ← ih (List.cons_ne_nil q parts), split, split, split, join, join,
            String.toList_ofList, String.toList_ofList, List.map_cons, List.map_cons,
            List.intercalate_cons_cons, List.append_assoc, List.singleton_append,
            List.splitOn_append_cons_self, List.map_append]

variable (self : Provisioning)

/-- A component of the table stands for its machines. -/
theorem split_named (component joined : String) (h : Named self component joined) :
    split ',' joined = self.machinesOf component := by
  rcases h with ⟨_, params, hparams, hnames⟩
  unfold instanceNames at hnames
  rcases except_bind_eq_ok _ _ _ hnames with ⟨count, hcount, hjoined⟩
  have hcountOf : self.countOf component = count := by
    rw [Provisioning.countOf, hparams]
    dsimp only
    rw [hcount]
  rw [← Except.ok.inj hjoined, Provisioning.machinesOf, hcountOf]
  by_cases hpos : count ≤ 0
  · have hzero : count.toNat = 0 := by omega
    rw [if_pos hpos, hzero]
    exact split_empty ','
  · have hrange : List.range count.toNat ≠ [] := by
      rw [ne_eq, List.range_eq_nil]
      omega
    rw [if_neg hpos, split_join_flatMap ',' _ (by simpa using hrange), List.flatMap_map]

/-- The machines are those of the components. -/
theorem machineNames_configured (topo : Value) (c : Cluster) (h : IsConfigured self topo c) :
    c.machineNames = c.topoMap.keys.flatMap self.machinesOf := by
  rw [Cluster.machineNames, Dict.keys, List.flatMap_map]
  refine List.flatMap_congr (fun e he => ?_)
  have hget := (Dict.mem_entries_iff c.topoMap e.1 e.2).mp he
  rcases h.table.named e.1 e.2 hget with hold | ⟨_, hnamed⟩
  · cases hold
  · exact split_named self e.1 e.2 hnamed

/-- A machine of a component without instances is called nothing. -/
theorem mem_machinesOf_iff (component name : String) :
    name ∈ self.machinesOf component ↔
      (self.countOf component ≤ 0 ∧ name = "")
        ∨ ∃ i : Nat, (i : Int) < self.countOf component
          ∧ name ∈ split ',' (numbered component i) := by
  rw [Provisioning.machinesOf]
  by_cases hpos : self.countOf component ≤ 0
  · rw [if_pos hpos, List.mem_singleton]
    constructor
    · exact fun hname => Or.inl ⟨hpos, hname⟩
    · rintro (⟨_, hname⟩ | ⟨i, hi, _⟩)
      · exact hname
      · omega
  · rw [if_neg hpos, List.mem_flatMap]
    constructor
    · rintro ⟨i, hi, hname⟩
      rw [List.mem_range] at hi
      exact Or.inr ⟨i, by omega, hname⟩
    · rintro (⟨h, _⟩ | ⟨i, hi, hname⟩)
      · exact absurd h hpos
      · exact ⟨i, List.mem_range.mpr (by omega), hname⟩

theorem not_legalWith_empty (clusterName : String) : ¬ LegalWith clusterName "" := by
  rintro (hends | ⟨front, heq, _⟩)
  · exact not_endsName_nil _ hends
  · exact List.append_ne_nil_of_right_ne_nil front (List.cons_ne_nil _ []) heq.symm

theorem mem_componentsOf_iff (topo : Value) (component : String) :
    component ∈ componentsOf topo ↔
      Value.str component ∈ (buildTreeFromDict topo).names ∧ component ≠ rootName := by
  rw [componentsOf, List.mem_eraseDups, List.mem_filterMap]
  constructor
  · rintro ⟨name, hname, hsome⟩
    cases name with
    | str other =>
        dsimp only at hsome
        by_cases hroot : other = rootName
        · rw [if_pos hroot] at hsome
          cases hsome
        · rw [if_neg hroot, Option.some.injEq] at hsome
          rw [← hsome]
          exact ⟨hname, hroot⟩
    | _ => cases hsome
  · rintro ⟨hname, hroot⟩
    exact ⟨_, hname, if_neg hroot⟩

/-- The table has the components of the topology. -/
theorem keys_configured (topo : Value) (c : Cluster) (h : IsConfigured self topo c) :
    c.topoMap.keys.Perm (componentsOf topo) := by
  refine (List.perm_ext_iff_of_nodup c.topoMap.keys_nodup (nodup_eraseDups _)).mpr
    (fun component => ?_)
  change component ∈ c.topoMap.keys ↔ component ∈ componentsOf topo
  rw [mem_componentsOf_iff, Dict.mem_keys_iff, Option.isSome_iff_exists]
  constructor
  · rintro ⟨joined, hget⟩
    rcases h.table.named component joined hget with hold | ⟨hname, hroot, _⟩
    · cases hold
    · exact ⟨hname, hroot⟩
  · rintro ⟨hname, hroot⟩
    rcases h.table.covers _ hname with heq | ⟨other, heq, hkey⟩
    · exact absurd (Value.str.inj heq) hroot
    · rw [Value.str.inj heq, ← Option.isSome_iff_exists, ← Dict.mem_keys_iff]
      exact hkey

/-- The names of all instances are legal and apart just if the components fit. -/
theorem legalNames_iff (out : Outside) (topo : Value) (c : Cluster)
    (hvalid : validateNameRfc1035 self.clusterName = true)
    (h : (self.configure out (.ok topo)).result = .ok c) :
    LegalNames c ↔ self.Fits (componentsOf topo) := by
  have hconf := configured_spec self topo c (configure_ok self out topo c h).1
  have hmachines := (machineNames_configured self topo c hconf).symm ▸
    (keys_configured self topo c hconf).flatMap_right self.machinesOf
  have hlegal := fun name => valid_instanceName_iff self.clusterName name hvalid
  have hapartIff : (c.machineNames.map (instanceName self.clusterName)).Nodup ↔
      (((componentsOf topo).flatMap self.machinesOf).map formatArg).Nodup := by
    rw [nodup_instanceNames_iff]
    exact (hmachines.map formatArg).nodup_iff
  constructor
  · rintro ⟨hnames, hapart⟩
    rw [hconf.clusterName] at hnames hapart
    simp only [hlegal, hmachines.mem_iff, List.mem_flatMap, mem_machinesOf_iff] at hnames
    refine ⟨fun component hmem => ?_, fun component hmem i hi part hpart => ?_, ?_⟩
    -- a component of no machine is named by the empty text, which is not legal
    · by_contra hpos
      exact not_legalWith_empty self.clusterName
        (hnames "" ⟨component, hmem, Or.inl ⟨by omega, rfl⟩⟩)
    · exact hnames part ⟨component, hmem, Or.inr ⟨i, hi, hpart⟩⟩
    · exact hapartIff.mp hapart
  · rintro ⟨hcounted, hparts, hapart⟩
    refine ⟨fun name hname => ?_, ?_⟩
    · rw [hmachines.mem_iff, List.mem_flatMap] at hname
      rcases hname with ⟨component, hmem, hname⟩
      rw [hconf.clusterName, hlegal]
      -- every component is counted, so the machine has a number
      rcases (mem_machinesOf_iff self component name).mp hname with ⟨hzero, _⟩ | ⟨i, hi, hpart⟩
      · have hpos := hcounted component hmem
        omega
      · exact hparts component hmem i hi name hpart
    · rw [hconf.clusterName]
      exact hapartIff.mpr hapart

/-- One driver of a cluster with a short name. -/
theorem fits_oneDriver : oneDriver.Fits (componentsOf (.list [.str "driver"])) := by
  have hcomponents : componentsOf (.list [.str "driver"]) = ["driver"] := rfl
  have hcount : oneDriver.countOf "driver" = 1 := rfl
  have hmachines : ["driver"].flatMap oneDriver.machinesOf = ["driver-0"] := rfl
  rw [hcomponents]
  refine ⟨fun component hmem => ?_, fun component hmem i hi part hpart => ?_, ?_⟩
  · rw [List.mem_singleton.mp hmem, hcount]
    decide
  · rw [List.mem_singleton.mp hmem, hcount] at hi
    have hzero : i = 0 := by omega
    have hsplit : split ',' (numbered "driver" 0) = [numbered "driver" 0] := rfl
    rw [List.mem_singleton.mp hmem, hzero, hsplit] at hpart
    rw [List.mem_singleton.mp hpart]
    have hname : "driver".toList.all nameChar = true := by decide
    refine (legal_numbered_iff oneDriver.clusterName "driver" 0).mpr ⟨by decide, ?_, by decide⟩
    exact fun y hy => Or.inr (List.all_eq_true.mp hname y hy)
  · rw [hmachines, List.map_singleton]
    exact List.nodup_singleton _

theorem legalNames_oneDriver : LegalNames oneDriverCluster :=
  (legalNames_iff oneDriver obedient (.list [.str "driver"]) oneDriverCluster (by decide) rfl).mpr
    fits_oneDriver

/-- The same with a cluster's name of fifty-five letters. -/
def longName : Provisioning :=
  { oneDriver with clusterName := "aaaaaaaaaaaaaaaaaaaaaaaaaaaaaaaaaaaaaaaaaaaaaaaaaaaaaaa" }

/-- The name is accepted, and too long for that of a driver behind it. -/
theorem driver_misnamed :
    ¬ ∀ (self : Provisioning) (out : Outside) (topo : Value) (c : Cluster),
      validateNameRfc1035 self.clusterName = true →
      (self.configure out (.ok topo)).result = .ok c → LegalNames c := by
  intro hall
  have hvalid : validateNameRfc1035 longName.clusterName = true := by decide
  have hlegal := hall longName obedient (.list [.str "driver"])
    { oneDriverCluster with clusterName := longName.clusterName } hvalid rfl
  have hname := hlegal.valid (numbered "driver" 0) (by decide)
  have hends := (valid_instanceName_iff longName.clusterName _ hvalid).mp hname
  exact absurd ((legal_numbered_iff longName.clusterName "driver" 0).mp hends).2.2 (by decide)

end Configured

end Xbench
