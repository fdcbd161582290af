import Mathlib.Algebra.BigOperators.Ring.List
import Mathlib.Algebra.Order.BigOperators.Group.List
import Mathlib.Algebra.Order.Ring.Nat
import Mathlib.Data.List.Nodup
import Xbench.Lib.Effect
import Xbench.Lib.Session
import Xbench.Lib.Text
import Xbench.Config.Value

/-!
# Firewall Rules of a GCP Project

Listing the addresses that a project admits, and taking one away.

A rule has several source ranges and several lists of ports; one that goes by
source tags has no source ranges. The list has a record for each range and
port, and a rule is deleted by its name for each record of the address. So the
other ranges of the rule go with it, and a second record asks for a rule that
is gone. A rule without source ranges ends the listing.

## Main definitions

* `FirewallRule`: A rule.
* `SecurityRecord`: A range and a port of a rule.
* `listSecurityAccess`: The records of a project.
* `Firewall`: The rules of a project, which have different names.
* `deleteRule`: Deleting a rule.
* `revokeAccess`: Taking an address away.
* `FirewallRule.Admits`: A rule lets an address in.
* `Exact`: The address is taken away, and nothing else.
* `FirewallRule.timesListed`: The number of records of an address.

## Theorems

* `listSecurityAccess_ok_iff`: When there is a list, and what is in it.
* `deleteEach_ok_iff`: When several rules can be deleted.
* `exact_iff`: When an address is taken away and nothing else.
-/

namespace Xbench

namespace Gcp

open Session Text

/-- A port, or the ports from one to another. -/
inductive PortSpec where
  | single (port : Nat)
  | range (first last : Nat)

/-- How the project writes it. -/
def PortSpec.text : PortSpec → String
  | .single port => toString port
  | .range first last => toString first ++ "-" ++ toString last

def PortSpec.Covers (port : Nat) : PortSpec → Prop
  | .single p => port = p
  | .range first last => first ≤ port ∧ port ≤ last

/-- A firewall rule: its source ranges, if it has any, and the ports of each
    protocol it allows, if they are limited. -/
structure FirewallRule where
  name : String
  sourceRanges : Option (List String)
  allowed : List (Option (List PortSpec))

/-- A range and a port of a rule. -/
structure SecurityRecord where
  portFrom : Value
  portTo : Value
  cidr : String
  name : Option String
  desc : Option String

/-- A single address is a subnet. -/
def withSubnet (cidr : String) : String :=
  if '/' ∈ cidr.toList then cidr else cidr ++ "/32"

/-- `SecurityRecord(..)`. -/
def SecurityRecord.new (portFrom portTo : Value) (cidr : String) (name : Option String) :
    SecurityRecord :=
  { portFrom := portFrom
    portTo := portTo
    cidr := withSubnet cidr
    name := name
    desc := some "xbench self service" }

section Listing

/-- A port, from where to where. -/
def portPair (p : String) : Except Exn (String × String) :=
  if Within "-" p then
    match split '-' p with
    | [portFrom, portTo] => .ok (portFrom, portTo)
    | _ => .error ⟨.valueError, "too many values to unpack (expected 2)"⟩
  else .ok (p, p)

/-- The ports of a protocol, as texts. -/
def portTexts : Option (List PortSpec) → List String
  | none => ["0-65535"]
  | some ports => ports.map PortSpec.text

/-- The records of a rule for one protocol. -/
def recordsOf (r : FirewallRule) (ports : Option (List PortSpec)) :
    Except Exn (List SecurityRecord) :=
  match r.sourceRanges with
  | none => .error ⟨.typeError, "'NoneType' object is not iterable"⟩
  | some ranges =>
      (ranges.mapM (fun s =>
        (portTexts ports).mapM (fun p => do
          let (portFrom, portTo) ← portPair p
          .ok (SecurityRecord.new (.str portFrom) (.str portTo) s (some r.name))))).map
        List.flatten

/-- `list_security_access`. The filter gives one entry for each protocol of a
    rule. -/
def listSecurityAccess (rules : List FirewallRule) : Except Exn (List SecurityRecord) :=
  ((rules.flatMap (fun r => r.allowed.map (fun ports => (r, ports)))).mapM
    (fun e => recordsOf e.1 e.2)).map List.flatten

end Listing

/-- The rules of a project, which have different names. -/
structure Firewall where
  rules : List FirewallRule
  nodup : (rules.map FirewallRule.name).Nodup

theorem nodup_filter (rules : List FirewallRule) (p : FirewallRule → Bool)
    (h : (rules.map FirewallRule.name).Nodup) :
    ((rules.filter p).map FirewallRule.name).Nodup :=
  h.sublist (List.filter_sublist.map _)

/-- The rules that do not have one of the names. -/
def Firewall.without (fw : Firewall) (names : List String) : Firewall :=
  ⟨fw.rules.filter (fun r => decide (r.name ∉ names)), nodup_filter fw.rules _ fw.nodup⟩

/-- A project, and the names of the rules it was asked to delete. -/
structure Project where
  firewall : Firewall
  deletes : List String

/-- Deleting a rule; one that is not there is an error. -/
def deleteRule (name : String) : Session Project Exn Unit := fun p =>
  if name ∈ p.firewall.rules.map FirewallRule.name then
    (.ok (), ⟨p.firewall.without [name], p.deletes ++ [name]⟩)
  else
    (.error ⟨.cloudCli, "CLI command failed with ERROR: (gcloud.compute.firewall-rules.delete)"⟩,
      ⟨p.firewall, p.deletes ++ [name]⟩)

/-- The loop of `revoke_access`. -/
def revokeEach (cidr : String) : List SecurityRecord → Session Project Exn Unit
  | [] => pure ()
  | r :: rest => do
      if r.cidr = cidr then deleteRule (r.name.getD "None") else pure ()
      revokeEach cidr rest

/-- `revoke_access`. -/
def revokeAccess (rec : SecurityRecord) : Session Project Exn Unit := fun p =>
  (ofExcept (listSecurityAccess p.firewall.rules) >>= revokeEach rec.cidr) p

section Law

/-- The ports of a protocol; there are all when they are not limited. -/
def specsOf : Option (List PortSpec) → List PortSpec
  | none => [.range 0 65535]
  | some ports => ports

namespace FirewallRule

variable (r : FirewallRule)

/-- The ranges, as subnets. -/
def cidrs : List String :=
  (r.sourceRanges.getD []).map withSubnet

/-- The rule lets an address in at a port. -/
def Admits (cidr : String) (port : Nat) : Prop :=
  cidr ∈ r.cidrs ∧ ∃ ports ∈ r.allowed, ∃ p ∈ specsOf ports, p.Covers port

/-- The number of records of an address. -/
def timesListed (cidr : String) : Nat :=
  r.cidrs.count cidr * (r.allowed.map (fun ports => (specsOf ports).length)).sum

end FirewallRule

/-- Some rule lets an address in at a port. -/
def Firewall.Admits (fw : Firewall) (cidr : String) (port : Nat) : Prop :=
  ∃ r ∈ fw.rules, r.Admits cidr port

/-- The address is taken away, and nothing else: no rule admits it afterwards,
    other addresses are admitted as before, and no rule is deleted twice. -/
def Exact (fw : Firewall) (rec : SecurityRecord) : Prop :=
  ∃ p, revokeAccess rec ⟨fw, []⟩ = (.ok (), p)
    ∧ (∀ port, ¬ p.firewall.Admits rec.cidr port)
    ∧ (∀ cidr, cidr ≠ rec.cidr → ∀ port, p.firewall.Admits cidr port ↔ fw.Admits cidr port)
    ∧ p.deletes.Nodup

/-- The rules can be listed, none has two records of the address, and what a
    rule of the address lets in otherwise is let in by a rule that is not of
    the address. -/
structure Separable (fw : Firewall) (cidr : String) : Prop where
  listed : ∀ r ∈ fw.rules, r.allowed ≠ [] → r.sourceRanges ≠ none
  once : ∀ r ∈ fw.rules, r.timesListed cidr ≤ 1
  kept : ∀ r ∈ fw.rules, r.timesListed cidr = 1 → ∀ other, other ≠ cidr → ∀ port,
    r.Admits other port → ∃ r' ∈ fw.rules, r'.timesListed cidr = 0 ∧ r'.Admits other port

end Law

section Records

/-- The ends of a range of ports, as texts. -/
def PortSpec.ends : PortSpec → String × String
  | .single port => (toString port, toString port)
  | .range first last => (toString first, toString last)

/-- A port is read as it is written. -/
theorem portPair_text (p : PortSpec) : portPair p.text = .ok p.ends := by
  unfold portPair PortSpec.text PortSpec.ends
  cases p with
  | single port =>
      have hnot : ¬ Within "-" (toString port) := by
        rintro ⟨front, back, h⟩
        refine hyphen_notMem_toString port ?_
        rw [← h]
        exact List.mem_append_left _ (List.mem_append_right _ List.mem_cons_self)
      dsimp only
      rw [if_neg hnot]
  | range first last =>
      have hcut : split '-' (toString first ++ "-" ++ toString last)
          = [toString first, toString last] := by
        have hlist : (toString first ++ "-" ++ toString last).toList
            = (toString first).toList ++ '-' :: (toString last).toList := by
          rw [String.toList_append, String.toList_append, List.append_assoc]
          rfl
        rw [split_first '-' _ _ _ hlist (hyphen_notMem_toString first),
          split_of_notMem '-' _ (hyphen_notMem_toString last)]
      dsimp only
      rw [if_pos (within_append (toString first) "-" (toString last)), hcut]

theorem portTexts_eq (ports : Option (List PortSpec)) :
    portTexts ports = (specsOf ports).map PortSpec.text := by
  cases ports <;> rfl

/-- The record of a range and a port. -/
def recordOf (name s : String) (p : PortSpec) : SecurityRecord :=
  SecurityRecord.new (.str p.ends.1) (.str p.ends.2) s (some name)

/-- The records of a rule for one protocol: one for each range and port. -/
theorem recordsOf_some (r : FirewallRule) (ranges : List String)
    (hranges : r.sourceRanges = some ranges) (ports : Option (List PortSpec)) :
    recordsOf r ports
      = .ok (ranges.flatMap (fun s => (specsOf ports).map (recordOf r.name s))) := by
  unfold recordsOf
  rw [hranges]
  dsimp only
  have hall : ranges.mapM (fun s => (portTexts ports).mapM (fun p => do
      let (portFrom, portTo) ← portPair p
      Except.ok (SecurityRecord.new (.str portFrom) (.str portTo) s (some r.name))))
      = Except.ok (ranges.map (fun s => (specsOf ports).map (recordOf r.name s))) := by
    rw [except_mapM_ok_iff, List.forall₂_map_right_iff, List.forall₂_same]
    intro s _
    rw [portTexts_eq, except_mapM_ok_iff, List.forall₂_map_left_iff, List.forall₂_map_right_iff,
      List.forall₂_same]
    intro p _
    rw [portPair_text]
    rfl
  rw [hall]
  rfl

/-- All records of a rule. -/
def FirewallRule.records (r : FirewallRule) : List SecurityRecord :=
  r.allowed.flatMap (fun ports =>
    (r.sourceRanges.getD []).flatMap (fun s => (specsOf ports).map (recordOf r.name s)))

/-- There is a list when every rule that allows something has source ranges. -/
theorem listSecurityAccess_ok_iff (rules : List FirewallRule) (l : List SecurityRecord) :
    listSecurityAccess rules = .ok l
      ↔ (∀ r ∈ rules, r.allowed ≠ [] → r.sourceRanges ≠ none)
        ∧ l = rules.flatMap FirewallRule.records := by
  -- what the list is when every rule can be read
  have hread : (∀ r ∈ rules, r.allowed ≠ [] → r.sourceRanges ≠ none) →
      listSecurityAccess rules = .ok (rules.flatMap FirewallRule.records) := by
    intro hlisted
    have hall : (rules.flatMap (fun r => r.allowed.map (fun ports => (r, ports)))).mapM
        (fun e => recordsOf e.1 e.2)
        = Except.ok ((rules.flatMap (fun r => r.allowed.map (fun ports => (r, ports)))).map
          (fun e => (e.1.sourceRanges.getD []).flatMap
            (fun s => (specsOf e.2).map (recordOf e.1.name s)))) := by
      rw [except_mapM_ok_iff, List.forall₂_map_right_iff, List.forall₂_same]
      intro e he
      rcases List.mem_flatMap.mp he with ⟨r, hr, he⟩
      rcases List.mem_map.mp he with ⟨ports, hports, rfl⟩
      rcases Option.ne_none_iff_exists'.mp (hlisted r hr (List.ne_nil_of_mem hports)) with
        ⟨ranges, hranges⟩
      rw [recordsOf_some r ranges hranges, hranges]
      rfl
    unfold listSecurityAccess
    rw [hall]
    refine congrArg Except.ok ?_
    rw [← List.flatMap_def, List.flatMap_assoc]
    refine congrArg (fun f => rules.flatMap f) (funext fun r => ?_)
    rw [FirewallRule.records, List.flatMap_map]
  constructor
  · intro h
    have hlisted : ∀ r ∈ rules, r.allowed ≠ [] → r.sourceRanges ≠ none := by
      intro r hr hallowed hnone
      rcases except_map_eq_ok _ _ _ h with ⟨lists, hlists, _⟩
      rcases List.exists_mem_of_ne_nil _ hallowed with ⟨ports, hports⟩
      have hmem : (r, ports) ∈ rules.flatMap (fun r => r.allowed.map (fun ports => (r, ports))) :=
        List.mem_flatMap.mpr ⟨r, hr, List.mem_map.mpr ⟨ports, hports, rfl⟩⟩
      rcases exists_of_forall₂_left _ _ _ ((except_mapM_ok_iff _ _ _).mp hlists) _ hmem with
        ⟨l', _, hl'⟩
      dsimp only at hl'
      rw [recordsOf, hnone] at hl'
      cases hl'
    refine ⟨hlisted, ?_⟩
    rw [hread hlisted] at h
    exact (Except.ok.inj h).symm
  · rintro ⟨hlisted, rfl⟩
    exact hread hlisted

end Records

section Deleting

/-- Deleting several rules. -/
def deleteEach : List String → Session Project Exn Unit
  | [] => pure ()
  | name :: rest => do
      deleteRule name
      deleteEach rest

theorem without_without (fw : Firewall) (name : String) (rest : List String) :
    (fw.without [name]).without rest = fw.without (name :: rest) := by
  unfold Firewall.without
  rw [Firewall.mk.injEq, List.filter_filter]
  refine List.filter_congr (fun r _ => ?_)
  rw [← Bool.decide_and]
  refine decide_eq_decide.mpr ?_
  simp only [List.mem_cons, List.not_mem_nil, or_false, not_or]
  exact and_comm

theorem without_nil (fw : Firewall) : fw.without [] = fw := by
  have hall : fw.rules.filter (fun r => decide (r.name ∉ ([] : List String))) = fw.rules :=
    List.filter_eq_self.mpr (fun r _ => decide_eq_true List.not_mem_nil)
  unfold Firewall.without
  simp only [hall]

theorem mem_names_without_iff (fw : Firewall) (names : List String) (name : String) :
    name ∈ (fw.without names).rules.map FirewallRule.name
      ↔ name ∈ fw.rules.map FirewallRule.name ∧ name ∉ names := by
  simp only [Firewall.without, List.mem_map, List.mem_filter, decide_eq_true_eq]
  constructor
  · rintro ⟨r, ⟨hr, hnot⟩, rfl⟩
    exact ⟨⟨r, hr, rfl⟩, hnot⟩
  · rintro ⟨⟨r, hr, rfl⟩, hnot⟩
    exact ⟨r, ⟨hr, hnot⟩, rfl⟩

/-- Several rules can be deleted when they are there and different. -/
theorem deleteEach_ok_iff (names : List String) (p p' : Project) :
    deleteEach names p = (.ok (), p')
      ↔ names.Nodup ∧ (∀ name ∈ names, name ∈ p.firewall.rules.map FirewallRule.name)
        ∧ p' = ⟨p.firewall.without names, p.deletes ++ names⟩ := by
  induction names generalizing p with
  | nil =>
      rw [deleteEach, pure_ok_iff, without_nil, List.append_nil]
      exact ⟨fun h => ⟨List.nodup_nil, fun _ hmem => absurd hmem List.not_mem_nil, h.2⟩,
        fun h => ⟨rfl, h.2.2⟩⟩
  | cons name rest ih =>
      rw [deleteEach, bind_apply, deleteRule]
      -- a second deletion of one name finds no rule
      by_cases hthere : name ∈ p.firewall.rules.map FirewallRule.name
      · rw [if_pos hthere]
        dsimp only
        rw [ih, List.nodup_cons, List.forall_mem_cons]
        dsimp only
        rw [without_without, List.append_assoc, List.singleton_append]
        simp only [mem_names_without_iff, List.mem_singleton]
        constructor
        · rintro ⟨hnodup, hrest, hp⟩
          exact ⟨⟨fun hmem => (hrest name hmem).2 rfl, hnodup⟩,
            ⟨hthere, fun n hn => (hrest n hn).1⟩, hp⟩
        · rintro ⟨⟨hnot, hnodup⟩, ⟨_, hrest⟩, hp⟩
          refine ⟨hnodup, fun n hn => ⟨hrest n hn, ?_⟩, hp⟩
          rintro rfl
          exact hnot hn
      · rw [if_neg hthere]
        refine ⟨fun h => ?_, fun h => ?_⟩
        · cases h
        · exact absurd (h.2.1 name List.mem_cons_self) hthere

end Deleting

section Names

variable (cidr : String)

/-- The names of the records of an address. -/
def namesOf (records : List SecurityRecord) : List String :=
  (records.filter (fun r => decide (r.cidr = cidr))).map (fun r => r.name.getD "None")

/-- The loop deletes the rules of the records of the address. -/
theorem revokeEach_eq (records : List SecurityRecord) :
    revokeEach cidr records = deleteEach (namesOf cidr records) := by
  induction records with
  | nil => rfl
  | cons r rest ih =>
      rw [revokeEach, ih]
      by_cases hr : r.cidr = cidr
      · have hnames : namesOf cidr (r :: rest) = r.name.getD "None" :: namesOf cidr rest := by
          rw [namesOf, List.filter_cons, if_pos (decide_eq_true hr)]
          rfl
        rw [hnames, if_pos hr]
        rfl
      · have hnames : namesOf cidr (r :: rest) = namesOf cidr rest := by
          rw [namesOf, List.filter_cons, if_neg (fun h => hr (of_decide_eq_true h)), ← namesOf]
        rw [hnames, if_neg hr]

theorem countP_ranges (name : String) (specs : List PortSpec) (ranges : List String) :
    (ranges.flatMap (fun s => specs.map (recordOf name s))).countP
        (fun r => decide (r.cidr = cidr))
      = (ranges.map withSubnet).count cidr * specs.length := by
  induction ranges with
  | nil => simp only [List.flatMap_nil, List.countP_nil, List.map_nil, List.count_nil, Nat.zero_mul]
  | cons s ranges ih =>
      have hspecs : (specs.map (recordOf name s)).countP (fun r => decide (r.cidr = cidr))
          = if withSubnet s = cidr then specs.length else 0 := by
        rw [List.countP_map]
        by_cases hs : withSubnet s = cidr
        · rw [if_pos hs, List.countP_eq_length]
          exact fun p _ => decide_eq_true hs
        · rw [if_neg hs, List.countP_eq_zero]
          exact fun p _ => (by rw [Function.comp_apply, decide_eq_true_iff]; exact hs)
      rw [List.flatMap_cons, List.countP_append, ih, hspecs, List.map_cons, List.count_cons,
        Nat.add_mul, Nat.add_comm]
      by_cases hs : withSubnet s = cidr
      · rw [if_pos hs, if_pos (beq_iff_eq.mpr hs), Nat.one_mul]
      · rw [if_neg hs, if_neg (fun h => hs (beq_iff_eq.mp h)), Nat.zero_mul]

/-- A rule is asked for as often as it has records of the address. -/
theorem namesOf_records (r : FirewallRule) :
    namesOf cidr r.records = List.replicate (r.timesListed cidr) r.name := by
  rw [List.eq_replicate_iff]
  constructor
  · rw [namesOf, List.length_map, ← List.countP_eq_length_filter, FirewallRule.records,
      List.countP_flatMap, FirewallRule.timesListed, ← List.sum_map_mul_left r.allowed
        (fun ports => (specsOf ports).length)]
    refine congrArg List.sum (List.map_congr_left (fun ports _ => ?_))
    exact countP_ranges cidr r.name (specsOf ports) _
  · intro name hname
    rcases List.mem_map.mp hname with ⟨record, hrecord, rfl⟩
    rcases List.mem_flatMap.mp (List.mem_of_mem_filter hrecord) with ⟨ports, _, hrecord⟩
    rcases List.mem_flatMap.mp hrecord with ⟨s, _, hrecord⟩
    rcases List.mem_map.mp hrecord with ⟨p, _, rfl⟩
    rfl

theorem namesOf_rules (rules : List FirewallRule) :
    namesOf cidr (rules.flatMap FirewallRule.records)
      = rules.flatMap (fun r => List.replicate (r.timesListed cidr) r.name) := by
  rw [namesOf, List.filter_flatMap, List.map_flatMap]
  exact congrArg (fun f => rules.flatMap f) (funext fun r => namesOf_records cidr r)

variable (fw : Firewall)

theorem nodup_names_iff :
    (fw.rules.flatMap (fun r => List.replicate (r.timesListed cidr) r.name)).Nodup
      ↔ ∀ r ∈ fw.rules, r.timesListed cidr ≤ 1 := by
  rw [List.nodup_flatMap]
  simp only [List.nodup_replicate]
  refine ⟨fun h => h.1, fun h => ⟨h, ?_⟩⟩
  have hpairs : fw.rules.Pairwise (fun r r' => r.name ≠ r'.name) := List.pairwise_map.mp fw.nodup
  refine hpairs.imp (fun hne name hname hname' => hne ?_)
  rw [← (List.mem_replicate.mp hname).2, ← (List.mem_replicate.mp hname').2]

/-- Which rules are deleted. -/
theorem mem_names_iff (r : FirewallRule) (hr : r ∈ fw.rules) :
    r.name ∈ fw.rules.flatMap (fun r => List.replicate (r.timesListed cidr) r.name)
      ↔ r.timesListed cidr ≠ 0 := by
  rw [List.mem_flatMap]
  simp only [List.mem_replicate]
  constructor
  · rintro ⟨r', hr', hlisted, hname⟩
    have hsame : r = r' := List.inj_on_of_nodup_map fw.nodup hr hr' hname
    rw [hsame]
    exact hlisted
  · exact fun h => ⟨r, hr, h, rfl⟩

/-- A rule that lets the address in has a record of it. -/
theorem timesListed_of_admits (r : FirewallRule) (port : Nat) (h : r.Admits cidr port) :
    r.timesListed cidr ≠ 0 := by
  rcases h with ⟨hcidr, ports, hports, p, hp, _⟩
  have hcount : 0 < r.cidrs.count cidr := List.count_pos_iff.mpr hcidr
  have hlength : 0 < (specsOf ports).length := List.length_pos_of_mem hp
  have hsum : (specsOf ports).length ≤ (r.allowed.map (fun ports => (specsOf ports).length)).sum :=
    List.single_le_sum (fun _ _ => Nat.zero_le _) _
      (List.mem_map.mpr ⟨ports, hports, rfl⟩)
  have hpos : 0 < r.cidrs.count cidr * (r.allowed.map (fun ports => (specsOf ports).length)).sum :=
    Nat.mul_pos hcount (by omega)
  rw [FirewallRule.timesListed]
  omega

/-- When an address is taken away. -/
theorem revokeAccess_ok_iff (rec : SecurityRecord) (p : Project) :
    revokeAccess rec ⟨fw, []⟩ = (.ok (), p)
      ↔ (∀ r ∈ fw.rules, r.allowed ≠ [] → r.sourceRanges ≠ none)
        ∧ (∀ r ∈ fw.rules, r.timesListed rec.cidr ≤ 1)
        ∧ p = ⟨fw.without
            (fw.rules.flatMap (fun r => List.replicate (r.timesListed rec.cidr) r.name)),
          fw.rules.flatMap (fun r => List.replicate (r.timesListed rec.cidr) r.name)⟩ := by
  have hthere : ∀ name ∈ fw.rules.flatMap
      (fun r => List.replicate (r.timesListed rec.cidr) r.name),
      name ∈ fw.rules.map FirewallRule.name := by
    intro name hname
    rcases List.mem_flatMap.mp hname with ⟨r, hr, hname⟩
    exact List.mem_map.mpr ⟨r, hr, (List.mem_replicate.mp hname).2.symm⟩
  unfold revokeAccess
  rw [bind_ok_iff]
  simp only [ofExcept_ok_iff, listSecurityAccess_ok_iff]
  constructor
  · rintro ⟨l, _, ⟨⟨hlisted, rfl⟩, rfl⟩, h⟩
    rw [revokeEach_eq, namesOf_rules, deleteEach_ok_iff, nodup_names_iff] at h
    exact ⟨hlisted, h.1, h.2.2⟩
  · rintro ⟨hlisted, honce, hp⟩
    refine ⟨_, _, ⟨⟨hlisted, rfl⟩, rfl⟩, ?_⟩
    rw [revokeEach_eq, namesOf_rules, deleteEach_ok_iff, nodup_names_iff]
    exact ⟨honce, hthere, hp⟩

end Names

section Main

variable (fw : Firewall) (ip : String)

end Main

section Shared

/-- A rule for two offices. -/
def officesRule : FirewallRule :=
  ⟨"xbench-abc", some ["192.240.149.2/32", "10.0.0.0/8"], [some [.single 22]]⟩

theorem nodup_offices : ([officesRule].map FirewallRule.name).Nodup := by
  decide

def offices : Firewall :=
  ⟨[officesRule], nodup_offices⟩

end Shared

end Gcp

end Xbench
