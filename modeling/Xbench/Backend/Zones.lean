import Xbench.Cloud.Types
import Xbench.Lib.Numbering

/-!
# Zones of an Xpand Cluster

An Xpand cluster keeps its replicas in different zones. `set_zones` tells it
which node is where: a zone is an environment with one of its zones, the zones
are numbered in the order the nodes name them, and every node is given the
number of its own.

The loop knows a zone by a text, the name of the environment followed by the
name of the zone, and two zones may have the same text. Then they get one
number. `zones_one_to_one_iff` says that nothing else goes wrong: the numbers
are right exactly when no two zones of the list share their text.

What the server answers is a parameter. Its node table may change with every
statement.

## Main definitions

* `XpandServer`: The server's answers.
* `Statement`: What is executed.
* `zoneUniqueStr`: The text of a node's zone.
* `xpandZones`: The numbers of the texts.
* `setZones`: Giving the nodes their numbers.
* `Serves`: The server knows the nodes and takes the statements.
* `OneToOne`: The statements give every zone its own number.

## Theorems

* `alterZones_trace`: What the loop over the nodes executes.
* `setZones_trace`: What is executed for a list of nodes.
* `zones_one_to_one_iff`: When the numbers are right.
-/

namespace Xbench

namespace Zones

open Effect

inductive XpandExn where
  | xpand (message : String)
  | attribute (message : String)
  | database (message : String)
deriving DecidableEq

/-- A row of `system.nodeinfo`. -/
structure NodeInfo where
  nodeid : Int
  beIp : String
deriving DecidableEq

/-- What the server answers after some number of statements. -/
structure XpandServer where
  nodeinfo : Nat → Except XpandExn (List NodeInfo)
  execute : Nat → String → Except XpandExn Unit

/-- The statements of `set_zones`. A text without a number is written `None`. -/
inductive Statement where
  | alterZone (nodeid : Int) (zone : Option Nat)
  | reform
deriving DecidableEq

def Statement.query : Statement → String
  | .alterZone nodeid (some zone) =>
      "ALTER CLUSTER " ++ toString nodeid ++ " ZONE " ++ toString zone
  | .alterZone nodeid none => "ALTER CLUSTER " ++ toString nodeid ++ " ZONE None"
  | .reform => "alter cluster reform"

def Statement.isAlterZone : Statement → Bool
  | .alterZone _ _ => true
  | .reform => false

/-- An environment with one of its zones. -/
def zonePair (n : Node) : String × String :=
  (n.vm.env, n.vm.zone)

/-- `zone_unique_str`. -/
def zoneUniqueStr (n : Node) : String :=
  n.vm.env ++ n.vm.zone

/-- `xpand_zones`. -/
def xpandZones (nodes : List Node) : Dict String Nat :=
  (numberAll (nodes.map zoneUniqueStr)).1

variable (server : XpandServer)

def getZoneInfo (done : Nat) : Effect Statement XpandExn (List NodeInfo) :=
  ofExcept (server.nodeinfo done)

/-- `get_nodeid_by_ip`. -/
def getNodeidByIp (done : Nat) (ip : String) : Effect Statement XpandExn Int := do
  let zoneInfo ← getZoneInfo server done
  match zoneInfo.find? (fun n => n.beIp == ip) with
  | some n => pure n.nodeid
  | none => raise (.xpand ("Node with " ++ ip ++ " was not found in the cluster"))

/-- `execute`: the statement has reached the server when it fails. -/
def execute (done : Nat) (statement : Statement) : Effect Statement XpandExn Unit := do
  tell statement
  ofExcept (server.execute done statement.query)

/-- `n.vm.network.get_private_iface()`. -/
def getPrivateIface (n : Node) : Except XpandExn String :=
  match n.vm.network with
  | some network => .ok network.privateIp
  | none => .error
      (.attribute "'NoneType' object has no attribute 'get_private_iface'")

/-- The second loop, after some number of statements. -/
def alterZones (zones : Dict String Nat) : Nat → List Node → Effect Statement XpandExn Unit
  | _, [] => pure ()
  | done, n :: nodes => do
      let ip ← ofExcept (getPrivateIface n)
      let nodeid ← getNodeidByIp server done ip
      execute server done (.alterZone nodeid (zones.get? (zoneUniqueStr n)))
      alterZones zones (done + 1) nodes

/-- `set_zones`. -/
def setZones (nodes : List Node) : Effect Statement XpandExn Unit :=
  let zones := xpandZones nodes
  if 1 < zones.entries.length then do
    alterZones server zones 0 nodes
    execute server nodes.length .reform
    let _ ← getZoneInfo server (nodes.length + 1)
    pure ()
  else pure ()

/-- A server that takes every statement and always knows the nodes by their
    addresses, under the same identifiers. -/
structure Serves (nodes : List Node) (nodeid : Node → Int) : Prop where
  executes : ∀ done query, server.execute done query = .ok ()
  knows : ∀ n ∈ nodes, ∀ done, ∃ network rows row, n.vm.network = some network
    ∧ server.nodeinfo done = .ok rows
    ∧ rows.find? (fun r => r.beIp == network.privateIp) = some row ∧ row.nodeid = nodeid n

/-- The statements are right: none for a single zone, and for more than one an
    `ALTER CLUSTER ... ZONE` for each node in turn, with numbers that are equal
    for the nodes of one zone only and are the first ones in the order in which
    the zones occur. -/
structure OneToOne (nodeid : Node → Int) (nodes : List Node) (statements : List Statement) :
    Prop where
  single : (nodes.map zonePair).eraseDups.length = 1 → statements = []
  several : 1 < (nodes.map zonePair).eraseDups.length → ∃ zone : Node → Nat,
    statements.filter Statement.isAlterZone
        = nodes.map (fun n => .alterZone (nodeid n) (some (zone n)))
      ∧ (∀ m ∈ nodes, ∀ n ∈ nodes, zone m = zone n ↔ zonePair m = zonePair n)
      ∧ (nodes.map zone).eraseDups
          = List.range' 1 (nodes.map zonePair).eraseDups.length

/-- No two zones of the list have the same text. -/
def TextsApart (nodes : List Node) : Prop :=
  ∀ m ∈ nodes, ∀ n ∈ nodes, zoneUniqueStr m = zoneUniqueStr n → zonePair m = zonePair n

instance (nodes : List Node) : Decidable (TextsApart nodes) :=
  inferInstanceAs (Decidable (∀ m ∈ nodes, ∀ n ∈ nodes,
    zoneUniqueStr m = zoneUniqueStr n → zonePair m = zonePair n))

section Trace

variable (nodeid : Node → Int)

/-- What the loop over the nodes executes, node by node. -/
theorem alterZones_trace (zones : Dict String Nat) (done : Nat) (nodes : List Node)
    (h : Serves server nodes nodeid) :
    alterZones server zones done nodes
      = ⟨nodes.map (fun n => .alterZone (nodeid n) (zones.get? (zoneUniqueStr n))), .ok ()⟩ := by
  induction nodes generalizing done with
  | nil => rfl
  | cons n nodes ih =>
      have hrest : Serves server nodes nodeid :=
        ⟨h.executes, fun m hm => h.knows m (List.mem_cons_of_mem n hm)⟩
      rcases h.knows n List.mem_cons_self done with ⟨network, rows, row, hnet, hrows, hrow, hid⟩
      have hip : getPrivateIface n = .ok network.privateIp := by rw [getPrivateIface, hnet]
      have hnode : getNodeidByIp server done network.privateIp = pure (nodeid n) := by
        rw [getNodeidByIp, getZoneInfo, hrows, ← hid]
        rw [bind_ok _ _ rows rfl, hrow]
        rfl
      have hexec : ∀ statement, execute server done statement = tell statement := by
        intro statement
        rw [execute, h.executes]
        rfl
      rw [alterZones, hip, bind_ok _ _ network.privateIp rfl, hnode, Effect.pure_bind, hexec,
        ih (done + 1) hrest]
      rfl

/-- What is executed for a list of nodes. -/
theorem setZones_trace (nodes : List Node) (h : Serves server nodes nodeid) :
    (setZones server nodes).trace
      = if 1 < (nodes.map zoneUniqueStr).eraseDups.length
        then nodes.map (fun n => .alterZone (nodeid n)
          (some ((nodes.map zoneUniqueStr).eraseDups.idxOf (zoneUniqueStr n) + 1))) ++ [.reform]
        else [] := by
  have hlen : (xpandZones nodes).entries.length = (nodes.map zoneUniqueStr).eraseDups.length :=
    numbers_length (nodes.map zoneUniqueStr)
  rw [setZones, hlen]
  by_cases hmore : 1 < (nodes.map zoneUniqueStr).eraseDups.length
  · rw [if_pos hmore, if_pos hmore, alterZones_trace server nodeid (xpandZones nodes) 0 nodes h]
    have hnumbers : nodes.map (fun n => Statement.alterZone (nodeid n)
        ((xpandZones nodes).get? (zoneUniqueStr n)))
        = nodes.map (fun n => .alterZone (nodeid n)
          (some ((nodes.map zoneUniqueStr).eraseDups.idxOf (zoneUniqueStr n) + 1))) := by
      refine List.map_congr_left (fun n hn => ?_)
      rw [xpandZones, numbers_get? _ _ (List.mem_map_of_mem hn)]
    have hreform : execute server nodes.length Statement.reform = tell Statement.reform := by
      rw [execute, h.executes]
      rfl
    rw [hnumbers, hreform, bind_ok _ _ () rfl, tell_bind]
    have hinfo := trace_bind_ofExcept (getZoneInfo server (nodes.length + 1))
      (fun _ => (.ok () : Except XpandExn Unit))
    exact congrArg (fun t => _ ++ (Statement.reform :: t)) hinfo
  · rw [if_neg hmore, if_neg hmore]
    rfl

theorem filter_alterZones (f : Node → Option Nat) (nodes : List Node) :
    (nodes.map (fun n => Statement.alterZone (nodeid n) (f n)) ++ [Statement.reform]).filter
        Statement.isAlterZone
      = nodes.map (fun n => .alterZone (nodeid n) (f n)) := by
  rw [List.filter_append]
  have hkeep : (nodes.map (fun n => Statement.alterZone (nodeid n) (f n))).filter
      Statement.isAlterZone = nodes.map (fun n => .alterZone (nodeid n) (f n)) := by
    refine List.filter_eq_self.mpr (fun statement hs => ?_)
    rcases List.mem_map.mp hs with ⟨n, _, rfl⟩
    rfl
  rw [hkeep]
  exact List.append_nil _

/-- A zone has its text. -/
theorem zoneUniqueStr_of_pair (m n : Node) (h : zonePair m = zonePair n) :
    zoneUniqueStr m = zoneUniqueStr n := by
  rcases Prod.mk.inj h with ⟨henv, hzone⟩
  rw [zoneUniqueStr, zoneUniqueStr, henv, hzone]

/-- With texts apart there are as many texts as zones. -/
theorem distinct_texts (nodes : List Node) (h : TextsApart nodes) :
    (nodes.map zoneUniqueStr).eraseDups
      = (nodes.map zonePair).eraseDups.map (fun p => p.1 ++ p.2) := by
  have hmap : nodes.map zoneUniqueStr = (nodes.map zonePair).map (fun p => p.1 ++ p.2) := by
    rw [List.map_map]
    rfl
  rw [hmap]
  refine eraseDups_map_of_injOn (fun p : String × String => p.1 ++ p.2) _
    (fun p hp q hq hpq => ?_)
  rcases List.mem_map.mp hp with ⟨m, hm, rfl⟩
  rcases List.mem_map.mp hq with ⟨n, hn, rfl⟩
  exact h m hm n hn hpq

end Trace

end Zones

open Zones

/-- The zones are numbered one to one exactly when no two zones of the list
    have the same text. -/
theorem zones_one_to_one_iff (server : XpandServer) (nodes : List Node) (nodeid : Node → Int)
    (h : Serves server nodes nodeid) :
    OneToOne nodeid nodes (setZones server nodes).trace ↔ TextsApart nodes := by
  rw [setZones_trace server nodeid nodes h]
  have hplace : ∀ m ∈ nodes, ∀ n,
      (nodes.map zoneUniqueStr).eraseDups.idxOf (zoneUniqueStr m) + 1
          = (nodes.map zoneUniqueStr).eraseDups.idxOf (zoneUniqueStr n) + 1
        ↔ zoneUniqueStr m = zoneUniqueStr n := by
    intro m hm n
    rw [Nat.add_right_cancel_iff]
    exact List.idxOf_inj (List.mem_eraseDups.mpr (List.mem_map_of_mem hm))
  constructor
  · intro hone m hm n hn htext
    by_contra hpair
    -- Two zones with one text: there is more than one zone, so numbers are due.
    have hmore : 1 < (nodes.map zonePair).eraseDups.length := by
      have hm' := List.mem_eraseDups.mpr (List.mem_map_of_mem (f := zonePair) hm)
      have hn' := List.mem_eraseDups.mpr (List.mem_map_of_mem (f := zonePair) hn)
      by_contra hle
      rcases List.getElem_of_mem hm' with ⟨i, hi, hmi⟩
      rcases List.getElem_of_mem hn' with ⟨j, hj, hnj⟩
      have hij : i = j := by omega
      subst hij
      exact hpair (hmi.symm.trans hnj)
    rcases hone.several hmore with ⟨zone, halter, hsame, -⟩
    by_cases htexts : 1 < (nodes.map zoneUniqueStr).eraseDups.length
    · rw [if_pos htexts, filter_alterZones nodeid
        (fun n => some ((nodes.map zoneUniqueStr).eraseDups.idxOf (zoneUniqueStr n) + 1))] at halter
      have hzone : ∀ k ∈ nodes,
          (nodes.map zoneUniqueStr).eraseDups.idxOf (zoneUniqueStr k) + 1 = zone k := by
        intro k hk
        have heq := List.map_inj_left.mp halter k hk
        simpa using heq
      refine hpair ((hsame m hm n hn).mp ?_)
      rw [← hzone m hm, ← hzone n hn, htext]
    · rw [if_neg htexts] at halter
      have hnil : nodes = [] := List.map_eq_nil_iff.mp halter.symm
      rw [hnil] at hm
      exact absurd hm List.not_mem_nil
  · intro hapart
    have htexts := distinct_texts nodes hapart
    have hlen : (nodes.map zoneUniqueStr).eraseDups.length
        = (nodes.map zonePair).eraseDups.length := by rw [htexts, List.length_map]
    refine ⟨fun hsingle => if_neg (by omega), fun hmore => ?_⟩
    refine ⟨fun n => (nodes.map zoneUniqueStr).eraseDups.idxOf (zoneUniqueStr n) + 1,
      ?_, ?_, ?_⟩
    · rw [if_pos (by omega)]
      exact filter_alterZones nodeid _ nodes
    · intro m hm n hn
      rw [hplace m hm n]
      exact ⟨hapart m hm n hn, zoneUniqueStr_of_pair m n⟩
    · have hplaces := eraseDups_places (nodes.map zoneUniqueStr)
      rw [List.map_map, hlen] at hplaces
      exact hplaces

namespace Zones

/-- A node of an environment in a zone, at an address. -/
def zoneNode (env zone ip : String) : Node where
  vm := {
    env, cloud := "aws", clusterName := "xpand0", name := ip, role := "backend"
    klass := "AwsEc2", klassConfigLabel := "", instanceType := "c5d.4xlarge"
    zone, osType := "CentOS7", managed := true, provisioned := true, arch := "x86_64"
    keyFile := "", pubFile := "", storage := none, storageList := []
    network := some ⟨"public_cloud", ip, ip, false⟩, placementGroup := none, id := none
    sshUser := "centos" }

/-- The zones `1a` of `env_1` and `a` of `env_11`. -/
def sameText : List Node :=
  [zoneNode "env_1" "1a" "10.0.0.1", zoneNode "env_11" "a" "10.0.0.2"]

/-- The zones `us-west-2a` of two environments, the first with two nodes. -/
def twoEnvs : List Node :=
  [zoneNode "env_0" "us-west-2a" "10.0.0.1", zoneNode "env_0" "us-west-2a" "10.0.0.2",
    zoneNode "env_1" "us-west-2a" "10.0.0.3"]

/-- A server that knows three nodes and takes every statement. -/
def idleServer : XpandServer where
  nodeinfo := fun _ => .ok [⟨1, "10.0.0.1"⟩, ⟨2, "10.0.0.2"⟩, ⟨3, "10.0.0.3"⟩]
  execute := fun _ _ => .ok ()

/-- The identifier the server has for a node. -/
def idleId (n : Node) : Int :=
  if n.vm.name = "10.0.0.1" then 1 else if n.vm.name = "10.0.0.2" then 2 else 3

end Zones

/-- Two zones of different environments with one text: no statement at all. -/
theorem zones_share_a_text : ¬ OneToOne idleId sameText (setZones idleServer sameText).trace := by
  intro h
  rcases h.several (by decide) with ⟨zone, halter, -⟩
  have hnone : (setZones idleServer sameText).trace = [] := by decide
  rw [hnone] at halter
  cases halter

theorem two_envs_one_to_one : OneToOne idleId twoEnvs (setZones idleServer twoEnvs).trace := by
  refine (zones_one_to_one_iff idleServer twoEnvs idleId ⟨fun _ _ => rfl, ?_⟩).mpr (by decide)
  intro n hn done
  simp only [twoEnvs, List.mem_cons, List.not_mem_nil, or_false] at hn
  rcases hn with rfl | rfl | rfl
  · exact ⟨_, _, ⟨1, "10.0.0.1"⟩, rfl, rfl, by decide, by decide⟩
  · exact ⟨_, _, ⟨2, "10.0.0.2"⟩, rfl, rfl, by decide, by decide⟩
  · exact ⟨_, _, ⟨3, "10.0.0.3"⟩, rfl, rfl, by decide, by decide⟩

end Xbench
