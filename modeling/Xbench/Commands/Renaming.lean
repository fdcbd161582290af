import Mathlib.Logic.Function.Basic
import Xbench.Commands.Membership

/-!
# Renaming a Topology

`configure` rewrites the tree while it walks over it. The nodes are listed
first, level by level and without those called `cluster`; then each is read,
looked up in the table under the name it has at that moment, and given the
names of its instances.

The nodes are objects, so the tree here is one of node identities and the names
are kept beside it. The walk meets no node twice, hence it reads every name
before it has been written, and the table only grows, hence every occurrence of
a component is written alike. `renameNodes_run` puts the two together: the walk
leaves the tree that is renamed by the finished table.

What it writes is known beforehand for a topology whose components have been
given counts. `configure_renames` is that statement, with the instance names of
different components apart, since the digits after the last hyphen tell the
number and what stands before it the component.

## Main definitions

* `Tree.shape`: A tree without its names.
* `renameNode`: One turn of the walk.
* `renameNodes`: The walk.
* `written`: The names after the walk.
* `Assigned`: Counts for the components of a topology.
* `instancesOf`: The name a component ends up with.
* `Faithful`: The renaming does what it is for.

## Theorems

* `renameNodes_run`: The walk leaves the tree the table renames.
* `identified`: The nodes of every tree can be told apart.
* `configured_ok`: With counts, configuring succeeds.
* `configure_renames`: The tree is renamed faithfully.
-/

namespace Xbench

open Effect
open Text

section Shape

variable {α β : Type}

/-- A tree without its names. -/
def Tree.shape (t : Tree α) : Tree Unit :=
  t.map (fun _ => ())

theorem shape_map (f : α → β) (t : Tree α) : (t.map f).shape = t.shape :=
  map_comp f _ t

end Shape

section Identities

variable {α : Type} [Nonempty α]

/-- Names for the nodes below `m` from one table and for the others from
    another. -/
def glue (m : Nat) (names names' : Nat → α) (i : Nat) : α :=
  if i < m then names i else names' i

mutual

/-- The nodes of every tree can be told apart: there are fresh identities for
    them, and a table with their names. -/
theorem identified_from (t : Tree α) (n : Nat) :
    ∃ (ids : Tree Nat) (names : Nat → α) (m : Nat), ids.names.Nodup
      ∧ (∀ i ∈ ids.names, n ≤ i ∧ i < m) ∧ n ≤ m ∧ ids.map names = t := by
  cases t with
  | node name children =>
      rcases identifiedTrees_from children (n + 1) with
        ⟨ids, names, m, hnodup, hbounds, hle, hmap⟩
      have hnames : (Tree.node n ids).names = n :: (levelsOf ids).flatten := rfl
      refine ⟨.node n ids, glue (n + 1) (fun _ => name) names, m, ?_, ?_, by omega, ?_⟩
      · rw [hnames, List.nodup_cons]
        refine ⟨fun hmem => ?_, hnodup⟩
        have hlow := (hbounds n hmem).1
        omega
      · intro i hi
        rw [hnames, List.mem_cons] at hi
        rcases hi with rfl | hi
        · omega
        · have hi := hbounds i hi
          omega
      · have hroot : glue (n + 1) (fun _ => name) names n = name := if_pos (by omega)
        rw [Tree.map, hroot, ← hmap]
        congr 1
        refine mapTrees_congr _ _ ids (fun i hi => if_neg ?_)
        have hlow := (hbounds i hi).1
        omega

theorem identifiedTrees_from (ts : List (Tree α)) (n : Nat) :
    ∃ (ids : List (Tree Nat)) (names : Nat → α) (m : Nat), (levelsOf ids).flatten.Nodup
      ∧ (∀ i ∈ (levelsOf ids).flatten, n ≤ i ∧ i < m) ∧ n ≤ m ∧ mapTrees names ids = ts := by
  cases ts with
  | nil =>
      rcases ‹Nonempty α› with ⟨a⟩
      exact ⟨[], fun _ => a, n, List.nodup_nil, fun i hi => absurd hi List.not_mem_nil,
        Nat.le_refl n, rfl⟩
  | cons t ts =>
      -- the numbers of the first tree end where those of the others begin
      rcases identified_from t n with ⟨ids, names, m, hnodup, hbounds, hle, hmap⟩
      rcases identifiedTrees_from ts m with ⟨ids', names', m', hnodup', hbounds', hle', hmap'⟩
      have hperm := beside_perm ids.levels (levelsOf ids')
      refine ⟨ids :: ids', glue m names names', m', ?_, ?_, by omega, ?_⟩
      · rw [levelsOf, hperm.nodup_iff, List.nodup_append]
        refine ⟨hnodup, hnodup', fun i hi j hj hij => ?_⟩
        have hi := (hbounds i hi).2
        have hj := (hbounds' j hj).1
        omega
      · intro i hi
        rw [levelsOf, mem_beside] at hi
        rcases hi with hi | hi
        · have hi := hbounds i hi
          omega
        · have hi := hbounds' i hi
          omega
      · rw [mapTrees, ← hmap, ← hmap']
        congr 1
        · exact map_congr _ _ ids (fun i hi => if_pos (hbounds i hi).2)
        · refine mapTrees_congr _ _ ids' (fun i hi => if_neg ?_)
          have hlow := (hbounds' i hi).1
          omega

end

/-- The nodes of every tree can be told apart. -/
theorem identified (t : Tree α) :
    ∃ (ids : Tree Nat) (names : Nat → α), ids.names.Nodup ∧ ids.map names = t := by
  rcases identified_from t 0 with ⟨ids, names, _, hnodup, _, _, hmap⟩
  exact ⟨ids, names, hnodup, hmap⟩

end Identities

section Walk

variable {ι : Type} [DecidableEq ι] (self : Provisioning)

/-- One turn of the walk over the nodes: the names of the nodes and the table,
    before and after. -/
def Provisioning.renameNode (self : Provisioning)
    (state : (ι → Value) × Dict String String) (node : ι) :
    Except Exn ((ι → Value) × Dict String String) :=
  match state.1 node with
  | .str component =>
      match state.2.get? component with
      | some joined => .ok (Function.update state.1 node (.str joined), state.2)
      | none => do
          let params ← self.getComponentParams component
          let joined ← instanceNames component params
          .ok (Function.update state.1 node (.str joined), state.2.set component joined)
  | .list _ => .error ⟨.typeError, "unhashable type: 'list'"⟩
  | .dict _ => .error ⟨.typeError, "unhashable type: 'dict'"⟩
  | v => .error ⟨.xbench, "Component " ++ v.text ++ " was not found"⟩

/-- A name that is left out of the list of nodes. -/
def isRoot : Value → Bool
  | .str name => decide (name = rootName)
  | _ => false

/-- `level_order_cluster_members`: the nodes that are not called like the
    root. -/
def levelOrderClusterMembers (ids : Tree ι) (names : ι → Value) : List ι :=
  ids.names.filter (fun node => !isRoot (names node))

/-- The walk of `configure` over the tree it has built. -/
def Provisioning.renameNodes (self : Provisioning) (ids : Tree ι) (names : ι → Value) :
    Except Exn ((ι → Value) × Dict String String) :=
  (levelOrderClusterMembers ids names).foldlM self.renameNode (names, Dict.empty)

/-- The names after some nodes have been met: what the table says, and what it
    was for the others. -/
def written (nodes : List ι) (hash : Dict String String) (names : ι → Value) (node : ι) : Value :=
  if node ∈ nodes then .str (renamed hash (names node)) else names node

theorem written_cons (node : ι) (nodes : List ι) (hash : Dict String String) (names : ι → Value)
    (hnode : node ∉ nodes) :
    written (node :: nodes) hash names
      = written nodes hash (Function.update names node (.str (renamed hash (names node)))) := by
  funext i
  unfold written
  by_cases hi : i = node
  · subst hi
    rw [if_pos List.mem_cons_self, if_neg hnode, Function.update_self]
  · rw [Function.update_of_ne hi]
    by_cases hmem : i ∈ nodes
    · rw [if_pos hmem, if_pos (List.mem_cons_of_mem node hmem)]
    · rw [if_neg hmem, if_neg (fun h => (List.mem_cons.mp h).elim hi hmem)]

/-- A node called like the root is not touched, and renaming would leave it. -/
theorem update_root (names : ι → Value) (hash : Dict String String) (node : ι)
    (hroot : names node = .str rootName) :
    Function.update names node (.str (renamed hash (names node))) = names := by
  have hname : Value.str (renamed hash (names node)) = names node := by
    rw [hroot, renamed, Value.text, if_pos rfl]
  rw [hname, Function.update_eq_self]

/-- One turn, on a node that has not been met: it is what the table records of
    it, and the node gets the name that the table then has. -/
theorem renameNode_eq (names : ι → Value) (hash : Dict String String) (node : ι)
    (hroot : isRoot (names node) = false) :
    self.renameNode (names, hash) node
      = (self.configureNode hash (names node)).map (fun hash' =>
          (Function.update names node (.str (renamed hash' (names node))), hash')) := by
  unfold Provisioning.renameNode Provisioning.configureNode
  cases hname : names node with
  | str component =>
      have hne : component ≠ rootName := by
        rw [hname, isRoot, decide_eq_false_iff_not] at hroot
        exact hroot
      dsimp only
      rw [if_neg hne, hname]
      dsimp only
      -- the name has been joined before, or is joined now
      cases hget : hash.get? component with
      | some joined =>
          have hjoined : renamed hash (.str component) = joined := by
            rw [renamed, Value.text, if_neg hne, hget, Option.getD_some]
          change _ = Except.ok (_, _)
          rw [hjoined]
      | none =>
          dsimp only
          cases self.getComponentParams component with
          | error e => rfl
          | ok params =>
              change (instanceNames component params >>= _)
                = Except.map _ (instanceNames component params >>= _)
              cases instanceNames component params with
              | error e => rfl
              | ok joined =>
                  have hjoined : renamed (hash.set component joined) (.str component) = joined := by
                    rw [renamed, Value.text, if_neg hne, Dict.get?_set_self, Option.getD_some]
                  change _ = Except.ok (_, _)
                  rw [hjoined]
                  rfl
  | _ => simp only [hname]; rfl

/-- A component in the table is renamed alike ever after. -/
theorem renamed_grows (names : List Value) (hash hash₁ hash' : Dict String String) (name : Value)
    (hstep : self.configureNode hash name = .ok hash₁)
    (hrest : names.foldlM self.configureNode hash₁ = .ok hash') :
    renamed hash₁ name = renamed hash' name := by
  have hgrows := (renames_fold self names hash₁ hash' hrest).grows
  rcases configureNode_cases self hash hash₁ name hstep with ⟨component, rfl, hcases⟩
  by_cases hroot : component = rootName
  · rw [renamed, renamed, Value.text, if_pos hroot, if_pos hroot]
  · -- the turn leaves the component in the table
    have hin : ∃ joined, hash₁.get? component = some joined := by
      rcases hcases with ⟨rfl, hseen⟩ | ⟨joined, _, rfl, _⟩
      · rw [or_iff_right hroot, Dict.mem_keys_iff, Option.isSome_iff_exists] at hseen
        exact hseen
      · exact ⟨joined, Dict.get?_set_self hash component joined⟩
    rcases hin with ⟨joined, hjoined⟩
    rw [renamed, renamed, Value.text, hjoined, hgrows component joined hjoined]

/-- The invariant of the walk: the nodes still to come have the names they
    came with, so it goes as the table alone goes. -/
theorem renameNodes_fold (nodes : List ι) (hnodup : nodes.Nodup) (names : ι → Value)
    (hash : Dict String String) :
    (nodes.filter (fun node => !isRoot (names node))).foldlM self.renameNode (names, hash)
      = ((nodes.map names).foldlM self.configureNode hash).map
          (fun hash' => (written nodes hash' names, hash')) := by
  induction nodes generalizing names hash with
  | nil => rfl
  | cons node nodes ih =>
      rcases List.nodup_cons.mp hnodup with ⟨hnode, hnodup⟩
      rw [List.map_cons, List.foldlM_cons]
      cases hroot : isRoot (names node) with
      | true =>
          have hname : names node = .str rootName := by
            cases hn : names node with
            | str s =>
                rw [hn, isRoot, decide_eq_true_iff] at hroot
                rw [hroot]
            | _ => rw [hn] at hroot; exact nomatch hroot
          have hskip : self.configureNode hash (names node) = .ok hash := by
            rw [hname, Provisioning.configureNode, if_pos rfl]
          rw [List.filter_cons_of_neg (by rw [hroot]; decide), ih hnodup, hskip]
          change _ = Except.map _ ((nodes.map names).foldlM self.configureNode hash)
          cases (nodes.map names).foldlM self.configureNode hash with
          | error e => rfl
          | ok hash' =>
              have hwritten : written nodes hash' names = written (node :: nodes) hash' names := by
                rw [written_cons node nodes hash' names hnode, update_root names hash' node hname]
              exact congrArg (fun w => Except.ok (w, hash')) hwritten
      | false =>
          rw [List.filter_cons_of_pos (by rw [hroot]; rfl), List.foldlM_cons,
            renameNode_eq self names hash node hroot]
          cases hstep : self.configureNode hash (names node) with
          | error e => rfl
          | ok hash₁ =>
              let names₁ := Function.update names node (.str (renamed hash₁ (names node)))
              -- the other nodes are not written
              have hsame : ∀ i ∈ nodes, names₁ i = names i := fun i hi =>
                Function.update_of_ne (ne_of_mem_of_not_mem hi hnode) _ names
              have hfilter : nodes.filter (fun node => !isRoot (names node))
                  = nodes.filter (fun node => !isRoot (names₁ node)) :=
                List.filter_congr (fun i hi => by rw [hsame i hi])
              have hmap : nodes.map names = nodes.map names₁ :=
                List.map_congr_left (fun i hi => (hsame i hi).symm)
              change (nodes.filter (fun node => !isRoot (names node))).foldlM self.renameNode
                  (names₁, hash₁)
                = Except.map _ ((nodes.map names).foldlM self.configureNode hash₁)
              cases hrest : (nodes.map names).foldlM self.configureNode hash₁ with
              | error e => rw [hfilter, ih hnodup names₁ hash₁, ← hmap, hrest]; rfl
              | ok hash' =>
                  rw [hfilter, ih hnodup names₁ hash₁, ← hmap, hrest]
                  have hwritten : written nodes hash' names₁
                      = written (node :: nodes) hash' names := by
                    rw [written_cons node nodes hash' names hnode,
                      ← renamed_grows self _ hash hash₁ hash' (names node) hstep hrest]
                  exact congrArg (fun w => Except.ok (w, hash')) hwritten

/-- The walk leaves the tree that is renamed by the finished table, and it
    fails where making the table fails. -/
theorem renameNodes_run (ids : Tree ι) (names : ι → Value) (hnodup : ids.names.Nodup) :
    self.renameNodes ids names
      = ((ids.map names).names.foldlM self.configureNode Dict.empty).map
          (fun hash => (written ids.names hash names, hash)) := by
  rw [names_map]
  exact renameNodes_fold self ids.names hnodup names Dict.empty

theorem map_written (ids : Tree ι) (names : ι → Value) (hash : Dict String String) :
    ids.map (written ids.names hash names)
      = ((ids.map names).map (renamed hash)).map Value.str := by
  rw [map_comp, map_comp]
  exact map_congr _ _ ids (fun i hi => if_pos hi)

end Walk

section Faithful

/-- Counts for the components of a topology: its nodes are called by
    components, and the parameters of each of them, which are there, say its
    count. -/
structure Assigned (p : Provisioning) (topo : Value) (counts : String → Nat) : Prop where
  named : ∀ v ∈ below (buildTreeFromDict topo),
    ∃ component, v = .str component ∧ component ≠ rootName ∧ ',' ∉ component.toList
  found : ∀ component, Value.str component ∈ below (buildTreeFromDict topo) →
    ∃ env ∈ p.envs, describes env component = true
  count : ∀ component params, Value.str component ∈ below (buildTreeFromDict topo) →
    p.getComponentParams component = .ok params →
    pyInt (params.read "count") = .ok (counts component : Int)
  positive : ∀ component, Value.str component ∈ below (buildTreeFromDict topo) →
    1 ≤ counts component

/-- The name a component ends up with, wherever it stands. -/
def instancesOf (counts : String → Nat) : Value → String
  | .str component =>
      if component = rootName then rootName
      else join ',' (componentNames component (counts component))
  | v => v.text

/-- The renaming does what it is for. -/
structure Faithful (topo : Value) (counts : String → Nat) (c : Cluster) : Prop where
  shape : c.clusterTree.shape = (buildTreeFromDict topo).shape
  tree : c.clusterTree = (buildTreeFromDict topo).map (instancesOf counts)
  table : ∀ component joined, c.topoMap.get? component = some joined
    ↔ Value.str component ∈ below (buildTreeFromDict topo)
      ∧ joined = join ',' (componentNames component (counts component))
  names : ∀ component joined, c.topoMap.get? component = some joined →
    split ',' joined = componentNames component (counts component)
  apart : ∀ a b joined joined', c.topoMap.get? a = some joined → c.topoMap.get? b = some joined' →
    a ≠ b → (split ',' joined).Disjoint (split ',' joined')

variable (self : Provisioning) (topo : Value) (counts : String → Nat)

theorem proper_of_assigned (h : Assigned self topo counts) : Proper self topo := by
  refine ⟨fun hroot => ?_, fun component hcomponent => ?_, ?_⟩
  · rcases h.named _ hroot with ⟨component, heq, hne, _⟩
    exact hne (Value.str.inj heq).symm
  · rcases h.named _ hcomponent with ⟨component', heq, _, hcomma⟩
    rw [Value.str.inj heq]
    exact hcomma
  · intro component params count hcomponent hparams hcount
    have hcounted := h.count component params hcomponent hparams
    rw [hcounted, Except.ok.injEq] at hcount
    have hpositive := h.positive component hcomponent
    omega

/-- A component that is described somewhere is found. -/
theorem getComponentParams_of_describes (component : String)
    (h : ∃ env ∈ self.envs, describes env component = true) :
    ∃ params, self.getComponentParams component = .ok params := by
  rcases h with ⟨env, henv, hdesc⟩
  unfold Provisioning.getComponentParams
  cases hfind : self.envs.findSome? (fun env => env.getComponentParams component) with
  | some params => exact ⟨params, rfl⟩
  | none =>
      have hnone := List.findSome?_eq_none_iff.mp hfind env henv
      rw [describes, hnone] at hdesc
      cases hdesc

/-- What the table gets for a component. -/
theorem instanceNames_of_assigned (h : Assigned self topo counts) (component : String)
    (params : Params) (hcomponent : Value.str component ∈ below (buildTreeFromDict topo))
    (hparams : self.getComponentParams component = .ok params) :
    instanceNames component params
      = .ok (join ',' (componentNames component (counts component))) := by
  rw [instanceNames, h.count component params hcomponent hparams]
  change Except.ok _ = Except.ok _
  rw [Int.toNat_natCast]
  rfl

/-- The step: no node stops the walk. -/
theorem configureNode_ok (h : Assigned self topo counts) (name : Value)
    (hname : name ∈ (buildTreeFromDict topo).names) (hash : Dict String String) :
    ∃ hash', self.configureNode hash name = .ok hash' := by
  rw [names_buildTree, List.mem_cons] at hname
  rcases hname with rfl | hbelow
  · exact ⟨hash, by rw [Provisioning.configureNode, if_pos rfl]⟩
  · rcases h.named name hbelow with ⟨component, rfl, hne, _⟩
    rcases getComponentParams_of_describes self component (h.found component hbelow) with
      ⟨params, hparams⟩
    have hnames := instanceNames_of_assigned self topo counts h component params hbelow hparams
    rw [Provisioning.configureNode, if_neg hne]
    cases hash.get? component with
    | some joined => exact ⟨hash, rfl⟩
    | none =>
        dsimp only
        rw [hparams]
        change ∃ hash', (instanceNames component params >>= _) = _
        rw [hnames]
        exact ⟨_, rfl⟩

theorem foldlM_ok {α β χ : Type} (f : β → α → Except χ β) (l : List α)
    (h : ∀ a ∈ l, ∀ b, ∃ b', f b a = .ok b') (b : β) : ∃ b', l.foldlM f b = .ok b' := by
  induction l generalizing b with
  | nil => exact ⟨b, rfl⟩
  | cons a l ih =>
      rcases h a List.mem_cons_self b with ⟨b₁, hb₁⟩
      rcases ih (fun a' ha' => h a' (List.mem_cons_of_mem a ha')) b₁ with ⟨b', hb'⟩
      exact ⟨b', by rw [List.foldlM_cons, hb₁]; exact hb'⟩

/-- With counts, configuring succeeds. -/
theorem configured_ok (h : Assigned self topo counts) : ∃ c, self.configured topo = .ok c := by
  have hstep := fun name hname => configureNode_ok self topo counts h name hname
  rcases foldlM_ok self.configureNode (buildTreeFromDict topo).names hstep Dict.empty with
    ⟨hash, hhash⟩
  rw [Provisioning.configured, hhash]
  exact ⟨_, rfl⟩

/-- A component of the table is one of the topology, and its entry is known. -/
theorem table_of_assigned (h : Assigned self topo counts) (c : Cluster)
    (hconf : IsConfigured self topo c) (component joined : String) :
    c.topoMap.get? component = some joined
      ↔ Value.str component ∈ below (buildTreeFromDict topo)
        ∧ joined = join ',' (componentNames component (counts component)) := by
  have hproper := proper_of_assigned self topo counts h
  have hentry : ∀ joined, c.topoMap.get? component = some joined →
      Value.str component ∈ below (buildTreeFromDict topo)
        ∧ joined = join ',' (componentNames component (counts component)) := by
    intro joined hget
    have hbelow := (standsFor_of_configured self topo c hproper hconf component joined hget).1
    rcases hconf.table.named component joined hget with hold | ⟨_, _, params, hparams, hnames⟩
    · exact nomatch hold
    · rw [instanceNames_of_assigned self topo counts h component params hbelow hparams] at hnames
      exact ⟨hbelow, (Except.ok.inj hnames).symm⟩
  constructor
  · exact hentry joined
  · rintro ⟨hbelow, rfl⟩
    rcases below_component self topo c hproper hconf _ hbelow with
      ⟨component', joined', heq, hget, _⟩
    rw [← Value.str.inj heq] at hget
    rw [hget, (hentry joined' hget).2]

theorem faithful_of_assigned (h : Assigned self topo counts) (c : Cluster)
    (hconf : IsConfigured self topo c) : Faithful topo counts c := by
  have hproper := proper_of_assigned self topo counts h
  have htable := table_of_assigned self topo counts h c hconf
  -- the joined names are split into what they were joined of
  have hnames : ∀ component joined, c.topoMap.get? component = some joined →
      split ',' joined = componentNames component (counts component) := by
    intro component joined hget
    rcases (htable component joined).mp hget with ⟨hbelow, hentry⟩
    rcases getComponentParams_of_describes self component (h.found component hbelow) with
      ⟨params, hparams⟩
    have hcount := h.count component params hbelow hparams
    have hjoined := instanceNames_of_assigned self topo counts h component params hbelow hparams
    rw [← hentry] at hjoined
    have hsplit := split_instanceNames component joined params (counts component)
      (hproper.comma component hbelow) hcount
      (hproper.counted component params _ hbelow hparams hcount) hjoined
    rw [Int.toNat_natCast] at hsplit
    exact hsplit
  refine ⟨?_, ?_, htable, hnames, ?_⟩
  · rw [hconf.tree, shape_map]
  · rw [hconf.tree]
    refine map_congr _ _ _ (fun v hv => ?_)
    rw [names_buildTree, List.mem_cons] at hv
    -- the root keeps its name, and the others get theirs from the table
    rcases hv with rfl | hbelow
    · rfl
    · rcases below_component self topo c hproper hconf v hbelow with
        ⟨component, joined, rfl, hget, hrenamed⟩
      have hne : component ≠ rootName := fun heq => hproper.root (heq ▸ hbelow)
      rw [hrenamed, instancesOf, if_neg hne]
      exact ((htable component joined).mp hget).2
  · intro a b joined joined' ha hb hne name hname hname'
    rw [hnames a joined ha] at hname
    rw [hnames b joined' hb] at hname'
    exact hne (names_disjoint a b _ _ name hname hname')

/-- Configuring renames the tree faithfully: with no cloud of an environment
    running, it saves a cluster whose tree has the shape of the topology, with
    every occurrence of a component renamed to its instances, which the table
    records and which no other component shares. The walk that rewrites the
    nodes one after the other leaves that table and that tree. -/
theorem configure_renames (out : Outside) (hidle : self.checkNotRunning out self.envs = .ok ())
    (h : Assigned self topo counts) :
    ∃ c, self.configure out (.ok topo) = ⟨[.saveCluster c], .ok c⟩ ∧ Faithful topo counts c
      ∧ ∀ (ids : Tree Nat) (names : Nat → Value), ids.names.Nodup →
        ids.map names = buildTreeFromDict topo →
        ∃ names', self.renameNodes ids names = .ok (names', c.topoMap)
          ∧ ids.map names' = c.clusterTree.map Value.str := by
  rcases configured_ok self topo counts h with ⟨c, hconfigured⟩
  have hconf := configured_spec self topo c hconfigured
  refine ⟨c, ?_, faithful_of_assigned self topo counts h c hconf, ?_⟩
  · unfold Provisioning.configure
    rw [bind_ok _ _ () hidle, bind_ok _ _ topo rfl, bind_ok _ _ c hconfigured]
    rfl
  · intro ids names hnodup htree
    -- the table of the configured cluster is the one the walk makes
    have htable : (buildTreeFromDict topo).names.foldlM self.configureNode Dict.empty
        = .ok c.topoMap := by
      unfold Provisioning.configured at hconfigured
      rcases except_bind_eq_ok _ _ _ hconfigured with ⟨hash, hhash, hc⟩
      rw [hhash, ← Except.ok.inj hc]
    refine ⟨written ids.names c.topoMap names, ?_, ?_⟩
    · rw [renameNodes_run self ids names hnodup, htree, htable]
      rfl
    · rw [map_written, htree, hconf.tree]

end Faithful

section Runs

/-- The parameters of a component with a number of instances. -/
def countedParams (count : Nat) : Params :=
  driverParams.set "count" (.int count)

/-- Provisioning some components on AWS. -/
def describing (components : List (String × Nat)) : Provisioning :=
  ⟨"dev", "topo",
    [{ awsEnvironment with
        components := Dict.ofList (components.map (fun e => (e.1, countedParams e.2))) }]⟩

def countOf (components : List (String × Nat)) (component : String) : Nat :=
  (components.lookup component).getD 0

variable (components : List (String × Nat)) (hnodup : (components.map Prod.fst).Nodup)

include hnodup

theorem countOf_mem (e : String × Nat) (he : e ∈ components) :
    countOf components e.1 = e.2 := by
  rw [countOf, Dict.lookup_of_mem components hnodup e.1 e.2 he, Option.getD_some]

theorem getComponentParams_describing (e : String × Nat) (he : e ∈ components) :
    (describing components).getComponentParams e.1 = .ok (countedParams e.2) := by
  have hkeys : ((components.map (fun e => (e.1, countedParams e.2))).map Prod.fst).Nodup := by
    rw [List.map_map]
    exact hnodup
  have hget := Dict.get?_setAll_of_nodup Dict.empty _ hkeys e.1 (countedParams e.2)
    (List.mem_map.mpr ⟨e, he, rfl⟩)
  unfold Provisioning.getComponentParams describing
  rw [List.findSome?_cons, EnvironmentComponents.getComponentParams]
  dsimp only
  rw [Dict.ofList, hget]
  rfl

/-- What the components say is a good count of any topology of them. -/
theorem assigned_describing (topo : Value)
    (hbelow : ∀ v ∈ below (buildTreeFromDict topo), ∃ e ∈ components, v = .str e.1)
    (hgood : ∀ e ∈ components, e.1 ≠ rootName ∧ ',' ∉ e.1.toList ∧ 1 ≤ e.2) :
    Assigned (describing components) topo (countOf components) := by
  have hparams : ∀ component, Value.str component ∈ below (buildTreeFromDict topo) →
      ∃ count, (component, count) ∈ components
        ∧ (describing components).getComponentParams component = .ok (countedParams count) := by
    intro component hcomponent
    rcases hbelow _ hcomponent with ⟨e, he, heq⟩
    rw [Value.str.inj heq]
    exact ⟨e.2, he, getComponentParams_describing components hnodup e he⟩
  refine ⟨fun v hv => ?_, fun component hcomponent => ?_, ?_, fun component hcomponent => ?_⟩
  · rcases hbelow v hv with ⟨e, he, rfl⟩
    exact ⟨e.1, rfl, (hgood e he).1, (hgood e he).2.1⟩
  · rcases hparams component hcomponent with ⟨count, _, hget⟩
    exact getComponentParams_ok _ component _ hget
  · intro component params hcomponent hget
    rcases hparams component hcomponent with ⟨count, hmem, hget'⟩
    rw [hget, Except.ok.injEq] at hget'
    rw [hget', countedParams, Dict.read_set_self, countOf_mem components hnodup _ hmem]
    rfl
  · rcases hparams component hcomponent with ⟨count, hmem, _⟩
    rw [countOf_mem components hnodup _ hmem]
    exact (hgood _ hmem).2.2

end Runs

section Shared

/-- Two drivers that share a backend whose name looks like that of an
    instance. -/
def sharedComponents : List (String × Nat) :=
  [("driver", 1), ("driver2", 1), ("driver-0", 2)]

def sharedTopo : Value :=
  .dict [("driver", .list [.str "driver-0"]), ("driver2", .list [.str "driver-0"])]

theorem assigned_shared :
    Assigned (describing sharedComponents) sharedTopo (countOf sharedComponents) := by
  refine assigned_describing sharedComponents (by decide) sharedTopo (fun v hv => ?_) (by decide)
  have hbelow : below (buildTreeFromDict sharedTopo)
      = [.str "driver", .str "driver2", .str "driver-0", .str "driver-0"] := rfl
  rw [hbelow] at hv
  simp only [List.mem_cons, List.not_mem_nil, or_false, or_self] at hv
  rcases hv with rfl | rfl | rfl
  · exact ⟨("driver", 1), by decide, rfl⟩
  · exact ⟨("driver2", 1), by decide, rfl⟩
  · exact ⟨("driver-0", 2), by decide, rfl⟩

/-- The shared backend has the same name under both drivers, and it is not an
    instance of the first. -/
theorem renames_shared :
    ∃ c, (describing sharedComponents).configure obedient (.ok sharedTopo)
        = ⟨[.saveCluster c], .ok c⟩
      ∧ Faithful sharedTopo (countOf sharedComponents) c
      ∧ ∀ (ids : Tree Nat) (names : Nat → Value), ids.names.Nodup →
        ids.map names = buildTreeFromDict sharedTopo →
        ∃ names', (describing sharedComponents).renameNodes ids names = .ok (names', c.topoMap)
          ∧ ids.map names' = c.clusterTree.map Value.str :=
  configure_renames (describing sharedComponents) sharedTopo (countOf sharedComponents) obedient
    rfl assigned_shared

end Shared

end Xbench
