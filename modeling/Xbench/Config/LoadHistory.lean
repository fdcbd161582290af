import Xbench.Config.YamlLoader

/-!
# Loads and the Loads Before

Whether a file is loaded in a process as it is in a process that has loaded
nothing.

What has been registered stays. The reader of the environment is the same in
every process, and so is the constructor of the include marker, since it knows
its file from the loader. The reader of a vault is not: a load without a vault
still has the vault of the last load that had one. And the file of a vault is
loaded by PyYAML as well, before its load has registered anything, so in a new
process its scalars are taken as they are and in another one they are read.

So a file is loaded as in a new process when no scalar of it, or of a file that
it includes, is read from a vault that the load did not ask for, and the file of
its own vault has nothing that is read.

## Main definitions

* `Mark`: A scalar, as the tables see it.
* `YamlNode.marks`: The scalars of a document.
* `ReadFrom`: The scalars of a document and of what it includes.
* `lastVault`: The last vault of some readers.
* `Process.Sound`: The tables have what was registered.
* `Registered`: The tables of a load.
* `Load`: A file, its vault, and the surroundings.
* `Process.afterAll`: A process after some loads.
* `Undisturbed`: The loads before have nothing that is read.

## Theorems

* `construct_congr`: A document is what its scalars are.
* `constructIn_congr`: The same with what it includes.
* `registered_register`: The tables after registering.
* `sound_afterAll`: What is in the tables of a process.
* `load_undisturbed`: When a file is loaded as in a new process.
-/

namespace Xbench

open Text

/-- A scalar, as the tables see it. -/
inductive Mark where
  | plain (text : String)
  | tagged (tag text : String)

mutual

/-- The scalars of a document. -/
def YamlNode.marks : YamlNode → List Mark
  | .plain text => [.plain text]
  | .tagged tag text => [.tagged tag text]
  | .own _ => []
  | .list items => itemMarks items
  | .map entries => entryMarks entries

def itemMarks : List YamlNode → List Mark
  | [] => []
  | n :: ns => n.marks ++ itemMarks ns

def entryMarks : List (YamlNode × YamlNode) → List Mark
  | [] => []
  | (k, n) :: es => k.marks ++ (n.marks ++ entryMarks es)

end

section Congruence

variable (w : Surroundings)

/-- What a scalar is constructed as. -/
def Process.read (p : Process) (loadInclude : String → Except Exn Value) :
    Mark → Except Exn Value
  | .plain text => p.plain w loadInclude text
  | .tagged tag text => p.tagged w loadInclude tag text

variable (p p' : Process) (li li' : String → Except Exn Value)

mutual

/-- A document is what its scalars are. -/
theorem construct_congr : ∀ n : YamlNode,
    (∀ m ∈ n.marks, p.read w li m = p'.read w li' m) → construct w p li n = construct w p' li' n
  | .plain text, h => h (.plain text) List.mem_cons_self
  | .tagged tag text, h => h (.tagged tag text) List.mem_cons_self
  | .own v, _ => rfl
  | .list items, h => by
      rw [construct, construct, constructItems_congr items h]
  | .map entries, h => by
      rw [construct, construct, constructEntries_congr entries h]

theorem constructItems_congr : ∀ items : List YamlNode,
    (∀ m ∈ itemMarks items, p.read w li m = p'.read w li' m) →
    constructItems w p li items = constructItems w p' li' items
  | [], _ => rfl
  | n :: ns, h => by
      rw [constructItems, constructItems,
        construct_congr n (fun m hm => h m (List.mem_append_left _ hm)),
        constructItems_congr ns (fun m hm => h m (List.mem_append_right _ hm))]

theorem constructEntries_congr : ∀ entries : List (YamlNode × YamlNode),
    (∀ m ∈ entryMarks entries, p.read w li m = p'.read w li' m) →
    constructEntries w p li entries = constructEntries w p' li' entries
  | [], _ => rfl
  | (k, n) :: es, h => by
      rw [constructEntries, constructEntries,
        construct_congr k (fun m hm => h m (List.mem_append_left _ hm)),
        construct_congr n (fun m hm =>
          h m (List.mem_append_right _ (List.mem_append_left _ hm))),
        constructEntries_congr es (fun m hm =>
          h m (List.mem_append_right _ (List.mem_append_right _ hm)))]

end

end Congruence

section Tables

/-- The last vault of some readers. -/
def lastVault : List Reader → Option Value
  | [] => none
  | .env :: rs => lastVault rs
  | .vault secrets :: rs => some ((lastVault rs).getD secrets)

theorem lastVault_append (rs rs' : List Reader) :
    lastVault (rs ++ rs') = (lastVault rs').orElse (fun _ => lastVault rs) := by
  induction rs with
  | nil => cases h : lastVault rs' <;> simp [lastVault, h]
  | cons r rs ih =>
      cases r with
      | env => exact ih
      | vault secrets =>
          rw [List.cons_append, lastVault, lastVault, ih]
          cases lastVault rs' <;> rfl

theorem lastVault_of_mem (rs : List Reader) (secrets : Value) (h : .vault secrets ∈ rs) :
    (lastVault rs).isSome = true := by
  induction rs with
  | nil => exact absurd h List.not_mem_nil
  | cons r rs ih =>
      cases r with
      | env => exact ih ((List.mem_cons.mp h).resolve_left nofun)
      | vault secrets => rfl

theorem exists_of_lastVault (rs : List Reader) (h : (lastVault rs).isSome = true) :
    ∃ secrets, .vault secrets ∈ rs := by
  induction rs with
  | nil => exact absurd h (by simp [lastVault])
  | cons r rs ih =>
      cases r with
      | env =>
          rcases ih h with ⟨secrets, hmem⟩
          exact ⟨secrets, List.mem_cons_of_mem _ hmem⟩
      | vault secrets => exact ⟨secrets, List.mem_cons_self⟩

/-- The tables of a load, the last vault being given. -/
structure Registered (p : Process) (last : Option Value) : Prop where
  env : p.constructors.get? "ENV" = some (.reader .env)
  vault : p.constructors.get? "VAULT" = last.map (fun secrets => .reader (.vault secrets))
  marker : p.constructors.get? includeMarker = some .include
  others : ∀ tag, tag ≠ "ENV" → tag ≠ "VAULT" → tag ≠ includeMarker →
    p.constructors.get? tag = none
  resolvers : ∀ name, name ∈ p.resolvers ↔ name = "ENV" ∨ name = "VAULT" ∧ last.isSome = true

/-- The tables have what was registered, and nothing else. -/
structure Process.Sound (p : Process) : Prop where
  resolvers : ∀ name ∈ p.resolvers,
    name = "ENV" ∨ name = "VAULT" ∧ (lastVault p.readers).isSome = true
  vault : lastVault p.readers = none → p.constructors.get? "VAULT" = none
  others : ∀ tag, tag ≠ "ENV" → tag ≠ "VAULT" → tag ≠ includeMarker →
    p.constructors.get? tag = none

theorem sound_fresh : Process.fresh.Sound :=
  ⟨fun _ h => absurd h List.not_mem_nil, fun _ => rfl, fun _ _ _ _ => rfl⟩

theorem sound_of_registered (p : Process) (h : Registered p (lastVault p.readers)) : p.Sound := by
  refine ⟨fun name hname => (h.resolvers name).mp hname, fun hnone => ?_, h.others⟩
  rw [h.vault, hnone]
  rfl

/-- More readers do no harm before they are registered. -/
theorem sound_more (p : Process) (h : p.Sound) (rs : List Reader) :
    Process.Sound { p with readers := p.readers ++ rs } := by
  refine ⟨fun name hname => ?_, fun hnone => ?_, h.others⟩
  · rcases h.resolvers name hname with henv | ⟨hvault, hsome⟩
    · exact Or.inl henv
    · refine Or.inr ⟨hvault, ?_⟩
      dsimp only
      rw [lastVault_append]
      cases hrs : lastVault rs with
      | none => exact hsome
      | some secrets => rfl
  · dsimp only at hnone ⊢
    rw [lastVault_append] at hnone
    refine h.vault ?_
    cases hrs : lastVault rs with
    | none =>
        rw [hrs] at hnone
        exact hnone
    | some secrets =>
        rw [hrs] at hnone
        exact absurd hnone (by simp)

/-- The constructors after some readers are registered. -/
def handlers (d : Dict String Handler) (rs : List Reader) : Dict String Handler :=
  rs.foldl (fun d r => d.set r.name (.reader r)) d

theorem handlers_other (d : Dict String Handler) (rs : List Reader) (tag : String)
    (henv : tag ≠ "ENV") (hvault : tag ≠ "VAULT") : (handlers d rs).get? tag = d.get? tag := by
  induction rs generalizing d with
  | nil => rfl
  | cons r rs ih =>
      rw [handlers, List.foldl_cons]
      refine (ih _).trans (Dict.get?_set_other d _ tag _ ?_)
      cases r with
      | env => exact henv
      | vault secrets => exact hvault

theorem handlers_env (d : Dict String Handler) (rs : List Reader)
    (h : Reader.env ∈ rs ∨ d.get? "ENV" = some (.reader .env)) :
    (handlers d rs).get? "ENV" = some (.reader .env) := by
  induction rs generalizing d with
  | nil => exact h.resolve_left List.not_mem_nil
  | cons r rs ih =>
      rw [handlers, List.foldl_cons]
      refine ih _ ?_
      cases r with
      | env => exact Or.inr (Dict.get?_set_self d _ _)
      | vault secrets =>
          have hother : (d.set "VAULT" (.reader (.vault secrets))).get? "ENV" = d.get? "ENV" :=
            Dict.get?_set_other d _ _ _ (by decide)
          rcases h with hmem | hd
          · exact Or.inl ((List.mem_cons.mp hmem).resolve_left nofun)
          · exact Or.inr (hother.trans hd)

theorem handlers_vault (d : Dict String Handler) (rs : List Reader) :
    (handlers d rs).get? "VAULT" =
      ((lastVault rs).map (fun secrets => Handler.reader (.vault secrets))).orElse
        (fun _ => d.get? "VAULT") := by
  induction rs generalizing d with
  | nil => rfl
  | cons r rs ih =>
      rw [handlers, List.foldl_cons]
      refine (ih _).trans ?_
      cases r with
      | env =>
          rw [Dict.get?_set_other d _ _ _ (by decide)]
          rfl
      | vault secrets =>
          rw [lastVault, Reader.name, Dict.get?_set_self]
          cases lastVault rs <;> rfl

/-- Registering gives the tables that the readers ask for. -/
theorem registered_register (p : Process) (h : p.Sound) (rs : List Reader) (henv : .env ∈ rs) :
    Registered (Process.register { p with readers := p.readers ++ rs })
      (lastVault (p.readers ++ rs)) := by
  have hget : ∀ tag, tag ≠ includeMarker →
      (Process.register { p with readers := p.readers ++ rs }).constructors.get? tag =
        (handlers p.constructors (p.readers ++ rs)).get? tag :=
    fun tag htag => Dict.get?_set_other _ _ _ _ htag
  refine ⟨?_, ?_, Dict.get?_set_self _ _ _, fun tag hne hnv hni => ?_, fun name => ?_⟩
  · rw [hget "ENV" (by decide)]
    exact handlers_env _ _ (Or.inl (List.mem_append_right _ henv))
  · -- without a vault among the readers, the tables had none before
    rw [hget "VAULT" (by decide), handlers_vault]
    cases hlast : lastVault (p.readers ++ rs) with
    | some secrets => rfl
    | none => exact (sound_more p h rs).vault hlast
  · rw [hget tag hni, handlers_other _ _ _ hne hnv]
    exact h.others tag hne hnv hni
  · have hname : ∀ r : Reader, r.name = name → r ∈ p.readers ++ rs →
        name = "ENV" ∨ name = "VAULT" ∧ (lastVault (p.readers ++ rs)).isSome = true := by
      intro r hr hmem
      cases r with
      | env => exact Or.inl hr.symm
      | vault secrets => exact Or.inr ⟨hr.symm, lastVault_of_mem _ _ hmem⟩
    rw [Process.register]
    dsimp only
    rw [List.mem_append, List.mem_map]
    constructor
    · rintro (hold | ⟨r, hmem, hr⟩)
      · exact (sound_more p h rs).resolvers name hold
      · exact hname r hr hmem
    · rintro (rfl | ⟨rfl, hsome⟩)
      · exact Or.inr ⟨.env, List.mem_append_right _ henv, rfl⟩
      · rcases exists_of_lastVault _ hsome with ⟨secrets, hmem⟩
        exact Or.inr ⟨.vault secrets, hmem, rfl⟩

end Tables

section Reading

variable (w : Surroundings)

/-- Is the scalar one that a vault is for? -/
def Mark.OfVault : Mark → Prop
  | .plain text => Matches "VAULT" text
  | .tagged tag _ => tag = "VAULT"

/-- The scalars of a document and of what it includes. -/
inductive ReadFrom : String → YamlNode → Mark → Prop where
  | here (stream : String) (node : YamlNode) (m : Mark) (hm : m ∈ node.marks) :
      ReadFrom stream node m
  | included (stream : String) (node node' : YamlNode) (text content : String) (m : Mark)
      (hm : .tagged includeMarker text ∈ node.marks)
      (hfile : w.file (joinPath (dirname stream) text) = some content)
      (hnode : w.yaml.composeSingle content = .ok (some node'))
      (hread : ReadFrom (joinPath (dirname stream) text) node' m) : ReadFrom stream node m

/-- The two names begin differently, so no scalar is of both. -/
theorem not_matches_both (text : String) (henv : Matches "ENV" text) : ¬ Matches "VAULT" text := by
  intro hvault
  unfold Matches matchHere at henv hvault
  have hfirst : ∀ name : String, ∀ c : Char, ∀ cs : List Char, name.toList = c :: cs →
      ((afterPrefix (name.toList ++ ['[', '\'']) text.toList).bind keyOf).isSome = true →
      text.toList.head? = some c := by
    intro name c cs hname h
    rw [hname] at h
    rcases Option.isSome_iff_exists.mp h with ⟨found, hfound⟩
    rcases Option.bind_eq_some_iff.mp hfound with ⟨rest, hrest, _⟩
    rw [(afterPrefix_eq_some_iff _ _ _).mp hrest]
    rfl
  have hE := hfirst "ENV" 'E' ['N', 'V'] rfl henv
  have hV := hfirst "VAULT" 'V' ['A', 'U', 'L', 'T'] rfl hvault
  rw [hE] at hV
  exact absurd hV (by decide)

/-- The resolver that takes a scalar, in the tables of a load. -/
theorem find_resolver (p : Process) (last : Option Value) (h : Registered p last)
    (text : String) :
    p.resolvers.find? (fun name => decide (Matches name text)) =
      if Matches "ENV" text then some "ENV"
      else if Matches "VAULT" text ∧ last.isSome = true then some "VAULT" else none := by
  -- a resolver that is found is registered and matches
  have hval : ∀ name, p.resolvers.find? (fun name => decide (Matches name text)) = some name →
      (name = "ENV" ∨ name = "VAULT" ∧ last.isSome = true) ∧ Matches name text := by
    intro name hfind
    have hmatch := List.find?_some hfind
    exact ⟨(h.resolvers name).mp (List.mem_of_find?_eq_some hfind), of_decide_eq_true hmatch⟩
  have hex : ∀ name, name ∈ p.resolvers → Matches name text →
      p.resolvers.find? (fun name => decide (Matches name text)) ≠ none := by
    intro name hmem hmatch hnone
    exact absurd (decide_eq_true hmatch) (List.find?_eq_none.mp hnone name hmem)
  -- no text matches both patterns
  by_cases henv : Matches "ENV" text
  · rw [if_pos henv]
    cases hfind : p.resolvers.find? (fun name => decide (Matches name text)) with
    | none => exact absurd hfind (hex "ENV" ((h.resolvers _).mpr (Or.inl rfl)) henv)
    | some name =>
        rcases hval name hfind with ⟨rfl | ⟨rfl, _⟩, hmatch⟩
        · rfl
        · exact absurd hmatch (not_matches_both text henv)
  · rw [if_neg henv]
    by_cases hvault : Matches "VAULT" text ∧ last.isSome = true
    · rw [if_pos hvault]
      cases hfind : p.resolvers.find? (fun name => decide (Matches name text)) with
      | none =>
          exact absurd hfind
            (hex "VAULT" ((h.resolvers _).mpr (Or.inr ⟨rfl, hvault.2⟩)) hvault.1)
      | some name =>
          rcases hval name hfind with ⟨rfl | ⟨rfl, _⟩, hmatch⟩
          · exact absurd hmatch henv
          · rfl
    · rw [if_neg hvault]
      cases hfind : p.resolvers.find? (fun name => decide (Matches name text)) with
      | none => rfl
      | some name =>
          rcases hval name hfind with ⟨rfl | ⟨rfl, hsome⟩, hmatch⟩
          · exact absurd hmatch henv
          · exact absurd ⟨hmatch, hsome⟩ hvault

variable (p p' : Process) (last last' : Option Value)

/-- In the tables of two loads a scalar is read alike, when they have the same
    vault or the scalar is for none. -/
theorem read_alike (h : Registered p last) (h' : Registered p' last') (m : Mark)
    (hm : last = last' ∨ ¬ m.OfVault) (li li' : String → Except Exn Value)
    (hli : ∀ text, m = .tagged includeMarker text → li text = li' text) :
    p.read w li m = p'.read w li' m := by
  -- the constructors of a tag are the same, except perhaps that of the vault
  have htag : ∀ tag text, (last = last' ∨ tag ≠ "VAULT") →
      (tag = includeMarker → li text = li' text) →
      p.tagged w li tag text = p'.tagged w li' tag text := by
    intro tag text hv hinc
    rw [Process.tagged, Process.tagged]
    by_cases he : tag = "ENV"
    · rw [he, h.env, h'.env]
    · by_cases hi : tag = includeMarker
      · rw [hi, h.marker, h'.marker]
        exact hinc hi
      · by_cases ht : tag = "VAULT"
        · rw [ht, h.vault, h'.vault, hv.resolve_right (fun hne => hne ht)]
          cases last' <;> rfl
        · rw [h.others tag he ht hi, h'.others tag he ht hi]
  cases m with
  | tagged tag text =>
      refine htag tag text (hm.imp id (fun hne => hne)) (fun hinc => hli text ?_)
      rw [hinc]
  | plain text =>
      rw [Process.read, Process.read, Process.plain, Process.plain, find_resolver p last h,
        find_resolver p' last' h']
      -- a plain text is read by the resolver that is found for it
      by_cases henv : Matches "ENV" text
      · rw [if_pos henv, if_pos henv]
        exact htag "ENV" text (Or.inr (by decide)) (fun hinc => absurd hinc (by decide))
      · rw [if_neg henv, if_neg henv]
        rcases hm with rfl | hno
        · by_cases hvault : Matches "VAULT" text ∧ last.isSome = true
          · rw [if_pos hvault]
            exact htag "VAULT" text (Or.inl rfl) (fun hinc => absurd hinc (by decide))
          · rw [if_neg hvault]
        · rw [if_neg (fun hv => hno hv.1), if_neg (fun hv => hno hv.1)]

/-- The same for a document with what it includes: the induction is on the bound
    on the depth, each include costing one. -/
theorem constructIn_congr (h : Registered p last) (h' : Registered p' last') (stream : String)
    (node : YamlNode) (hread : ∀ m, ReadFrom w stream node m → last = last' ∨ ¬ m.OfVault) :
    constructIn w p stream node = constructIn w p' stream node := by
  rw [constructIn, constructIn]
  generalize w.depth = depth
  induction depth generalizing stream node with
  | zero =>
      refine construct_congr w p p' _ _ node (fun m hm => ?_)
      exact read_alike w p p' last last' h h' m (hread m (.here stream node m hm)) _ _
        (fun _ _ => rfl)
  | succ depth ih =>
      refine construct_congr w p p' _ _ node (fun m hm => ?_)
      refine read_alike w p p' last last' h h' m (hread m (.here stream node m hm)) _ _ ?_
      -- what is included is constructed in the same way, one level down
      rintro text rfl
      rw [includeFile, includeFile]
      by_cases hself : joinPath (dirname stream) text = stream
      · simp only [hself, if_true]
      · simp only [if_neg hself]
        cases hfile : w.file (joinPath (dirname stream) text) with
        | none => rfl
        | some content =>
            dsimp only
            cases hnode : w.yaml.composeSingle content with
            | error e => rfl
            | ok found =>
                cases found with
                | none => rfl
                | some node' =>
                    exact ih _ node' (fun m' hm' => hread m'
                      (.included stream node node' text content m' hm hfile hnode hm'))

end Reading

section Runs

/-- A file to load, its vault, and the surroundings. -/
structure Load where
  surroundings : Surroundings
  yamlConfigFile : String
  vaultFile : Option String

/-- A process after a load. -/
def Process.after (p : Process) (l : Load) : Process :=
  (yamlConfig l.surroundings p l.yamlConfigFile l.vaultFile).1

/-- A process after some loads. -/
def Process.afterAll (p : Process) (ls : List Load) : Process :=
  ls.foldl Process.after p

theorem sound_after (p : Process) (h : p.Sound) (l : Load) : (p.after l).Sound := by
  rw [Process.after, yamlConfig]
  cases hv : vaultOf l.surroundings p l.vaultFile with
  | error e => exact h
  | ok vault =>
      dsimp only
      cases hfile : l.surroundings.file l.yamlConfigFile with
      | none => exact sound_more p h (.env :: vault)
      | some content =>
          exact sound_of_registered _ (registered_register p h (.env :: vault) List.mem_cons_self)

/-- What is in the tables of a process. -/
theorem sound_afterAll (p : Process) (h : p.Sound) (ls : List Load) : (p.afterAll ls).Sound := by
  induction ls generalizing p with
  | nil => exact h
  | cons l ls ih => exact ih (p.after l) (sound_after p h l)

variable (w : Surroundings)

/-- The tables have nothing for a scalar. -/
def Process.Leaves (p : Process) : Mark → Prop
  | .plain text => ∀ name ∈ p.resolvers, ¬ Matches name text
  | .tagged tag _ => p.constructors.get? tag = none

/-- No scalar of a file, or of a file that it includes, is for a vault. -/
def NoneOfVault (yamlConfigFile : String) : Prop :=
  ∀ content, w.file yamlConfigFile = some content →
    ∀ node ∈ (w.yaml.composeAll (analyzeIncludes w yamlConfigFile content).2).1,
    ∀ m, ReadFrom w (analyzeIncludes w yamlConfigFile content).1 node m → ¬ m.OfVault

/-- The tables have nothing for the scalars of a vault. -/
def LeavesVault (p : Process) (vaultFile : String) : Prop :=
  ∀ content, w.file vaultFile = some content →
    ∀ node, w.yaml.composeSingle content = .ok (some node) → ∀ m ∈ node.marks, p.Leaves m

/-- The loads before have left nothing that a load reads: without a vault, no
    vault or no scalar for one; with a vault, nothing for the scalars of it. -/
def Undisturbed (p : Process) (yamlConfigFile : String) (vaultFile : Option String) : Prop :=
  match vaultFile.filter (fun name => name != "") with
  | none => lastVault p.readers = none ∨ NoneOfVault w yamlConfigFile
  | some name => LeavesVault w p name

variable (p p' : Process)

theorem mergeDocuments_congr (stream : String) (nodes : List YamlNode)
    (h : ∀ node ∈ nodes, constructIn w p stream node = constructIn w p' stream node)
    (res : Value) :
    mergeDocuments w p stream res nodes = mergeDocuments w p' stream res nodes := by
  induction nodes generalizing res with
  | nil => rfl
  | cons node nodes ih =>
      have hrest := ih (fun n hn => h n (List.mem_cons_of_mem _ hn))
      rw [mergeDocuments, mergeDocuments, h node List.mem_cons_self]
      simp only [hrest]

theorem loadText_congr (yamlConfigFile content : String)
    (h : ∀ node ∈ (w.yaml.composeAll (analyzeIncludes w yamlConfigFile content).2).1,
      constructIn w p (analyzeIncludes w yamlConfigFile content).1 node =
        constructIn w p' (analyzeIncludes w yamlConfigFile content).1 node) :
    loadText w p yamlConfigFile content = loadText w p' yamlConfigFile content := by
  rw [loadText, loadText]
  simp only [mergeDocuments_congr w p p' _ _ h]

/-- A vault is loaded as in a new process when the tables have nothing for it. -/
theorem loadVault_fresh (vaultFile : String) (h : LeavesVault w p vaultFile) :
    loadVault w p vaultFile = loadVault w Process.fresh vaultFile := by
  rw [loadVault, loadVault]
  cases hfile : w.file vaultFile with
  | none => rfl
  | some content =>
      dsimp only
      cases hnode : w.yaml.composeSingle content with
      | error e => rfl
      | ok found =>
          cases found with
          | none => rfl
          | some node =>
              -- no text of the file is read by what the process has registered
              have hcons : constructIn w p vaultFile node =
                  constructIn w Process.fresh vaultFile node := by
                refine construct_congr w p Process.fresh _ _ node (fun m hm => ?_)
                have hleave := h content hfile node hnode m hm
                cases m with
                | plain text =>
                    have hnone :
                        p.resolvers.find? (fun name => decide (Matches name text)) = none :=
                      List.find?_eq_none.mpr
                        (fun name hname hd => hleave name hname (of_decide_eq_true hd))
                    rw [Process.read, Process.plain, hnone]
                    rfl
                | tagged tag text =>
                    -- a tag without a constructor fails in either process
                    have hnone : p.constructors.get? tag = none := hleave
                    rw [Process.read, Process.tagged, hnone]
                    rfl
              dsimp only [bind, Except.bind]
              rw [hcons]

/-- The vault of a load is that of a new process, whatever the file. -/
theorem vaultOf_fresh (yamlConfigFile : String) (vaultFile : Option String)
    (h : Undisturbed w p yamlConfigFile vaultFile) :
    vaultOf w p vaultFile = vaultOf w Process.fresh vaultFile := by
  rw [vaultOf, vaultOf]
  rw [Undisturbed] at h
  cases hv : vaultFile.filter (fun name => name != "") with
  | none => rfl
  | some name =>
      rw [hv] at h
      dsimp only at h ⊢
      rw [loadVault_fresh w p name h]

/-- After any loads, a file is loaded as in a new process when they have left
    nothing that it reads. -/
theorem load_undisturbed (history : List Load) (yamlConfigFile : String)
    (vaultFile : Option String)
    (h : Undisturbed w (Process.fresh.afterAll history) yamlConfigFile vaultFile) :
    (yamlConfig w (Process.fresh.afterAll history) yamlConfigFile vaultFile).2 =
      (yamlConfig w Process.fresh yamlConfigFile vaultFile).2 := by
  have hsound := sound_afterAll Process.fresh sound_fresh history
  generalize Process.fresh.afterAll history = p at h hsound
  have hvault := vaultOf_fresh w p yamlConfigFile vaultFile h
  rw [yamlConfig, yamlConfig, hvault]
  cases hv : vaultOf w Process.fresh vaultFile with
  | error e => rfl
  | ok vault =>
      dsimp only
      cases hfile : w.file yamlConfigFile with
      | none => rfl
      | some content =>
          dsimp only
          refine congrArg (· >>= withGet) (loadText_congr w _ _ yamlConfigFile content ?_)
          intro node hnode
          have hreg := registered_register p hsound (.env :: vault) List.mem_cons_self
          have hnew := registered_register Process.fresh sound_fresh (.env :: vault)
            List.mem_cons_self
          refine constructIn_congr w _ _ _ _ hreg hnew _ node (fun m hm => ?_)
          rw [Undisturbed] at h
          rw [vaultOf] at hv
          cases hname : vaultFile.filter (fun name => name != "") with
          | none =>
              -- a load without a vault has the last one, if a scalar is for it
              rw [hname] at h hv
              dsimp only at h hv
              rw [← Except.ok.inj hv, lastVault_append, lastVault_append]
              rcases h with hno | hnone
              · exact Or.inl hno
              · exact Or.inr (hnone content hfile node hnode m hm)
          | some name =>
              rw [hname] at hv
              rcases except_map_eq_ok _ _ _ hv with ⟨secrets, _, hsecrets⟩
              rw [← hsecrets, lastVault_append, lastVault_append]
              exact Or.inl rfl

/-- Two files: one has a reference to a secret, and one is a vault. -/
def twoFiles : Surroundings where
  yaml :=
    { composeAll := fun text =>
        if text = "password: VAULT['k']" then
          ([.map [(.plain "password", .plain "VAULT['k']")]], .ok ())
        else ([], .ok ())
      composeSingle := fun text =>
        if text = "k: s" then .ok (some (.map [(.plain "k", .plain "s")])) else .ok none }
  file := fun name =>
    if name = "conf.yaml" then some "password: VAULT['k']"
    else if name = "vault.yaml" then some "k: s"
    else none
  getenv := fun _ => none
  temp := "/tmp/conf.yaml"
  depth := 1

/-- A load with the vault. -/
def withVault : Load :=
  ⟨twoFiles, "conf.yaml", some "vault.yaml"⟩

/-- Loading twice with the vault gives what loading once does. -/
theorem vault_again :
    (yamlConfig twoFiles (Process.fresh.afterAll [withVault]) "conf.yaml" (some "vault.yaml")).2
      = (yamlConfig twoFiles Process.fresh "conf.yaml" (some "vault.yaml")).2 := by
  refine load_undisturbed twoFiles [withVault] "conf.yaml" (some "vault.yaml") ?_
  intro content hcontent node hnode m hm
  have hc : content = "k: s" := (Option.some.inj hcontent).symm
  have hn : .ok (some (.map [(.plain "k", .plain "s")])) = twoFiles.yaml.composeSingle "k: s" :=
    rfl
  rw [hc, ← hn] at hnode
  rw [← Option.some.inj (Except.ok.inj hnode)] at hm
  have hnames : (Process.fresh.afterAll [withVault]).resolvers = ["ENV", "VAULT"] := rfl
  rcases List.mem_cons.mp hm with rfl | hm
  · rw [Process.Leaves, hnames]
    decide
  · rw [List.mem_singleton.mp hm, Process.Leaves, hnames]
    decide

/-- Without the vault, a load after it still reads the secret. -/
theorem vault_stays : ¬ ∀ (w : Surroundings) (history : List Load) (yamlConfigFile : String)
    (vaultFile : Option String),
    (yamlConfig w (Process.fresh.afterAll history) yamlConfigFile vaultFile).2 =
      (yamlConfig w Process.fresh yamlConfigFile vaultFile).2 := by
  intro h
  have hafter : (yamlConfig twoFiles (Process.fresh.afterAll [withVault]) "conf.yaml" none).2 =
      .ok (.dict [("password", .str "s")]) := rfl
  have hnew : (yamlConfig twoFiles Process.fresh "conf.yaml" none).2 =
      .ok (.dict [("password", .str "VAULT['k']")]) := rfl
  have heq := h twoFiles [withVault] "conf.yaml" none
  rw [hafter, hnew] at heq
  exact absurd heq (by simp)

end Runs

end Xbench
