import Xbench.Config.Includes

/-!
# Files of Several Documents

The documents of a file are put over each other, each of them a mapping or
nothing. That should be the union of the mappings, whose later entries win, and
a document that is empty should not matter.

The loop looks at whether what it has is true, and puts the next document in its
place if it is not. Nothing has an effect then, at the end or before a mapping.
Behind a mapping with an entry it cannot be put over it.

## Main definitions

* `IsDocument`: A mapping, or nothing.
* `loadDocuments`: A file of given documents.
* `unionOf`: The union of the mappings.
* `MergesAsUnion`: What the merge of documents is for.
* `Mergeable`: No empty document comes too late.

## Theorems

* `mergeDocuments_constructed`: The documents are what their nodes construct.
* `mergeDocuments_falsy`: The loop up to the first mapping with an entry.
* `mergesAsUnion_iff`: When documents are merged as they should be.
* `loadText_documents`: Loading a file is merging its documents.
-/

namespace Xbench

/-- A document is a mapping, or nothing. -/
def IsDocument (y : Value) : Prop :=
  y = .none ∨ ∃ d : Dict String Value, y = .dict d.entries

section Load

variable (w : Surroundings) (p : Process) (stream : String)

/-- A file of given documents. -/
def loadDocuments (ys : List Value) : Except Exn Value :=
  mergeDocuments w p stream .none (ys.map YamlNode.own)

/-- A document over a mapping. -/
def overlay (d : Dict String Value) : Value → Dict String Value
  | .dict es => d.setAll es
  | _ => d

/-- The union of the mappings, of which the later win. -/
def unionOf (ys : List Value) : Dict String Value :=
  ys.foldl overlay Dict.empty

/-- The documents are merged to their union; without an empty one they are merged
    to the same; and two files in one are merged to the union of what they are
    merged to. -/
structure MergesAsUnion (ys : List Value) : Prop where
  union : loadDocuments w p stream ys = .ok (.dict (unionOf ys).entries)
  empty : ∀ front back, ys = front ++ .none :: back →
    loadDocuments w p stream (front ++ back) = loadDocuments w p stream ys
  concat : ∀ (front back : List Value) (d e : Dict String Value), ys = front ++ back →
    loadDocuments w p stream front = .ok (.dict d.entries) →
    loadDocuments w p stream back = .ok (.dict e.entries) →
    loadDocuments w p stream ys = .ok (.dict (d.union e).entries)

/-- No empty document is behind a mapping with an entry; and if there is none of
    these, the last document is a mapping. -/
structure Mergeable (ys : List Value) : Prop where
  early : ys.Pairwise (fun y z => y.truthy = true → z ≠ .none)
  mapping : (∃ y ∈ ys, y.truthy = true) ∨ ∃ es, ys.getLast? = some (.dict es)

theorem constructIn_own (y : Value) : constructIn w p stream (.own y) = .ok y := by
  rw [constructIn, construct]

/-- A false document gives way to the next. -/
theorem mergeDocuments_next (res y : Value) (ys : List Value) (h : res.truthy = false) :
    mergeDocuments w p stream res ((y :: ys).map YamlNode.own)
      = mergeDocuments w p stream y (ys.map YamlNode.own) := by
  rw [List.map_cons, mergeDocuments, constructIn_own, h]
  rfl

/-- A true one is updated with it. -/
theorem mergeDocuments_update (res y : Value) (ys : List Value) (h : res.truthy = true) :
    mergeDocuments w p stream res ((y :: ys).map YamlNode.own)
      = updateDocument res y
        >>= fun res => mergeDocuments w p stream res (ys.map YamlNode.own) := by
  rw [List.map_cons, mergeDocuments, constructIn_own, h]
  rfl

/-- The documents are what their nodes construct. -/
theorem mergeDocuments_constructed (res : Value) (nodes : List YamlNode) (ys : List Value)
    (h : List.Forall₂ (fun node y => constructIn w p stream node = .ok y) nodes ys) :
    mergeDocuments w p stream res nodes
      = mergeDocuments w p stream res (ys.map YamlNode.own) := by
  induction h generalizing res with
  | nil => rfl
  | @cons node y nodes ys hnode _ ih =>
      rw [List.map_cons, mergeDocuments, mergeDocuments, hnode, constructIn_own]
      simp only [ih]

theorem truthy_dict (d : Dict String Value) :
    (Value.dict d.entries).truthy = true ↔ d.entries ≠ [] := by
  rw [Value.truthy, Bool.not_eq_true', List.isEmpty_eq_false_iff]

/-- A false document is nothing or an empty mapping, and adds nothing. -/
theorem overlay_falsy (d : Dict String Value) (y : Value) (hdoc : IsDocument y)
    (h : y.truthy = false) : overlay d y = d := by
  rcases hdoc with rfl | ⟨e, rfl⟩
  · rfl
  · rw [Value.truthy, Bool.not_eq_false', List.isEmpty_iff] at h
    rw [overlay, h]
    rfl

theorem updateDocument_dict (d e : Dict String Value) :
    updateDocument (.dict d.entries) (.dict e.entries)
      = .ok (.dict (d.setAll e.entries).entries) := by
  rw [updateDocument, Dict.ofList_entries]

/-- A mapping with an entry still has one when another is put over it. -/
theorem entries_setAll_ne_nil (d : Dict String Value) (es : List (String × Value))
    (h : d.entries ≠ []) : (d.setAll es).entries ≠ [] := by
  intro hnil
  rcases List.exists_cons_of_ne_nil h with ⟨e, rest, he⟩
  have hmem : e.1 ∈ (d.setAll es).keys := by
    refine (Dict.mem_keys_setAll d es e.1).mpr (Or.inr ?_)
    rw [Dict.keys, he]
    exact List.mem_cons_self
  rw [Dict.keys, hnil] at hmem
  cases hmem

/-- Behind a mapping with an entry all mappings are put over it. -/
theorem mergeDocuments_full (d : Dict String Value) (ys : List Value) (hd : d.entries ≠ [])
    (hdocs : ∀ y ∈ ys, IsDocument y) (hnone : .none ∉ ys) :
    mergeDocuments w p stream (.dict d.entries) (ys.map YamlNode.own)
      = .ok (.dict (ys.foldl overlay d).entries) := by
  induction ys generalizing d with
  | nil => rfl
  | cons y ys ih =>
      rcases hdocs y List.mem_cons_self with rfl | ⟨e, rfl⟩
      · exact absurd List.mem_cons_self hnone
      · rw [mergeDocuments_update w p stream _ _ _ ((truthy_dict d).mpr hd), updateDocument_dict]
        exact ih (d.setAll e.entries) (entries_setAll_ne_nil d e.entries hd)
          (fun y hy => hdocs y (List.mem_cons_of_mem _ hy))
          (fun hmem => hnone (List.mem_cons_of_mem _ hmem))

/-- Nothing can be put over it. -/
theorem mergeDocuments_none (d : Dict String Value) (ys : List Value) (hd : d.entries ≠ [])
    (hdocs : ∀ y ∈ ys, IsDocument y) (hnone : .none ∈ ys) :
    mergeDocuments w p stream (.dict d.entries) (ys.map YamlNode.own)
      = .error ⟨.typeError, "cannot convert dictionary update sequence"⟩ := by
  induction ys generalizing d with
  | nil => exact absurd hnone List.not_mem_nil
  | cons y ys ih =>
      rw [mergeDocuments_update w p stream _ _ _ ((truthy_dict d).mpr hd)]
      rcases hdocs y List.mem_cons_self with rfl | ⟨e, rfl⟩
      · rfl
      · rw [updateDocument_dict]
        rcases List.mem_cons.mp hnone with hdict | hnone
        · cases hdict
        · exact ih (d.setAll e.entries) (entries_setAll_ne_nil d e.entries hd)
            (fun y hy => hdocs y (List.mem_cons_of_mem _ hy)) hnone

theorem unionOf_cons_falsy (y : Value) (ys : List Value) (hdoc : IsDocument y)
    (h : y.truthy = false) : unionOf (y :: ys) = unionOf ys := by
  rw [unionOf, List.foldl_cons, overlay_falsy Dict.empty y hdoc h, unionOf]

/-- A false document in front of others does not matter. -/
theorem mergeable_cons_falsy (y z : Value) (ys : List Value) (h : y.truthy = false) :
    Mergeable (y :: z :: ys) ↔ Mergeable (z :: ys) := by
  have hsome : (∃ x ∈ y :: z :: ys, x.truthy = true) ↔ ∃ x ∈ z :: ys, x.truthy = true := by
    simp [h]
  constructor
  · rintro ⟨hearly, hmapping⟩
    rw [hsome, List.getLast?_cons_cons] at hmapping
    exact ⟨(List.pairwise_cons.mp hearly).2, hmapping⟩
  · rintro ⟨hearly, hmapping⟩
    rw [← hsome, ← List.getLast?_cons_cons (a := y)] at hmapping
    refine ⟨List.pairwise_cons.mpr ⟨fun x _ hy => ?_, hearly⟩, hmapping⟩
    rw [h] at hy
    cases hy

/-- The loop, from a document that is false: it gives the union, or no mapping. -/
theorem mergeDocuments_falsy (res : Value) (ys : List Value) (hres : res.truthy = false)
    (hdoc : IsDocument res) (hdocs : ∀ y ∈ ys, IsDocument y) :
    (Mergeable (res :: ys) ∧ mergeDocuments w p stream res (ys.map YamlNode.own)
        = .ok (.dict (unionOf (res :: ys)).entries))
      ∨ (¬ Mergeable (res :: ys)
        ∧ ∀ es, mergeDocuments w p stream res (ys.map YamlNode.own) ≠ .ok (.dict es)) := by
  induction ys generalizing res with
  | nil =>
      rcases hdoc with rfl | ⟨d, rfl⟩
      -- nothing came of the documents, which is no dictionary
      · refine Or.inr ⟨?_, fun es h => by cases h⟩
        rintro ⟨_, ⟨y, hy, htrue⟩ | ⟨es, hlast⟩⟩
        · rw [List.mem_singleton.mp hy] at htrue
          cases htrue
        · cases hlast
      · refine Or.inl ⟨⟨List.pairwise_singleton _ _, Or.inr ⟨d.entries, rfl⟩⟩, ?_⟩
        rw [unionOf_cons_falsy _ [] (Or.inr ⟨d, rfl⟩) hres]
        rw [Value.truthy, Bool.not_eq_false', List.isEmpty_iff] at hres
        rw [hres]
        rfl
  | cons y ys ih =>
      have hdoc' := hdocs y List.mem_cons_self
      have hdocs' : ∀ z ∈ ys, IsDocument z := fun z hz => hdocs z (List.mem_cons_of_mem y hz)
      rw [mergeDocuments_next w p stream res y ys hres, unionOf_cons_falsy res _ hdoc hres,
        mergeable_cons_falsy res y ys hres]
      -- the first document that is not empty begins the merge
      cases htrue : y.truthy with
      | false => exact ih y htrue hdoc' hdocs'
      | true =>
          rcases hdoc' with rfl | ⟨d, rfl⟩
          · cases htrue
          · have hd := (truthy_dict d).mp htrue
            -- a later document without anything cannot be merged
            by_cases hnone : Value.none ∈ ys
            · refine Or.inr ⟨?_, fun es h => ?_⟩
              · rintro ⟨hearly, _⟩
                exact (List.pairwise_cons.mp hearly).1 _ hnone htrue rfl
              · rw [mergeDocuments_none w p stream d ys hd hdocs' hnone] at h
                cases h
            · have hunion : unionOf (.dict d.entries :: ys) = ys.foldl overlay d := by
                rw [unionOf, List.foldl_cons]
                exact congrArg (fun e => ys.foldl overlay e) (Dict.ofList_entries d)
              rw [mergeDocuments_full w p stream d ys hd hdocs' hnone, hunion]
              refine Or.inl ⟨⟨?_, Or.inl ⟨_, List.mem_cons_self, htrue⟩⟩, rfl⟩
              refine List.pairwise_iff_forall_sublist.mpr (fun {a b} hsub _ hb => ?_)
              have hmem : b ∈ ys := by
                cases hsub with
                | cons _ hsub => exact hsub.subset (by simp)
                | cons_cons _ hsub => exact hsub.subset (by simp)
              exact hnone (hb ▸ hmem)

/-- A file is merged to the union, or to no mapping. -/
theorem loadDocuments_cases (ys : List Value) (hdocs : ∀ y ∈ ys, IsDocument y) :
    (Mergeable ys ∧ loadDocuments w p stream ys = .ok (.dict (unionOf ys).entries))
      ∨ (¬ Mergeable ys ∧ ∀ es, loadDocuments w p stream ys ≠ .ok (.dict es)) := by
  have hloop := mergeDocuments_falsy w p stream .none ys rfl (Or.inl rfl) hdocs
  have hfirst : Mergeable (.none :: ys) ↔ Mergeable ys := by
    cases ys with
    | nil =>
        refine iff_of_false ?_ ?_
        · rintro ⟨_, ⟨y, hy, htrue⟩ | ⟨es, hlast⟩⟩
          · rw [List.mem_singleton.mp hy] at htrue
            cases htrue
          · cases hlast
        · rintro ⟨_, ⟨y, hy, _⟩ | ⟨es, hlast⟩⟩
          · cases hy
          · cases hlast
    | cons y ys => exact mergeable_cons_falsy .none y ys rfl
  rw [hfirst, unionOf_cons_falsy .none ys (Or.inl rfl) rfl] at hloop
  exact hloop

theorem loadDocuments_dict (ys : List Value) (hdocs : ∀ y ∈ ys, IsDocument y)
    (d : Dict String Value) (h : loadDocuments w p stream ys = .ok (.dict d.entries)) :
    d = unionOf ys := by
  rcases loadDocuments_cases w p stream ys hdocs with ⟨_, hunion⟩ | ⟨_, hno⟩
  · rw [h] at hunion
    exact Dict.ext_of_entries _ _ (Value.dict.inj (Except.ok.inj hunion))
  · exact absurd h (hno _)

/-- An empty document can be left out. -/
theorem mergeable_without (front back : List Value) (h : Mergeable (front ++ .none :: back)) :
    Mergeable (front ++ back) := by
  rcases h with ⟨hearly, hmapping⟩
  refine ⟨hearly.sublist ((List.sublist_cons_self _ _).append_left front), ?_⟩
  rcases hmapping with ⟨y, hy, htrue⟩ | ⟨es, hlast⟩
  · refine Or.inl ⟨y, ?_, htrue⟩
    rcases List.mem_append.mp hy with hy | hy
    · exact List.mem_append_left _ hy
    · rcases List.mem_cons.mp hy with rfl | hy
      · cases htrue
      · exact List.mem_append_right _ hy
  · right
    cases back with
    | nil =>
        rw [List.getLast?_concat] at hlast
        cases hlast
    | cons z back =>
        rw [List.getLast?_append, List.getLast?_cons_cons] at hlast
        rw [List.getLast?_append]
        exact ⟨es, hlast⟩

theorem foldl_overlay (d e : Dict String Value) (ys : List Value) :
    ys.foldl overlay (d.union e) = d.union (ys.foldl overlay e) := by
  induction ys generalizing e with
  | nil => rfl
  | cons y ys ih =>
      have hstep : overlay (d.union e) y = d.union (overlay e y) := by
        cases y with
        | dict es => exact (Dict.union_setAll d e es).symm
        | _ => rfl
      rw [List.foldl_cons, List.foldl_cons, hstep, ih]

theorem unionOf_append (front back : List Value) :
    unionOf (front ++ back) = (unionOf front).union (unionOf back) := by
  have hempty : unionOf front = (unionOf front).union Dict.empty := rfl
  rw [unionOf, List.foldl_append, ← unionOf, hempty, foldl_overlay]
  rfl

theorem unionOf_without (front back : List Value) :
    unionOf (front ++ .none :: back) = unionOf (front ++ back) := by
  rw [unionOf, unionOf, List.foldl_append, List.foldl_append]
  rfl

/-- The documents of a file are merged as they should be just if no empty one is
    behind a mapping with an entry, and something is left at the end. -/
theorem mergesAsUnion_iff (ys : List Value) (hdocs : ∀ y ∈ ys, IsDocument y) :
    MergesAsUnion w p stream ys ↔ Mergeable ys := by
  constructor
  · intro h
    rcases loadDocuments_cases w p stream ys hdocs with ⟨hmergeable, _⟩ | ⟨_, hno⟩
    · exact hmergeable
    · exact absurd h.union (hno _)
  · intro h
    have hload : ∀ zs, (∀ z ∈ zs, IsDocument z) → Mergeable zs →
        loadDocuments w p stream zs = .ok (.dict (unionOf zs).entries) := by
      intro zs hzs hmergeable
      rcases loadDocuments_cases w p stream zs hzs with ⟨_, hunion⟩ | ⟨hnot, _⟩
      · exact hunion
      · exact absurd hmergeable hnot
    refine ⟨hload ys hdocs h, ?_, ?_⟩
    · rintro front back rfl
      rw [hload _ hdocs h, unionOf_without]
      refine hload _ (fun z hz => hdocs z ?_) (mergeable_without front back h)
      exact ((List.sublist_cons_self _ _).append_left front).subset hz
    · rintro front back d e rfl hd he
      rw [loadDocuments_dict w p stream front (fun z hz => hdocs z (List.mem_append_left _ hz)) d
          hd,
        loadDocuments_dict w p stream back (fun z hz => hdocs z (List.mem_append_right _ hz)) e he,
        ← unionOf_append]
      exact hload _ hdocs h

/-- A mapping with an entry, and another over part of it. -/
theorem mergesAsUnion_twoDocuments :
    MergesAsUnion (withFiles []) Process.fresh "impl.yaml"
      [.none, .dict [("a", .int 1)], .dict [("a", .int 2), ("b", .int 3)]] := by
  refine (mergesAsUnion_iff _ _ _ _ ?_).mpr ⟨?_, Or.inl ⟨.dict [("a", .int 1)], by simp, rfl⟩⟩
  · intro y hy
    simp only [List.mem_cons, List.not_mem_nil, or_false] at hy
    rcases hy with rfl | rfl | rfl
    · exact Or.inl rfl
    · exact Or.inr ⟨Dict.ofList [("a", .int 1)], rfl⟩
    · exact Or.inr ⟨Dict.ofList [("a", .int 2), ("b", .int 3)], rfl⟩
  · simp [Value.truthy]

/-- A separator at the end of a file with a mapping. -/
theorem separator_fails :
    ¬ ∀ (w : Surroundings) (p : Process) (stream : String) (ys : List Value),
      (∀ y ∈ ys, IsDocument y) → MergesAsUnion w p stream ys := by
  intro hall
  have hdocs : ∀ y ∈ [Value.dict [("a", .int 1)], .none], IsDocument y := by
    intro y hy
    simp only [List.mem_cons, List.not_mem_nil, or_false] at hy
    rcases hy with rfl | rfl
    · exact Or.inr ⟨Dict.ofList [("a", .int 1)], rfl⟩
    · exact Or.inl rfl
  have hunion := (hall (withFiles []) Process.fresh "impl.yaml" _ hdocs).union
  have herror : loadDocuments (withFiles []) Process.fresh "impl.yaml"
      [.dict [("a", .int 1)], .none]
        = .error ⟨.typeError, "cannot convert dictionary update sequence"⟩ := rfl
  rw [herror] at hunion
  cases hunion

/-- Documents that do not fit raise nothing of PyYAML's. -/
theorem mergeDocuments_error (res : Value) (ys : List Value) (e : Exn)
    (h : mergeDocuments w p stream res (ys.map YamlNode.own) = .error e) :
    e.isA .yaml = false := by
  induction ys generalizing res with
  | nil => cases h
  | cons y ys ih =>
      cases htrue : res.truthy with
      | false =>
          rw [mergeDocuments_next w p stream res y ys htrue] at h
          exact ih y h
      | true =>
          rw [mergeDocuments_update w p stream res y ys htrue] at h
          cases hupdate : updateDocument res y with
          | ok res' =>
              rw [hupdate] at h
              exact ih res' h
          | error e' =>
              rw [hupdate] at h
              have heq : e' = e := Except.error.inj h
              rw [← heq]
              unfold updateDocument at hupdate
              split at hupdate <;> cases hupdate <;> rfl

/-- A file whose documents PyYAML makes without a mistake is loaded as they are
    merged. -/
theorem loadText_documents (yamlConfigFile content : String) (nodes : List YamlNode)
    (ys : List Value)
    (hnodes : w.yaml.composeAll (analyzeIncludes w yamlConfigFile content).2 = (nodes, .ok ()))
    (hys : List.Forall₂ (fun node y =>
      constructIn w p (analyzeIncludes w yamlConfigFile content).1 node = .ok y) nodes ys) :
    loadText w p yamlConfigFile content
      = loadDocuments w p (analyzeIncludes w yamlConfigFile content).1 ys := by
  have hmerge := mergeDocuments_constructed w p _ .none nodes ys hys
  unfold loadText
  simp only [hnodes, hmerge]
  cases hload : loadDocuments w p (analyzeIncludes w yamlConfigFile content).1 ys with
  | ok res =>
      rw [loadDocuments] at hload
      rw [hload]
      rfl
  | error e =>
      have hclass := mergeDocuments_error w p _ .none ys e hload
      rw [loadDocuments] at hload
      rw [hload]
      change (if e.isA .yaml then _ else _) = _
      rw [hclass]
      rfl

end Load

end Xbench
