import Xbench.Commands.Environments

/-!
# Command Line Overrides

Where a parameter `--component.p1...pn=v` is written, and what a component sees
of that.

The parameters of a component are a new dictionary, but the mappings in it are
those of the file. A parameter that goes into one of them is written there: the
merge goes down as long as the keys lead through mappings of the file, and sets
one entry of the mapping it arrives at. So all it does to the file is one write.

A component that is made later reads the file after the write. `Takes` says
when it reads the written entry for one of its own, and `showSame_late_iff`
when it shows the same all the same.

## Main definitions

* `Override`: A command line parameter.
* `Arrival`: Where a merge arrives.
* `arrive`: Going down from a mapping of the file.
* `Override.arrival`: Where a parameter is written in the file.
* `Replaces`: A write puts no mapping where there was one.
* `Takes`: The entries of a component of which the written one is.
* `ShowSame`: Parameters in two files show the same.
* `spotOf`: The place of the write in the parameters.

## Theorems

* `extender_nest`: A parameter is one write, where its path arrives.
* `arrive_follow`: The way to where it arrives.
* `arrive_path`: The keys of that way.
* `extend_override`: What the command line makes of a component.
* `componentParams_written`: The parameters before and after a write.
* `showSame_late_iff`: When a later component shows the same.
* `same_off_spot_iff`: When the component itself shows the same off the spot.
-/

namespace Xbench

/-- A command line parameter `--component.first.rest=value`. A mapping for a
    value is as many parameters as it has leaves. -/
structure Override where
  component : String
  first : String
  rest : List String
  value : Value
  leaf : value.isDict = false

/-- `helper_splitter`. -/
def nest : List String → Value → Value
  | [], v => v
  | key :: keys, v => .dict [(key, nest keys v)]

/-- `extra_impl_params` of one parameter. -/
def Override.extras (ov : Override) : Dict String Value :=
  Dict.empty.set ov.component (.dict [(ov.first, nest ov.rest ov.value)])

/-- Where a merge arrives: the keys it goes down, the mapping it gets to, the
    key it sets there, and the keys that are left for the value. -/
structure Arrival where
  front : List String
  object : Nat
  key : String
  rest : List String

/-- Going down from a mapping of the file. -/
def arrive (s : Objects) (r : Nat) (key : String) : List String → Arrival
  | [] => ⟨[], r, key, []⟩
  | next :: keys =>
      match (s r).get? key with
      | some (.ref inner) =>
          { arrive s inner next keys with front := key :: (arrive s inner next keys).front }
      | _ => ⟨[], r, key, next :: keys⟩

/-- No entry of the file is a mapping of its own. -/
theorem loaded_not_own (doc : Document) (n : Nat) (k : String) (entries : List (String × Entry)) :
    (doc.objects n).get? k ≠ some (.own entries) := by
  intro h
  exact nomatch doc.loaded n k _ h

section Value

variable (v : Value)

theorem cellOf_isMapping : (cellOf v).isMapping = v.isDict := by
  cases v <;> rfl

mutual

/-- A value of the command line refers to no mapping of the file. -/
theorem cellOf_byValue : ∀ v : Value, ByValue (cellOf v)
  | .none => .scalar _
  | .bool _ => .scalar _
  | .int _ => .scalar _
  | .str _ => .scalar _
  | .list items => .list _ (itemsOf_byValue items)
  | .dict entries => .own _ (entriesOf_byValue entries)

theorem itemsOf_byValue : ∀ (items : List Value), ∀ c ∈ itemsOf items, ByValue c
  | [], c, h => absurd h List.not_mem_nil
  | v :: vs, c, h => by
      rcases List.mem_cons.mp h with rfl | h
      · exact cellOf_byValue v
      · exact itemsOf_byValue vs c h

theorem entriesOf_byValue :
    ∀ (entries : List (String × Value)), ∀ e ∈ entriesOf entries, ByValue e.2
  | [], e, h => absurd h List.not_mem_nil
  | (k, v) :: es, e, h => by
      rcases List.mem_cons.mp h with rfl | h
      · exact cellOf_byValue v
      · exact entriesOf_byValue es e h

end

end Value

section Arrive

variable (doc : Document)

theorem extenderKey_leaf (s : Objects) (r : Nat) (key : String) (v : Value)
    (h : v.isDict = false) : extenderKey s r key v = s.write r key (cellOf v) := by
  cases v with
  | dict entries => exact nomatch h
  | _ => rfl

/-- A single parameter is written where its path arrives. -/
theorem extender_nest (r : Nat) (key : String) (keys : List String) (v : Value)
    (h : v.isDict = false) :
    extender doc.objects r [(key, nest keys v)]
      = doc.objects.write (arrive doc.objects r key keys).object (arrive doc.objects r key keys).key
          (cellOf (nest (arrive doc.objects r key keys).rest v)) := by
  have hone : ∀ w, extender doc.objects r [(key, w)] = extenderKey doc.objects r key w :=
    fun w => rfl
  rw [hone]
  induction keys generalizing r key with
  | nil => exact extenderKey_leaf doc.objects r key v h
  | cons next keys ih =>
      rw [nest, extenderKey, arrive]
      cases hget : (doc.objects r).get? key with
      | none => rfl
      | some c =>
          cases c with
          | ref inner => exact ih inner next (fun w => rfl)
          | own entries => exact absurd hget (loaded_not_own doc r key entries)
          | scalar a => rfl
          | list items => rfl

/-- The keys it goes down lead to the mapping it gets to. -/
theorem arrive_follow (s : Objects) (r : Nat) (key : String) (keys : List String) :
    follow s (.ref r) ((arrive s r key keys).front.map Step.key)
      = some (.ref (arrive s r key keys).object) := by
  induction keys generalizing r key with
  | nil => rfl
  | cons next keys ih =>
      rw [arrive]
      split
      · rename_i inner hget
        rw [List.map_cons, follow_cons s (.ref r) (.ref inner) (.key key) _ hget]
        exact ih inner next
      · rfl

/-- The keys it goes down, the key it sets and those that are left are the path. -/
theorem arrive_path (s : Objects) (r : Nat) (key : String) (keys : List String) :
    (arrive s r key keys).front ++ (arrive s r key keys).key :: (arrive s r key keys).rest
      = key :: keys := by
  induction keys generalizing r key with
  | nil => rfl
  | cons next keys ih =>
      rw [arrive]
      split
      · rename_i inner _
        rw [List.cons_append, ih inner next]
      · rfl

/-- What is set is no mapping where there was one. -/
theorem arrive_replaces (r : Nat) (key : String) (keys : List String) (v : Value)
    (h : v.isDict = false) (c : Entry)
    (hget : (doc.objects (arrive doc.objects r key keys).object).get?
      (arrive doc.objects r key keys).key = some c) (hc : c.isMapping = true) :
    (cellOf (nest (arrive doc.objects r key keys).rest v)).isMapping = false := by
  induction keys generalizing r key with
  | nil =>
      rw [arrive, nest, cellOf_isMapping]
      exact h
  | cons next keys ih =>
      rw [arrive] at hget ⊢
      split at hget
      · rename_i inner hinner
        exact ih inner next hget
      · rename_i hnot
        -- a mapping of the file would have been gone into
        cases c with
        | ref inner => exact absurd hget (hnot inner)
        | own entries => exact absurd hget (loaded_not_own doc _ _ entries)
        | scalar a => exact nomatch hc
        | list items => exact nomatch hc

/-- Where the parameter is written in the file; nowhere when it goes into the
    new dictionary. -/
def Override.arrival (ov : Override) (s : Objects) (params : Object) : Option Arrival :=
  match ov.rest with
  | [] => none
  | next :: keys =>
      match params.get? ov.first with
      | some (.ref inner) =>
          some { arrive s inner next keys with
            front := ov.first :: (arrive s inner next keys).front }
      | _ => none

theorem extendKey_leaf (s : Objects) (params : Object) (key : String) (v : Value)
    (h : v.isDict = false) : extendKey s params key v = (s, params.set key (cellOf v)) := by
  unfold extendKey
  split
  · exact nomatch h
  · exact nomatch h
  · rfl

/-- What the command line makes of a component. -/
theorem extend_override (ov : Override) (params : Object)
    (hparams : ∀ k c, params.get? k = some c → Loaded c) :
    extend doc.objects params [(ov.first, nest ov.rest ov.value)]
      = match ov.arrival doc.objects params with
        | some a => (doc.objects.write a.object a.key (cellOf (nest a.rest ov.value)), params)
        | none => (doc.objects, params.set ov.first (cellOf (nest ov.rest ov.value))) := by
  have hone : ∀ w, extend doc.objects params [(ov.first, w)]
      = extendKey doc.objects params ov.first w := fun w => rfl
  rw [hone, Override.arrival]
  cases hrest : ov.rest with
  | nil => exact extendKey_leaf doc.objects params ov.first ov.value ov.leaf
  | cons next keys =>
      rw [nest]
      unfold extendKey
      cases hget : params.get? ov.first with
      | none => rfl
      | some c =>
          cases c with
          | ref inner =>
              dsimp only
              rw [extender_nest doc inner next keys ov.value ov.leaf]
          | own entries => exact nomatch hparams ov.first _ hget
          | scalar a => rfl
          | list items => rfl

end Arrive

section Written

variable (run : ImplRun) (doc : Document) (r : Nat) (k : String) (w : Entry)

/-- A write puts no mapping where there was one. -/
def Replaces : Prop :=
  ∀ c, (doc.objects r).get? k = some c → c.isMapping = true → w.isMapping = false

theorem isMapping_of_mappingOf (s : Objects) (c : Entry) (m : Object)
    (h : mappingOf s c = some m) : c.isMapping = true := by
  cases c with
  | ref n => rfl
  | own entries => rfl
  | scalar a => exact nomatch h
  | list items => exact nomatch h

theorem loaded_mapping (c : Entry) (hc : Loaded c) (h : c.isMapping = true) : ∃ n, c = .ref n := by
  cases hc with
  | ref n => exact ⟨n, rfl⟩
  | scalar a => exact nomatch h
  | list items hitems => exact nomatch h

/-- An entry that is a mapping before and after is the same entry. -/
theorem entry_kept (hw : Replaces doc r k w) (n : Nat) (key : String) (c c' : Entry)
    (hc : (doc.objects n).get? key = some c) (hmapping : c.isMapping = true)
    (hc' : (doc.objects.write r k w n).get? key = some c') (hmapping' : c'.isMapping = true) :
    c' = c := by
  rw [Store.get?_write] at hc'
  by_cases hslot : n = r ∧ key = k
  · rw [if_pos hslot, Option.some.injEq] at hc'
    rw [hslot.1, hslot.2] at hc
    rw [← hc', hw c hc hmapping] at hmapping'
    exact nomatch hmapping'
  · rw [if_neg hslot, hc, Option.some.injEq] at hc'
    exact hc'.symm

/-- What is looked up in a file is of the file. -/
theorem lookup_loaded (y : YamlConfig) (root leaf : Option String) (c : Entry)
    (h : y.lookup doc.objects root leaf = .ok (some c)) : Loaded c := by
  unfold YamlConfig.lookup at h
  split at h
  · split at h
    · exact nomatch h
    · rename_i c₁ hc₁
      split at h
      · exact nomatch h
      · rename_i m hm
        have hget : m.get? _ = some c := Except.ok.inj h
        rcases loaded_mapping c₁ (doc.loaded _ _ _ hc₁) (isMapping_of_mappingOf _ c₁ m hm) with
          ⟨n, rfl⟩
        rw [mappingOf, Option.some.injEq] at hm
        rw [← hm] at hget
        exact doc.loaded n _ c hget
  · exact doc.loaded _ _ c (Except.ok.inj h)
  · exact doc.loaded _ _ c (Except.ok.inj h)
  · rw [← Option.some.inj (Except.ok.inj h)]
    exact .ref y.root

/-- A mapping that is found before and after is the same one. -/
theorem lookup_kept (hw : Replaces doc r k w) (y : YamlConfig) (root leaf : Option String)
    (c c' : Entry) (h : y.lookup doc.objects root leaf = .ok (some c)) (hc : c.isMapping = true)
    (h' : y.lookup (doc.objects.write r k w) root leaf = .ok (some c'))
    (hc' : c'.isMapping = true) : c' = c := by
  have hkept := entry_kept doc r k w hw
  unfold YamlConfig.lookup at h h'
  cases hroot : YamlConfig.given root with
  | none =>
      rw [hroot] at h h'
      cases hleaf : YamlConfig.given leaf with
      | none =>
          rw [hleaf] at h h'
          rw [← Option.some.inj (Except.ok.inj h), ← Option.some.inj (Except.ok.inj h')]
      | some l =>
          rw [hleaf] at h h'
          exact hkept _ l c c' (Except.ok.inj h) hc (Except.ok.inj h') hc'
  | some top =>
      rw [hroot] at h h'
      cases hleaf : YamlConfig.given leaf with
      | none =>
          rw [hleaf] at h h'
          exact hkept _ top c c' (Except.ok.inj h) hc (Except.ok.inj h') hc'
      | some l =>
          rw [hleaf] at h h'
          dsimp only at h h'
          split at h
          · exact nomatch h
          · rename_i c₁ hc₁
            split at h
            · exact nomatch h
            · rename_i m hm
              split at h'
              · exact nomatch h'
              · rename_i c₁' hc₁'
                split at h'
                · exact nomatch h'
                · rename_i m' hm'
                  -- the root is the same object, and so is the leaf in it
                  have hmapping := isMapping_of_mappingOf _ c₁ m hm
                  have hroots := hkept _ top c₁ c₁' hc₁ hmapping hc₁'
                    (isMapping_of_mappingOf _ c₁' m' hm')
                  rw [hroots] at hm'
                  rcases loaded_mapping c₁ (doc.loaded _ _ _ hc₁) hmapping with ⟨n, rfl⟩
                  rw [mappingOf, Option.some.injEq] at hm hm'
                  have hget : m.get? l = some c := Except.ok.inj h
                  have hget' : m'.get? l = some c' := Except.ok.inj h'
                  rw [← hm] at hget
                  rw [← hm'] at hget'
                  exact hkept n l c c' hget hc hget' hc'

/-- The mapping of the file that the defaults are. -/
def YamlConfig.defaultsObject (y : YamlConfig) : Option Nat :=
  match y.defaults with
  | some (.ref n) => some n
  | _ => none

/-- The entries of a component under `n` of which the written one is, itself
    or through the defaults. -/
def Takes (n : Nat) (key : String) : Prop :=
  key = k ∧ k ≠ "cluster_name"
    ∧ (n = r ∨ (run.config.defaultsObject = some r ∧ (doc.objects n).get? k = none))

theorem defaultFor_written (y : YamlConfig) (hloaded : ∀ c, y.defaults = some c → Loaded c)
    (key : String) :
    y.defaultFor (doc.objects.write r k w) key
      = if y.defaultsObject = some r ∧ key = k then some w else y.defaultFor doc.objects key := by
  unfold YamlConfig.defaultFor YamlConfig.defaultsObject
  cases hd : y.defaults with
  | none => simp
  | some c =>
      cases hloaded c hd with
      | scalar a => simp [mappingOf]
      | list items hitems => simp [mappingOf]
      | ref n =>
          have hget := Store.get?_write doc.objects r n k key w
          simp only [Option.some.injEq]
          exact hget

/-- The parameters of a component before and after a write: they differ in the
    written entry, if they take it. -/
theorem componentParams_written (hw : Replaces doc r k w)
    (hdefaults : ∀ c, run.config.defaults = some c → Loaded c) (component : String)
    (params params' : Object)
    (h : run.componentParams doc.objects component = .ok params)
    (h' : run.componentParams (doc.objects.write r k w) component = .ok params') :
    ∃ n, run.config.lookup doc.objects (some run.impl) (some component) = .ok (some (.ref n))
      ∧ ∀ key, (Takes run doc r k n key → params'.get? key = some w)
          ∧ (¬ Takes run doc r k n key → params'.get? key = params.get? key) := by
  rcases run.componentParams_ok _ component params h with ⟨c, own, hc, hown, hparams⟩
  rcases run.componentParams_ok _ component params' h' with ⟨c', own', hc', hown', hparams'⟩
  have hmapping := isMapping_of_mappingOf _ c own hown
  have hsame := lookup_kept doc r k w hw run.config _ _ c c' hc hmapping hc'
    (isMapping_of_mappingOf _ c' own' hown')
  rw [hsame] at hown'
  rcases loaded_mapping c (lookup_loaded doc run.config _ _ c hc) hmapping with ⟨n, rfl⟩
  rw [mappingOf, Option.some.injEq] at hown hown'
  refine ⟨n, hc, fun key => ?_⟩
  rw [hparams key, hparams' key, ← hown, ← hown', Store.get?_write,
    defaultFor_written doc r k w run.config hdefaults key]
  unfold Takes
  by_cases hkey : key = k
  · subst hkey
    by_cases hname : key = "cluster_name"
    · rw [if_pos hname, if_pos hname]
      exact ⟨fun htakes => absurd hname htakes.2.1, fun _ => rfl⟩
    · rw [if_neg hname, if_neg hname]
      by_cases hn : n = r
      · have hslot : n = r ∧ key = key := ⟨hn, rfl⟩
        rw [if_pos hslot]
        exact ⟨fun _ => rfl, fun htakes => absurd ⟨rfl, hname, Or.inl hn⟩ htakes⟩
      · have hslot : ¬ (n = r ∧ key = key) := fun h => hn h.1
        rw [if_neg hslot]
        by_cases hd : run.config.defaultsObject = some r
        · have hdefault : run.config.defaultsObject = some r ∧ key = key := ⟨hd, rfl⟩
          rw [if_pos hdefault]
          cases hget : (doc.objects n).get? key with
          | none => exact ⟨fun _ => rfl, fun htakes => absurd ⟨rfl, hname, Or.inr ⟨hd, rfl⟩⟩ htakes⟩
          | some c₀ =>
              -- the component has an entry of its own, which hides the default
              refine ⟨fun htakes => ?_, fun _ => rfl⟩
              rcases htakes.2.2 with hown | ⟨_, hnone⟩
              · exact absurd hown hn
              · cases hnone
        · have hdefault : ¬ (run.config.defaultsObject = some r ∧ key = key) := fun h => hd h.1
          rw [if_neg hdefault]
          refine ⟨fun htakes => ?_, fun _ => rfl⟩
          rcases htakes.2.2 with hown | ⟨hdefault, _⟩
          · exact absurd hown hn
          · exact absurd hdefault hd
  · have hslot : ¬ (n = r ∧ key = k) := fun h => hkey h.2
    have hdefault : ¬ (run.config.defaultsObject = some r ∧ key = k) := fun h => hkey h.2
    rw [if_neg hslot, if_neg hdefault]
    exact ⟨fun htakes => absurd htakes.1 hkey, fun _ => rfl⟩

end Written

section Shown

variable (run : ImplRun) (doc : Document) (r : Nat) (k : String) (w : Entry)

/-- The parameters of a component as a cell. -/
def cellOfParams (params : Object) : Entry :=
  .own params.entries

theorem look_params_key (s : Objects) (params : Object) (key : String) (q : List Step) :
    look s (cellOfParams params) (.key key :: q)
      = (params.get? key).bind (fun c => look s c q) := by
  have hchild : child s (cellOfParams params) (.key key) = params.get? key := rfl
  cases hget : params.get? key with
  | none => rw [look, follow_cons_none _ _ _ _ (hchild.trans hget)]; rfl
  | some c => rw [look, follow_cons _ _ c _ _ (hchild.trans hget)]; rfl

theorem look_params_item (s : Objects) (params : Object) (i : Nat) (q : List Step) :
    look s (cellOfParams params) (.item i :: q) = none := rfl

theorem follow_params_key (s : Objects) (params : Object) (key : String) (q : List Step) :
    follow s (cellOfParams params) (.key key :: q)
      = (params.get? key).bind (fun c => follow s c q) := by
  have hchild : child s (cellOfParams params) (.key key) = params.get? key := rfl
  cases hget : params.get? key with
  | none => rw [follow_cons_none _ _ _ _ (hchild.trans hget)]; rfl
  | some c => rw [follow_cons _ _ c _ _ (hchild.trans hget)]; rfl

/-- Parameters in two files show the same. -/
def ShowSame (s : Objects) (params : Object) (s' : Objects) (params' : Object) : Prop :=
  ∀ q, look s (cellOfParams params) q = look s' (cellOfParams params') q

theorem showSame_iff (s s' : Objects) (params params' : Object) :
    ShowSame s params s' params'
      ↔ ∀ key q, (params.get? key).bind (fun c => look s c q)
          = (params'.get? key).bind (fun c => look s' c q) := by
  constructor
  · intro h key q
    rw [← look_params_key, ← look_params_key]
    exact h _
  · intro h q
    cases q with
    | nil => rfl
    | cons st q =>
        cases st with
        | key key => rw [look_params_key, look_params_key, h]
        | item i => rw [look_params_item, look_params_item]

/-- A component whose parameters are of an object that was written shows the
    same when what it takes is what it had, and nothing else in it leads to
    the object. -/
theorem showSame_late_iff (hw : ByValue w) (n : Nat) (params params' : Object)
    (hkeys : ∀ key, (Takes run doc r k n key → params'.get? key = some w)
      ∧ (¬ Takes run doc r k n key → params'.get? key = params.get? key)) :
    ShowSame doc.objects params (doc.objects.write r k w) params'
      ↔ (Takes run doc r k n k →
          ∀ q, (params.get? k).bind (fun c => look doc.objects c q) = look doc.objects w q)
        ∧ (Already doc.objects r k w
          ∨ ∀ q, follow doc.objects (cellOfParams params) q = some (.ref r) →
              Takes run doc r k n k ∧ q.head? = some (.key k)) := by
  have hvalue : ∀ q, look (doc.objects.write r k w) w q = look doc.objects w q :=
    fun q => look_byValue _ _ w hw q
  rw [showSame_iff]
  constructor
  · intro hsame
    refine ⟨fun htakes q => ?_, ?_⟩
    · rw [hsame k q, (hkeys k).1 htakes, Option.bind_some, hvalue]
    -- a path to the object that is not the new entry would show the write
    · by_contra hno
      rw [not_or, not_forall] at hno
      rcases hno with ⟨hnew, q, hq⟩
      rw [Classical.not_imp] at hq
      rcases hq with ⟨hleads, hother⟩
      cases q with
      | nil => exact nomatch hleads
      | cons st q =>
          cases st with
          | item i => exact nomatch hleads
          | key key =>
              have hkey : ¬ Takes run doc r k n key := by
                intro htakes
                have hk : key = k := htakes.1
                rw [hk] at htakes hother
                exact hother ⟨htakes, rfl⟩
              -- the entry is the same in both, so what it leads to is seen to differ
              rw [follow_params_key] at hleads
              cases hget : params.get? key with
              | none =>
                  rw [hget] at hleads
                  exact nomatch hleads
              | some c =>
                  rw [hget, Option.bind_some] at hleads
                  have hunseen : ∀ q,
                      look doc.objects c q = look (doc.objects.write r k w) c q := by
                    intro q
                    have h := hsame key q
                    rw [(hkeys key).2 hkey, hget, Option.bind_some, Option.bind_some] at h
                    exact h
                  rcases (look_write_iff doc.objects r k w hw c).mp hunseen with halready | hfar
                  · exact hnew halready
                  · exact hfar q hleads
  · rintro ⟨htaken, hrest⟩ key q
    by_cases htakes : Takes run doc r k n key
    · have hk : key = k := htakes.1
      rw [hk] at htakes ⊢
      rw [(hkeys k).1 htakes, Option.bind_some, hvalue, htaken htakes]
    · rw [(hkeys key).2 htakes]
      cases hget : params.get? key with
      | none => rfl
      | some c =>
          refine (look_write_iff doc.objects r k w hw c).mpr ?_ q
          refine hrest.imp id (fun hfar q hleads => ?_)
          -- a path to the object is one that begins with the new entry
          have hpath : follow doc.objects (cellOfParams params) (.key key :: q)
              = some (.ref r) := by
            rw [follow_params_key, hget, Option.bind_some]
            exact hleads
          rcases hfar _ hpath with ⟨hk, hhead⟩
          have hkey : key = k := Step.key.inj (Option.some.inj hhead)
          rw [hkey] at htakes
          exact htakes hk

/-- The keys to the mapping that is written, and the key that is set. -/
def spotOf (front : List String) (key : String) : List Step :=
  (front ++ [key]).map Step.key

/-- A cell that a path of keys leads on from to an object is a mapping. -/
theorem isMapping_of_follow (s : Objects) (c : Entry) (keys : List String)
    (h : follow s c (keys.map Step.key) = some (.ref r)) : c.isMapping = true := by
  cases keys with
  | nil =>
      rw [Option.some.inj h]
      rfl
  | cons key keys =>
      cases c with
      | ref n => rfl
      | own entries => rfl
      | scalar a => exact nomatch h
      | list items => exact nomatch h

/-- Above its spot a write leaves every entry as it was: the entry that is
    written would be a mapping there, and be set to one. -/
theorem spot_of_above (hreplaces : Replaces doc r k w) (c : Entry) (front : List String)
    (hfront : follow doc.objects c (front.map Step.key) = some (.ref r)) (q : List Step)
    (hq : follow doc.objects c q = some (.ref r)) (habove : q ++ [.key k] <+: front.map Step.key) :
    look doc.objects (.ref r) [.key k] ≠ look doc.objects w [] := by
  rcases habove with ⟨z, hz⟩
  rcases List.append_eq_map_iff.mp hz with ⟨_, below, _, _, hbelow⟩
  rw [← hz, follow_append, follow_append, hq, Option.bind_some] at hfront
  cases hchild : child doc.objects (.ref r) (.key k) with
  | none =>
      rw [follow_cons_none _ _ _ _ hchild] at hfront
      cases hfront
  | some x =>
      rw [follow_cons _ _ x _ _ hchild, follow, Option.bind_some, ← hbelow] at hfront
      have hx := isMapping_of_follow r doc.objects x below hfront
      have hnot := hreplaces x hchild hx
      rw [look, look, follow_cons _ _ x _ _ hchild, follow, follow, Option.map_some,
        Option.map_some]
      intro hsame
      have hboth := isMapping_of_shape x w (Option.some.inj hsame)
      rw [hx, hnot] at hboth
      cases hboth

/-- From the component itself a write is seen at its spot only, when every path
    to the object that is written goes to the spot. -/
theorem same_off_spot_iff (hw : ByValue w) (hreplaces : Replaces doc r k w) (c : Entry)
    (front : List String)
    (hfront : follow doc.objects c (front.map Step.key) = some (.ref r)) :
    (∀ q, ¬ spotOf front k <+: q → look doc.objects c q = look (doc.objects.write r k w) c q)
      ↔ Already doc.objects r k w
        ∨ ∀ q, follow doc.objects c q = some (.ref r) → spotOf front k <+: q ++ [.key k] := by
  constructor
  · intro hsame
    by_contra hno
    rw [not_or, Already, not_forall, not_forall] at hno
    rcases hno with ⟨⟨q', hq'⟩, q, hq⟩
    rw [Classical.not_imp] at hq
    rcases hq with ⟨hleads, hoff⟩
    rcases leads_write doc.objects r k w c q hleads with ⟨q₁, hs, hs', hpath⟩
    have hoff₁ : ¬ spotOf front k <+: q₁ ++ [.key k] := by
      rcases hpath with rfl | hpre
      · exact hoff
      · exact fun h => hoff ((h.trans hpre).trans (List.prefix_append q _))
    -- what is seen at the written entry is seen by this path, so below the spot
    have hbelow : ∀ q'', look doc.objects (.ref r) (.key k :: q'') ≠ look doc.objects w q'' →
        spotOf front k <+: q₁ ++ .key k :: q'' := by
      intro q'' hne
      by_contra houtside
      have hseen : look doc.objects (.ref r) (.key k :: q'')
          ≠ look (doc.objects.write r k w) (.ref r) (.key k :: q'') :=
        fun h => hne ((written_same_iff doc.objects r k w hw q'').mp h)
      exact look_ne_append _ _ c _ q₁ _ hs hs' hseen (hsame _ houtside)
    have hspot := hbelow q' hq'
    have hsplit : q₁ ++ .key k :: q' = (q₁ ++ [.key k]) ++ q' := by
      rw [List.append_assoc, List.singleton_append]
    rw [hsplit] at hspot
    rcases List.prefix_or_prefix_of_prefix hspot (List.prefix_append _ _) with hin | habove
    · exact hoff₁ hin
    · rw [spotOf, List.map_append, List.map_cons, List.map_nil] at habove
      rcases List.prefix_concat_iff.mp habove with heq | habove
      · refine hoff₁ ?_
        rw [heq, spotOf, List.map_append, List.map_cons, List.map_nil]
      · have hne := spot_of_above doc r k w hreplaces c front hfront q₁ hs habove
        exact hoff₁ (hbelow [] hne)
  · intro h q hoff
    by_contra hne
    rcases look_ne_passes _ _ c q hne with ⟨q₀, r₀, k₀, q', hq, hs, _, hcell, hlook⟩
    rcases written_of_ne doc.objects r k w r₀ k₀ hcell with ⟨rfl, rfl⟩
    rcases h with halready | hspot
    · exact hlook ((written_same_iff doc.objects r₀ k₀ w hw q').mpr (halready q'))
    · refine hoff ((hspot q₀ hs).trans ?_)
      rw [hq]
      exact ⟨q', by rw [List.append_assoc, List.singleton_append]⟩

end Shown

end Xbench
