import Xbench.Commands.Overrides
import Xbench.Commands.Precedence

/-!
# Isolation of an Override

When an override changes nothing but its own place.

The run with an override is the run without it up to the component. From there
on the loop goes over a file with one entry written. It has to find the same
components in it, as many keys, and parameters that show the same. None of this
is so by itself: a mapping with an anchor is one object for all its aliases, the
mapping under an implementation is the one the loop goes over, and the defaults
are shared by every component. `Apart` lists what it takes, and `isolated_iff`
says that nothing less would do.

## Main definitions

* `earlier`, `later`: The keys before a component and after it.
* `OfFile`: What an implementation starts with is of the file.
* `Override.spot`: Where an override is seen in its component.
* `Override.Spares`: A component with the override and without.
* `Apart`: Nothing else shares the mapping that is written.
* `Override.SparesEnv`: An environment with the override and without.
* `EnvBuilder.ApartIn`: The same for an implementation.

## Theorems

* `ImplRun.addComponents_plain_iff`: The loop without the command line.
* `components_override`: The run with an override.
* `spot_prefix`: The spot is on the path of the override.
* `isolated_run_iff`: When an override of one implementation is isolated.
* `EnvBuilder.isolated_iff`: When an override is isolated.
-/

namespace Xbench

namespace ImplRun

variable (run : ImplRun)

/-- The loop reads from the command line what there is for its keys. -/
theorem addComponents_congr (extras extras' : Dict String Value) (size : Nat)
    (keys : List String) (s : Objects)
    (h : ∀ key ∈ keys, extraFor extras key = extraFor extras' key) :
    run.addComponents extras size keys s = run.addComponents extras' size keys s := by
  induction keys generalizing s with
  | nil => rfl
  | cons key keys ih =>
      have hkey : run.addComponent extras s key = run.addComponent extras' s key := by
        rw [addComponent, addComponent, h key List.mem_cons_self]
      have hrest : run.addComponents extras size keys = run.addComponents extras' size keys :=
        funext (fun t => ih t (fun k hk => h k (List.mem_cons_of_mem key hk)))
      rw [addComponents, addComponents, hkey, hrest]

/-- The loop over keys in two parts. -/
theorem addComponents_append (extras : Dict String Value) (size : Nat) (front keys : List String)
    (s t : Objects) (made : List (String × Object))
    (h : run.addComponents extras size front s = .ok (t, made)) :
    run.addComponents extras size (front ++ keys) s
      = (run.addComponents extras size keys t).map (fun x => (x.1, made ++ x.2)) := by
  induction front generalizing s made with
  | nil =>
      rw [addComponents] at h
      rcases except_bind_eq_ok _ _ _ h with ⟨_, _, h⟩
      have hpair := Prod.mk.inj (Except.ok.inj h)
      rw [← hpair.1, ← hpair.2, List.nil_append]
      cases run.addComponents extras size keys s <;> rfl
  | cons key front ih =>
      rcases run.addComponents_cons extras size key front s t made h with
        ⟨hsize, ⟨hno, hlater⟩ | ⟨t', params, rest, hyes, hadd, hlater, rfl⟩⟩
      · rw [List.cons_append, addComponents, hsize, ← ih s made hlater]
        simp only [bind, Except.bind, hno, Bool.false_eq_true, if_false]
      · rw [List.cons_append, addComponents, hsize]
        simp only [bind, Except.bind, hyes, if_true, hadd, ih t' rest hlater]
        cases run.addComponents extras size keys t <;> rfl

/-- The loop without parameters from the command line. -/
theorem addComponents_plain_iff (size : Nat) (keys : List String) (s s' : Objects)
    (made : List (String × Object)) :
    run.addComponents Dict.empty size keys s = .ok (s', made)
      ↔ s' = s ∧ run.checkSize size s = .ok ()
        ∧ made.map Prod.fst = keys.filter (run.isComponent s)
        ∧ ∀ e ∈ made, run.componentParams s e.1 = .ok e.2 := by
  constructor
  · intro h
    have hsame := run.addComponents_quiet Dict.empty size keys s s' made h (fun _ _ => rfl)
    refine ⟨hsame, run.checkSize_of_addComponents _ _ _ _ _ _ h, ?_⟩
    subst hsame
    -- without parameters of the command line nothing is written between two components
    induction keys generalizing made with
    | nil =>
        rw [addComponents] at h
        rcases except_bind_eq_ok _ _ _ h with ⟨_, _, h⟩
        rw [← (Prod.mk.inj (Except.ok.inj h)).2]
        exact ⟨rfl, fun e he => absurd he List.not_mem_nil⟩
    | cons key keys ih =>
        rcases run.addComponents_cons _ size key keys s' s' made h with
          ⟨_, ⟨hno, hlater⟩ | ⟨t, params, rest, hyes, hadd, hlater, rfl⟩⟩
        -- the key is no component
        · rw [List.filter_cons_of_neg (by rw [hno]; exact Bool.false_ne_true)]
          exact ih made hlater
        · rcases except_bind_eq_ok _ _ _ hadd with ⟨params', hparams, hadd⟩
          have hpair := Prod.mk.inj (Except.ok.inj hadd)
          have hp : params' = params := hpair.2
          rw [← hpair.1] at hlater
          rw [hp] at hparams
          rcases ih rest hlater with ⟨hnames, hall⟩
          refine ⟨?_, fun e he => ?_⟩
          · rw [List.map_cons, List.filter_cons_of_pos hyes, hnames]
          · rcases List.mem_cons.mp he with heq | he
            · rw [heq]
              exact hparams
            · exact hall e he
  · rintro ⟨rfl, hsize, hnames, hall⟩
    -- the same run, put together from what it makes
    induction keys generalizing made with
    | nil =>
        rw [List.map_eq_nil_iff.mp hnames, addComponents, hsize]
        rfl
    | cons key keys ih =>
        cases hcomponent : run.isComponent s' key with
        | false =>
            rw [List.filter_cons_of_neg (by rw [hcomponent]; exact Bool.false_ne_true)] at hnames
            have hrest := ih made hnames hall
            rw [addComponents, hsize]
            simp only [bind, Except.bind, hcomponent, Bool.false_eq_true, if_false, hrest]
        | true =>
            rw [List.filter_cons_of_pos hcomponent] at hnames
            rcases List.map_eq_cons_iff.mp hnames with ⟨⟨name, params⟩, rest, hmade, hname, hrest⟩
            have hkey : name = key := hname
            rw [hkey] at hmade
            rw [hmade] at hall ⊢
            have hlater := ih rest hrest (fun e he => hall e (List.mem_cons_of_mem _ he))
            have hparams := hall _ List.mem_cons_self
            have hadd : run.addComponent Dict.empty s' key = .ok (s', params) := by
              rw [addComponent, hparams]
              rfl
            rw [addComponents, hsize]
            simp only [bind, Except.bind, hcomponent, if_true, hadd, hlater]

end ImplRun

/-- The keys before a component, and those after it. -/
def earlier (keys : List String) (component : String) : List String :=
  keys.takeWhile (fun key => key != component)

def later (keys : List String) (component : String) : List String :=
  (keys.dropWhile (fun key => key != component)).tail

theorem split_at (keys : List String) (component : String) (h : component ∈ keys) :
    keys = earlier keys component ++ component :: later keys component := by
  unfold earlier later
  induction keys with
  | nil => exact absurd h List.not_mem_nil
  | cons key keys ih =>
      by_cases hkey : key = component
      · subst hkey
        simp
      · have hmem : component ∈ keys := List.mem_of_ne_of_mem (Ne.symm hkey) h
        have hgo : (key != component) = true := bne_iff_ne.mpr hkey
        simp only [List.takeWhile_cons, List.dropWhile_cons, hgo, if_true, List.cons_append]
        rw [← ih hmem]

section Override

variable (run : ImplRun) (doc : Document) (ov : Override)

theorem extraFor_self :
    extraFor ov.extras ov.component = .ok [(ov.first, nest ov.rest ov.value)] := by
  rw [extraFor, Override.extras, Dict.get?_set_self]

theorem extraFor_other (component : String) (h : component ≠ ov.component) :
    extraFor ov.extras component = extraFor Dict.empty component := by
  rw [extraFor, extraFor, Override.extras, Dict.get?_set_other _ _ _ _ h]

/-- The file and the parameters after the override. -/
def Override.apply (s : Objects) (params : Object) : Objects × Object :=
  extend s params [(ov.first, nest ov.rest ov.value)]

/-- The run of an implementation with the override: as without it up to the
    component, and from there on with the file as the override leaves it. -/
theorem components_override (s' : Objects) (made : List (String × Object)) (params : Object)
    (hplain : run.components Dict.empty doc.objects = .ok (s', made))
    (hmem : (ov.component, params) ∈ made) :
    ∃ front back,
      (run.implParams doc.objects).keys
          = earlier (run.implParams doc.objects).keys ov.component
            ++ ov.component :: later (run.implParams doc.objects).keys ov.component
      ∧ made = front ++ (ov.component, params) :: back
      ∧ front.map Prod.fst = (earlier (run.implParams doc.objects).keys ov.component).filter
          (run.isComponent doc.objects)
      ∧ back.map Prod.fst = (later (run.implParams doc.objects).keys ov.component).filter
          (run.isComponent doc.objects)
      ∧ run.components ov.extras doc.objects
          = (run.addComponents Dict.empty (run.implParams doc.objects).keys.length
              (later (run.implParams doc.objects).keys ov.component)
              (ov.apply doc.objects params).1).map
            (fun x => (x.1, front ++ (ov.component, (ov.apply doc.objects params).2) :: x.2)) := by
  have hkey := run.addComponents_keys _ _ _ _ _ _ hplain ov.component params hmem
  have hsplit := split_at _ _ hkey
  have hnodup := (run.implParams doc.objects).keys_nodup
  rcases (run.addComponents_plain_iff _ _ _ _ _).mp hplain with ⟨_, hsize, hnames, hall⟩
  unfold ImplRun.components
  generalize (run.implParams doc.objects).keys.length = size at hsize ⊢
  generalize earlier (run.implParams doc.objects).keys ov.component = before at hsplit ⊢
  generalize later (run.implParams doc.objects).keys ov.component = after at hsplit ⊢
  generalize (run.implParams doc.objects).keys = keys at hsplit hnodup hnames hkey ⊢
  rw [hsplit] at hnodup hnames hkey
  have hcomponent : run.isComponent doc.objects ov.component = true := by
    have hin : ov.component ∈ made.map Prod.fst := List.mem_map.mpr ⟨_, hmem, rfl⟩
    rw [hnames] at hin
    exact (List.mem_filter.mp hin).2
  rw [List.filter_append, List.filter_cons_of_pos hcomponent] at hnames
  rcases List.map_eq_append_iff.mp hnames with ⟨front, rest, rfl, hfront, hrest⟩
  rcases List.map_eq_cons_iff.mp hrest with ⟨⟨name, params'⟩, back, rfl, hname, hback⟩
  have hsame : name = ov.component := hname
  rw [hsame] at hmem hall ⊢
  have hparams := hall _ hmem
  have hhere : run.componentParams doc.objects ov.component = .ok params' :=
    hall (ov.component, params') (List.mem_append_right _ List.mem_cons_self)
  have hp : params' = params := by
    rw [hparams] at hhere
    exact (Except.ok.inj hhere).symm
  subst hp
  refine ⟨front, back, hsplit, rfl, hfront, hback, ?_⟩
  -- the rounds before the component, and those after it, are the plain ones
  have hnotBefore : ∀ key ∈ before, key ≠ ov.component := by
    intro key hkey heq
    rw [heq] at hkey
    exact (List.nodup_append.mp hnodup).2.2 _ hkey _ List.mem_cons_self rfl
  have hnotAfter : ∀ key ∈ after, key ≠ ov.component := by
    intro key hkey heq
    rw [heq] at hkey
    exact (List.nodup_cons.mp (List.nodup_append.mp hnodup).2.1).1 hkey
  have hbefore : run.addComponents ov.extras size before doc.objects
      = .ok (doc.objects, front) := by
    rw [run.addComponents_congr ov.extras Dict.empty size before doc.objects
      (fun key hkey => extraFor_other ov key (hnotBefore key hkey))]
    exact (run.addComponents_plain_iff size before _ _ front).mpr
      ⟨rfl, hsize, hfront, fun e he => hall e (List.mem_append_left _ he)⟩
  have hafter := run.addComponents_congr ov.extras Dict.empty size after
    (ov.apply doc.objects params').1 (fun key hkey => extraFor_other ov key (hnotAfter key hkey))
  have hadd : run.addComponent ov.extras doc.objects ov.component
      = .ok (ov.apply doc.objects params') := by
    rw [ImplRun.addComponent, hparams, extraFor_self]
    rfl
  rw [hsplit, run.addComponents_append ov.extras size before _ _ _ front hbefore,
    ImplRun.addComponents, hsize]
  simp only [bind, Except.bind, hcomponent, if_true, hadd, hafter]
  cases run.addComponents Dict.empty size after (ov.apply doc.objects params').1 <;> rfl

/-- What an implementation starts with is of the file. -/
structure OfFile : Prop where
  defaults : ∀ c, run.config.defaults = some c → Loaded c
  common : ∀ key c, run.common.get? key = some c → Loaded c

theorem defaultFor_loaded (y : YamlConfig) (hdefaults : ∀ c, y.defaults = some c → Loaded c)
    (key : String) (c : Entry) (h : y.defaultFor doc.objects key = some c) : Loaded c := by
  unfold YamlConfig.defaultFor at h
  rcases Option.bind_eq_some_iff.mp h with ⟨m, hm, hget⟩
  rcases Option.bind_eq_some_iff.mp hm with ⟨d, hd, hm⟩
  rcases loaded_mapping d (hdefaults d hd) (isMapping_of_mappingOf _ d m hm) with ⟨n, rfl⟩
  rw [mappingOf, Option.some.injEq] at hm
  rw [← hm] at hget
  exact doc.loaded n key c hget

variable (hfile : OfFile run)

include hfile in
/-- So are the parameters of its components. -/
theorem componentParams_loaded (component : String) (params : Object)
    (h : run.componentParams doc.objects component = .ok params) (key : String) (c : Entry)
    (hget : params.get? key = some c) : Loaded c := by
  rcases run.componentParams_ok _ component params h with ⟨own, m, hown, hm, hkeys⟩
  have hmapping := isMapping_of_mappingOf _ own m hm
  rcases loaded_mapping own (lookup_loaded doc run.config _ _ own hown) hmapping with ⟨n, rfl⟩
  rw [mappingOf, Option.some.injEq] at hm
  rw [hkeys key, ← hm] at hget
  by_cases hname : key = "cluster_name"
  · rw [if_pos hname, Option.some.injEq] at hget
    rw [← hget]
    exact .scalar _
  · rw [if_neg hname, Option.or_eq_some_iff, Option.or_eq_some_iff] at hget
    rcases hget with (hget | ⟨_, hget⟩) | ⟨_, hget⟩
    · exact doc.loaded n key c hget
    · exact defaultFor_loaded doc run.config hfile.defaults key c hget
    · exact hfile.common key c hget

/-- Where an override is seen in the parameters of its component: at the first
    key of its path that is no mapping of the file, or at the end. -/
def Override.spot (s : Objects) (params : Object) : List Step :=
  match ov.arrival s params with
  | some a => spotOf a.front a.key
  | none => [.key ov.first]

/-- The mapping that is written is on the way to the spot, and no mapping of it
    is replaced by another. -/
theorem arrival_spec (params : Object) (a : Arrival)
    (h : ov.arrival doc.objects params = some a) :
    Replaces doc a.object a.key (cellOf (nest a.rest ov.value))
      ∧ follow doc.objects (cellOfParams params) (a.front.map Step.key) = some (.ref a.object) := by
  unfold Override.arrival at h
  split at h
  · exact nomatch h
  · rename_i next keys hrest
    split at h
    · rename_i inner hget
      rw [← Option.some.inj h]
      refine ⟨arrive_replaces doc inner next keys ov.value ov.leaf, ?_⟩
      rw [List.map_cons, follow_params_key, hget, Option.bind_some]
      exact arrive_follow doc.objects inner next keys
    · exact nomatch h

/-- The spot is on the path of the override. -/
theorem spot_prefix (s : Objects) (params : Object) :
    ov.spot s params <+: (ov.first :: ov.rest).map Step.key := by
  unfold Override.spot Override.arrival
  cases hrest : ov.rest with
  | nil => exact List.prefix_rfl
  | cons next keys =>
      cases hget : params.get? ov.first with
      | none => exact ⟨(next :: keys).map Step.key, rfl⟩
      | some c =>
          cases c with
          | ref inner =>
              have hpath := arrive_path s inner next keys
              refine ⟨(arrive s inner next keys).rest.map Step.key, ?_⟩
              have hspot : spotOf (ov.first :: (arrive s inner next keys).front)
                  (arrive s inner next keys).key
                    ++ (arrive s inner next keys).rest.map Step.key
                  = (ov.first :: next :: keys).map Step.key := by
                rw [spotOf, ← List.map_append, List.append_assoc, List.cons_append,
                  List.singleton_append, hpath]
              exact hspot
          | _ => exact ⟨(next :: keys).map Step.key, rfl⟩

/-- An override that goes into the new dictionary is seen at its key only. -/
theorem look_set_other (s : Objects) (params : Object) (first : String) (w : Entry)
    (q : List Step) (hq : ¬ [Step.key first] <+: q) :
    look s (cellOfParams params) q = look s (cellOfParams (params.set first w)) q := by
  cases q with
  | nil => rfl
  | cons st q =>
      cases st with
      | item i => rfl
      | key key =>
          have hkey : key ≠ first := by
            intro heq
            rw [heq] at hq
            exact hq ⟨q, rfl⟩
          rw [look_params_key, look_params_key, Dict.get?_set_other _ _ _ _ hkey]

/-- The parameters of a component with the override and without: the same, or
    the same off the spot for the component itself. -/
structure Override.Spares (s' : Objects) (e e' : String × Object) : Prop where
  name : e.1 = e'.1
  other : e.1 ≠ ov.component → ShowSame doc.objects e.2 s' e'.2
  own : e.1 = ov.component → ∀ q, ¬ ov.spot doc.objects e.2 <+: q →
    look doc.objects (cellOfParams e.2) q = look s' (cellOfParams e'.2) q

/-- Nothing but the component itself shares the mapping that an override
    writes. Sharing is harmless where the entry shows the value already. -/
structure Apart (made : List (String × Object)) (params : Object) (a : Arrival) (w : Entry) :
    Prop where
  /-- The loop goes on over as many keys. -/
  size : run.checkSize (run.implParams doc.objects).keys.length
    (doc.objects.write a.object a.key w) = .ok ()
  /-- It finds the same components. -/
  components : ∀ key ∈ later (run.implParams doc.objects).keys ov.component,
    run.isComponent (doc.objects.write a.object a.key w) key = run.isComponent doc.objects key
  /-- Their parameters can still be read. -/
  readable : ∀ key ∈ later (run.implParams doc.objects).keys ov.component,
    run.isComponent doc.objects key = true →
      ∃ p, run.componentParams (doc.objects.write a.object a.key w) key = .ok p
  /-- No component that is made before leads to the mapping. -/
  before : ∀ e ∈ made, e.1 ∈ earlier (run.implParams doc.objects).keys ov.component →
    Already doc.objects a.object a.key w
      ∨ ∀ q, follow doc.objects (cellOfParams e.2) q ≠ some (.ref a.object)
  /-- One that is made after takes the written entry for its own only if this
      shows what it had, and does not lead to the mapping in another way. -/
  after : ∀ e ∈ made, e.1 ∈ later (run.implParams doc.objects).keys ov.component →
    ∀ n, run.config.lookup doc.objects (some run.impl) (some e.1) = .ok (some (.ref n)) →
      (Takes run doc a.object a.key n a.key →
          ∀ q, (e.2.get? a.key).bind (fun c => look doc.objects c q) = look doc.objects w q)
        ∧ (Already doc.objects a.object a.key w
          ∨ ∀ q, follow doc.objects (cellOfParams e.2) q = some (.ref a.object) →
              Takes run doc a.object a.key n a.key ∧ q.head? = some (.key a.key))
  /-- The component itself has the mapping at one place. -/
  own : Already doc.objects a.object a.key w
    ∨ ∀ q, follow doc.objects (cellOfParams params) q = some (.ref a.object) →
        spotOf a.front a.key <+: q ++ [.key a.key]

include hfile in
/-- The components that are made after the one with the override. -/
theorem forall₂_after_iff (a : Arrival) (w : Entry) (hw : ByValue w)
    (hreplaces : Replaces doc a.object a.key w) (back back' : List (String × Object))
    (hback : ∀ e ∈ back, e.1 ≠ ov.component ∧ run.componentParams doc.objects e.1 = .ok e.2)
    (hback' : ∀ e ∈ back',
      run.componentParams (doc.objects.write a.object a.key w) e.1 = .ok e.2) :
    List.Forall₂ (ov.Spares doc (doc.objects.write a.object a.key w)) back back'
      ↔ back.map Prod.fst = back'.map Prod.fst
        ∧ ∀ e ∈ back, ∀ n,
          run.config.lookup doc.objects (some run.impl) (some e.1) = .ok (some (.ref n)) →
            (Takes run doc a.object a.key n a.key →
                ∀ q, (e.2.get? a.key).bind (fun c => look doc.objects c q) = look doc.objects w q)
              ∧ (Already doc.objects a.object a.key w
                ∨ ∀ q, follow doc.objects (cellOfParams e.2) q = some (.ref a.object) →
                    Takes run doc a.object a.key n a.key ∧ q.head? = some (.key a.key)) := by
  induction back generalizing back' with
  | nil => cases back' <;> simp
  | cons e back ih =>
      cases back' with
      | nil => simp
      | cons e' back' =>
          have hrest := ih back' (fun x hx => hback x (List.mem_cons_of_mem _ hx))
            (fun x hx => hback' x (List.mem_cons_of_mem _ hx))
          have he := hback e List.mem_cons_self
          have he' := hback' e' List.mem_cons_self
          rw [List.forall₂_cons, hrest, List.map_cons, List.map_cons, List.cons.injEq,
            List.forall_mem_cons]
          -- the names agree, and then it is about the parameters
          by_cases hname : e.1 = e'.1
          · rw [← hname] at he'
            rcases componentParams_written run doc a.object a.key w hreplaces hfile.defaults e.1
              e.2 e'.2 he.2 he' with ⟨n, hn, hkeys⟩
            have hiff := showSame_late_iff run doc a.object a.key w hw n e.2 e'.2 hkeys
            constructor
            · rintro ⟨hspares, hnames, hall⟩
              refine ⟨⟨hname, hnames⟩, fun n' hn' => ?_, hall⟩
              rw [hn, Except.ok.injEq, Option.some.injEq, Cell.ref.injEq] at hn'
              rw [← hn']
              exact hiff.mp (hspares.other he.1)
            · rintro ⟨⟨_, hnames⟩, hhere, hall⟩
              exact ⟨⟨hname, fun _ => hiff.mpr (hhere n hn), fun heq => absurd heq he.1⟩, hnames,
                hall⟩
          · constructor
            · rintro ⟨hspares, _⟩
              exact absurd hspares.name hname
            · rintro ⟨⟨heq, _⟩, _⟩
              exact absurd heq hname

theorem forall₂_middle_iff {α : Type} (R : α → α → Prop) (front : List α) (x x' : α)
    (back back' : List α) :
    List.Forall₂ R (front ++ x :: back) (front ++ x' :: back')
      ↔ (∀ e ∈ front, R e e) ∧ R x x' ∧ List.Forall₂ R back back' := by
  induction front with
  | nil => simp
  | cons e front ih =>
      rw [List.cons_append, List.cons_append, List.forall₂_cons, ih, List.forall_mem_cons,
        and_assoc]

/-- Without an arrival in the file, every other component is as before. -/
theorem spares_own (params : Object) (h : ov.arrival doc.objects params = none) :
    ov.Spares doc doc.objects (ov.component, params)
      (ov.component, params.set ov.first (cellOf (nest ov.rest ov.value))) := by
  refine ⟨rfl, fun hne => absurd rfl hne, fun _ q hq => ?_⟩
  have hspot : ov.spot doc.objects params = [.key ov.first] := by
    rw [Override.spot, h]
  rw [hspot] at hq
  exact look_set_other doc.objects params ov.first _ q hq

theorem spares_refl (e : String × Object) : ov.Spares doc doc.objects e e :=
  ⟨rfl, fun _ _ => rfl, fun _ _ _ => rfl⟩

theorem exists_params (P : String → Object → Prop) (keys : List String)
    (h : ∀ key ∈ keys, ∃ p, P key p) :
    ∃ made : List (String × Object), made.map Prod.fst = keys ∧ ∀ e ∈ made, P e.1 e.2 := by
  induction keys with
  | nil => exact ⟨[], rfl, fun e he => absurd he List.not_mem_nil⟩
  | cons key keys ih =>
      rcases ih (fun k hk => h k (List.mem_cons_of_mem key hk)) with ⟨made, hnames, hall⟩
      rcases h key List.mem_cons_self with ⟨p, hp⟩
      refine ⟨(key, p) :: made, by rw [List.map_cons, hnames], ?_⟩
      rw [List.forall_mem_cons]
      exact ⟨hp, hall⟩

include hfile in
/-- The run with an override that is written to the file, from the components
    before and after it. -/
theorem apart_iff (made front back : List (String × Object)) (params : Object) (a : Arrival)
    (ha : ov.arrival doc.objects params = some a)
    (hkeys : (run.implParams doc.objects).keys
      = earlier (run.implParams doc.objects).keys ov.component
        ++ ov.component :: later (run.implParams doc.objects).keys ov.component)
    (hmade : made = front ++ (ov.component, params) :: back)
    (hfront : front.map Prod.fst = (earlier (run.implParams doc.objects).keys ov.component).filter
      (run.isComponent doc.objects))
    (hback : back.map Prod.fst = (later (run.implParams doc.objects).keys ov.component).filter
      (run.isComponent doc.objects))
    (hall : ∀ e ∈ made, run.componentParams doc.objects e.1 = .ok e.2) :
    (∃ s' back', run.addComponents Dict.empty (run.implParams doc.objects).keys.length
          (later (run.implParams doc.objects).keys ov.component)
          (doc.objects.write a.object a.key (cellOf (nest a.rest ov.value))) = .ok (s', back')
        ∧ List.Forall₂ (ov.Spares doc s') made (front ++ (ov.component, params) :: back'))
      ↔ Apart run doc ov made params a (cellOf (nest a.rest ov.value)) := by
  rcases arrival_spec doc ov params a ha with ⟨hreplaces, hleads⟩
  have hw := cellOf_byValue (nest a.rest ov.value)
  have hspot : ov.spot doc.objects params = spotOf a.front a.key := by
    rw [Override.spot, ha]
  have hnodup := (run.implParams doc.objects).keys_nodup
  rw [hkeys] at hnodup
  generalize hs₁ : doc.objects.write a.object a.key (cellOf (nest a.rest ov.value)) = s₁
  have hfrontNames : ∀ e ∈ front,
      e.1 ∈ earlier (run.implParams doc.objects).keys ov.component := by
    intro e he
    have hin : e.1 ∈ front.map Prod.fst := List.mem_map.mpr ⟨e, he, rfl⟩
    rw [hfront] at hin
    exact (List.mem_filter.mp hin).1
  have hbackNames : ∀ e ∈ back,
      e.1 ∈ later (run.implParams doc.objects).keys ov.component := by
    intro e he
    have hin : e.1 ∈ back.map Prod.fst := List.mem_map.mpr ⟨e, he, rfl⟩
    rw [hback] at hin
    exact (List.mem_filter.mp hin).1
  have hfrontPlain : ∀ e ∈ front, e.1 ≠ ov.component :=
    fun e he heq =>
      (List.nodup_append.mp hnodup).2.2 _ (hfrontNames e he) _ List.mem_cons_self heq
  -- the components before are in front, those after at the back
  have hinFront : ∀ e ∈ made, e.1 ∈ earlier (run.implParams doc.objects).keys ov.component →
      e ∈ front := by
    intro e he hin
    rw [hmade] at he
    rcases List.mem_append.mp he with he | he
    · exact he
    · have hlast : e.1 ∈ ov.component :: later (run.implParams doc.objects).keys ov.component := by
        rcases List.mem_cons.mp he with heq | he
        · rw [heq]
          exact List.mem_cons_self
        · exact List.mem_cons_of_mem _ (hbackNames e he)
      exact absurd rfl ((List.nodup_append.mp hnodup).2.2 _ hin _ hlast)
  have hinBack : ∀ e ∈ made, e.1 ∈ later (run.implParams doc.objects).keys ov.component →
      e ∈ back := by
    intro e he hin
    rw [hmade] at he
    rcases List.mem_append.mp he with he | he
    · exact absurd rfl ((List.nodup_append.mp hnodup).2.2 _ (hfrontNames e he) _
        (List.mem_cons_of_mem _ hin))
    · rcases List.mem_cons.mp he with heq | he
      · rw [heq] at hin
        exact absurd hin (List.nodup_cons.mp (List.nodup_append.mp hnodup).2.1).1
      · exact he
  have hbackPlain : ∀ e ∈ back,
      e.1 ≠ ov.component ∧ run.componentParams doc.objects e.1 = .ok e.2 := by
    intro e he
    refine ⟨fun heq => ?_, hall e ?_⟩
    · have hin := hbackNames e he
      rw [heq] at hin
      exact (List.nodup_cons.mp (List.nodup_append.mp hnodup).2.1).1 hin
    · rw [hmade]
      exact List.mem_append_right _ (List.mem_cons_of_mem _ he)
  have hafter := fun back' hback' => forall₂_after_iff run doc ov hfile a _ hw hreplaces back back'
    hbackPlain hback'
  have hbefore : ∀ e : String × Object, e.1 ≠ ov.component →
      (ov.Spares doc s₁ e e ↔ Already doc.objects a.object a.key (cellOf (nest a.rest ov.value))
        ∨ ∀ q, follow doc.objects (cellOfParams e.2) q ≠ some (.ref a.object)) := by
    intro e hne
    rw [← look_write_iff doc.objects a.object a.key _ hw, hs₁]
    exact ⟨fun hspares => hspares.other hne,
      fun hsame => ⟨rfl, fun _ => hsame, fun h => absurd h hne⟩⟩
  have hown : ov.Spares doc s₁ (ov.component, params) (ov.component, params)
      ↔ Already doc.objects a.object a.key (cellOf (nest a.rest ov.value))
        ∨ ∀ q, follow doc.objects (cellOfParams params) q = some (.ref a.object) →
            spotOf a.front a.key <+: q ++ [.key a.key] := by
    rw [← same_off_spot_iff doc a.object a.key _ hw hreplaces _ a.front hleads, hs₁, ← hspot]
    exact ⟨fun hspares => hspares.own rfl,
      fun hsame => ⟨rfl, fun h => absurd rfl h, fun _ => hsame⟩⟩
  rw [hs₁] at hafter
  constructor
  · rintro ⟨s', back', hrun, hspares⟩
    rcases (run.addComponents_plain_iff _ _ _ _ _).mp hrun with ⟨rfl, hsize, hnames, hall'⟩
    rw [hmade, forall₂_middle_iff] at hspares
    rcases hspares with ⟨hfronts, hmiddle, hbacks⟩
    rcases (hafter back' hall').mp hbacks with ⟨hsame, hlate⟩
    rw [hback, hnames] at hsame
    have hkept : ∀ key ∈ later (run.implParams doc.objects).keys ov.component,
        run.isComponent s' key = run.isComponent doc.objects key := by
      intro key hkey
      have hin : key ∈ (later (run.implParams doc.objects).keys ov.component).filter
            (run.isComponent doc.objects)
          ↔ key ∈ (later (run.implParams doc.objects).keys ov.component).filter
            (run.isComponent s') := by rw [hsame]
      rw [List.mem_filter, List.mem_filter] at hin
      exact Bool.eq_iff_iff.mpr
        ⟨fun hnow => (hin.mpr ⟨hkey, hnow⟩).2, fun hthen => (hin.mp ⟨hkey, hthen⟩).2⟩
    rw [← hs₁] at hsize hkept hnames hall'
    refine ⟨hsize, hkept, fun key hkey hcomponent => ?_, fun e he hin => ?_, fun e he hin => ?_,
      hown.mp hmiddle⟩
    · have hmem : key ∈ back'.map Prod.fst := by
        rw [hnames, List.mem_filter, hkept key hkey]
        exact ⟨hkey, hcomponent⟩
      rcases List.mem_map.mp hmem with ⟨e, he, rfl⟩
      exact ⟨e.2, hall' e he⟩
    · have hfrontMem := hinFront e he hin
      exact (hbefore e (hfrontPlain e hfrontMem)).mp (hfronts e hfrontMem)
    · exact hlate e (hinBack e he hin)
  · intro hapart
    have hreadable : ∀ key ∈ (later (run.implParams doc.objects).keys ov.component).filter
        (run.isComponent s₁), ∃ p, run.componentParams s₁ key = .ok p := by
      intro key hkey
      rcases List.mem_filter.mp hkey with ⟨hin, hcomponent⟩
      have hthen := hapart.components key hin
      rw [hs₁, hcomponent] at hthen
      have hread := hapart.readable key hin hthen.symm
      rw [hs₁] at hread
      exact hread
    rcases exists_params _ _ hreadable with ⟨back', hnames, hall'⟩
    have hsize := hapart.size
    rw [hs₁] at hsize
    refine ⟨s₁, back', (run.addComponents_plain_iff _ _ _ _ _).mpr ⟨rfl, hsize, hnames, hall'⟩, ?_⟩
    rw [hmade, forall₂_middle_iff]
    refine ⟨fun e he => ?_, hown.mpr hapart.own, (hafter back' hall').mpr ⟨?_, fun e he => ?_⟩⟩
    · refine (hbefore e (hfrontPlain e he)).mpr (hapart.before e ?_ (hfrontNames e he))
      rw [hmade]
      exact List.mem_append_left _ he
    · rw [hback, hnames]
      refine List.filter_congr (fun key hkey => ?_)
      have hthen := hapart.components key hkey
      rw [hs₁] at hthen
      exact hthen.symm
    · refine hapart.after e ?_ (hbackNames e he)
      rw [hmade]
      exact List.mem_append_right _ (List.mem_cons_of_mem _ he)

include hfile in
/-- An override of one implementation is isolated exactly when the mapping it
    is written to is apart from the other components. -/
theorem isolated_run_iff (s : Objects) (made : List (String × Object)) (params : Object)
    (hplain : run.components Dict.empty doc.objects = .ok (s, made))
    (hmem : (ov.component, params) ∈ made) :
    (∃ s' made', run.components ov.extras doc.objects = .ok (s', made')
        ∧ List.Forall₂ (ov.Spares doc s') made made')
      ↔ ∀ a, ov.arrival doc.objects params = some a →
          Apart run doc ov made params a (cellOf (nest a.rest ov.value)) := by
  -- the components in front of the one that is overridden, and those behind
  rcases components_override run doc ov s made params hplain hmem with
    ⟨front, back, hsplit, hmade, hfront, hback, hrun⟩
  rcases (run.addComponents_plain_iff _ _ _ _ _).mp hplain with ⟨_, hsize, hnames, hall⟩
  have hloaded := componentParams_loaded run doc hfile ov.component params (hall _ hmem)
  have happly := extend_override doc ov params hloaded
  cases ha : ov.arrival doc.objects params with
  | none =>
      rw [ha] at happly
      -- the parameter goes nowhere in the file, so nothing is written
      have hplainBack := (run.addComponents_plain_iff _ _ doc.objects doc.objects back).mpr
        ⟨rfl, hsize, hback, fun e he => hall e (by
          rw [hmade]
          exact List.mem_append_right _ (List.mem_cons_of_mem _ he))⟩
      refine ⟨fun _ a h => by simp at h, fun _ => ?_⟩
      rw [hrun, Override.apply, happly]
      refine ⟨_, _, by rw [hplainBack]; rfl, ?_⟩
      rw [hmade, forall₂_middle_iff]
      refine ⟨fun e _ => spares_refl doc ov e, spares_own doc ov params ha, ?_⟩
      exact List.forall₂_same.mpr (fun e _ => spares_refl doc ov e)
  | some a =>
      rw [ha] at happly
      have hiff := apart_iff run doc ov hfile made front back params a ha hsplit hmade hfront hback
        hall
      rw [hrun, Override.apply, happly]
      constructor
      · rintro ⟨s', made', hmap, hspares⟩ a' ha'
        rw [← Option.some.inj ha']
        refine hiff.mp ?_
        rcases except_map_eq_ok _ _ _ hmap with ⟨⟨s₁, back'⟩, hback', hpair⟩
        have hboth := Prod.mk.inj hpair
        rw [← hboth.1, ← hboth.2] at hspares
        exact ⟨s₁, back', hback', hspares⟩
      · intro hapart
        rcases hiff.mpr (hapart a rfl) with ⟨s', back', hback', hspares⟩
        exact ⟨s', _, by rw [hback']; rfl, hspares⟩

/-- Where the component of an override is none, the run is as without it. -/
theorem components_without (s s' : Objects) (size : Nat) (keys : List String)
    (made : List (String × Object))
    (hplain : run.addComponents Dict.empty size keys s = .ok (s', made))
    (hnot : ∀ params, (ov.component, params) ∉ made) :
    run.addComponents ov.extras size keys s = .ok (s', made) := by
  induction keys generalizing s made with
  | nil => exact hplain
  | cons key keys ih =>
      rcases run.addComponents_cons _ size key keys s s' made hplain with
        ⟨hsize, ⟨hno, hlater⟩ | ⟨t, params, rest, hyes, hadd, hlater, rfl⟩⟩
      · rw [ImplRun.addComponents, hsize]
        simp only [bind, Except.bind, hno, Bool.false_eq_true, if_false, ih s made hlater hnot]
      · have hkey : key ≠ ov.component := by
          intro heq
          rw [heq] at hnot
          exact hnot params List.mem_cons_self
        have hadd' : run.addComponent ov.extras s key = .ok (t, params) := by
          rw [ImplRun.addComponent, extraFor_other ov key hkey]
          exact hadd
        have hrest := ih t rest hlater (fun p hp => hnot p (List.mem_cons_of_mem _ hp))
        rw [ImplRun.addComponents, hsize]
        simp only [bind, Except.bind, hyes, if_true, hadd', hrest]

end Override

/-- An environment with the override and without. -/
structure Override.SparesEnv (ov : Override) (doc : Document) (env env' : BuiltEnv) : Prop where
  place : env.env = env'.env
  regionConfig : env.regionConfig = env'.regionConfig
  sharedStorage : env.sharedStorage = env'.sharedStorage
  components : List.Forall₂ (ov.Spares doc env'.objects) env.components env'.components

namespace EnvBuilder

variable (self : EnvBuilder) (ov : Override)

theorem start_ofFile (impl : String) (run : ImplRun) (h : self.start impl = .ok run) :
    OfFile run := by
  rcases self.start_ok impl run h with ⟨_, _, hconfig, own, hwritten, hcommon⟩
  have hdefaults : ∀ c, self.config.defaults = some c → Loaded c :=
    fun c hc => self.document.loaded _ _ c hc
  refine ⟨by rw [hconfig]; exact hdefaults, fun key c hget => ?_⟩
  rw [hcommon key, Option.filter_eq_some_iff, Option.or_eq_some_iff] at hget
  rcases hget.1 with hget | ⟨_, hget⟩
  · unfold written at hwritten
    split at hwritten
    · rename_i e he
      rcases loaded_mapping e (lookup_loaded self.document self.config _ _ e he)
        (isMapping_of_mappingOf _ e own hwritten) with ⟨n, rfl⟩
      rw [mappingOf, Option.some.injEq] at hwritten
      rw [← hwritten] at hget
      exact self.document.loaded n key c hget
    · cases hwritten
  · exact defaultFor_loaded self.document self.config hdefaults key c hget

/-- The mapping that the override is written to is apart from the other
    components of an implementation. -/
def ApartIn (impl : String) (env : BuiltEnv) : Prop :=
  ∀ run params a, self.start impl = .ok run → (ov.component, params) ∈ env.components →
    ov.arrival self.document.objects params = some a →
    Apart run self.document ov env.components params a (cellOf (nest a.rest ov.value))

theorem sparesEnv_iff (i : Nat) (impl : String) (env : BuiltEnv)
    (h : self.buildEnv Dict.empty i impl = .ok env) :
    (∃ env', self.buildEnv ov.extras i impl = .ok env' ∧ ov.SparesEnv self.document env env')
      ↔ self.ApartIn ov impl env := by
  rcases self.buildEnv_ok Dict.empty i impl env h with ⟨run, hrun, hcomponents, hbuild⟩
  have hiff : (∃ env', self.buildEnv ov.extras i impl = .ok env'
        ∧ ov.SparesEnv self.document env env')
      ↔ ∃ s' made', run.components ov.extras self.document.objects = .ok (s', made')
        ∧ List.Forall₂ (ov.Spares self.document s') env.components made' := by
    rw [hbuild ov.extras]
    constructor
    · rintro ⟨env', hmap, hspares⟩
      rcases except_map_eq_ok _ _ _ hmap with ⟨⟨s', made'⟩, hmade, rfl⟩
      exact ⟨s', made', hmade, hspares.components⟩
    · rintro ⟨s', made', hmade, hspares⟩
      exact ⟨{ env with objects := s', components := made' }, by rw [hmade]; rfl, rfl, rfl, rfl,
        hspares⟩
  rw [hiff]
  by_cases hmem : ∃ params, (ov.component, params) ∈ env.components
  · rcases hmem with ⟨params, hmem⟩
    rw [isolated_run_iff run self.document ov (self.start_ofFile impl run hrun) env.objects
      env.components params hcomponents hmem]
    constructor
    · intro hapart run' params' a hrun' hmem' ha
      have hsame : run' = run := by
        rw [hrun] at hrun'
        exact (Except.ok.inj hrun').symm
      have hparams : params' = params := by
        have hall := ((run.addComponents_plain_iff _ _ _ _ _).mp hcomponents).2.2.2
        have hhere := hall _ hmem
        have hthere := hall _ hmem'
        rw [hhere] at hthere
        exact (Except.ok.inj hthere).symm
      rw [hparams] at ha ⊢
      rw [hsame]
      exact hapart a ha
    · intro hapart a ha
      exact hapart run params a hrun hmem ha
  · -- nothing is done for a component that is not there
    rw [not_exists] at hmem
    refine ⟨fun _ run' params' a _ hmem' _ => absurd hmem' (hmem params'), fun _ => ?_⟩
    refine ⟨env.objects, env.components,
      components_without run ov _ _ _ _ _ hcomponents hmem, ?_⟩
    have hsame := ((run.addComponents_plain_iff _ _ _ _ _).mp hcomponents).1
    rw [hsame]
    exact List.forall₂_same.mpr (fun e _ => spares_refl self.document ov e)

/-- The environments with an override and without: the parameters of every
    other component are the same, and those of the component itself off the
    spot, exactly when the mapping that is written is apart. -/
theorem isolated_iff (impls : String) (envs : List BuiltEnv)
    (h : self.buildEnvs Dict.empty impls = .ok envs) :
    (∃ envs', self.buildEnvs ov.extras impls = .ok envs'
        ∧ List.Forall₂ (ov.SparesEnv self.document) envs envs')
      ↔ List.Forall₂ (self.ApartIn ov) (Text.split ',' impls) envs := by
  unfold buildEnvs at h ⊢
  generalize Text.split ',' impls = names at h ⊢
  generalize 0 = i at h ⊢
  induction names generalizing i envs with
  | nil =>
      rw [← Except.ok.inj h]
      exact ⟨fun _ => .nil, fun _ => ⟨[], rfl, .nil⟩⟩
  | cons impl names ih =>
      rcases except_bind_eq_ok _ _ _ h with ⟨env, henv, h⟩
      rcases except_bind_eq_ok _ _ _ h with ⟨rest, hrest, h⟩
      rw [← Except.ok.inj h, List.forall₂_cons, ← ih rest (i + 1) hrest,
        ← self.sparesEnv_iff ov i impl env henv]
      constructor
      · rintro ⟨envs', hbuild, hspares⟩
        rcases except_bind_eq_ok _ _ _ hbuild with ⟨env', henv', hbuild⟩
        rcases except_bind_eq_ok _ _ _ hbuild with ⟨rest', hrest', hbuild⟩
        rw [← Except.ok.inj hbuild, List.forall₂_cons] at hspares
        exact ⟨⟨env', henv', hspares.1⟩, rest', hrest', hspares.2⟩
      · rintro ⟨⟨env', henv', hspares⟩, rest', hrest', hspares'⟩
        refine ⟨env' :: rest', ?_, .cons hspares hspares'⟩
        rw [buildEnvsFrom]
        simp only [bind, Except.bind, henv', hrest']

end EnvBuilder

section Anchors

/-- A driver and a backend with one anchored network. -/
def anchorsObjects : Objects
  | 0 => ⟨[("public_cloud", .ref 1), ("itest", .ref 2)], by decide⟩
  | 1 => ⟨[("cloud_type", .scalar (.str "public_cloud"))], by decide⟩
  | 2 => ⟨[("cloud", .scalar (.str "aws")), ("region", .scalar (.str "us-west-2")),
        ("driver", .ref 3), ("backend", .ref 4)], by decide⟩
  | 3 => ⟨[("klass", .scalar (.str "driver.BaseDriver")), ("network", .ref 1)], by decide⟩
  | 4 => ⟨[("klass", .scalar (.str "backend.Xpand")), ("network", .ref 1)], by decide⟩
  | _ => Dict.empty

theorem anchorsObjects_loaded (n : Nat) : ∀ e ∈ (anchorsObjects n).entries, Loaded e.2 := by
  match n with
  | 0 | 1 | 2 | 3 | 4 => simp [anchorsObjects]
  | _ + 5 => exact fun e he => absurd he List.not_mem_nil

/-- The environments of that file. -/
def anchors : EnvBuilder :=
  { small with document := .ofObjects anchorsObjects anchorsObjects_loaded }

/-- `--driver.network.cloud_type=private_cloud` -/
def privateDriver : Override :=
  ⟨"driver", "network", ["cloud_type"], .str "private_cloud", rfl⟩

theorem isolated_anchors :
    ∃ envs, anchors.buildEnvs Dict.empty "itest" = .ok envs
      ∧ ((∃ envs', anchors.buildEnvs privateDriver.extras "itest" = .ok envs'
          ∧ List.Forall₂ (privateDriver.SparesEnv anchors.document) envs envs')
        ↔ List.Forall₂ (anchors.ApartIn privateDriver) (Text.split ',' "itest") envs) :=
  ⟨_, rfl, anchors.isolated_iff privateDriver "itest" _ rfl⟩

/-- The override of the driver is seen in the backend. -/
theorem backend_becomes_private :
    ∃ env env' params params', anchors.buildEnvs Dict.empty "itest" = .ok [env]
      ∧ anchors.buildEnvs privateDriver.extras "itest" = .ok [env']
      ∧ ("backend", params) ∈ env.components ∧ ("backend", params') ∈ env'.components
      ∧ look env.objects (cellOfParams params) [.key "network", .key "cloud_type"]
          = some (.scalar (.str "public_cloud"))
      ∧ look env'.objects (cellOfParams params') [.key "network", .key "cloud_type"]
          = some (.scalar (.str "private_cloud")) :=
  ⟨_, _, _, _, rfl, rfl, List.mem_cons_of_mem _ List.mem_cons_self,
    List.mem_cons_of_mem _ List.mem_cons_self, rfl, rfl⟩

end Anchors

end Xbench
