import Xbench.Lib.Effect

/-!
# Triples for Logged Computations

A triple about a computation that leaves a trace: every event it leaves is
allowed, and a value it returns is as promised. Nothing is promised about an
exception, but the events before it are covered like all others, which is what
a statement about a command that fails halfway needs.

There is one rule for each way of building a computation, so that a triple
about a command is put together along its definition. Two rules are about
threads: a pool leaves the events of its tasks, and when it returns, each of
its values is one of a task, in some order.

The rules that end in `iff` lose nothing: read from left to right they turn a
triple into what is asked of the inputs.

## Main definitions

* `Triple`: The events are allowed and the value is as promised.

## Theorems

* `triple_mono`: A triple promises less and allows more.
* `triple_bind`: Two steps.
* `triple_step`: A step that may only fail, and another.
* `triple_attempt`: A step with a handler.
* `triple_parallel_map`: The same task on a pool, for each of several inputs.
* `triple_parallel`: Tasks on a pool.
* `triple_bind_iff`, `triple_step_iff`, `triple_tell_bind_iff`: Two steps, and
  nothing lost.
* `triple_parallel_iff`, `triple_parallel_bind_iff`: The same for a pool, alone
  and before something else.
* `triple_relabel_iff`: Events under other names.
-/

namespace Xbench

open Effect

variable {ε χ α β ι : Type}

/-- Every event is allowed, and a value that is returned is as promised. -/
structure Triple (E : ε → Prop) (Q : α → Prop) (x : Effect ε χ α) : Prop where
  trace : ∀ e ∈ x.trace, E e
  result : ∀ a, x.result = .ok a → Q a

variable (E : ε → Prop)

theorem triple_mono (E' : ε → Prop) (P Q : α → Prop) (x : Effect ε χ α) (hE : ∀ e, E e → E' e)
    (hPQ : ∀ a, P a → Q a) (h : Triple E P x) : Triple E' Q x :=
  ⟨fun e he => hE e (h.trace e he), fun a ha => hPQ a (h.result a ha)⟩

theorem triple_ofExcept (Q : α → Prop) (r : Except χ α) (h : ∀ a, r = .ok a → Q a) :
    Triple E Q (ofExcept r : Effect ε χ α) :=
  ⟨fun _ he => absurd he List.not_mem_nil, h⟩

theorem triple_pure (Q : α → Prop) (a : α) (h : Q a) :
    Triple E Q (pure a : Effect ε χ α) := by
  refine triple_ofExcept E Q (.ok a) (fun b hb => ?_)
  rw [← Except.ok.inj hb]
  exact h

theorem triple_raise (Q : α → Prop) (c : χ) : Triple E Q (raise c : Effect ε χ α) :=
  triple_ofExcept E Q (.error c) (fun _ hb => nomatch hb)

theorem triple_tellAll (es : List ε) (h : ∀ e ∈ es, E e) :
    Triple E (fun _ => True) (tellAll es : Effect ε χ Unit) :=
  ⟨h, fun _ _ => trivial⟩

theorem triple_tell (e : ε) (h : E e) :
    Triple E (fun _ => True) (tell e : Effect ε χ Unit) := by
  refine triple_tellAll E [e] (fun e' he' => ?_)
  rw [List.mem_singleton.mp he']
  exact h

/-- The second step may use what the first promises. -/
theorem triple_bind (P : α → Prop) (Q : β → Prop) (x : Effect ε χ α) (f : α → Effect ε χ β)
    (hx : Triple E P x) (hf : ∀ a, P a → Triple E Q (f a)) : Triple E Q (x >>= f) := by
  cases hres : x.result with
  | error c =>
      rw [bind_error x f c hres]
      exact ⟨hx.trace, fun _ hb => nomatch hb⟩
  | ok a =>
      have hfa := hf a (hx.result a hres)
      rw [bind_ok x f a hres]
      refine ⟨fun e he => ?_, hfa.result⟩
      rcases List.mem_append.mp he with he | he
      · exact hx.trace e he
      · exact hfa.trace e he

/-- A step that may only fail, with what is known when it does not. -/
theorem triple_step (Q : β → Prop) (r : Except χ α) (f : α → Effect ε χ β)
    (h : ∀ a, r = .ok a → Triple E Q (f a)) : Triple E Q (ofExcept r >>= f) :=
  triple_bind E (fun a => r = .ok a) Q _ f (triple_ofExcept E _ r (fun _ ha => ha)) h

/-- An event, and what follows. -/
theorem triple_tell_bind (Q : β → Prop) (e : ε) (f : Unit → Effect ε χ β) (he : E e)
    (h : Triple E Q (f ())) : Triple E Q (tell e >>= f) :=
  triple_bind E (fun _ => True) Q _ f (triple_tell E e he) (fun _ _ => h)

theorem triple_attempt (Q : α → Prop) (x : Effect ε χ α) (h : χ → Effect ε χ α)
    (hx : Triple E Q x) (hh : ∀ c, x.result = .error c → Triple E Q (h c)) :
    Triple E Q (attempt x h) := by
  cases hres : x.result with
  | ok a =>
      rw [attempt_ok x h a hres]
      exact hx
  | error c =>
      have hhc := hh c hres
      rw [attempt_error x h c hres]
      refine ⟨fun e he => ?_, hhc.result⟩
      rcases List.mem_append.mp he with he | he
      · exact hx.trace e he
      · exact hhc.trace e he

theorem triple_parallel_map (σ : Schedule ε) (Q : ι → α → Prop) (f : ι → Effect ε χ α)
    (is : List ι) (h : ∀ i ∈ is, Triple E (Q i) (f i)) :
    Triple E (fun l => ∃ l', l.Perm l' ∧ List.Forall₂ Q is l') (parallel σ (is.map f)) := by
  refine ⟨fun e he => ?_, fun l hl => ?_⟩
  · rcases (mem_parallel_trace σ _ e).mp he with ⟨t, ht, het⟩
    rcases List.mem_map.mp ht with ⟨i, hi, rfl⟩
    exact (h i hi).trace e het
  · -- each input has a value, and the values in input order are those collected
    have hperm := parallel_ok σ _ l hl
    rw [List.map_map] at hperm
    have hval : ∃ l', is.map (Effect.result ∘ f) = l'.map Except.ok ∧ List.Forall₂ Q is l' := by
      have hok : ∀ i ∈ is, ∃ a, (f i).result = .ok a := fun i hi =>
        (parallel_isOk_iff σ (is.map f)).mp ⟨l, hl⟩ (f i) (List.mem_map.mpr ⟨i, hi, rfl⟩)
      clear hl hperm
      induction is with
      | nil => exact ⟨[], rfl, List.Forall₂.nil⟩
      | cons i is ih =>
          rcases hok i List.mem_cons_self with ⟨a, ha⟩
          rcases ih (fun j hj => h j (List.mem_cons_of_mem i hj))
            (fun j hj => hok j (List.mem_cons_of_mem i hj)) with ⟨l', hmap, hall⟩
          refine ⟨a :: l', ?_, List.Forall₂.cons ((h i List.mem_cons_self).result a ha) hall⟩
          rw [List.map_cons, List.map_cons, Function.comp_apply, ha, hmap]
    rcases hval with ⟨l', hmap, hall⟩
    rw [hmap] at hperm
    have hinj : Function.Injective (Except.ok : α → Except χ α) := fun _ _ => Except.ok.inj
    exact ⟨l', ((List.map_perm_map_iff hinj).mp hperm).symm, hall⟩

theorem forall₂_mem_right (R : ι → α → Prop) (is : List ι) (l : List α)
    (h : List.Forall₂ R is l) : ∀ a ∈ l, ∃ i ∈ is, R i a := by
  induction h with
  | nil => exact fun a ha => absurd ha List.not_mem_nil
  | cons hr _ ih =>
      intro a ha
      rcases List.mem_cons.mp ha with rfl | ha
      · exact ⟨_, List.mem_cons_self, hr⟩
      · rcases ih a ha with ⟨i, hi, hia⟩
        exact ⟨i, List.mem_cons_of_mem _ hi, hia⟩

theorem triple_parallel (σ : Schedule ε) (Q : α → Prop) (tasks : List (Effect ε χ α))
    (h : ∀ t ∈ tasks, Triple E Q t) :
    Triple E (fun l => ∀ a ∈ l, Q a) (parallel σ tasks) := by
  have hmap := triple_parallel_map E σ (fun _ => Q) id tasks h
  rw [List.map_id] at hmap
  refine triple_mono E E _ _ _ (fun _ he => he) ?_ hmap
  rintro l ⟨l', hperm, hall⟩ a ha
  rcases forall₂_mem_right _ tasks l' hall a (hperm.mem_iff.mp ha) with ⟨_, _, hq⟩
  exact hq

section Exact

variable (Q : β → Prop)

theorem triple_ofExcept_iff (Q : α → Prop) (r : Except χ α) :
    Triple E Q (ofExcept r : Effect ε χ α) ↔ ∀ a, r = .ok a → Q a :=
  ⟨fun h => h.result, triple_ofExcept E Q r⟩

theorem triple_pure_iff (Q : α → Prop) (a : α) :
    Triple E Q (pure a : Effect ε χ α) ↔ Q a :=
  ⟨fun h => h.result a rfl, triple_pure E Q a⟩

theorem triple_tell_iff (Q : Unit → Prop) (e : ε) :
    Triple E Q (tell e : Effect ε χ Unit) ↔ E e ∧ Q () :=
  ⟨fun h => ⟨h.trace e List.mem_cons_self, h.result () rfl⟩,
    fun h => ⟨(triple_tell E e h.1).trace, fun _ _ => h.2⟩⟩

/-- What the second step needs is what the first has to promise. -/
theorem triple_bind_iff (x : Effect ε χ α) (f : α → Effect ε χ β) :
    Triple E Q (x >>= f) ↔ Triple E (fun a => Triple E Q (f a)) x := by
  constructor
  · intro h
    refine ⟨fun e he => h.trace e (mem_trace_bind_left x f e he), fun a ha => ⟨fun e he => ?_, ?_⟩⟩
    · exact h.trace e (mem_trace_bind_right x f a e ha he)
    · intro b hb
      refine h.result b ?_
      rw [bind_ok x f a ha]
      exact hb
  · exact fun h => triple_bind E _ Q x f h (fun _ ha => ha)

theorem triple_step_iff (r : Except χ α) (f : α → Effect ε χ β) :
    Triple E Q (ofExcept r >>= f) ↔ ∀ a, r = .ok a → Triple E Q (f a) := by
  rw [triple_bind_iff, triple_ofExcept_iff]

theorem triple_tell_bind_iff (e : ε) (f : Unit → Effect ε χ β) :
    Triple E Q (tell e >>= f) ↔ E e ∧ Triple E Q (f ()) := by
  rw [triple_bind_iff, triple_tell_iff]

theorem triple_parallel_iff (σ : Schedule ε) (tasks : List (Effect ε χ α)) (Q : List α → Prop) :
    Triple E Q (parallel σ tasks) ↔ (∀ t ∈ tasks, ∀ e ∈ t.trace, E e)
      ∧ ∀ l, (parallel σ tasks).result = .ok l → Q l := by
  have htrace : (∀ e ∈ (parallel σ tasks).trace, E e) ↔ ∀ t ∈ tasks, ∀ e ∈ t.trace, E e := by
    simp only [mem_parallel_trace, forall_exists_index, and_imp]
    exact ⟨fun h t ht e he => h e t ht he, fun h e t ht he => h t ht e he⟩
  exact ⟨fun h => ⟨htrace.mp h.trace, h.result⟩, fun h => ⟨htrace.mpr h.1, h.2⟩⟩

/-- What follows a pool follows when all its tasks are over. -/
theorem triple_parallel_bind_iff (σ : Schedule ε) (tasks : List (Effect ε χ α))
    (y : Effect ε χ β) :
    Triple E Q (parallel σ tasks >>= fun _ => y) ↔ (∀ t ∈ tasks, ∀ e ∈ t.trace, E e)
      ∧ ((∀ t ∈ tasks, ∃ a, t.result = .ok a) → Triple E Q y) := by
  rw [triple_bind_iff, triple_parallel_iff, ← parallel_isOk_iff σ tasks, forall_exists_index]

/-- Events under other names, or left out. -/
theorem triple_relabel_iff {ε' : Type} (E : ε' → Prop) (f : ε → Option ε') (Q : α → Prop)
    (x : Effect ε χ α) :
    Triple E Q (x.relabel f) ↔ Triple (fun e => ∀ e', f e = some e' → E e') Q x := by
  have htrace : (∀ e' ∈ (x.relabel f).trace, E e')
      ↔ ∀ e ∈ x.trace, ∀ e', f e = some e' → E e' := by
    simp only [relabel, List.mem_filterMap, forall_exists_index, and_imp]
    exact ⟨fun h e he e' hf => h e' e he hf, fun h e' e he hf => h e he e' hf⟩
  exact ⟨fun h => ⟨htrace.mp h.trace, h.result⟩, fun h => ⟨htrace.mpr h.trace, h.result⟩⟩

end Exact

end Xbench
