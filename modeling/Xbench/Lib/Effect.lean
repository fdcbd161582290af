import Mathlib.Data.List.Basic
import Mathlib.Data.List.Perm.Basic

/-!
# Logged Computations

A computation that leaves a trace of events behind and either returns a value
or raises. The trace survives the exception: what was done before the raise
stays done, which is the whole difficulty of code that allocates things and
may fail halfway.

`parallel` runs several such computations on a thread pool. Two orders are
involved and neither is under the program's control. The events of the tasks
interleave in any way that keeps each task's own order, and the futures are
collected in any order, the first raised exception hiding the results behind
it. A `Schedule` picks both; a statement about every schedule is a statement
about every run of the pool.

All tasks run to their end before any result is looked at, so an exception in
one task removes none of the events of the others. `mem_parallel_trace` and
`parallel_trace_perm` are that fact.

## Main definitions

* `Effect`: A trace of events with a value or an exception.
* `Effect.tell`: Doing one event.
* `Effect.tellAll`: Doing several.
* `Effect.raise`: Raising.
* `Effect.attempt`: Running a handler on an exception.
* `Effect.relabel`: The events under other names, or left out.
* `Interleaving`: Merging several traces, each in its own order.
* `Schedule`: The two orders a pool chooses.
* `Schedule.sequential`: One task after another.
* `collect`: Taking results in order until the first exception.
* `parallel`: Running tasks on a pool.
* `gather`: Running tasks, with the exceptions among the results.

## Theorems

* `except_bind_eq_ok`: A value that comes out of two steps comes out of each.
* `except_bind_ok_iff`: The same, and nothing else does.
* `except_mapM_ok_iff`: A list of values comes out of one step for each.
* `mem_trace_bind_left`: What the first part did is done.
* `mem_trace_bind_right`: When it returns, so is what the second does.
* `bind_result_ok`: A value that comes out of two steps comes out of each.
* `result_bind`: The result of two steps.
* `trace_bind_ofExcept`: What a second step that may only fail leaves.
* `interleaving_perm`: An interleaving loses and invents nothing.
* `interleaving_flatten`: Running the tasks in turn is an interleaving.
* `collect_ok_iff`: Collection succeeds when every result is a value.
* `collect_error_mem`: A collected exception is one of the results.
* `parallel_trace_perm`: A pool does the events of its tasks.
* `mem_parallel_trace`: The same, event by event.
* `parallel_ok`: A pool that returns has the values of its tasks.
* `parallel_error`: A pool that raises has a task that raises.
* `mem_gather_trace`: What gathered tasks do.
-/

namespace Xbench

/-- A value that comes out of two steps comes out of each. -/
theorem except_bind_eq_ok {χ α β : Type} (x : Except χ α) (f : α → Except χ β) (b : β)
    (h : (x >>= f) = .ok b) : ∃ a, x = .ok a ∧ f a = .ok b := by
  cases x with
  | error e => exact nomatch h
  | ok a => exact ⟨a, rfl, h⟩

theorem except_bind_ok_iff {χ α β : Type} (x : Except χ α) (f : α → Except χ β) (b : β) :
    (x >>= f) = .ok b ↔ ∃ a, x = .ok a ∧ f a = .ok b := by
  refine ⟨except_bind_eq_ok x f b, ?_⟩
  rintro ⟨a, rfl, hb⟩
  exact hb

theorem except_map_eq_ok {χ α β : Type} (x : Except χ α) (f : α → β) (b : β)
    (h : x.map f = .ok b) : ∃ a, x = .ok a ∧ f a = b := by
  cases x with
  | error e => exact nomatch h
  | ok a => exact ⟨a, rfl, Except.ok.inj h⟩

/-- A loop ends well if every step does. -/
theorem except_forM_ok_iff {χ α : Type} (f : α → Except χ Unit) (l : List α) :
    l.forM f = .ok () ↔ ∀ a ∈ l, f a = .ok () := by
  induction l with
  | nil => exact ⟨fun _ a ha => absurd ha List.not_mem_nil, fun _ => rfl⟩
  | cons a l ih =>
      have hcons : (a :: l).forM f = (f a >>= fun _ => l.forM f) := rfl
      rw [hcons, except_bind_ok_iff, List.forall_mem_cons, ih]
      constructor
      · rintro ⟨_, hfirst, hrest⟩
        exact ⟨hfirst, hrest⟩
      · rintro ⟨hfirst, hrest⟩
        exact ⟨(), hfirst, hrest⟩

/-- A list of values comes out of one step for each. -/
theorem except_mapM_ok_iff {χ α β : Type} (f : α → Except χ β) (l : List α) (l' : List β) :
    l.mapM f = .ok l' ↔ List.Forall₂ (fun a b => f a = .ok b) l l' := by
  induction l generalizing l' with
  | nil =>
      constructor
      · intro h
        rw [← Except.ok.inj h]
        exact List.Forall₂.nil
      · intro h
        cases h
        rfl
  | cons a l ih =>
      rw [List.mapM_cons]
      constructor
      · intro h
        rcases except_bind_eq_ok _ _ _ h with ⟨b, hb, h⟩
        rcases except_bind_eq_ok _ _ _ h with ⟨bs, hbs, h⟩
        rw [← Except.ok.inj h]
        exact List.Forall₂.cons hb ((ih bs).mp hbs)
      · intro h
        cases h with
        | cons hb hbs =>
            rw [hb, (ih _).mpr hbs]
            rfl

theorem exists_of_forall₂ {α β : Type} (R : α → β → Prop) (as : List α) (bs : List β)
    (h : List.Forall₂ R as bs) (b : β) (hb : b ∈ bs) : ∃ a ∈ as, R a b := by
  induction h with
  | nil => exact absurd hb List.not_mem_nil
  | cons hab _ ih =>
      rcases List.mem_cons.mp hb with rfl | hb
      · exact ⟨_, List.mem_cons_self, hab⟩
      · rcases ih hb with ⟨a, ha, haR⟩
        exact ⟨a, List.mem_cons_of_mem _ ha, haR⟩

theorem exists_of_forall₂_left {α β : Type} (R : α → β → Prop) (as : List α) (bs : List β)
    (h : List.Forall₂ R as bs) (a : α) (ha : a ∈ as) : ∃ b ∈ bs, R a b :=
  exists_of_forall₂ (fun b a => R a b) bs as h.flip a ha

theorem except_mapM_ok {χ α β : Type} (f : α → Except χ β) (l : List α)
    (h : ∀ a ∈ l, ∃ b, f a = .ok b) : ∃ l', l.mapM f = .ok l' := by
  induction l with
  | nil => exact ⟨[], rfl⟩
  | cons a l ih =>
      rcases h a List.mem_cons_self with ⟨b, hb⟩
      rcases ih (fun x hx => h x (List.mem_cons_of_mem a hx)) with ⟨bs, hbs⟩
      refine ⟨b :: bs, ?_⟩
      rw [List.mapM_cons, hb, hbs]
      rfl

/-- A trace of events with a value or an exception. -/
structure Effect (ε χ α : Type) where
  trace : List ε
  result : Except χ α

namespace Effect

variable {ε χ α β : Type}

def ret (a : α) : Effect ε χ α :=
  ⟨[], .ok a⟩

/-- Continue with the value; after an exception nothing more is done. -/
def andThen (x : Effect ε χ α) (f : α → Effect ε χ β) : Effect ε χ β :=
  match x.result with
  | .ok a => ⟨x.trace ++ (f a).trace, (f a).result⟩
  | .error e => ⟨x.trace, .error e⟩

instance : Monad (Effect ε χ) where
  pure := ret
  bind := andThen

def tell (e : ε) : Effect ε χ Unit :=
  ⟨[e], .ok ()⟩

/-- Do the events in order. -/
def tellAll (es : List ε) : Effect ε χ Unit :=
  ⟨es, .ok ()⟩

def raise (x : χ) : Effect ε χ α :=
  ⟨[], .error x⟩

def ofExcept (r : Except χ α) : Effect ε χ α :=
  ⟨[], r⟩

/-- `try: x except ..: h`: the handler continues after the events of `x`. -/
def attempt (x : Effect ε χ α) (h : χ → Effect ε χ α) : Effect ε χ α :=
  match x.result with
  | .ok a => ⟨x.trace, .ok a⟩
  | .error e => ⟨x.trace ++ (h e).trace, (h e).result⟩

/-- The events under other names, or left out. -/
def relabel {ε' : Type} (f : ε → Option ε') (x : Effect ε χ α) : Effect ε' χ α :=
  ⟨x.trace.filterMap f, x.result⟩

@[simp] theorem trace_pure (a : α) : (pure a : Effect ε χ α).trace = [] := rfl

@[simp] theorem result_pure (a : α) : (pure a : Effect ε χ α).result = .ok a := rfl

@[simp] theorem trace_tell (e : ε) : (tell e : Effect ε χ Unit).trace = [e] := rfl

@[simp] theorem result_tell (e : ε) : (tell e : Effect ε χ Unit).result = .ok () := rfl

@[simp] theorem trace_raise (x : χ) : (raise x : Effect ε χ α).trace = [] := rfl

@[simp] theorem result_raise (x : χ) : (raise x : Effect ε χ α).result = .error x := rfl

@[simp] theorem trace_ofExcept (r : Except χ α) : (ofExcept r : Effect ε χ α).trace = [] := rfl

@[simp] theorem result_ofExcept (r : Except χ α) : (ofExcept r : Effect ε χ α).result = r := rfl

theorem bind_ok (x : Effect ε χ α) (f : α → Effect ε χ β) (a : α) (h : x.result = .ok a) :
    x >>= f = ⟨x.trace ++ (f a).trace, (f a).result⟩ := by
  change andThen x f = _
  rw [andThen, h]

theorem bind_error (x : Effect ε χ α) (f : α → Effect ε χ β) (e : χ) (h : x.result = .error e) :
    x >>= f = ⟨x.trace, .error e⟩ := by
  change andThen x f = _
  rw [andThen, h]

theorem pure_bind (a : α) (f : α → Effect ε χ β) : (pure a >>= f) = f a := rfl

theorem bind_assoc {γ : Type} (x : Effect ε χ α) (f : α → Effect ε χ β) (g : β → Effect ε χ γ) :
    x >>= f >>= g = x >>= fun a => f a >>= g := by
  cases hx : x.result with
  | error e =>
      rw [bind_error x f e hx, bind_error x _ e hx]
      rfl
  | ok a =>
      rw [bind_ok x f a hx, bind_ok x _ a hx]
      cases hf : (f a).result with
      | error e => rw [bind_error _ g e rfl, bind_error (f a) g e hf]
      | ok b => rw [bind_ok _ g b rfl, bind_ok (f a) g b hf, List.append_assoc]

/-- What the first part did is done. -/
theorem mem_trace_bind_left (x : Effect ε χ α) (f : α → Effect ε χ β) (e : ε)
    (h : e ∈ x.trace) : e ∈ (x >>= f).trace := by
  cases hx : x.result with
  | error c =>
      rw [bind_error x f c hx]
      exact h
  | ok a =>
      rw [bind_ok x f a hx]
      exact List.mem_append_left _ h

/-- When the first part returns, what the second does is done. -/
theorem mem_trace_bind_right (x : Effect ε χ α) (f : α → Effect ε χ β) (a : α) (e : ε)
    (hx : x.result = .ok a) (h : e ∈ (f a).trace) : e ∈ (x >>= f).trace := by
  rw [bind_ok x f a hx]
  exact List.mem_append_right _ h

/-- A value that comes out of two steps comes out of each. -/
theorem bind_result_ok (x : Effect ε χ α) (f : α → Effect ε χ β) (b : β)
    (h : (x >>= f).result = .ok b) : ∃ a, x.result = .ok a ∧ (f a).result = .ok b := by
  cases hx : x.result with
  | error c =>
      rw [bind_error x f c hx] at h
      exact nomatch h
  | ok a =>
      rw [bind_ok x f a hx] at h
      exact ⟨a, rfl, h⟩

theorem result_bind (x : Effect ε χ α) (f : α → Effect ε χ β) :
    (x >>= f).result = x.result >>= fun a => (f a).result := by
  cases hx : x.result with
  | error e =>
      rw [bind_error x f e hx]
      rfl
  | ok a =>
      rw [bind_ok x f a hx]
      rfl

/-- A second step that may only fail adds nothing to the trace. -/
theorem trace_bind_ofExcept (x : Effect ε χ α) (f : α → Except χ β) :
    (x >>= fun a => ofExcept (f a)).trace = x.trace := by
  cases hx : x.result with
  | error e => rw [bind_error x _ e hx]
  | ok a =>
      rw [bind_ok x _ a hx]
      exact List.append_nil _

@[simp] theorem tell_bind (e : ε) (f : Unit → Effect ε χ β) :
    (tell e >>= f) = ⟨e :: (f ()).trace, (f ()).result⟩ := rfl

@[simp] theorem pure_bind' (a : α) (f : α → Effect ε χ β) : (pure a >>= f) = f a := rfl

theorem attempt_ok (x : Effect ε χ α) (h : χ → Effect ε χ α) (a : α) (hx : x.result = .ok a) :
    attempt x h = x := by
  rw [attempt, hx]
  rcases x with ⟨t, r⟩
  exact congrArg (Effect.mk t) hx.symm

theorem attempt_error (x : Effect ε χ α) (h : χ → Effect ε χ α) (e : χ)
    (hx : x.result = .error e) :
    attempt x h = ⟨x.trace ++ (h e).trace, (h e).result⟩ := by
  rw [attempt, hx]

/-- A handler that only raises something else. -/
theorem attempt_raise (x : Effect ε χ α) (g : χ → χ) :
    attempt x (fun e => raise (g e)) = ⟨x.trace, x.result.mapError g⟩ := by
  rcases x with ⟨t, _ | _⟩
  · exact congrArg (fun t' => Effect.mk t' _) (List.append_nil t)
  · rfl

end Effect

/-- Merging traces, each in its own order. -/
inductive Interleaving {ε : Type} : List (List ε) → List ε → Prop
  | done (ts : List (List ε)) (h : ∀ t ∈ ts, t = []) : Interleaving ts []
  | step (pre post : List (List ε)) (t : List ε) (e : ε) (es : List ε)
      (h : Interleaving (pre ++ t :: post) es) : Interleaving (pre ++ (e :: t) :: post) (e :: es)

section Interleaving

variable {ε : Type}

/-- An interleaving loses and invents nothing. -/
theorem interleaving_perm (ts : List (List ε)) (es : List ε) (h : Interleaving ts es) :
    es.Perm ts.flatten := by
  induction h with
  | done ts h =>
      have : ts.flatten = [] := List.flatten_eq_nil_iff.mpr h
      rw [this]
  | step pre post t e es _ ih =>
      rw [List.flatten_append, List.flatten_cons, List.cons_append]
      rw [List.flatten_append, List.flatten_cons] at ih
      exact (ih.cons e).trans List.perm_middle.symm

/-- The front trace can run to its end before the others start. -/
theorem interleaving_front (t : List ε) (ts : List (List ε)) (es : List ε)
    (h : Interleaving ([] :: ts) es) : Interleaving (t :: ts) (t ++ es) := by
  induction t with
  | nil => exact h
  | cons e t ih => exact Interleaving.step [] ts t e (t ++ es) ih

/-- A trace that is over changes nothing. -/
theorem interleaving_nil_cons (ts : List (List ε)) (es : List ε) (h : Interleaving ts es) :
    Interleaving ([] :: ts) es := by
  induction h with
  | done ts h =>
      refine Interleaving.done _ (fun t ht => ?_)
      rcases List.mem_cons.mp ht with rfl | ht
      · rfl
      · exact h t ht
  | step pre post t e es _ ih => exact Interleaving.step ([] :: pre) post t e es ih

/-- Running the tasks in turn is an interleaving. -/
theorem interleaving_flatten (ts : List (List ε)) : Interleaving ts ts.flatten := by
  induction ts with
  | nil => exact Interleaving.done [] (fun t ht => absurd ht List.not_mem_nil)
  | cons t ts ih =>
      rw [List.flatten_cons]
      exact interleaving_front t ts ts.flatten (interleaving_nil_cons ts ts.flatten ih)

/-- Alone, a trace keeps its order. -/
theorem interleaving_singleton (t es : List ε) (h : Interleaving [t] es) : es = t := by
  generalize hts : [t] = ts at h
  induction h generalizing t with
  | done ts h =>
      rw [← hts] at h
      exact (h t List.mem_cons_self).symm
  | step pre post t' e es _ ih =>
      cases pre with
      | nil =>
          rcases List.cons.inj hts with ⟨rfl, hpost⟩
          rw [ih t' (by rw [← hpost, List.nil_append])]
      | cons s pre =>
          have hlen := congrArg List.length hts
          simp only [List.cons_append, List.length_cons, List.length_append,
            List.length_nil] at hlen
          omega

end Interleaving

/-- The two orders a thread pool chooses: how the tasks' events interleave,
    and in which order their futures are collected. -/
structure Schedule (ε : Type) where
  interleave : List (List ε) → List ε
  complete : {α : Type} → List α → List α
  interleave_spec : ∀ ts, Interleaving ts (interleave ts)
  complete_perm : ∀ {α : Type} (l : List α), (complete l).Perm l

/-- One task after another, collected in submission order. -/
def Schedule.sequential (ε : Type) : Schedule ε where
  interleave := List.flatten
  complete := fun l => l
  interleave_spec := interleaving_flatten
  complete_perm := fun l => List.Perm.refl l

section Parallel

variable {ε χ α : Type}

/-- Take results in order until the first exception. -/
def collect : List (Except χ α) → Except χ (List α)
  | [] => .ok []
  | .ok a :: rs => (collect rs).map (a :: ·)
  | .error e :: _ => .error e

theorem collect_ok_iff (rs : List (Except χ α)) (l : List α) :
    collect rs = .ok l ↔ rs = l.map Except.ok := by
  induction rs generalizing l with
  | nil =>
      rw [collect]
      constructor
      · intro h
        rw [← Except.ok.inj h, List.map_nil]
      · intro h
        rw [List.map_eq_nil_iff.mp h.symm]
  | cons r rs ih =>
      -- the first exception is what is collected
      cases r with
      | error e =>
          rw [collect]
          refine ⟨(fun h => nomatch h), fun h => ?_⟩
          cases l with
          | nil => exact nomatch h
          | cons a l => exact nomatch (List.cons.inj h).1
      | ok a =>
          rw [collect]
          constructor
          · intro h
            cases hc : collect rs with
            | error e => rw [hc] at h; exact nomatch h
            | ok l' =>
                rw [hc] at h
                rw [← Except.ok.inj h, (ih l').mp hc, List.map_cons]
          · intro h
            cases l with
            | nil => exact nomatch h
            | cons b l =>
                rw [List.map_cons] at h
                rcases List.cons.inj h with ⟨hab, hrest⟩
                rw [(ih l).mpr hrest, Except.ok.inj hab]
                rfl

theorem collect_error_mem (rs : List (Except χ α)) (e : χ) (h : collect rs = .error e) :
    .error e ∈ rs := by
  induction rs with
  | nil => exact nomatch h
  | cons r rs ih =>
      cases r with
      | error e' =>
          rw [collect] at h
          rw [Except.error.inj h]
          exact List.mem_cons_self
      | ok a =>
          rw [collect] at h
          cases hc : collect rs with
          | ok l => rw [hc] at h; exact nomatch h
          | error e' =>
              rw [hc] at h
              rw [Except.error.inj h] at hc
              exact List.mem_cons_of_mem _ (ih hc)

/-- Run the tasks on a pool. Every task runs to its end; then the futures are
    collected and the first exception met is raised. -/
def parallel (σ : Schedule ε) (tasks : List (Effect ε χ α)) : Effect ε χ (List α) :=
  ⟨σ.interleave (tasks.map Effect.trace), collect (σ.complete (tasks.map Effect.result))⟩

theorem parallel_trace_perm (σ : Schedule ε) (tasks : List (Effect ε χ α)) :
    (parallel σ tasks).trace.Perm (tasks.flatMap Effect.trace) := by
  rw [parallel, List.flatMap_def]
  exact interleaving_perm _ _ (σ.interleave_spec _)

theorem mem_parallel_trace (σ : Schedule ε) (tasks : List (Effect ε χ α)) (e : ε) :
    e ∈ (parallel σ tasks).trace ↔ ∃ t ∈ tasks, e ∈ t.trace := by
  rw [(parallel_trace_perm σ tasks).mem_iff, List.mem_flatMap]

theorem parallel_ok (σ : Schedule ε) (tasks : List (Effect ε χ α)) (l : List α)
    (h : (parallel σ tasks).result = .ok l) :
    (tasks.map Effect.result).Perm (l.map Except.ok) := by
  have hc := (collect_ok_iff _ l).mp h
  rw [← hc]
  exact (σ.complete_perm _).symm

theorem parallel_error (σ : Schedule ε) (tasks : List (Effect ε χ α)) (e : χ)
    (h : (parallel σ tasks).result = .error e) : ∃ t ∈ tasks, t.result = .error e := by
  have hm := collect_error_mem _ e h
  rcases List.mem_map.mp ((σ.complete_perm _).mem_iff.mp hm) with ⟨t, ht, htr⟩
  exact ⟨t, ht, htr⟩

/-- A pool returns exactly when every task does. -/
theorem parallel_isOk_iff (σ : Schedule ε) (tasks : List (Effect ε χ α)) :
    (∃ l, (parallel σ tasks).result = .ok l) ↔ ∀ t ∈ tasks, ∃ a, t.result = .ok a := by
  constructor
  · rintro ⟨l, h⟩ t ht
    have hm : t.result ∈ l.map Except.ok :=
      (parallel_ok σ tasks l h).mem_iff.mp (List.mem_map.mpr ⟨t, ht, rfl⟩)
    rcases List.mem_map.mp hm with ⟨a, _, ha⟩
    exact ⟨a, ha.symm⟩
  · intro hall
    cases hr : (parallel σ tasks).result with
    | ok l => exact ⟨l, rfl⟩
    | error e =>
        rcases parallel_error σ tasks e hr with ⟨t, ht, hte⟩
        rcases hall t ht with ⟨a, ha⟩
        rw [ha] at hte
        exact nomatch hte

/-- `asyncio.gather(.., return_exceptions=True)`: every task runs to its end, and
    what it returned or raised is its place in the results. -/
def gather (σ : Schedule ε) (tasks : List (Effect ε χ α)) : Effect ε χ (List (Except χ α)) :=
  ⟨σ.interleave (tasks.map Effect.trace), .ok (tasks.map Effect.result)⟩

theorem mem_gather_trace (σ : Schedule ε) (tasks : List (Effect ε χ α)) (e : ε) :
    e ∈ (gather σ tasks).trace ↔ ∃ t ∈ tasks, e ∈ t.trace := by
  rw [gather, (interleaving_perm _ _ (σ.interleave_spec _)).mem_iff, ← List.flatMap_def,
    List.mem_flatMap]

end Parallel

end Xbench
