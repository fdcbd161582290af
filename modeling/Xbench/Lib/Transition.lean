import Mathlib.Data.List.Basic
import Mathlib.Order.Basic

/-!
# Transition Systems

Runs of a partial step function, and the induction that carries an invariant
along them.

`step s a = none` means the action is not enabled, so a run exists only when
every action of it is. `Meets` says that each step of a run is taken under a
condition on the state before it and the action. `run_invariant` is the only
induction: a property that the allowed steps preserve holds at the end of
every run of allowed steps, and since a run's beginnings are runs, in every
state along it.

An update that cannot fail is a fold. When each update either changes nothing
or moves a measure up, a run that ends where it began changed nothing at all.

## Main definitions

* `run`: Taking a list of actions.
* `Meets`: Every step of the run is taken under the condition.

## Theorems

* `run_append`: A run in two parts.
* `run_invariant`: An invariant of the allowed steps holds after the run.
* `meets_append`: The condition on a run in two parts.
* `foldl_eq_self_iff`: A run of updates in one direction that ends where it began.
-/

namespace Xbench

namespace Transition

variable {σ α : Type*} (step : σ → α → Option σ)

/-- Take the actions in order; `none` when one of them is not enabled. -/
def run : σ → List α → Option σ
  | s, [] => some s
  | s, a :: as => (step s a).bind (fun s' => run s' as)

/-- Every step of the run is taken under the condition `ok`. -/
def Meets (ok : σ → α → Prop) : σ → List α → Prop
  | _, [] => True
  | s, a :: as => ok s a ∧ ∀ s', step s a = some s' → Meets ok s' as

theorem run_cons (s : σ) (a : α) (as : List α) (u : σ) :
    run step s (a :: as) = some u ↔ ∃ t, step s a = some t ∧ run step t as = some u := by
  rw [run, Option.bind_eq_some_iff]

theorem run_append (s : σ) (as bs : List α) :
    run step s (as ++ bs) = (run step s as).bind (fun t => run step t bs) := by
  induction as generalizing s with
  | nil => rfl
  | cons a as ih =>
      rw [List.cons_append, run, run, Option.bind_assoc]
      congr 1
      funext t
      exact ih t

theorem meets_append (ok : σ → α → Prop) (s : σ) (as bs : List α)
    (h : Meets step ok s (as ++ bs)) : Meets step ok s as := by
  induction as generalizing s with
  | nil => exact trivial
  | cons a as ih => exact ⟨h.1, fun t ht => ih t (h.2 t ht)⟩

/-- The condition may be used at every step, and the invariant with it. -/
theorem run_invariant (ok : σ → α → Prop) (I : σ → Prop)
    (hstep : ∀ s a t, I s → ok s a → step s a = some t → I t) :
    ∀ (as : List α) (s u : σ), I s → Meets step ok s as → run step s as = some u → I u := by
  intro as
  induction as with
  | nil =>
      intro s u hs _ hrun
      rw [← Option.some.inj hrun]
      exact hs
  | cons a as ih =>
      intro s u hs hmeets hrun
      rcases (run_cons step s a as u).mp hrun with ⟨t, hst, htu⟩
      have ht : I t := hstep s a t hs hmeets.1 hst
      exact ih t u ht (hmeets.2 t hst) htu

/-- Updates that go one way by a measure end where they began only by changing
    nothing. -/
theorem foldl_eq_self_iff {μ : Type*} [Preorder μ] (m : σ → μ) (f : σ → α → σ) (as : List α)
    (hstep : ∀ s, ∀ a ∈ as, f s a = s ∨ m s < m (f s a)) (s : σ) :
    as.foldl f s = s ↔ ∀ a ∈ as, f s a = s := by
  have hle : ∀ bs : List α, (∀ a ∈ bs, a ∈ as) → ∀ t, m t ≤ m (bs.foldl f t) := by
    intro bs
    induction bs with
    | nil => exact fun _ t => le_refl _
    | cons b bs ih =>
        intro hbs t
        have hrest := ih (fun a ha => hbs a (List.mem_cons_of_mem b ha)) (f t b)
        rcases hstep t b (hbs b List.mem_cons_self) with hsame | hlt
        · rw [hsame] at hrest
          rw [List.foldl_cons, hsame]
          exact hrest
        · exact hlt.le.trans hrest
  constructor
  · intro h
    induction as with
    | nil => exact fun a ha => absurd ha List.not_mem_nil
    | cons a as ih =>
        -- the first update did nothing, or the measure could not come back
        have hfirst : f s a = s := by
          rcases hstep s a List.mem_cons_self with hsame | hlt
          · exact hsame
          · have hback := hle as (fun b hb => List.mem_cons_of_mem a hb) (f s a)
            rw [← List.foldl_cons, h] at hback
            exact absurd (hlt.trans_le hback) (lt_irrefl _)
        rw [List.foldl_cons, hfirst] at h
        refine List.forall_mem_cons.mpr ⟨hfirst, ih ?_ ?_ h⟩
        · exact fun t b hb => hstep t b (List.mem_cons_of_mem a hb)
        · exact fun bs hbs => hle bs (fun b hb => List.mem_cons_of_mem a (hbs b hb))
  · intro h
    clear hle hstep
    induction as with
    | nil => rfl
    | cons a as ih =>
        rw [List.foldl_cons, h a List.mem_cons_self]
        exact ih (fun b hb => h b (List.mem_cons_of_mem a hb))

end Transition

end Xbench
