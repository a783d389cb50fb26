import Mathlib.Data.List.Basic
import Mathlib.Data.List.Induction
import Mathlib.Tactic.Common

/-!
# Runs of a partial step function

A system is a step function `step : σ → α → Option σ`, which is `none` where the action
is not enabled. Automata that reject a letter are read the same way: their letters are
the actions and a word is accepted when its run is defined.
-/

namespace Execution

section Runs

variable {σ α β : Type*} (step : σ → α → Option σ)

/-- The state a list of actions leads to, if every action is enabled where it stands. -/
def exec (s : σ) (as : List α) : Option σ := as.foldlM step s

@[simp] lemma exec_nil (s : σ) : exec step s [] = some s := rfl

lemma exec_cons (s : σ) (a : α) (as : List α) :
    exec step s (a :: as) = (step s a).bind (fun t => exec step t as) := rfl

lemma exec_append (s : σ) (as bs : List α) :
    exec step s (as ++ bs) = (exec step s as).bind (fun t => exec step t bs) := by
  simp only [exec, List.foldlM_append]
  rfl

lemma exec_singleton (s : σ) (a : α) : exec step s [a] = step s a := by
  rw [exec_cons]
  cases step s a <;> rfl

lemma exec_concat (s u : σ) (as : List α) (a : α) :
    exec step s (as ++ [a]) = some u ↔ ∃ t, exec step s as = some t ∧ step t a = some u := by
  rw [exec_append, Option.bind_eq_some_iff]
  simp only [exec_singleton]

lemma exec_append_of {s t u : σ} {as bs : List α} (h : exec step s as = some t)
    (h' : exec step t bs = some u) : exec step s (as ++ bs) = some u := by
  rw [exec_append, h]
  exact h'

/-- A run that goes on after some actions takes the next one where they lead. -/
lemma exec_next {s t u : σ} {as bs : List α} {a : α} (h : exec step s (as ++ a :: bs) = some u)
    (has : exec step s as = some t) : ∃ v, step t a = some v ∧ exec step v bs = some u := by
  rw [exec_append, has, Option.bind_some, exec_cons] at h
  exact Option.bind_eq_some_iff.mp h

/-- Induction along a run, one action at its end at a time. -/
theorem exec_induction {s : σ} {motive : List α → σ → Prop} (init : motive [] s)
    (next : ∀ as t a u, exec step s as = some t → motive as t → step t a = some u →
      motive (as ++ [a]) u) :
    ∀ as t, exec step s as = some t → motive as t := by
  intro as
  induction as using List.reverseRecOn with
  | nil =>
    intro t h
    cases h
    exact init
  | append_singleton as a ih =>
    intro u h
    obtain ⟨t, ht, hu⟩ := (exec_concat step s u as a).mp h
    exact next as t a u ht (ih t ht) hu

/-- What some run from `s` leads to. -/
def Reachable (s t : σ) : Prop := ∃ as, exec step s as = some t

lemma Reachable.refl (s : σ) : Reachable step s s := ⟨[], rfl⟩

variable {step}

lemma Reachable.tail {s t u : σ} {a : α} (h : Reachable step s t) (hu : step t a = some u) :
    Reachable step s u := by
  obtain ⟨as, has⟩ := h
  exact ⟨as ++ [a], (exec_concat step s u as a).mpr ⟨t, has, hu⟩⟩

/-- What holds at the start and survives every action holds wherever a run leads. -/
theorem invariant_of_step {Inv : σ → Prop} {s : σ} (init : Inv s)
    (next : ∀ t a u, Inv t → step t a = some u → Inv u) {t : σ} (h : Reachable step s t) :
    Inv t := by
  obtain ⟨as, has⟩ := h
  exact exec_induction step (motive := fun _ t => Inv t) init
    (fun _ t a u _ ih hu => next t a u ih hu) as t has

/-- The invariant rule with what is already known of the reachable states. -/
theorem invariant_of_reachable_step {Inv : σ → Prop} {s : σ} (init : Inv s)
    (next : ∀ t a u, Reachable step s t → Inv t → step t a = some u → Inv u) {t : σ}
    (h : Reachable step s t) : Inv t := by
  obtain ⟨as, has⟩ := h
  exact exec_induction step (motive := fun _ t => Inv t) init
    (fun bs t a u hbs ih hu => next t a u ⟨bs, hbs⟩ ih hu) as t has

/-- The system that takes an action only where it is allowed. -/
def within (step : σ → α → Option σ) (allowed : σ → α → Bool) (s : σ) (a : α) : Option σ :=
  if allowed s a then step s a else none

lemma within_eq_some {allowed : σ → α → Bool} {s t : σ} {a : α} :
    within step allowed s a = some t ↔ allowed s a = true ∧ step s a = some t :=
  Option.ite_none_right_eq_some

/-- More runs are allowed where more actions are. -/
lemma exec_within_mono {allowed allowed' : σ → α → Bool} {s t : σ} {as : List α}
    (hallowed : ∀ s a, allowed s a = true → allowed' s a = true)
    (h : exec (within step allowed) s as = some t) : exec (within step allowed') s as = some t := by
  induction as generalizing s with
  | nil => exact h
  | cons a as ih =>
    rw [exec_cons] at h ⊢
    obtain ⟨u, hu, hut⟩ := Option.bind_eq_some_iff.mp h
    obtain ⟨ha, hstep⟩ := within_eq_some.mp hu
    rw [within_eq_some.mpr ⟨hallowed s a ha, hstep⟩]
    exact ih hut

/-- A run that is allowed is a run. -/
lemma exec_of_within {allowed : σ → α → Bool} {s t : σ} {as : List α}
    (h : exec (within step allowed) s as = some t) : exec step s as = some t := by
  induction as generalizing s with
  | nil => exact h
  | cons a as ih =>
    rw [exec_cons] at h ⊢
    obtain ⟨u, hu, hut⟩ := Option.bind_eq_some_iff.mp h
    rw [(within_eq_some.mp hu).2]
    exact ih hut

variable (step)

/-- What a run puts out, when action `a` taken in state `s` puts out `out s a`. -/
def outputs (out : σ → α → List β) : σ → List α → List β
  | _, [] => []
  | s, a :: as => out s a ++ (match step s a with
    | some t => outputs out t as
    | none => [])

lemma outputs_append (out : σ → α → List β) {s t : σ} {as : List α} (bs : List α)
    (h : exec step s as = some t) :
    outputs step out s (as ++ bs) = outputs step out s as ++ outputs step out t bs := by
  induction as generalizing s with
  | nil =>
    cases h
    rfl
  | cons a as ih =>
    rw [exec_cons] at h
    obtain ⟨u, hu, hut⟩ := Option.bind_eq_some_iff.mp h
    simp only [List.cons_append, outputs, hu, ih hut, List.append_assoc]

lemma outputs_concat (out : σ → α → List β) {s t : σ} {as : List α} (a : α)
    (h : exec step s as = some t) :
    outputs step out s (as ++ [a]) = outputs step out s as ++ out t a := by
  rw [outputs_append step out [a] h]
  cases hu : step t a <;> simp [outputs, hu]

/-- Nothing is put out where an invariant keeps every action silent. -/
lemma outputs_eq_nil (out : σ → α → List β) (Inv : σ → Prop)
    (next : ∀ t a u, Inv t → step t a = some u → Inv u) (silent : ∀ t a, Inv t → out t a = [])
    {s : σ} (hs : Inv s) (as : List α) : outputs step out s as = [] := by
  induction as generalizing s with
  | nil => rfl
  | cons a as ih =>
    cases hu : step s a with
    | none => simp [outputs, hu, silent s a hs]
    | some u => simp [outputs, hu, silent s a hs, ih (next s a u hs hu)]

/-- Induction along a run with what it has put out so far. -/
theorem outputs_induction (out : σ → α → List β) {s : σ} {motive : List α → List β → σ → Prop}
    (init : motive [] [] s)
    (next : ∀ as bs t a u, exec step s as = some t → motive as bs t → step t a = some u →
      motive (as ++ [a]) (bs ++ out t a) u) :
    ∀ as t, exec step s as = some t → motive as (outputs step out s as) t := by
  apply exec_induction step (motive := fun as t => motive as (outputs step out s as) t) init
  intro as t a u has ih hu
  rw [outputs_concat step out a has]
  exact next as _ t a u has ih hu

end Runs

end Execution
