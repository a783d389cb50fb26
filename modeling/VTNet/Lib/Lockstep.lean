import VTNet.Lib.Execution

/-!
# Two runs side by side

A relation between the states of two systems that both sides of a step keep is kept by whole runs.
The second run takes every action of the first one, or only the actions that matter to it.
-/

namespace Execution

section Lockstep

variable {σ τ α : Type*} {step : σ → α → Option σ} {step' : τ → α → Option τ}

/-- `P` holds of every state of the run. -/
def Throughout (step : σ → α → Option σ) (P : σ → Prop) (s : σ) (as : List α) : Prop :=
  ∀ before t, before <+: as → exec step s before = some t → P t

lemma Throughout.head {P : σ → Prop} {s : σ} {as : List α} (h : Throughout step P s as) : P s :=
  h [] s List.nil_prefix rfl

lemma Throughout.tail {P : σ → Prop} {s t : σ} {a : α} {as : List α}
    (h : Throughout step P s (a :: as)) (ha : step s a = some t) : Throughout step P t as := by
  intro before u hbefore hu
  apply h (a :: before) u (List.cons_prefix_cons.mpr ⟨rfl, hbefore⟩)
  rw [exec_cons, ha]
  exact hu

lemma Throughout.mono {P Q : σ → Prop} {s : σ} {as : List α} (h : Throughout step P s as)
    (hPQ : ∀ t, P t → Q t) : Throughout step Q s as :=
  fun before t hbefore ht => hPQ t (h before t hbefore ht)

/-- Erasing the actions that the second system need not take. -/
theorem exec_filter {R : σ → τ → Prop} {P : σ → Prop} (keep : α → Bool)
    (kept : ∀ s t a s', P s → P s' → R s t → keep a = true → step s a = some s' →
      ∃ t', step' t a = some t' ∧ R s' t')
    (erased : ∀ s t a s', P s → P s' → R s t → keep a = false → step s a = some s' → R s' t) :
    ∀ (as : List α) (s s' : σ) (t : τ), R s t → Throughout step P s as →
      exec step s as = some s' → ∃ t', exec step' t (as.filter keep) = some t' ∧ R s' t' := by
  intro as
  induction as with
  | nil =>
    intro s s' t hR _ hexec
    cases hexec
    exact ⟨t, rfl, hR⟩
  | cons a as ih =>
    intro s s' t hR hP hexec
    rw [exec_cons] at hexec
    obtain ⟨u, hu, hexec⟩ := Option.bind_eq_some_iff.mp hexec
    have htail := hP.tail hu
    cases hkeep : keep a with
    | true =>
      obtain ⟨v, hv, huv⟩ := kept s t a u hP.head htail.head hR hkeep hu
      obtain ⟨t', ht', hR'⟩ := ih u s' v huv htail hexec
      refine ⟨t', ?_, hR'⟩
      rw [List.filter_cons_of_pos hkeep, exec_cons, hv]
      exact ht'
    | false =>
      have hut := erased s t a u hP.head htail.head hR hkeep hu
      rw [List.filter_cons_of_neg (by rw [hkeep]; exact Bool.false_ne_true)]
      exact ih u s' t hut htail hexec

/-- The second system takes every action of the first one. -/
theorem exec_lockstep {R : σ → τ → Prop} {P : α → Prop}
    (next : ∀ s t a s', P a → R s t → step s a = some s' → ∃ t', step' t a = some t' ∧ R s' t') :
    ∀ (as : List α) (s s' : σ) (t : τ), R s t → (∀ a ∈ as, P a) →
      exec step s as = some s' → ∃ t', exec step' t as = some t' ∧ R s' t' := by
  intro as
  induction as with
  | nil =>
    intro s s' t hR _ hexec
    cases hexec
    exact ⟨t, rfl, hR⟩
  | cons a as ih =>
    intro s s' t hR hP hexec
    rw [exec_cons] at hexec
    obtain ⟨u, hu, hexec⟩ := Option.bind_eq_some_iff.mp hexec
    obtain ⟨v, hv, huv⟩ := next s t a u (hP a List.mem_cons_self) hR hu
    obtain ⟨t', ht', hR'⟩ := ih u s' v huv (fun b hb => hP b (List.mem_cons_of_mem a hb)) hexec
    refine ⟨t', ?_, hR'⟩
    rw [exec_cons, hv]
    exact ht'

/-- What a run puts out as it goes on. -/
lemma outputs_prefix {β : Type*} (out : σ → α → List β) {before as : List α}
    (h : before <+: as) : ∀ s, outputs step out s before <+: outputs step out s as := by
  obtain ⟨after, rfl⟩ := h
  induction before with
  | nil => exact fun s => List.nil_prefix
  | cons a before ih =>
    intro s
    rw [List.cons_append, outputs, outputs, List.prefix_append_right_inj]
    cases step s a with
    | none => exact List.nil_prefix
    | some t => exact ih t

/-- The second system takes, for every action of the first one, what that action puts out. -/
theorem exec_simulated {β : Type*} {step' : τ → β → Option τ} {R : σ → τ → Prop}
    (out : σ → α → List β)
    (next : ∀ s t a s', R s t → step s a = some s' →
      ∃ t', exec step' t (out s a) = some t' ∧ R s' t') :
    ∀ (as : List α) (s s' : σ) (t : τ), R s t → exec step s as = some s' →
      ∃ t', exec step' t (outputs step out s as) = some t' ∧ R s' t' := by
  intro as
  induction as with
  | nil =>
    intro s s' t hR hexec
    cases hexec
    exact ⟨t, rfl, hR⟩
  | cons a as ih =>
    intro s s' t hR hexec
    rw [exec_cons] at hexec
    obtain ⟨u, hu, hexec⟩ := Option.bind_eq_some_iff.mp hexec
    obtain ⟨v, hv, huv⟩ := next s t a u hR hu
    obtain ⟨t', ht', hR'⟩ := ih u s' v huv hexec
    refine ⟨t', ?_, hR'⟩
    simp only [outputs, hu]
    exact exec_append_of step' hv ht'

end Lockstep

end Execution
