import VTNet.Lib.Execution
import Mathlib.Algebra.Order.BigOperators.Group.Finset
import Mathlib.Algebra.BigOperators.Ring.Finset

/-!
# Runs that come to an end

Actions that decrease a measure can be taken so often only. Where the measure is a sum over many
places, a place that acts may hand something to all of them, if it has kept enough for each.
-/

namespace Execution

section Measure

variable {σ α : Type*} {step : σ → α → Option σ}

/-- As many actions of the kind can be taken as the measure of their start says. -/
theorem length_le_of_decreasing {Inv : σ → Prop} {Kind : α → Prop} (measure : σ → ℕ)
    (next : ∀ s a t, Inv s → Kind a → step s a = some t → Inv t ∧ measure t < measure s) :
    ∀ (as : List α) (s t : σ), Inv s → (∀ a ∈ as, Kind a) → exec step s as = some t →
      Inv t ∧ as.length + measure t ≤ measure s := by
  intro as
  induction as with
  | nil =>
    intro s t hinv _ hexec
    cases hexec
    exact ⟨hinv, by simp⟩
  | cons a as ih =>
    intro s t hinv hkind hexec
    rw [exec_cons] at hexec
    obtain ⟨u, hu, hexec⟩ := Option.bind_eq_some_iff.mp hexec
    obtain ⟨hinv', hlt⟩ := next s a u hinv (hkind a List.mem_cons_self) hu
    obtain ⟨hinv'', hle⟩ := ih u t hinv' (fun b hb => hkind b (List.mem_cons_of_mem a hb)) hexec
    refine ⟨hinv'', ?_⟩
    rw [List.length_cons]
    omega

end Measure

end Execution
