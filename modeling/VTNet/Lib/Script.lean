import VTNet.Lib.Execution

/-!
# A party that follows a script

The actions of one party are a script, and those of all others come in between in any way.
-/

namespace Execution

section Script

variable {σ α : Type*} {step : σ → α → Option σ} {own : α → Bool} {script : List α}
  {Stage : ℕ → σ → Prop}

/-- How far the party is depends only on how many of its actions have been taken, if the others leave
every stage alone and each action of the script leads to the next one where it is taken. -/
theorem exec_script {s : σ} {as : List α} (init : Stage 0 s)
    (others : ∀ k t a u, own a = false → step t a = some u → Stage k t → Stage k u)
    (turn : ∀ before k a t u, before ++ [a] <+: as → exec step s before = some t →
      own a = true → script[k]? = some a → step t a = some u → Stage k t → Stage (k + 1) u)
    {t : σ} (h : exec step s as = some t) (hscript : as.filter own <+: script) :
    Stage (as.filter own).length t := by
  have hprefix : ∀ before t, exec step s before = some t → before <+: as →
      Stage (before.filter own).length t := by
    apply exec_induction step (motive := fun before t => before <+: as →
      Stage (before.filter own).length t) (fun _ => init)
    intro before t a u hbefore ih hu hlater
    have hearlier : before <+: as := (List.prefix_append before [a]).trans hlater
    have hstage := ih hearlier
    cases hown : own a with
    | false =>
      rw [List.filter_append, List.filter_singleton, hown, cond_false, List.append_nil]
      exact others _ t a u hown hu hstage
    | true =>
      have hnext : before.filter own ++ [a] <+: script := by
        have hfilter := (hlater.filter own).trans hscript
        rwa [List.filter_append, List.filter_singleton, hown, cond_true] at hfilter
      rw [List.filter_append, List.filter_singleton, hown, cond_true, List.length_append]
      refine turn before _ a t u hlater hbefore hown ?_ hu hstage
      obtain ⟨rest, rfl⟩ := hnext
      simp
  exact hprefix as t h List.prefix_rfl

end Script

end Execution
