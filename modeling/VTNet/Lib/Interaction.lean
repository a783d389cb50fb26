import Mathlib.Data.List.Basic
import Mathlib.Tactic.Common

/-!
# Programs that ask an environment

A program performs operations and goes on with their answers. An environment answers with the
help of a state of its own, so whatever can happen between and during the programs is the run
of some environment.
-/

universe u v w w'

inductive Interaction (Op : Type u) (Answer : Op → Type v) (α : Type w)
  | done (value : α)
  | ask (op : Op) (next : Answer op → Interaction Op Answer α)

namespace Interaction

variable {Op : Type u} {Answer : Op → Type v} {α : Type w} {β : Type w'} {σ : Type*}

abbrev Environment (σ : Type*) (Answer : Op → Type v) := (op : Op) → σ → Answer op × σ

/-- An operation and its answer. -/
abbrev Exchange (Answer : Op → Type v) := (op : Op) × Answer op

/-- What a program returns, the exchanges it has had and the state it leaves its environment in. -/
structure Outcome (Answer : Op → Type v) (σ : Type*) (α : Type w) where
  value : α
  exchanges : List (Exchange Answer)
  world : σ

def run (env : Environment σ Answer) : Interaction Op Answer α → σ → Outcome Answer σ α
  | done value, world => ⟨value, [], world⟩
  | ask op next, world =>
    let (answer, world) := env op world
    let outcome := run env (next answer) world
    ⟨outcome.value, ⟨op, answer⟩ :: outcome.exchanges, outcome.world⟩

def map (f : α → β) : Interaction Op Answer α → Interaction Op Answer β
  | done value => done (f value)
  | ask op next => ask op fun answer => (next answer).map f

/-- The program that stops after so many operations. -/
def cut : ℕ → Interaction Op Answer α → Interaction Op Answer (Option α)
  | _, done value => done (some value)
  | 0, ask _ _ => done none
  | n + 1, ask op next => ask op fun answer => cut n (next answer)

section Run

variable {env : Environment σ Answer} {program : Interaction Op Answer α} {world : σ}

lemma run_ask (op : Op) (next : Answer op → Interaction Op Answer α) :
    run env (ask op next) world =
      ⟨(run env (next (env op world).1) (env op world).2).value,
        ⟨op, (env op world).1⟩ :: (run env (next (env op world).1) (env op world).2).exchanges,
        (run env (next (env op world).1) (env op world).2).world⟩ := rfl

/-- What is done with the value does not concern the environment. -/
lemma run_map (f : α → β) (program : Interaction Op Answer α) (world : σ) :
    run env (program.map f) world =
      ⟨f (run env program world).value, (run env program world).exchanges,
        (run env program world).world⟩ := by
  induction program generalizing world with
  | done value => rfl
  | ask op next ih => rw [map, run_ask, run_ask, ih]

/-- A program that is stopped has had the first exchanges of the whole run. -/
lemma exchanges_cut (n : ℕ) (program : Interaction Op Answer α) (world : σ) :
    (run env (cut n program) world).exchanges = (run env program world).exchanges.take n := by
  induction program generalizing n world with
  | done value => cases n <;> rfl
  | ask op next ih =>
    cases n with
    | zero => rfl
    | succ n =>
      rw [cut, run_ask, run_ask]
      simp only [ih, List.take_succ_cons]

end Run

/-! ### What a program guarantees -/

/-- The program asks only what is allowed where it stands, and ends as `Post` says. -/
def Guarantees (env : Environment σ Answer) (Allowed : Op → σ → Prop) (Post : α → σ → Prop) :
    Interaction Op Answer α → σ → Prop
  | done value, world => Post value world
  | ask op next, world => Allowed op world ∧
      Guarantees env Allowed Post (next (env op world).1) (env op world).2

section Guarantees

variable {env : Environment σ Answer} {Allowed : Op → σ → Prop} {Post : α → σ → Prop}
  {program : Interaction Op Answer α} {world : σ}

theorem Guarantees.post (h : Guarantees env Allowed Post program world) :
    Post (run env program world).value (run env program world).world := by
  induction program generalizing world with
  | done value => exact h
  | ask op next ih => exact ih _ h.2

/-- What every allowed operation preserves is preserved, wherever the program is stopped. -/
theorem Guarantees.preserved_cut {P : σ → Prop} (h : Guarantees env Allowed Post program world)
    (preserved : ∀ op s, Allowed op s → P s → P (env op s).2) (n : ℕ) (hworld : P world) :
    P (run env (cut n program) world).world := by
  induction program generalizing n world with
  | done value => cases n <;> exact hworld
  | ask op next ih =>
    cases n with
    | zero => exact hworld
    | succ n => exact ih _ h.2 n (preserved op world h.1 hworld)

theorem Guarantees.preserved {P : σ → Prop} (h : Guarantees env Allowed Post program world)
    (preserved : ∀ op s, Allowed op s → P s → P (env op s).2) (hworld : P world) :
    P (run env program world).world := by
  induction program generalizing world with
  | done value => exact hworld
  | ask op next ih => exact ih _ h.2 (preserved op world h.1 hworld)

theorem Guarantees.map {f : β → α} {program : Interaction Op Answer β}
    (h : Guarantees env Allowed (fun value => Post (f value)) program world) :
    Guarantees env Allowed Post (program.map f) world := by
  induction program generalizing world with
  | done value => exact h
  | ask op next ih => exact ⟨h.1, ih _ h.2⟩

end Guarantees

/-! ### The order of exchanges -/

/-- Every `P` stands directly after a `Q`, when `last` stands before the list. -/
def DirectlyAfter {ε : Type*} (P Q : ε → Prop) : Option ε → List ε → Prop
  | _, [] => True
  | last, x :: xs => (P x → ∃ y, last = some y ∧ Q y) ∧ DirectlyAfter P Q (some x) xs

section Order

variable {ε : Type*} {P Q : ε → Prop} {last : Option ε} {xs ys : List ε}

lemma DirectlyAfter.of_none (h : DirectlyAfter P Q none xs) : DirectlyAfter P Q last xs := by
  cases xs with
  | nil => trivial
  | cons x xs =>
    refine ⟨?_, h.2⟩
    intro hx
    obtain ⟨y, hy, -⟩ := h.1 hx
    cases hy

lemma DirectlyAfter.append (h : DirectlyAfter P Q last xs) (h' : DirectlyAfter P Q none ys) :
    DirectlyAfter P Q last (xs ++ ys) := by
  induction xs generalizing last with
  | nil => exact h'.of_none
  | cons x xs ih => exact ⟨h.1, ih h.2⟩

lemma DirectlyAfter.flatMap {β : Type*} {f : β → List ε} {bs : List β}
    (h : ∀ b ∈ bs, DirectlyAfter P Q none (f b)) : DirectlyAfter P Q none (bs.flatMap f) := by
  induction bs with
  | nil => trivial
  | cons b bs ih =>
    apply DirectlyAfter.append (h b List.mem_cons_self)
    exact ih (fun b' hb' => h b' (List.mem_cons_of_mem _ hb'))

lemma DirectlyAfter.take (h : DirectlyAfter P Q last xs) (n : ℕ) :
    DirectlyAfter P Q last (xs.take n) := by
  induction xs generalizing last n with
  | nil =>
    rw [List.take_nil]
    trivial
  | cons x xs ih =>
    cases n with
    | zero => trivial
    | succ n => exact ⟨h.1, ih h.2 n⟩

lemma DirectlyAfter.getLast? {before after : List ε} {x : ε}
    (h : DirectlyAfter P Q last (before ++ x :: after)) (hx : P x) :
    ∃ y, before.getLast?.or last = some y ∧ Q y := by
  induction before generalizing last with
  | nil => exact h.1 hx
  | cons b before ih =>
    obtain ⟨y, hy, hQ⟩ := ih h.2
    refine ⟨y, ?_, hQ⟩
    rw [List.getLast?_cons, Option.some_or, ← hy]
    cases before.getLast? <;> rfl

theorem DirectlyAfter.split {before after : List ε} {x : ε}
    (h : DirectlyAfter P Q none (before ++ x :: after)) (hx : P x) :
    ∃ earlier y, before = earlier ++ [y] ∧ Q y := by
  obtain ⟨y, hy, hQ⟩ := h.getLast? hx
  rw [Option.or_none] at hy
  obtain ⟨earlier, hearlier⟩ := List.getLast?_eq_some_iff.mp hy
  exact ⟨earlier, y, hearlier, hQ⟩

end Order

end Interaction
