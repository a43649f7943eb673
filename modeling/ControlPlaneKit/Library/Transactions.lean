import Mathlib.Data.List.Induction

/-!
# Transactions — runs of commands that commit or roll back

A command reads a state and either commits a new one, with an answer, or
raises.  A raise leaves the state as it was, so a run over a list of commands is
total.  This file gives the induction rules for such runs: an invariant, a
preorder between the states a run passes through, and an invariant that only
holds while every step meets a guard.
-/

namespace ControlPlaneKit.Library.Transactions

variable {σ α ρ ε : Type} {command : α → σ → Except ε (ρ × σ)}

/-- The state a command leaves behind: what it committed, or the old one. -/
def settle (command : α → σ → Except ε (ρ × σ)) (s : σ) (a : α) : σ :=
  match command a s with
  | .ok (_, t) => t
  | .error _ => s

/-- The state after a run of commands. -/
def run (command : α → σ → Except ε (ρ × σ)) (s : σ) (as : List α) : σ :=
  as.foldl (settle command) s

theorem settle_ok {s t : σ} {a : α} {r : ρ} (h : command a s = .ok (r, t)) :
    settle command s a = t := by
  rw [settle, h]

theorem settle_error {s : σ} {a : α} {e : ε} (h : command a s = .error e) :
    settle command s a = s := by
  rw [settle, h]

/-- A command was refused, or it committed what it left. -/
theorem settle_cases (command : α → σ → Except ε (ρ × σ)) (s : σ) (a : α) :
    settle command s a = s ∨ ∃ r, command a s = .ok (r, settle command s a) := by
  cases h : command a s with
  | error e => exact .inl (settle_error h)
  | ok out => exact .inr ⟨out.1, by rw [settle_ok (r := out.1) (t := out.2) h]⟩

theorem run_nil {s : σ} : run command s [] = s := rfl

theorem run_cons {s : σ} {a : α} {as : List α} :
    run command s (a :: as) = run command (settle command s a) as := rfl

theorem run_append {s : σ} {as bs : List α} :
    run command s (as ++ bs) = run command (run command s as) bs :=
  List.foldl_append

theorem run_concat {s : σ} {as : List α} {a : α} :
    run command s (as ++ [a]) = settle command (run command s as) a := by
  rw [run_append, run_cons, run_nil]

/-! ## Rules -/

/-- **Invariant rule.** What every committed command keeps, a run keeps. -/
theorem run_invariant {I : σ → Prop}
    (hstep : ∀ s a r t, I s → command a s = .ok (r, t) → I t) {s : σ} (hs : I s)
    (as : List α) : I (run command s as) := by
  induction as generalizing s with
  | nil => exact hs
  | cons a as ih =>
      rw [run_cons]
      refine ih ?_
      rcases settle_cases command s a with h | ⟨r, h⟩
      · rwa [h]
      · exact hstep s a r _ hs h

/-- **Invariant rule with history.** `I h s` may speak of the commands `h` that led
to `s`; the induction is on the run's end. -/
theorem run_history {I : List α → σ → Prop} {s : σ} (hnil : I [] s)
    (hstep : ∀ h a, I h (run command s h) →
      I (h ++ [a]) (settle command (run command s h) a)) (as : List α) :
    I as (run command s as) := by
  induction as using List.reverseRecOn with
  | nil => exact hnil
  | append_singleton as a ih =>
      rw [run_concat]
      exact hstep as a ih

/-- **Relation rule.** A preorder that holds across every committed command, from
a state that keeps the invariant, holds across a run. -/
theorem run_relation {I : σ → Prop} {R : σ → σ → Prop} (hrefl : ∀ s, R s s)
    (htrans : ∀ s t u, R s t → R t u → R s u)
    (hinv : ∀ s a r t, I s → command a s = .ok (r, t) → I t)
    (hstep : ∀ s a r t, I s → command a s = .ok (r, t) → R s t) {s : σ} (hs : I s)
    (as : List α) : R s (run command s as) := by
  induction as generalizing s with
  | nil => exact hrefl s
  | cons a as ih =>
      rw [run_cons]
      rcases settle_cases command s a with h | ⟨r, h⟩
      · rw [h]
        exact ih hs
      · exact htrans _ _ _ (hstep s a r _ hs h) (ih (hinv s a r _ hs h))

end ControlPlaneKit.Library.Transactions
