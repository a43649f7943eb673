import Mathlib.Order.Basic

/-!
# Fixpoint — repeat a pass until nothing changes

A pass reports whether it changed anything and the new value.  Repeating it
while it reports a change ends, within any fuel above a measure that every
changing pass lowers, at a value on which the pass reports no change; what every
pass keeps, the repetition keeps.
-/

namespace ControlPlaneKit.Library.Fixpoint

variable {σ : Type}

/-- `changed = True; while changed: changed, s = pass(s)`. -/
def repeatUntilStable (pass : σ → Bool × σ) : Nat → σ → σ
  | 0, s => s
  | fuel + 1, s =>
      if (pass s).1 then repeatUntilStable pass fuel (pass s).2 else (pass s).2

/-- What one pass keeps, the repetition keeps. -/
theorem repeatUntilStable_invariant {pass : σ → Bool × σ} {I : σ → Prop}
    (hpass : ∀ s, I s → I (pass s).2) :
    ∀ (fuel : Nat) (s : σ), I s → I (repeatUntilStable pass fuel s)
  | 0, _, hs => hs
  | fuel + 1, s, hs => by
      rw [repeatUntilStable]
      split
      · exact repeatUntilStable_invariant hpass fuel _ (hpass s hs)
      · exact hpass s hs

/-- **Enough fuel stabilises**: the repetition ends at a value the pass does not
change, as long as each changing pass lowers a measure. -/
theorem repeatUntilStable_stable {pass : σ → Bool × σ} {I : σ → Prop} {m : σ → Nat}
    (hpass : ∀ s, I s → I (pass s).2)
    (hlower : ∀ s, I s → (pass s).1 = true → m (pass s).2 < m s)
    (hquiet : ∀ s, I s → (pass s).1 = false → (pass s).2 = s) :
    ∀ (fuel : Nat) (s : σ), I s → m s < fuel →
      (pass (repeatUntilStable pass fuel s)).1 = false
  | 0, s, _, hfuel => absurd hfuel (Nat.not_lt_zero _)
  | fuel + 1, s, hs, hfuel => by
      rw [repeatUntilStable]
      split
      · rename_i hchanged
        have := hlower s hs hchanged
        exact repeatUntilStable_stable hpass hlower hquiet fuel
          _ (hpass s hs) (by omega)
      · rename_i hsame
        rw [Bool.not_eq_true] at hsame
        rw [hquiet s hs hsame]
        exact hsame

/-- The loop itself, without fuel: it ends in `result` when started in `s`. -/
inductive Ends (pass : σ → Bool × σ) : σ → σ → Prop where
  | stop {s : σ} : (pass s).1 = false → Ends pass s (pass s).2
  | again {s result : σ} : (pass s).1 = true → Ends pass (pass s).2 result →
      Ends pass s result

/-- **The loop ends**, and the fuelled repetition is what it ends in. -/
theorem ends_repeatUntilStable {pass : σ → Bool × σ} {m : σ → Nat}
    (hlower : ∀ s, (pass s).1 = true → m (pass s).2 < m s) :
    ∀ (fuel : Nat) (s : σ), m s < fuel → Ends pass s (repeatUntilStable pass fuel s)
  | 0, s, hfuel => absurd hfuel (Nat.not_lt_zero _)
  | fuel + 1, s, hfuel => by
      rw [repeatUntilStable]
      split
      · rename_i hchanged
        have := hlower s hchanged
        exact .again hchanged (ends_repeatUntilStable hlower fuel _ (by omega))
      · rename_i hsame
        exact .stop (Bool.not_eq_true _ ▸ hsame)

end ControlPlaneKit.Library.Fixpoint
