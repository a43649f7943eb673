import Mathlib.Data.List.Induction

/-!
# EventFold — runs of a fallible step function

An event-sourced component is a start state and a step `σ → α → Except ε σ`;
replaying a journal is `List.foldlM step`.  This file gives the induction rules
for such replays: split a run at a prefix, carry an invariant along it, carry an
invariant that also speaks about the events already replayed, and carry an
invariant that only holds while every accepted step meets a guard.
-/

namespace ControlPlaneKit.Library.EventFold

variable {σ α ε : Type} {step : σ → α → Except ε σ}

/-! ## Taking a run apart -/

theorem bind_ok {ε β γ} {x : Except ε β} {f : β → Except ε γ} {c : γ} :
    (x >>= f) = .ok c ↔ ∃ b, x = .ok b ∧ f b = .ok c := by
  cases x with
  | error e => simp [bind, Except.bind]
  | ok b => simp [bind, Except.bind]

/-- A check that succeeds is followed by the rest. -/
theorem check_bind_ok {ε β : Type} {check : Except ε Unit}
    {rest : Unit → Except ε β} {b : β} :
    (check >>= rest) = .ok b ↔ check = .ok () ∧ rest () = .ok b := by
  cases check with
  | error e => exact ⟨nofun, nofun⟩
  | ok => exact ⟨fun h => ⟨rfl, h⟩, fun h => h.2⟩

theorem run_nil {s t : σ} : ([] : List α).foldlM step s = .ok t ↔ s = t := by
  simp [List.foldlM, pure, Except.pure]

theorem run_cons {s t : σ} {a : α} {as : List α} :
    (a :: as).foldlM step s = .ok t ↔
      ∃ m, step s a = .ok m ∧ as.foldlM step m = .ok t := by
  rw [List.foldlM_cons, bind_ok]

theorem run_append {s t : σ} {as bs : List α} :
    (as ++ bs).foldlM step s = .ok t ↔
      ∃ m, as.foldlM step s = .ok m ∧ bs.foldlM step m = .ok t := by
  rw [List.foldlM_append, bind_ok]

theorem run_singleton {s t : σ} {a : α} :
    [a].foldlM step s = .ok t ↔ step s a = .ok t := by
  simp only [run_cons, run_nil, exists_eq_right]

theorem run_concat {s t : σ} {as : List α} {a : α} :
    (as ++ [a]).foldlM step s = .ok t ↔
      ∃ m, as.foldlM step s = .ok m ∧ step m a = .ok t := by
  simp only [run_append, run_singleton]

/-- A run that goes through was accepted at each of its events. -/
theorem run_at {s t : σ} {pre post : List α} {a : α}
    (h : (pre ++ a :: post).foldlM step s = .ok t) :
    ∃ m m', pre.foldlM step s = .ok m ∧ step m a = .ok m' ∧
      post.foldlM step m' = .ok t := by
  obtain ⟨m, hpre, hrest⟩ := run_append.mp h
  obtain ⟨m', ha, hpost⟩ := run_cons.mp hrest
  exact ⟨m, m', hpre, ha, hpost⟩

/-! ## Invariants along a run -/

/-- **Invariant rule.** What every accepted step preserves, a run preserves. -/
theorem run_invariant {I : σ → Prop}
    (hstep : ∀ s a t, I s → step s a = .ok t → I t) :
    ∀ {as : List α} {s t : σ}, I s → as.foldlM step s = .ok t → I t
  | [], _, _, hs, h => run_nil.mp h ▸ hs
  | a :: _, s, _, hs, h => by
      obtain ⟨m, ha, hrest⟩ := run_cons.mp h
      exact run_invariant hstep (hstep s a m hs ha) hrest

/-- **Invariant rule with history.** `I h s` may speak of the events `h` that
led to `s`; the induction is on the run's end. -/
theorem run_history {I : List α → σ → Prop} {s : σ}
    (hnil : I [] s)
    (hstep : ∀ h m a t, h.foldlM step s = .ok m → I h m → step m a = .ok t →
      I (h ++ [a]) t)
    {as : List α} {t : σ} (h : as.foldlM step s = .ok t) : I as t := by
  induction as using List.reverseRecOn generalizing t with
  | nil => exact run_nil.mp h ▸ hnil
  | append_singleton as a ih =>
      obtain ⟨m, hm, ha⟩ := run_concat.mp h
      exact hstep as m a t hm (ih hm) ha

/-- `Guarded g s as`: along the run of `as` from `s`, every event is taken in a
state where the guard `g` holds of it. -/
def Guarded (step : σ → α → Except ε σ) (g : σ → α → Prop) (s : σ)
    (as : List α) : Prop :=
  ∀ pre a post m, as = pre ++ a :: post → pre.foldlM step s = .ok m → g m a

/-- Events that pass the guard in every state make a guarded run. -/
theorem guarded_of_forall {g : σ → α → Prop} {s : σ} {as : List α}
    (h : ∀ a ∈ as, ∀ m, g m a) : Guarded step g s as := by
  rintro pre a post m rfl -
  exact h a (by simp) m

theorem Guarded.of_append {g : σ → α → Prop} {s : σ} {as bs : List α}
    (h : Guarded step g s (as ++ bs)) : Guarded step g s as := by
  intro pre a post m has hm
  exact h pre a (post ++ bs) m (by simp [has]) hm

theorem Guarded.last {g : σ → α → Prop} {s m : σ} {as : List α} {a : α}
    (h : Guarded step g s (as ++ [a])) (hm : as.foldlM step s = .ok m) : g m a :=
  h as a [] m rfl hm

theorem guarded_concat {g : σ → α → Prop} {s : σ} {as : List α} {a : α} :
    Guarded step g s (as ++ [a]) ↔
      Guarded step g s as ∧ ∀ m, as.foldlM step s = .ok m → g m a := by
  constructor
  · exact fun h => ⟨h.of_append, fun m hm => h.last hm⟩
  · rintro ⟨hinit, hlast⟩ pre b post m hsplit hpre
    rcases List.eq_nil_or_concat post with rfl | ⟨post', c, rfl⟩
    · obtain ⟨rfl, hb⟩ := List.append_inj' hsplit rfl
      obtain rfl : a = b := by simpa using hb
      exact hlast m hpre
    · have hsplit' : as ++ [a] = (pre ++ b :: post') ++ [c] := by simpa using hsplit
      exact hinit pre b post' m (List.append_inj' hsplit' rfl).1 hpre

/-- **Guarded invariant rule.** An invariant that a step keeps only under the
guard holds at the end of every guarded run. -/
theorem run_guarded {g : σ → α → Prop} {I : List α → σ → Prop} {s : σ}
    (hnil : I [] s)
    (hstep : ∀ h m a t, h.foldlM step s = .ok m → I h m → g m a →
      step m a = .ok t → I (h ++ [a]) t)
    {as : List α} (hg : Guarded step g s as) {t : σ}
    (h : as.foldlM step s = .ok t) : I as t := by
  induction as using List.reverseRecOn generalizing t with
  | nil => exact run_nil.mp h ▸ hnil
  | append_singleton as a ih =>
      obtain ⟨m, hm, ha⟩ := run_concat.mp h
      exact hstep as m a t hm (ih hg.of_append hm) (hg.last hm) ha

end ControlPlaneKit.Library.EventFold
