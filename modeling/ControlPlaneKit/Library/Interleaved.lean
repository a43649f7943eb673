import Mathlib.Data.List.Basic

/-!
# Interleaved — programs that share a state, and may stop between any two steps

A program is cut into atomic steps: a step reads an input and the shared state,
and commits a new one or raises.  Between two of its steps other programs take
theirs, and a program that is never scheduled again has crashed where it stood.
The rules are those of rely and guarantee: what a program needs of the others is
a preorder they all keep, and what it does itself is checked once, step by step.
-/

namespace ControlPlaneKit.Library.Interleaved

/-- What is left of a program: its value, its error, or a step and what follows
each answer to it. -/
inductive Program (σ ι ε : Type) (α : Type) : Type 1 where
  | done (value : α)
  | raised (error : ε)
  | step {ρ : Type} (act : ι → σ → Except ε (ρ × σ)) (next : ρ → Program σ ι ε α)

namespace Program

variable {σ ι ε α β ρ : Type}

def bind : Program σ ι ε α → (α → Program σ ι ε β) → Program σ ι ε β
  | .done value, f => f value
  | .raised error, _ => .raised error
  | .step act next, f => .step act fun answer => (next answer).bind f

instance : Monad (Program σ ι ε) where
  pure := .done
  bind := bind

/-- A transaction. -/
def write (act : ι → σ → Except ε (ρ × σ)) : Program σ ι ε ρ := .step act .done

/-- A transaction that only reads. -/
def read (view : ι → σ → Except ε ρ) : Program σ ι ε ρ :=
  write fun input s => (view input s).map fun answer => (answer, s)

/-- A computation of the program itself, between its steps. -/
def ofExcept : Except ε α → Program σ ι ε α
  | .ok value => .done value
  | .error error => .raised error

end Program

/-! ## Rely and guarantee -/

/-- What the programs of a system owe each other: the invariant of the shared state,
the preorder every step of the others is in, and the steps a program takes itself. -/
structure Protocol (σ : Type) where
  Inv : σ → Prop
  Rely : σ → σ → Prop
  Guarantee : σ → σ → Prop
  rely_refl : ∀ s, Rely s s
  rely_trans : ∀ s t u, Rely s t → Rely t u → Rely s u
  guarantee_refl : ∀ s, Guarantee s s
  guarantee_rely : ∀ s t, Inv s → Guarantee s t → Rely s t

namespace Program

variable {σ ι ε α β ρ : Type}

/-- A program that stands at `s` keeps to the protocol whatever the others do, and
where it ends with a value the postcondition holds. -/
def Keeps (P : Protocol σ) : Program σ ι ε α → (α → σ → Prop) → σ → Prop
  | .done value, post, s => post value s
  | .raised _, _, _ => True
  | .step act next, post, s => ∀ t, P.Rely s t → P.Inv t → ∀ input answer u,
      act input t = .ok (answer, u) →
      P.Guarantee t u ∧ P.Inv u ∧ (next answer).Keeps P post u

variable {P : Protocol σ} {s : σ}

theorem keeps_pure {value : α} {post : α → σ → Prop} (h : post value s) :
    (pure value : Program σ ι ε α).Keeps P post s := h

theorem keeps_bind {p : Program σ ι ε α} {f : α → Program σ ι ε β} {post : β → σ → Prop}
    (h : p.Keeps P (fun value => (f value).Keeps P post) s) :
    (p >>= f).Keeps P post s := by
  show (p.bind f).Keeps P post s
  induction p generalizing s with
  | done => exact h
  | raised => trivial
  | step act next ih =>
      intro t hrely hinv input answer u hact
      obtain ⟨hguarantee, hinv', hnext⟩ := h t hrely hinv input answer u hact
      exact ⟨hguarantee, hinv', ih answer hnext⟩

theorem keeps_mono {p : Program σ ι ε α} {post post' : α → σ → Prop}
    (hpost : ∀ value t, post value t → post' value t) (h : p.Keeps P post s) :
    p.Keeps P post' s := by
  induction p generalizing s with
  | done => exact hpost _ _ h
  | raised => trivial
  | step act next ih =>
      intro t hrely hinv input answer u hact
      obtain ⟨hguarantee, hinv', hnext⟩ := h t hrely hinv input answer u hact
      exact ⟨hguarantee, hinv', ih answer hnext⟩

/-- **Frame rule.** The others, and the program itself, leave a state in the
preorder. -/
theorem keeps_since {p : Program σ ι ε α} {post : α → σ → Prop} (h : p.Keeps P post s) :
    p.Keeps P (fun value t => P.Rely s t ∧ post value t) s := by
  induction p generalizing s with
  | done => exact ⟨P.rely_refl s, h⟩
  | raised => trivial
  | step act next ih =>
      intro t hrely hinv input answer u hact
      obtain ⟨hguarantee, hinv', hnext⟩ := h t hrely hinv input answer u hact
      have hsince := P.rely_trans _ _ _ hrely (P.guarantee_rely t u hinv hguarantee)
      exact ⟨hguarantee, hinv', keeps_mono
        (fun _ _ hpost => ⟨P.rely_trans _ _ _ hsince hpost.1, hpost.2⟩)
        (ih answer hnext)⟩

/-- **Sequence rule.** What follows a program starts from a state in the preorder. -/
theorem keeps_seq {p : Program σ ι ε α} {f : α → Program σ ι ε β} {M : α → σ → Prop}
    {post : β → σ → Prop} (h : p.Keeps P M s)
    (hnext : ∀ value t, P.Rely s t → M value t → (f value).Keeps P post t) :
    (p >>= f).Keeps P post s :=
  keeps_bind (keeps_mono (fun value t hmid => hnext value t hmid.1 hmid.2)
    (keeps_since h))

/-- The sequence rule where nothing of the first value is used. -/
theorem keeps_then {p : Program σ ι ε α} {f : α → Program σ ι ε β} {post : β → σ → Prop}
    (h : p.Keeps P (fun _ _ => True) s)
    (hnext : ∀ value t, P.Rely s t → (f value).Keeps P post t) :
    (p >>= f).Keeps P post s :=
  keeps_seq h fun value t hrely _ => hnext value t hrely

/-- A program that keeps to a protocol keeps to one that asks less of its steps. -/
theorem keeps_weaken {Q : Protocol σ} {p : Program σ ι ε α} {post : α → σ → Prop}
    (hinv : P.Inv = Q.Inv) (hrely : P.Rely = Q.Rely)
    (hguarantee : ∀ t u, P.Guarantee t u → Q.Guarantee t u) (h : p.Keeps P post s) :
    p.Keeps Q post s := by
  induction p generalizing s with
  | done => exact h
  | raised => trivial
  | step act next ih =>
      intro t ht hinvt input answer u hact
      obtain ⟨hstep, hinvu, hnext⟩ :=
        h t (hrely ▸ ht) (hinv ▸ hinvt) input answer u hact
      exact ⟨hguarantee t u hstep, hinv ▸ hinvu, ih answer hnext⟩

/-- **Write rule.** A transaction is checked in every state the others may leave. -/
theorem keeps_write {act : ι → σ → Except ε (ρ × σ)} {post : ρ → σ → Prop}
    (h : ∀ t, P.Rely s t → P.Inv t → ∀ input answer u, act input t = .ok (answer, u) →
      P.Guarantee t u ∧ P.Inv u ∧ post answer u) : (write act).Keeps P post s := h

/-- **Read rule.** -/
theorem keeps_read {view : ι → σ → Except ε ρ} {post : ρ → σ → Prop}
    (h : ∀ t, P.Rely s t → P.Inv t → ∀ input answer, view input t = .ok answer →
      post answer t) :
    (read view).Keeps P post s := by
  intro t hrely hinv input answer u hact
  replace hact : (view input t).map (fun answer => (answer, t)) =
    .ok (answer, u) := hact
  cases hview : view input t with
  | error error =>
      rw [hview] at hact
      cases hact
  | ok value =>
      rw [hview] at hact
      cases hact
      exact ⟨P.guarantee_refl t, hinv, h t hrely hinv input _ hview⟩

theorem keeps_ofExcept {value : Except ε α} {post : α → σ → Prop}
    (h : ∀ result, value = .ok result → post result s) :
    (ofExcept value : Program σ ι ε α).Keeps P post s := by
  cases value with
  | ok result => exact h result rfl
  | error error => trivial

/-- A program that waits is where it was, as far as it can tell. -/
theorem Keeps.rely {p : Program σ ι ε α} {post : α → σ → Prop}
    (hpost : ∀ value t u, P.Rely t u → post value t → post value u) {t : σ}
    (h : p.Keeps P post s) (hrely : P.Rely s t) : p.Keeps P post t := by
  cases p with
  | done => exact hpost _ _ _ hrely h
  | raised => trivial
  | step => exact fun u hu => h u (P.rely_trans _ _ _ hrely hu)

end Program

/-! ## Runs of a system -/

/-- The shared state and what is left of every program that was started. -/
structure Pool (σ ι ε : Type) (α : Type) : Type 1 where
  shared : σ
  running : List (Program σ ι ε α) := []

/-- One turn of a system: a program is started, one of those takes its next step, or
something else writes. -/
inductive Turn (κ β ι : Type) where
  | start (command : κ)
  | step (index : Nat) (input : ι)
  | other (action : β)

section Pool

variable {σ ι ε α κ β : Type} (program : κ → Program σ ι ε α) (other : β → σ → σ)

/-- The pool after a program took its next step. -/
def Pool.proceed (pool : Pool σ ι ε α) (index : Nat) (input : ι) : Pool σ ι ε α :=
  match pool.running[index]? with
  | some (.step act next) =>
      match act input pool.shared with
      | .ok (answer, shared) =>
          { shared := shared, running := pool.running.set index (next answer) }
      | .error error => { pool with running := pool.running.set index (.raised error) }
  | _ => pool

def Pool.take (pool : Pool σ ι ε α) : Turn κ β ι → Pool σ ι ε α
  | .start command => { pool with running := pool.running ++ [program command] }
  | .step index input => pool.proceed index input
  | .other action => { pool with shared := other action pool.shared }

def Pool.run (pool : Pool σ ι ε α) (turns : List (Turn κ β ι)) : Pool σ ι ε α :=
  turns.foldl (Pool.take program other) pool

/-- The state keeps the invariant, and every program its protocol. -/
structure Pool.Orderly (P : Protocol σ) (pool : Pool σ ι ε α) : Prop where
  inv : P.Inv pool.shared
  keeps : ∀ p ∈ pool.running, p.Keeps P (fun _ _ => True) pool.shared

variable {P : Protocol σ} {pool : Pool σ ι ε α}

theorem Pool.Orderly.rely {shared : σ} (h : pool.Orderly P) (hinv : P.Inv shared)
    (hrely : P.Rely pool.shared shared) :
    ({ pool with shared := shared } : Pool σ ι ε α).Orderly P :=
  ⟨hinv, fun p hp => (h.keeps p hp).rely (fun _ _ _ _ _ => trivial) hrely⟩

/-- **A step of an orderly pool**: it is what the program guarantees. -/
theorem Pool.Orderly.proceed (h : pool.Orderly P) (index : Nat) (input : ι) :
    (pool.proceed index input).Orderly P ∧
      P.Guarantee pool.shared (pool.proceed index input).shared := by
  unfold Pool.proceed
  split
  · rename_i ρ act next hprogram
    have hkeeps := h.keeps _ (List.mem_of_getElem? hprogram)
    split
    · rename_i answer shared hact
      obtain ⟨hguarantee, hinv, hnext⟩ :=
        hkeeps _ (P.rely_refl _) h.inv input answer shared hact
      have hrely := P.guarantee_rely _ _ h.inv hguarantee
      refine ⟨⟨hinv, fun p hp => ?_⟩, hguarantee⟩
      rcases List.mem_or_eq_of_mem_set hp with hp | rfl
      · exact (h.rely hinv hrely).keeps p hp
      · exact hnext
    · refine ⟨⟨h.inv, fun p hp => ?_⟩, P.guarantee_refl _⟩
      rcases List.mem_or_eq_of_mem_set hp with hp | rfl
      · exact h.keeps p hp
      · trivial
  · exact ⟨h, P.guarantee_refl _⟩

theorem Pool.Orderly.take (h : pool.Orderly P)
    (hprogram : ∀ command s, P.Inv s → (program command).Keeps P (fun _ _ => True) s)
    (hother : ∀ action s, P.Inv s → P.Inv (other action s) ∧ P.Rely s (other action s))
    (turn : Turn κ β ι) : (pool.take program other turn).Orderly P := by
  cases turn with
  | start command =>
      refine ⟨h.inv, fun p hp => ?_⟩
      rcases List.mem_append.mp hp with hp | hp
      · exact h.keeps p hp
      · rw [List.mem_singleton.mp hp]
        exact hprogram command _ h.inv
  | step index input => exact (h.proceed index input).1
  | other action =>
      obtain ⟨hinv, hrely⟩ := hother action _ h.inv
      exact h.rely hinv hrely

/-- **Run rule.** Where every program keeps to the protocol and the rest of the
system relies on the same, so does every run, whatever is interleaved or crashes. -/
theorem Pool.Orderly.run (h : pool.Orderly P)
    (hprogram : ∀ command s, P.Inv s → (program command).Keeps P (fun _ _ => True) s)
    (hother : ∀ action s, P.Inv s → P.Inv (other action s) ∧ P.Rely s (other action s))
    (turns : List (Turn κ β ι)) : (pool.run program other turns).Orderly P := by
  induction turns generalizing pool with
  | nil => exact h
  | cons turn turns ih => exact ih (h.take program other hprogram hother turn)

/-! ### One program among the others -/

variable {Q : Protocol σ}

/-- The program of this index keeps to a protocol of its own. -/
def Pool.Follows (Q : Protocol σ) (pool : Pool σ ι ε α) (index : Nat) : Prop :=
  ∃ p, pool.running[index]? = some p ∧ p.Keeps Q (fun _ _ => True) pool.shared

theorem Pool.Follows.proceed {index : Nat} (hfollows : pool.Follows Q index)
    (hinv : Q.Inv pool.shared) (input : ι) :
    (pool.proceed index input).Follows Q index ∧
      Q.Guarantee pool.shared (pool.proceed index input).shared := by
  obtain ⟨p, hp, hkeeps⟩ := hfollows
  have hlt := (List.getElem?_eq_some_iff.mp hp).1
  unfold Pool.proceed
  split
  · rename_i ρ act next hprogram
    cases hp.symm.trans hprogram
    split
    · rename_i answer shared hact
      obtain ⟨hguarantee, -, hnext⟩ :=
        hkeeps _ (Q.rely_refl _) hinv input answer shared hact
      exact ⟨⟨next answer, List.getElem?_set_self hlt, hnext⟩, hguarantee⟩
    · exact ⟨⟨.raised _, List.getElem?_set_self hlt, trivial⟩, Q.guarantee_refl _⟩
  · exact ⟨⟨p, hp, hkeeps⟩, Q.guarantee_refl _⟩

theorem Pool.proceed_getElem? {index other : Nat} (hne : index ≠ other) (input : ι) :
    (pool.proceed index input).running[other]? = pool.running[other]? := by
  unfold Pool.proceed
  split
  · split <;> exact List.getElem?_set_ne hne
  · rfl

/-- A program keeps to its own protocol whatever the turns of the others are. -/
theorem Pool.Follows.take {index : Nat} (hfollows : pool.Follows Q index)
    (h : pool.Orderly P) (hinv : P.Inv = Q.Inv) (hrely : P.Rely = Q.Rely)
    (hother : ∀ action s, P.Inv s → P.Inv (other action s) ∧ P.Rely s (other action s))
    (turn : Turn κ β ι) : (pool.take program other turn).Follows Q index := by
  have hwait : ∀ {shared : σ}, P.Rely pool.shared shared → ∀ {p : Program σ ι ε α},
      p.Keeps Q (fun _ _ => True) pool.shared → p.Keeps Q (fun _ _ => True) shared :=
    fun hto _ hkeeps => hkeeps.rely (fun _ _ _ _ _ => trivial) (hrely ▸ hto)
  cases turn with
  | start command =>
      obtain ⟨p, hp, hkeeps⟩ := hfollows
      exact ⟨p, (List.getElem?_append_left
        (List.getElem?_eq_some_iff.mp hp).1).trans hp, hkeeps⟩
  | step turned input =>
      by_cases heq : turned = index
      · subst heq
        exact (hfollows.proceed (hinv ▸ h.inv) input).1
      · obtain ⟨p, hp, hkeeps⟩ := hfollows
        exact ⟨p, (Pool.proceed_getElem? heq input).trans hp,
          hwait (P.guarantee_rely _ _ h.inv (h.proceed turned input).2) hkeeps⟩
  | other action =>
      obtain ⟨p, hp, hkeeps⟩ := hfollows
      exact ⟨p, hp, hwait (hother action _ h.inv).2 hkeeps⟩

theorem Pool.Follows.run {index : Nat} (hfollows : pool.Follows Q index)
    (h : pool.Orderly P) (hinv : P.Inv = Q.Inv) (hrely : P.Rely = Q.Rely)
    (hprogram : ∀ command s, P.Inv s → (program command).Keeps P (fun _ _ => True) s)
    (hother : ∀ action s, P.Inv s → P.Inv (other action s) ∧ P.Rely s (other action s))
    (turns : List (Turn κ β ι)) : (pool.run program other turns).Follows Q index := by
  induction turns generalizing pool with
  | nil => exact hfollows
  | cons turn turns ih =>
      exact ih (hfollows.take program other h hinv hrely hother turn)
        (h.take program other hprogram hother turn)

/-- What the programs leave each other, a run leaves. -/
theorem Pool.Orderly.rely_run (h : pool.Orderly P)
    (hprogram : ∀ command s, P.Inv s → (program command).Keeps P (fun _ _ => True) s)
    (hother : ∀ action s, P.Inv s → P.Inv (other action s) ∧ P.Rely s (other action s))
    (turns : List (Turn κ β ι)) :
    P.Rely pool.shared (pool.run program other turns).shared := by
  induction turns generalizing pool with
  | nil => exact P.rely_refl _
  | cons turn turns ih =>
      refine P.rely_trans _ _ _ ?_ (ih (h.take program other hprogram hother turn))
      cases turn with
      | start => exact P.rely_refl _
      | step index input => exact P.guarantee_rely _ _ h.inv (h.proceed index input).2
      | other action => exact (hother action _ h.inv).2

end Pool

end ControlPlaneKit.Library.Interleaved
