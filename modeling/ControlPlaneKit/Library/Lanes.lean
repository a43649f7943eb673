import ControlPlaneKit.Library.Interleaved
import Mathlib.Logic.Function.Basic

/-!
# Lanes — one program at a time for each key

Programs that share a state are started under a key, and a key runs one program
at a time: what it ran before has finished or crashed.  A lane may rely on more than
it owes the others, so each key has terms of its own, and what one key guarantees
is what every other key relies on.  A lane remembers its command and the state it
was started in.
-/

namespace ControlPlaneKit.Library.Lanes

open Interleaved

/-! ## What a lane owes -/

/-- The terms of a lane: the invariant of the shared state, what the steps of the others
leave as it is, and what its own steps leave to them.  Its own steps need not be in
the preorder it relies on. -/
structure Terms (σ : Type) where
  Inv : σ → Prop
  Rely : σ → σ → Prop
  Guarantee : σ → σ → Prop
  rely_refl : ∀ s, Rely s s
  rely_trans : ∀ s t u, Rely s t → Rely t u → Rely s u
  guarantee_refl : ∀ s, Guarantee s s

section Owing

variable {σ ι ε ε' α β ρ : Type} {T : Terms σ} {s : σ}

/-- A program that stands at `s` keeps its terms whatever the others do, and where it
ends with a value the postcondition holds. -/
def Owes (T : Terms σ) : Program σ ι ε α → (α → σ → Prop) → σ → Prop
  | .done value, post, s => post value s
  | .raised _, _, _ => True
  | .step act next, post, s => ∀ t, T.Rely s t → T.Inv t → ∀ input answer u,
      act input t = .ok (answer, u) →
      T.Guarantee t u ∧ T.Inv u ∧ Owes T (next answer) post u

theorem owes_pure {value : α} {post : α → σ → Prop} (h : post value s) :
    Owes T (pure value : Program σ ι ε α) post s := h

theorem owes_bind {p : Program σ ι ε α} {f : α → Program σ ι ε β} {post : β → σ → Prop}
    (h : Owes T p (fun value => Owes T (f value) post) s) :
    Owes T (p >>= f) post s := by
  show Owes T (p.bind f) post s
  induction p generalizing s with
  | done => exact h
  | raised => trivial
  | step act next ih =>
      intro t hrely hinv input answer u hact
      obtain ⟨hguarantee, hinv', hnext⟩ := h t hrely hinv input answer u hact
      exact ⟨hguarantee, hinv', ih answer hnext⟩

theorem owes_mono {p : Program σ ι ε α} {post post' : α → σ → Prop}
    (hpost : ∀ value t, post value t → post' value t) (h : Owes T p post s) :
    Owes T p post' s := by
  induction p generalizing s with
  | done => exact hpost _ _ h
  | raised => trivial
  | step act next ih =>
      intro t hrely hinv input answer u hact
      obtain ⟨hguarantee, hinv', hnext⟩ := h t hrely hinv input answer u hact
      exact ⟨hguarantee, hinv', ih answer hnext⟩

/-- **Write rule.** A transaction is checked in every state the others may leave. -/
theorem owes_write {act : ι → σ → Except ε (ρ × σ)} {post : ρ → σ → Prop}
    (h : ∀ t, T.Rely s t → T.Inv t → ∀ input answer u, act input t = .ok (answer, u) →
      T.Guarantee t u ∧ T.Inv u ∧ post answer u) :
      Owes T (Program.write act) post s := h

/-- A program that waits is where it was, as far as it can tell. -/
theorem Owes.rely {p : Program σ ι ε α} {post : α → σ → Prop}
    (hpost : ∀ value t u, T.Rely t u → post value t → post value u) {t : σ}
    (h : Owes T p post s) (hrely : T.Rely s t) : Owes T p post t := by
  cases p with
  | done => exact hpost _ _ _ hrely h
  | raised => trivial
  | step => exact fun u hu => h u (T.rely_trans _ _ _ hrely hu)

end Owing

/-! ## The lanes -/

/-- What a key runs: the command, the state it was started in, and what is left. -/
structure Lane (σ ι ε γ α : Type) : Type 1 where
  command : γ
  origin : σ
  program : Program σ ι ε α

structure World (σ ι ε κ γ α : Type) : Type 1 where
  shared : σ
  lanes : κ → Option (Lane σ ι ε γ α)

/-- One turn: a command is started under its key, a key's program takes its next
step, or something else writes. -/
inductive Turn (κ γ β ι : Type) where
  | start (command : γ)
  | step (key : κ) (input : ι)
  | other (action : β)

section Worlds

variable {σ ι ε κ γ α β : Type} [DecidableEq κ]

def World.idle (shared : σ) : World σ ι ε κ γ α := ⟨shared, fun _ => none⟩

/-- The world after a key's program took its next step. -/
def World.proceed (world : World σ ι ε κ γ α) (key : κ) (input : ι) :
    World σ ι ε κ γ α :=
  match world.lanes key with
  | some ⟨command, origin, .step act next⟩ =>
      match act input world.shared with
      | .ok (answer, shared) =>
          ⟨shared, Function.update world.lanes key
            (some ⟨command, origin, next answer⟩)⟩
      | .error error =>
          ⟨world.shared, Function.update world.lanes key
            (some ⟨command, origin, .raised error⟩)⟩
  | _ => world

variable (keyOf : γ → κ) (program : γ → Program σ ι ε α) (other : β → σ → σ)

def World.take (world : World σ ι ε κ γ α) : Turn κ γ β ι → World σ ι ε κ γ α
  | .start command => ⟨world.shared, Function.update world.lanes (keyOf command)
      (some ⟨command, world.shared, program command⟩)⟩
  | .step key input => world.proceed key input
  | .other action => ⟨other action world.shared, world.lanes⟩

def World.run (world : World σ ι ε κ γ α) (turns : List (Turn κ γ β ι)) :
    World σ ι ε κ γ α :=
  turns.foldl (World.take keyOf program other) world

/-- What every lane keeps: its program the terms of its key, and whatever it ends
with the postcondition of its command. -/
structure World.Orderly (Inv : σ → Prop) (T : κ → Terms σ) (post : γ → σ → α → σ → Prop)
    (world : World σ ι ε κ γ α) : Prop where
  inv : Inv world.shared
  owes : ∀ key lane, world.lanes key = some lane → keyOf lane.command = key ∧
    Owes (T key) lane.program (post lane.command lane.origin) world.shared

/-- What makes every run orderly. -/
structure Sound (Inv : σ → Prop) (T : κ → Terms σ)
    (post : γ → σ → α → σ → Prop) : Prop where
  inv : ∀ key, (T key).Inv = Inv
  owes : ∀ command s, Inv s →
    Owes (T (keyOf command)) (program command) (post command s) s
  apart : ∀ key key', key ≠ key' → ∀ s t, (T key).Guarantee s t → (T key').Rely s t
  others : ∀ action s, Inv s → Inv (other action s) ∧ ∀ key,
    (T key).Rely s (other action s)
  stable : ∀ command s value t u, (T (keyOf command)).Rely t u →
    post command s value t →
    post command s value u

variable {keyOf program other} {Inv : σ → Prop} {T : κ → Terms σ}
  {post : γ → σ → α → σ → Prop} {world : World σ ι ε κ γ α}

omit [DecidableEq κ] in
/-- A lane that waits is where it was, as far as it can tell. -/
theorem Sound.wait (hsound : Sound keyOf program other Inv T post)
    {lane : Lane σ ι ε γ α} {s t : σ} (howes : Owes
      (T (keyOf lane.command)) lane.program (post lane.command lane.origin) s)
    (hrely : (T (keyOf lane.command)).Rely s t) :
    Owes (T (keyOf lane.command)) lane.program (post lane.command lane.origin) t :=
  howes.rely (fun value t u => hsound.stable lane.command lane.origin value t u) hrely

omit [DecidableEq κ] in
theorem World.Orderly.idle {s : σ} (h : Inv s) :
    (World.idle s : World σ ι ε κ γ α).Orderly keyOf Inv T post :=
  ⟨h, fun _ _ hlane => nomatch hlane⟩

/-- The other lanes, after a key's program wrote and went on. -/
theorem World.Orderly.moved (h : world.Orderly keyOf Inv T post)
    (hsound : Sound keyOf program other Inv T post) {key : κ} {shared : σ}
    (lane : Lane σ ι ε γ α) (hkey : keyOf lane.command = key) (hinv : Inv shared)
    (hguarantee : (T key).Guarantee world.shared shared)
    (hlane : Owes (T key) lane.program (post lane.command lane.origin) shared) :
    (⟨shared, Function.update world.lanes key (some lane)⟩ : World σ ι ε κ γ α).Orderly
      keyOf Inv T
      post := by
  refine ⟨hinv, fun key' lane' hlane' => ?_⟩
  by_cases heq : key' = key
  · subst heq
    cases (Function.update_self key' (some lane) world.lanes).symm.trans hlane'
    exact ⟨hkey, hlane⟩
  · have hat := (Function.update_of_ne heq (some lane) world.lanes).symm.trans hlane'
    obtain ⟨rfl, howes⟩ := h.owes key' lane' hat
    exact ⟨rfl, hsound.wait howes
      (hsound.apart key _ (Ne.symm heq) _ _ hguarantee)⟩

theorem World.Orderly.proceed (h : world.Orderly keyOf Inv T post)
    (hsound : Sound keyOf program other Inv T post) (key : κ) (input : ι) :
    (world.proceed key input).Orderly keyOf Inv T post := by
  unfold World.proceed
  split
  · rename_i command origin ρ act next hlane
    obtain ⟨hkey, howes⟩ := h.owes key _ hlane
    split
    · rename_i answer shared hact
      obtain ⟨hguarantee, hinv, hnext⟩ := howes _ ((T key).rely_refl _)
        (hsound.inv key ▸ h.inv) input answer shared hact
      exact h.moved hsound ⟨command, origin, next answer⟩ hkey
        (hsound.inv key ▸ hinv) hguarantee hnext
    · exact h.moved hsound ⟨command, origin, .raised _⟩ hkey h.inv
        ((T key).guarantee_refl _) trivial
  · exact h

theorem World.Orderly.take (h : world.Orderly keyOf Inv T post)
    (hsound : Sound keyOf program other Inv T post) (turn : Turn κ γ β ι) :
    (world.take keyOf program other turn).Orderly keyOf Inv T post := by
  cases turn with
  | start command =>
      exact h.moved hsound ⟨command, world.shared, program command⟩ rfl h.inv
        ((T _).guarantee_refl _) (hsound.owes command _ h.inv)
  | step key input => exact h.proceed hsound key input
  | other action =>
      obtain ⟨hinv, hrely⟩ := hsound.others action _ h.inv
      refine ⟨hinv, fun key lane hlane => ?_⟩
      obtain ⟨rfl, howes⟩ := h.owes key lane hlane
      exact ⟨rfl, hsound.wait howes (hrely _)⟩

/-- **Run rule.** Whatever is interleaved, restarted or crashes, the invariant holds
and a lane that has ended has what its command promised. -/
theorem World.Orderly.run (h : world.Orderly keyOf Inv T post)
    (hsound : Sound keyOf program other Inv T post) (turns : List (Turn κ γ β ι)) :
    (world.run keyOf program other turns).Orderly keyOf Inv T post := by
  induction turns generalizing world with
  | nil => exact h
  | cons turn turns ih => exact ih (h.take hsound turn)

/-! ## A lane that is driven

A lane that takes its steps while nothing else does goes where its program goes. -/

/-- A program takes a step for every input, and stands at what is left of it. -/
inductive Drives : Program σ ι ε α → σ → List ι → Program σ ι ε α → σ → Prop where
  | here (p : Program σ ι ε α) (s : σ) : Drives p s [] p s
  | step {ρ : Type} {act : ι → σ → Except ε (ρ × σ)} {next : ρ → Program σ ι ε α}
      {s t u : σ} {input : ι} {inputs : List ι} {answer : ρ} {left : Program σ ι ε α}
      (hact : act input s = .ok (answer, t)) (hrest : Drives (next answer) t inputs left
        u) : Drives (.step act next) s (input :: inputs) left u

theorem drives_write {ρ : Type} {act : ι → σ → Except ε (ρ × σ)} {s t : σ}
    {input : ι} {answer : ρ} (h : act input s = .ok (answer, t)) :
    Drives (Program.write act) s [input] (.done answer) t :=
  .step h (.here _ _)

omit [DecidableEq κ] in
theorem Drives.trans {p q r : Program σ ι ε α} {s t u : σ} {inputs later : List ι}
    (h : Drives p s inputs q t) (h' : Drives q t later r u) :
    Drives p s (inputs ++ later) r u := by
  induction h with
  | here => exact h'
  | step hact _ ih => exact .step hact (ih h')

theorem Drives.bind {p q : Program σ ι ε α} {s t : σ} {inputs : List ι} {ω : Type}
    {f : α → Program σ ι ε ω} (h : Drives p s inputs q t) :
    Drives (p >>= f) s inputs (q >>= f) t := by
  show Drives (p.bind f) s inputs (q.bind f) t
  induction h with
  | here => exact .here _ _
  | step hact _ ih => exact .step hact ih

/-- A program that was driven to its value goes on with what follows. -/
theorem Drives.value {p : Program σ ι ε α} {s t : σ} {inputs : List ι}
    {ω : Type} {value : α} {f : α → Program σ ι ε ω}
    (h : Drives p s inputs (.done value) t) : Drives (p >>= f) s inputs (f value) t :=
  h.bind

theorem Drives.next {p : Program σ ι ε α} {s t u : σ} {inputs later : List ι}
    {ω : Type} {value : α} {f : α → Program σ ι ε ω} {q : Program σ ι ε ω}
    (h : Drives p s inputs (.done value) t) (h' : Drives (f value) t later q u) :
    Drives (p >>= f) s (inputs ++ later) q u :=
  h.value.trans h'

/-- **Driving rule.** The turns of one lane drive its program, and leave the others. -/
theorem World.run_drives {command : γ} {origin : σ} {p q : Program σ ι ε α} {s t : σ}
    {inputs : List ι} {key : κ} (h : Drives p s inputs q t) (hshared : world.shared = s)
    (hlane : world.lanes key = some ⟨command, origin, p⟩) :
    world.run keyOf program other (inputs.map (.step key)) =
      ⟨t, Function.update world.lanes key (some ⟨command, origin, q⟩)⟩ := by
  induction h generalizing world with
  | here =>
      rw [List.map_nil, World.run, List.foldl_nil, ← hlane,
        Function.update_eq_self, ← hshared]
  | @step ρ act next s t u input inputs answer left hact _ ih =>
      have hproceed : world.proceed key input =
          ⟨t, Function.update world.lanes key
            (some ⟨command, origin, next answer⟩)⟩ := by
        unfold World.proceed
        rw [hlane]
        simp only [hshared, hact]
      rw [List.map_cons, World.run, List.foldl_cons, World.take, hproceed]
      refine (ih rfl (Function.update_self _ _ _)).trans ?_
      rw [Function.update_idem]

end Worlds

end ControlPlaneKit.Library.Lanes
