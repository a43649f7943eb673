import Mathlib.Data.List.Basic

/-!
# Outcome — fallible results over lists

A fallible computation is an `Except`.  Two ways of running one over a list are
used here: collect the outcomes of a list, and collect the lists that a function
yields on each element.  For both, when they succeed and what they contain.  Last,
which errors a computation can raise at all.
-/

namespace ControlPlaneKit.Library.Outcome

variable {α β ε : Type}

def Succeeds (x : Except ε α) : Prop := ∃ a, x = .ok a

theorem succeeds_ok (a : α) : Succeeds (.ok a : Except ε α) := ⟨a, rfl⟩

theorem not_succeeds_error (e : ε) : ¬ Succeeds (.error e : Except ε α) := by
  simp [Succeeds]

theorem succeeds_map {x : Except ε α} {f : α → β} :
    Succeeds (x.map f) ↔ Succeeds x := by
  cases x <;> simp [Succeeds, Except.map]

theorem map_eq_ok {x : Except ε α} {f : α → β} {b : β} :
    x.map f = .ok b ↔ ∃ a, x = .ok a ∧ f a = b := by
  cases x <;> simp [Except.map]

/-- What follows a success goes on from its value. -/
theorem ok_bind (a : α) (f : α → Except ε β) : ((.ok a : Except ε α) >>= f) = f a := rfl

theorem succeeds_bind {x : Except ε α} {f : α → Except ε β} :
    Succeeds (x >>= f) ↔ ∃ a, x = .ok a ∧ Succeeds (f a) := by
  cases x <;> simp [bind, Except.bind, Succeeds]

theorem mapError_eq_ok {ε' : Type} {x : Except ε α} {f : ε → ε'} {a : α} :
    x.mapError f = .ok a ↔ x = .ok a := by
  cases x <;> simp [Except.mapError]

theorem mapError_eq_error {ε' : Type} {x : Except ε α} {f : ε → ε'} {e' : ε'} :
    x.mapError f = .error e' ↔ ∃ e, x = .error e ∧ f e = e' := by
  cases x <;> simp [Except.mapError]

/-- Whether a computation fails with a given error. -/
def fails [DecidableEq ε] (error : ε) : Except ε α → Bool
  | .ok _ => false
  | .error raised => raised = error

theorem eq_error_of_fails [DecidableEq ε] {error : ε} {x : Except ε α}
    (h : fails error x = true) : x = .error error := by
  cases x with
  | ok a => cases h
  | error raised => rw [of_decide_eq_true h]

/-- The values of a list of outcomes, or the first failure. -/
def collect : List (Except ε α) → Except ε (List α)
  | [] => .ok []
  | .error e :: _ => .error e
  | .ok a :: rest => (collect rest).map (a :: ·)

theorem succeeds_collect {xs : List (Except ε α)} :
    Succeeds (collect xs) ↔ ∀ x ∈ xs, Succeeds x := by
  induction xs with
  | nil => simp [collect, Succeeds]
  | cons x xs ih =>
      cases x with
      | error e => simp [collect, Succeeds]
      | ok a =>
          rw [collect, succeeds_map, ih]
          simp [Succeeds]

/-- A loop whose steps fail or not whatever the state. -/
theorem succeeds_foldlM {σ : Type} {step : σ → α → Except ε σ} {accepted : α → Prop}
    (hstep : ∀ s a, Succeeds (step s a) ↔ accepted a) {as : List α} {s : σ} :
    Succeeds (as.foldlM step s) ↔ ∀ a ∈ as, accepted a := by
  induction as generalizing s with
  | nil => simp [Succeeds, pure, Except.pure]
  | cons a as ih =>
      rw [List.foldlM_cons, succeeds_bind, List.forall_mem_cons, ← hstep s a]
      constructor
      · rintro ⟨t, ht, hrest⟩
        exact ⟨⟨t, ht⟩, ih.mp hrest⟩
      · rintro ⟨⟨t, ht⟩, hrest⟩
        exact ⟨t, ht, ih.mpr hrest⟩

/-- A loop of checks passes when each check does. -/
theorem forM_eq_ok {f : α → Except ε Unit} {as : List α} :
    as.forM f = .ok () ↔ ∀ a ∈ as, f a = .ok () := by
  induction as with
  | nil => simp [List.forM, pure, Except.pure]
  | cons a as ih =>
      rw [List.forall_mem_cons, ← ih, List.forM]
      cases f a with
      | error e => simp [bind, Except.bind]
      | ok u => simp [bind, Except.bind]

/-- What a loop collects stands, place by place, for what it ran over. -/
theorem mapM_eq_ok {f : α → Except ε β} {as : List α} {bs : List β} :
    as.mapM f = .ok bs ↔ List.Forall₂ (fun a b => f a = .ok b) as bs := by
  induction as generalizing bs with
  | nil =>
      rw [List.mapM_nil]
      constructor
      · intro h
        cases h
        exact .nil
      · rintro ⟨⟩
        rfl
  | cons a as ih =>
      rw [List.mapM_cons]
      constructor
      · intro h
        cases ha : f a with
        | error e =>
            rw [ha] at h
            cases h
        | ok b =>
            rw [ha, ok_bind] at h
            cases has : as.mapM f with
            | error e =>
                rw [has] at h
                cases h
            | ok rest =>
                rw [has, ok_bind] at h
                cases h
                exact .cons ha (ih.mp has)
      · rintro (_ | ⟨ha, hrest⟩)
        rw [ha, ok_bind, ih.mpr hrest]
        rfl

/-- A loop that appends what `f` yields on each element, or the first failure. -/
def collectMap (f : α → Except ε (List β)) : List α → Except ε (List β)
  | [] => .ok []
  | a :: as =>
      match f a with
      | .error e => .error e
      | .ok bs => (collectMap f as).map (bs ++ ·)

theorem collectMap_cons_ok {f : α → Except ε (List β)} {a : α} {as : List α}
    {out : List β} : collectMap f (a :: as) = .ok out ↔
      ∃ bs rest, f a = .ok bs ∧ collectMap f as = .ok rest ∧ out = bs ++ rest := by
  rw [collectMap]
  cases hfa : f a with
  | error e => simp
  | ok bs =>
      simp only [map_eq_ok, Except.ok.injEq, exists_and_left, exists_eq_left']
      constructor
      · rintro ⟨rest, hrest, rfl⟩
        exact ⟨rest, hrest, rfl⟩
      · rintro ⟨rest, hrest, rfl⟩
        exact ⟨rest, hrest, rfl⟩

theorem succeeds_collectMap {f : α → Except ε (List β)} {as : List α} :
    Succeeds (collectMap f as) ↔ ∀ a ∈ as, Succeeds (f a) := by
  induction as with
  | nil => simp [collectMap, Succeeds]
  | cons a as ih =>
      rw [collectMap]
      cases hfa : f a with
      | error e => simp [hfa, Succeeds]
      | ok bs =>
          simp only [succeeds_map, ih, List.forall_mem_cons, hfa]
          exact ⟨fun h => ⟨succeeds_ok bs, h⟩, fun h => h.2⟩

/-- **What a collecting loop contains**: what `f` yields somewhere. -/
theorem mem_collectMap {f : α → Except ε (List β)} {as : List α} {out : List β}
    (h : collectMap f as = .ok out) {b : β} :
    b ∈ out ↔ ∃ a ∈ as, ∃ bs, f a = .ok bs ∧ b ∈ bs := by
  induction as generalizing out with
  | nil =>
      cases h
      simp
  | cons a as ih =>
      obtain ⟨bs, rest, ha, hrest, rfl⟩ := collectMap_cons_ok.mp h
      rw [List.mem_append, ih hrest]
      simp [ha]

/-- A collecting loop repeats no label, when what each element yields has labels
of that element alone. -/
theorem nodup_collectMap {γ κ : Type} {f : α → Except ε (List β)} {label : β → γ}
    {owner : γ → κ} {key : α → κ} {as : List α} {out : List β}
    (h : collectMap f as = .ok out) (hkeys : (as.map key).Nodup)
    (hf : ∀ a ∈ as, ∀ bs, f a = .ok bs →
      (bs.map label).Nodup ∧ ∀ b ∈ bs, owner (label b) = key a) :
    (out.map label).Nodup := by
  induction as generalizing out with
  | nil =>
      cases h
      exact List.nodup_nil
  | cons a as ih =>
      obtain ⟨bs, rest, ha, hrest, rfl⟩ := collectMap_cons_ok.mp h
      rw [List.map_cons, List.nodup_cons] at hkeys
      obtain ⟨hbs, howner⟩ := hf a (by simp) bs ha
      rw [List.map_append, List.nodup_append]
      refine ⟨hbs, ih hrest hkeys.2 fun b hb => hf b (by simp [hb]), ?_⟩
      simp only [List.mem_map]
      rintro _ ⟨b, hb, rfl⟩ _ ⟨b', hb', rfl⟩ heq
      obtain ⟨a', ha', bs', hbs', hmem⟩ := (mem_collectMap hrest).mp hb'
      have hkey := (hf a' (by simp [ha']) bs' hbs').2 b' hmem
      rw [← heq, howner b hb] at hkey
      exact hkeys.1 (List.mem_map.mpr ⟨a', ha', hkey.symm⟩)

/-! ## Which errors a computation raises -/

/-- Every error of the computation has the property. -/
def ErrorsIn (P : ε → Prop) (x : Except ε α) : Prop := ∀ e, x = .error e → P e

namespace ErrorsIn

variable {P Q : ε → Prop} {x : Except ε α} {f : α → Except ε β}

theorem ok (a : α) : ErrorsIn P (.ok a : Except ε α) := nofun

theorem error {e : ε} (h : P e) : ErrorsIn P (.error e : Except ε α) := by
  rintro _ ⟨⟩
  exact h

theorem bind (hx : ErrorsIn P x) (hf : ∀ a, x = .ok a → ErrorsIn P (f a)) :
    ErrorsIn P (x >>= f) := by
  cases x with
  | error e => exact error (hx e rfl)
  | ok a => exact hf a rfl

/-- Two steps raise errors of a kind when the first does, and the second does
wherever the first leads. -/
theorem bind_iff : ErrorsIn P (x >>= f) ↔
    ErrorsIn P x ∧ ∀ a, x = .ok a → ErrorsIn P (f a) := by
  refine ⟨fun h => ?_, fun h => h.1.bind h.2⟩
  cases x with
  | error e => exact ⟨error (h e rfl), nofun⟩
  | ok a =>
      refine ⟨ok a, ?_⟩
      rintro _ ⟨⟩
      exact h

theorem mono (hx : ErrorsIn P x) (h : ∀ e, P e → Q e) : ErrorsIn Q x :=
  fun e he => h e (hx e he)

theorem map {f : α → β} (hx : ErrorsIn P x) : ErrorsIn P (x.map f) := by
  cases x with
  | error e => exact error (hx e rfl)
  | ok a => exact ok (f a)

/-- A computation whose errors are replaced raises the replacements only. -/
theorem mapError {ε' : Type} {R : ε' → Prop} {f : ε → ε'} (h : ∀ e, R (f e)) :
    ErrorsIn R (x.mapError f) := by
  cases x with
  | error e => exact error (h e)
  | ok a => exact ok a

/-- A loop raises what some step of it raises. -/
theorem mapM {as : List α} (h : ∀ a ∈ as, ErrorsIn P (f a)) :
    ErrorsIn P (as.mapM f) := by
  induction as with
  | nil => exact ok []
  | cons a as ih =>
      rw [List.mapM_cons]
      refine (h a (List.mem_cons_self ..)).bind fun b _ => ?_
      exact (ih fun a' ha' => h a' (List.mem_cons_of_mem _ ha')).bind fun bs _ =>
        ok (b :: bs)

/-- A loop raises errors of a kind when each step that is reached does. -/
theorem mapM_iff {as : List α} : ErrorsIn P (as.mapM f) ↔
    ∀ before a after, as = before ++ a :: after → (∀ b ∈ before, Succeeds (f b)) →
      ErrorsIn P (f a) := by
  induction as with
  | nil => exact iff_of_true (ok []) fun before a after h => by simp at h
  | cons first rest ih =>
      rw [List.mapM_cons, bind_iff]
      constructor
      · rintro ⟨hfirst, hrest⟩ before a after heq hbefore
        cases before with
        | nil =>
            cases heq
            exact hfirst
        | cons b before =>
            cases heq
            obtain ⟨value, hvalue⟩ := hbefore first (List.mem_cons_self ..)
            exact ih.mp (bind_iff.mp (hrest value hvalue)).1 before a after rfl
              fun c hc => hbefore c (List.mem_cons_of_mem _ hc)
      · intro h
        refine ⟨h [] first rest rfl nofun, fun value hvalue => ?_⟩
        refine bind (ih.mpr fun before a after heq hbefore => ?_) fun _ _ => ok _
        refine h (first :: before) a after (by rw [heq]; rfl) ?_
        rintro b (_ | ⟨_, hb⟩)
        · exact ⟨value, hvalue⟩
        · exact hbefore b hb

theorem forM {f : α → Except ε Unit} {as : List α} (h : ∀ a ∈ as, ErrorsIn P (f a)) :
    ErrorsIn P (as.forM f) := by
  induction as with
  | nil => exact ok ()
  | cons a as ih =>
      exact (h a (List.mem_cons_self ..)).bind fun _ _ =>
        ih fun a' ha' => h a' (List.mem_cons_of_mem _ ha')

end ErrorsIn

end ControlPlaneKit.Library.Outcome
