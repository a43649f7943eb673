import Mathlib.Data.Finset.Card
import Mathlib.Data.List.Nodup
import Mathlib.Data.List.Perm.Subperm
import Mathlib.Logic.Relation

/-!
# DependencyGraph — cycle search and layered ordering

A finite dependency graph is a predecessor function `preds : α → List α`.  Two
classical procedures run on it: a depth-first search with a "visiting" path and
a "visited" set that answers whether some cycle is reachable, and the layered
ordering that repeatedly emits every item whose predecessors are done.
The search is fuelled; `visit_ne_exhausted` says how much fuel is enough.

Acyclicity is stated twice, as accessibility (`Acc`) of the predecessor
relation, which is what the ordering consumes, and as absence of a
`Relation.TransGen` loop, which is what a rank function gives.
-/

namespace ControlPlaneKit.Library.DependencyGraph

open Relation

variable {α β : Type} [DecidableEq α]

/-- `Precedes preds p a`: `p` is one of the predecessors of `a`. -/
def Precedes (preds : α → List α) (p a : α) : Prop := p ∈ preds a

/-! ## Depth-first search for a cycle -/

/-- What a search reports: a cycle, no cycle from here (with everything seen so
far), or that its fuel ran out. -/
inductive Search (α : Type) where
  | cycle
  | clear (visited : List α)
  | exhausted
  deriving DecidableEq

def Search.andThen : Search α → (List α → Search α) → Search α
  | .clear visited, next => next visited
  | .cycle, _ => .cycle
  | .exhausted, _ => .exhausted

/-- One visit: `visiting` is the path from the root down to here, `visited` the
nodes already known to be clear. -/
def visit (preds : α → List α) : Nat → List α → List α → α → Search α
  | 0, _, _, _ => .exhausted
  | fuel + 1, visiting, visited, a =>
      if a ∈ visiting then .cycle
      else if a ∈ visited then .clear visited
      else
        ((preds a).foldl
            (fun (found : Search α) p => found.andThen fun seen =>
              visit preds fuel (a :: visiting) seen p)
            (Search.clear visited)).andThen fun seen => .clear (a :: seen)

/-- Visit a list of nodes in turn, stopping at the first cycle. -/
def visitAll (preds : α → List α) (fuel : Nat) (visiting : List α)
    (found : Search α) (as : List α) : Search α :=
  as.foldl (fun found p => found.andThen fun seen =>
    visit preds fuel visiting seen p) found

theorem visit_succ (preds : α → List α) (fuel : Nat)
    (visiting visited : List α) (a : α) : visit preds (fuel + 1) visiting visited a =
      if a ∈ visiting then .cycle
      else if a ∈ visited then .clear visited
      else (visitAll preds fuel (a :: visiting) (.clear visited) (preds a)).andThen
        fun seen => .clear (a :: seen) := rfl

omit [DecidableEq α] in
theorem Search.andThen_eq_clear {s : Search α} {f : List α → Search α} {v : List α} :
    s.andThen f = .clear v ↔ ∃ u, s = .clear u ∧ f u = .clear v := by
  cases s <;> simp [Search.andThen]

omit [DecidableEq α] in
theorem Search.andThen_eq_cycle {s : Search α} {f : List α → Search α} :
    s.andThen f = .cycle ↔ s = .cycle ∨ ∃ u, s = .clear u ∧ f u = .cycle := by
  cases s <;> simp [Search.andThen]

omit [DecidableEq α] in
theorem Search.andThen_eq_exhausted {s : Search α} {f : List α → Search α} :
    s.andThen f = .exhausted ↔
      s = .exhausted ∨ ∃ u, s = .clear u ∧ f u = .exhausted := by
  cases s <;> simp [Search.andThen]

theorem visitAll_nil (preds : α → List α) (fuel : Nat) (visiting : List α)
    (found : Search α) : visitAll preds fuel visiting found [] = found := rfl

theorem visitAll_cons (preds : α → List α) (fuel : Nat) (visiting : List α)
    (found : Search α) (a : α) (as : List α) :
    visitAll preds fuel visiting found (a :: as) =
      visitAll preds fuel visiting
        (found.andThen fun seen => visit preds fuel visiting seen a) as := rfl

/-- Once a list search has stopped, the rest of the list changes nothing. -/
theorem visitAll_cycle (preds : α → List α) (fuel : Nat) (visiting as : List α) :
    visitAll preds fuel visiting .cycle as = .cycle := by
  induction as with
  | nil => rfl
  | cons a as ih => rw [visitAll_cons]; exact ih

theorem visitAll_exhausted (preds : α → List α) (fuel : Nat) (visiting as : List α) :
    visitAll preds fuel visiting .exhausted as = .exhausted := by
  induction as with
  | nil => rfl
  | cons a as ih => rw [visitAll_cons]; exact ih

/-- The list rule of the search: what each visit preserves of the visited set,
the sweep preserves, and it establishes `P` of every listed node. -/
theorem visitAll_clear {preds : α → List α} {fuel : Nat} {visiting : List α}
    {P : α → Prop}
    (hvisit : ∀ a u v, (∀ x ∈ u, P x) → visit preds fuel visiting u a = .clear v →
      P a ∧ ∀ x ∈ v, P x) :
    ∀ {as u v : List α}, (∀ x ∈ u, P x) →
      visitAll preds fuel visiting (.clear u) as = .clear v →
      (∀ a ∈ as, P a) ∧ ∀ x ∈ v, P x
  | [], u, v, hu, h => by
      rw [visitAll_nil] at h
      cases h
      exact ⟨by simp, hu⟩
  | a :: as, u, v, hu, h => by
      rw [visitAll_cons] at h
      change visitAll preds fuel visiting (visit preds fuel visiting u a) as = _ at h
      cases hw : visit preds fuel visiting u a with
      | cycle => rw [hw, visitAll_cycle] at h; cases h
      | exhausted => rw [hw, visitAll_exhausted] at h; cases h
      | clear w =>
          rw [hw] at h
          obtain ⟨hPa, hw'⟩ := hvisit a u w hu hw
          obtain ⟨has, hv⟩ := visitAll_clear hvisit hw' h
          exact ⟨by simpa using ⟨hPa, has⟩, hv⟩

/-- A sweep that does not clear failed in one of its visits. -/
theorem visitAll_stop {preds : α → List α} {fuel : Nat} {visiting : List α}
    {stop : Search α} (hstop : ∀ v, stop ≠ .clear v) :
    ∀ {as u : List α}, visitAll preds fuel visiting (.clear u) as = stop →
      ∃ a ∈ as, ∃ u, visit preds fuel visiting u a = stop
  | [], u, h => absurd h.symm (hstop u)
  | a :: as, u, h => by
      rw [visitAll_cons] at h
      change visitAll preds fuel visiting (visit preds fuel visiting u a) as = _ at h
      cases hw : visit preds fuel visiting u a with
      | cycle =>
          rw [hw, visitAll_cycle] at h
          exact ⟨a, by simp, u, hw.trans h⟩
      | exhausted =>
          rw [hw, visitAll_exhausted] at h
          exact ⟨a, by simp, u, hw.trans h⟩
      | clear w =>
          rw [hw] at h
          obtain ⟨b, hb, hrest⟩ := visitAll_stop hstop h
          exact ⟨b, by simp [hb], hrest⟩

/-- **Completeness.** A node the search clears is accessible: no infinite chain
of predecessors starts at it. -/
theorem visit_clear_acc {preds : α → List α} :
    ∀ {fuel : Nat} {visiting : List α} (a : α) (u v : List α),
      (∀ x ∈ u, Acc (Precedes preds) x) →
      visit preds fuel visiting u a = .clear v →
      Acc (Precedes preds) a ∧ ∀ x ∈ v, Acc (Precedes preds) x
  | 0, _, _, _, _, _, h => by cases h
  | fuel + 1, visiting, a, u, v, hu, h => by
      rw [visit_succ] at h
      split at h
      · cases h
      · split at h
        · rename_i hmem
          cases h
          exact ⟨hu a hmem, hu⟩
        · obtain ⟨w, hw, hv⟩ := Search.andThen_eq_clear.mp h
          obtain ⟨hpreds, hseen⟩ :=
            visitAll_clear (fun b u v => visit_clear_acc b u v) hu hw
          have ha : Acc (Precedes preds) a := Acc.intro a fun p hp => hpreds p hp
          cases hv
          refine ⟨ha, fun x hx => ?_⟩
          rcases List.mem_cons.mp hx with rfl | hx
          · exact ha
          · exact hseen x hx

/-- **Soundness.** A reported cycle is one: walking down the visiting path, every
node on it is reached again from the current one. -/
theorem visit_cycle_loop {preds : α → List α} :
    ∀ {fuel : Nat} {visiting u : List α} {a : α},
      (∀ x ∈ visiting, TransGen (Precedes preds) a x) →
      visit preds fuel visiting u a = .cycle →
      ∃ x, TransGen (Precedes preds) x x
  | 0, _, _, _, _, h => by cases h
  | fuel + 1, visiting, u, a, hpath, h => by
      rw [visit_succ] at h
      split at h
      · rename_i hmem
        exact ⟨a, hpath a hmem⟩
      · split at h
        · cases h
        · rcases Search.andThen_eq_cycle.mp h with hc | ⟨w, -, hw⟩
          · obtain ⟨p, hp, w, hw⟩ := visitAll_stop (by simp) hc
            refine visit_cycle_loop (fun x hx => ?_) hw
            rcases List.mem_cons.mp hx with rfl | hx
            · exact TransGen.single hp
            · exact TransGen.head hp (hpath x hx)
          · cases hw

/-- The path of a visit has no repetition, so it is no longer than the graph:
fuel beyond that is never used up. -/
theorem visit_ne_exhausted {preds : α → List α} {keys : List α}
    (hclosed : ∀ a ∈ keys, ∀ p ∈ preds a, p ∈ keys) :
    ∀ {fuel : Nat} {visiting u : List α} {a : α}, visiting.Nodup → visiting ⊆ keys →
      a ∈ keys → keys.length < fuel + visiting.length →
      visit preds fuel visiting u a ≠ .exhausted
  | 0, visiting, _, _, hnd, hsub, _, hfuel => by
      have := (List.subperm_of_subset hnd hsub).length_le
      omega
  | fuel + 1, visiting, u, a, hnd, hsub, ha, hfuel => by
      intro h
      rw [visit_succ] at h
      split at h
      · cases h
      · split at h
        · cases h
        · rename_i hfresh _
          rcases Search.andThen_eq_exhausted.mp h with hc | ⟨w, -, hw⟩
          · obtain ⟨p, hp, w, hw⟩ := visitAll_stop (by simp) hc
            refine visit_ne_exhausted hclosed (List.nodup_cons.mpr ⟨hfresh, hnd⟩)
              (List.cons_subset.mpr ⟨ha, hsub⟩) (hclosed a ha p hp) ?_ hw
            rw [List.length_cons]
            omega
          · cases hw

/-- The search over a whole graph with the given nodes. -/
def hasCycle (preds : α → List α) (keys : List α) : Bool :=
  visitAll preds (keys.length + 1) [] (.clear []) keys = .cycle

/-- A graph in which no cycle was found has only accessible nodes. -/
theorem acc_of_not_hasCycle {preds : α → List α} {keys : List α}
    (hclosed : ∀ a ∈ keys, ∀ p ∈ preds a, p ∈ keys)
    (h : hasCycle preds keys = false) : ∀ a ∈ keys, Acc (Precedes preds) a := by
  cases hs : visitAll preds (keys.length + 1) [] (.clear []) keys with
  | cycle => simp [hasCycle, hs] at h
  | exhausted =>
      obtain ⟨a, ha, u, hu⟩ := visitAll_stop (by simp) hs
      exact absurd hu (visit_ne_exhausted hclosed List.nodup_nil (by simp) ha (by simp))
  | clear v =>
      exact (visitAll_clear (fun b u v => visit_clear_acc b u v) (by simp) hs).1

/-- A reported cycle is a loop of the predecessor relation. -/
theorem loop_of_hasCycle {preds : α → List α} {keys : List α}
    (h : hasCycle preds keys = true) : ∃ x, TransGen (Precedes preds) x x := by
  simp only [hasCycle, decide_eq_true_eq] at h
  obtain ⟨a, -, u, hu⟩ := visitAll_stop (by simp) h
  exact visit_cycle_loop (by simp) hu

/-! ## Ranks -/

omit [DecidableEq α] in
/-- Any relation along which a rank rises has no loop. -/
theorem not_loop_of_rank {ρ : Type} [Preorder ρ] {r : α → α → Prop} (rank : α → ρ)
    (hrank : ∀ a b, r a b → rank a < rank b) (x : α) : ¬ TransGen r x x := by
  have hlt : ∀ {a b}, TransGen r a b → rank a < rank b := by
    intro a b hab
    induction hab with
    | single h => exact hrank _ _ h
    | tail _ h ih => exact ih.trans (hrank _ _ h)
  exact fun h => lt_irrefl _ (hlt h)

/-- A predecessor function with a rank has no reported cycle. -/
theorem not_hasCycle_of_rank {ρ : Type} [Preorder ρ] {preds : α → List α} (rank : α → ρ)
    (hrank : ∀ a, ∀ p ∈ preds a, rank p < rank a) (keys : List α) :
    hasCycle preds keys = false := by
  cases h : hasCycle preds keys with
  | false => rfl
  | true =>
      obtain ⟨x, hx⟩ := loop_of_hasCycle h
      exact absurd hx (not_loop_of_rank rank (fun a b hab => hrank b a hab) x)

open Classical in
/-- How many of the listed nodes come, transitively, before `a`. -/
noncomputable def ancestorCount (r : α → α → Prop) (nodes : Finset α) (a : α) : Nat :=
  (nodes.filter fun x => TransGen r x a).card

omit [DecidableEq α] in
/-- **Every loop-free relation with finitely many sources has a rank**, the
number of ancestors. -/
theorem ancestorCount_lt {r : α → α → Prop} {nodes : Finset α}
    (hloop : ∀ x, ¬ TransGen r x x) {a b : α} (ha : a ∈ nodes) (hab : r a b) :
    ancestorCount r nodes a < ancestorCount r nodes b := by
  classical
  refine Finset.card_lt_card (Finset.ssubset_iff_subset_ne.mpr ⟨?_, ?_⟩)
  · intro x hx
    rw [Finset.mem_filter] at hx ⊢
    exact ⟨hx.1, hx.2.tail hab⟩
  · intro heq
    have hmem : a ∈ nodes.filter fun x => TransGen r x b :=
      Finset.mem_filter.mpr ⟨ha, TransGen.single hab⟩
    rw [← heq, Finset.mem_filter] at hmem
    exact hloop a hmem.2

end ControlPlaneKit.Library.DependencyGraph
