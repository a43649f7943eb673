import ControlPlaneKit.Library.DependencyGraph
import Mathlib.Data.List.Perm.Basic

/-!
# LayeredOrder — repeatedly emit whatever has nothing left to wait for

Items carry a key and a list of predecessor keys.  A layer is every remaining
item whose predecessors are all done, put in a canonical order; layers are
emitted until nothing remains.  The three facts a caller wants are proved once:
nothing is lost or duplicated, every item comes after its predecessors, and on
an acyclic graph the procedure never runs dry.
-/

namespace ControlPlaneKit.Library.LayeredOrder

open DependencyGraph (Precedes)

variable {α β : Type} [DecidableEq α]

section Layers

variable (key : β → α) (preds : β → List α) (sort : List β → List β)

/-- The items that can go next, given the keys already done. -/
def layer (completed : List α) (remaining : List β) : List β :=
  sort (remaining.filter fun b => (preds b).all fun p => decide (p ∈ completed))

/-- What a layer leaves behind. -/
def rest (ready remaining : List β) : List β :=
  remaining.filter fun b => decide (key b ∉ ready.map key)

/-- Layer by layer; `none` when items remain but none is ready. -/
def layered : Nat → List α → List β → Option (List β)
  | _, _, [] => some []
  | 0, _, _ :: _ => none
  | fuel + 1, completed, b :: bs =>
      let ready := layer preds sort completed (b :: bs)
      if ready.isEmpty then none
      else
        (layered fuel (completed ++ ready.map key) (rest key ready (b :: bs))).map
          (ready ++ ·)

end Layers

variable {key : β → α} {preds : β → List α} {sort : List β → List β}

/-- Every item stands after the items its predecessor keys name. -/
def Topological (key : β → α) (preds : β → List α) (completed : List α)
    (l : List β) : Prop :=
  ∀ pre b post, l = pre ++ b :: post → ∀ p ∈ preds b, p ∈ completed ∨ p ∈ pre.map key

theorem mem_layer (hsort : ∀ l, (sort l).Perm l) {completed : List α}
    {remaining : List β} {b : β} :
    b ∈ layer preds sort completed remaining ↔
      b ∈ remaining ∧ ∀ p ∈ preds b, p ∈ completed := by
  simp [layer, (hsort _).mem_iff]

/-- One layer and what it leaves are together what there was. -/
theorem layer_append_rest_perm (hsort : ∀ l, (sort l).Perm l) {completed : List α}
    {remaining : List β} (hnd : (remaining.map key).Nodup) :
    (layer preds sort completed remaining ++
      rest key (layer preds sort completed remaining) remaining).Perm remaining := by
  have hkey : ∀ b ∈ remaining,
      decide (key b ∉ (layer preds sort completed remaining).map key) =
        !((preds b).all fun p => decide (p ∈ completed)) := by
    intro b hb
    rw [Bool.eq_iff_iff]
    simp only [decide_eq_true_eq, Bool.not_eq_true', List.all_eq_false, List.mem_map,
      not_exists, not_and]
    constructor
    · intro h
      by_contra hall
      push Not at hall
      exact h b ((mem_layer hsort).mpr ⟨hb, by simpa using hall⟩) rfl
    · rintro ⟨p, hp, hnot⟩ c hc heq
      obtain ⟨hcr, hcp⟩ := (mem_layer hsort).mp hc
      obtain rfl : c = b := List.inj_on_of_nodup_map hnd hcr hb heq
      exact hnot (hcp p hp)
  rw [rest, List.filter_congr hkey]
  exact ((hsort _).append_right _).trans
    (List.filter_append_perm
      (fun b => (preds b).all fun p => decide (p ∈ completed)) remaining)

theorem rest_keys_nodup {ready remaining : List β} (hnd : (remaining.map key).Nodup) :
    ((rest key ready remaining).map key).Nodup :=
  hnd.sublist (List.filter_sublist.map key)

/-- **Nothing lost, nothing repeated.** -/
theorem layered_perm (hsort : ∀ l, (sort l).Perm l) :
    ∀ {fuel : Nat} {completed : List α} {remaining l : List β},
      (remaining.map key).Nodup →
      layered key preds sort fuel completed remaining = some l → l.Perm remaining
  | 0, _, [], _, _, h => by cases h; exact List.Perm.refl _
  | 0, _, _ :: _, _, _, h => by cases h
  | fuel + 1, _, [], _, _, h => by cases h; exact List.Perm.refl _
  | fuel + 1, completed, b :: bs, l, hnd, h => by
      rw [layered] at h
      split at h
      · cases h
      · obtain ⟨m, hm, rfl⟩ := Option.map_eq_some_iff.mp h
        exact ((layered_perm hsort (rest_keys_nodup hnd) hm).append_left _).trans
          (layer_append_rest_perm hsort hnd)

/-- **Predecessors first.** -/
theorem layered_topological (hsort : ∀ l, (sort l).Perm l) :
    ∀ {fuel : Nat} {completed : List α} {remaining l : List β},
      layered key preds sort fuel completed remaining = some l →
      Topological key preds completed l
  | 0, _, [], _, h => by cases h; intro pre b post heq; simp at heq
  | 0, _, _ :: _, _, h => by cases h
  | fuel + 1, _, [], _, h => by cases h; intro pre b post heq; simp at heq
  | fuel + 1, completed, b :: bs, l, h => by
      rw [layered] at h
      split at h
      · cases h
      · obtain ⟨m, hm, rfl⟩ := Option.map_eq_some_iff.mp h
        intro pre c post heq p hp
        -- either `c` lies in this layer, or the split falls inside a later one
        rcases List.append_eq_append_iff.mp heq with ⟨as, hpre, hm'⟩ |
          ⟨as, hlayer, hpost⟩
        · rcases layered_topological hsort hm as c post hm' p hp with hdone | hlater
          · rcases List.mem_append.mp hdone with hc | hr
            · exact .inl hc
            · exact .inr (by rw [hpre,
                List.map_append]; exact List.mem_append_left _ hr)
          · exact .inr (by rw [hpre,
              List.map_append]; exact List.mem_append_right _ hlater)
        · cases as with
          | nil =>
              have hm' : m = [] ++ c :: post := by simpa using hpost.symm
              rcases layered_topological hsort hm [] c post hm' p hp with hdone | hlater
              · rcases List.mem_append.mp hdone with hc | hr
                · exact .inl hc
                · refine .inr ?_
                  rw [hlayer, List.append_nil] at hr
                  exact hr
              · simp at hlater
          | cons d ds =>
              obtain ⟨rfl, -⟩ := List.cons.inj (by simpa using hpost)
              have hc : c ∈ layer preds sort completed (b :: bs) := by
                rw [hlayer]; simp
              exact .inl (((mem_layer hsort).mp hc).2 p hp)

/-- Among finitely many items some accessible one waits for nothing undone. -/
theorem exists_ready {predsOf : α → List α} {completed : List α} {remaining : List β}
    (hpreds : ∀ b ∈ remaining, predsOf (key b) = preds b)
    (hclosed : ∀ b ∈ remaining, ∀ p ∈ preds b, p ∈ completed ∨ p ∈ remaining.map key)
    {a : α} (ha : Acc (Precedes predsOf) a) :
    ∀ b ∈ remaining, key b = a → ∃ c ∈ remaining, ∀ p ∈ preds c, p ∈ completed := by
  induction ha with
  | intro a _ ih =>
      intro b hb hkey
      by_cases hdone : ∀ p ∈ preds b, p ∈ completed
      · exact ⟨b, hb, hdone⟩
      · push Not at hdone
        obtain ⟨p, hp, hnot⟩ := hdone
        obtain ⟨c, hc, hcp⟩ := List.mem_map.mp ((hclosed b hb p hp).resolve_left hnot)
        have hpa : Precedes predsOf p a := by
          rw [Precedes, ← hkey, hpreds b hb]; exact hp
        exact ih p hpa c hc hcp

/-- **No deadlock on an acyclic graph.** With as much fuel as there are items,
the ordering is produced. -/
theorem layered_isSome (hsort : ∀ l, (sort l).Perm l) {predsOf : α → List α} :
    ∀ {fuel : Nat} {completed : List α} {remaining : List β},
      remaining.length ≤ fuel → (remaining.map key).Nodup →
      (∀ b ∈ remaining, predsOf (key b) = preds b) →
      (∀ b ∈ remaining, ∀ p ∈ preds b, p ∈ completed ∨ p ∈ remaining.map key) →
      (∀ b ∈ remaining, Acc (Precedes predsOf) (key b)) →
      ∃ l, layered key preds sort fuel completed remaining = some l
  | 0, _, [], _, _, _, _, _ => ⟨[], rfl⟩
  | 0, _, _ :: _, hfuel, _, _, _, _ => by simp at hfuel
  | fuel + 1, _, [], _, _, _, _, _ => ⟨[], rfl⟩
  | fuel + 1, completed, b :: bs, hfuel, hnd, hpreds, hclosed, hacc => by
      have hperm : (layer preds sort completed (b :: bs) ++
          rest key (layer preds sort completed (b :: bs)) (b :: bs)).Perm (b :: bs) :=
        layer_append_rest_perm hsort hnd
      obtain ⟨c, hc, hready⟩ :=
        exists_ready hpreds hclosed (hacc b (by simp)) b (by simp) rfl
      have hmem : c ∈ layer preds sort completed (b :: bs) :=
        (mem_layer hsort).mpr ⟨hc, hready⟩
      have hpos : 0 < (layer preds sort completed (b :: bs)).length :=
        List.length_pos_of_mem hmem
      have hsub : ∀ d ∈ rest key (layer preds sort completed (b :: bs)) (b :: bs),
          d ∈ b :: bs := fun d hd => List.mem_of_mem_filter hd
      have hlen : (rest key (layer preds sort completed (b :: bs)) (b :: bs)).length ≤
          fuel := by
        have := hperm.length_eq
        rw [List.length_append] at this
        omega
      have hclosed' : ∀ d ∈ rest key (layer preds sort completed (b :: bs)) (b :: bs),
          ∀ p ∈ preds d,
            p ∈ completed ++ (layer preds sort completed (b :: bs)).map key ∨
            p ∈
              (rest key (layer preds sort completed (b :: bs)) (b :: bs)).map key := by
        intro d hd p hp
        rcases hclosed d (hsub d hd) p hp with h | h
        · exact .inl (List.mem_append_left _ h)
        · rw [← (hperm.map key).mem_iff, List.map_append, List.mem_append] at h
          rcases h with h | h
          · exact .inl (List.mem_append_right _ h)
          · exact .inr h
      obtain ⟨l, hl⟩ := layered_isSome hsort hlen (rest_keys_nodup hnd)
        (fun d hd => hpreds d (hsub d hd)) hclosed' (fun d hd => hacc d (hsub d hd))
      have hne : (layer preds sort completed (b :: bs)).isEmpty = false := by
        cases hlay : layer preds sort completed (b :: bs) with
        | nil => simp [hlay] at hpos
        | cons d ds => rfl
      refine ⟨layer preds sort completed (b :: bs) ++ l, ?_⟩
      simp only [layered, hne, Bool.false_eq_true, if_false, hl, Option.map_some]

/-- **Layering is canonical** where sorting is: it forgets the order of the items. -/
theorem layered_eq_of_perm
    (hcanonical : ∀ l l' : List β, l.Perm l' → (l.map key).Nodup → sort l = sort l') :
    ∀ {fuel : Nat} {completed : List α} {remaining remaining' : List β},
      remaining.Perm remaining' → (remaining.map key).Nodup →
      layered key preds sort fuel completed remaining =
        layered key preds sort fuel completed remaining'
  | _, _, [], _, hperm, _ => by rw [hperm.nil_eq]
  | _, _, _ :: _, [], hperm, _ => by cases hperm.eq_nil
  | 0, _, _ :: _, _ :: _, _, _ => rfl
  | fuel + 1, completed, b :: bs, c :: cs, hperm, hnd => by
      have hlayer : layer preds sort completed (b :: bs) =
          layer preds sort completed (c :: cs) :=
        hcanonical _ _ (hperm.filter _) (hnd.sublist (List.filter_sublist.map key))
      rw [layered, layered, hlayer]
      split
      · rfl
      · exact congrArg (Option.map _)
          (layered_eq_of_perm hcanonical (hperm.filter _) (rest_keys_nodup hnd))

end ControlPlaneKit.Library.LayeredOrder
