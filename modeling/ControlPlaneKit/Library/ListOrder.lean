import Mathlib.Data.List.Flatten
import Mathlib.Data.List.Nodup

/-!
# ListOrder — "x occurs before y" in a list

`[x, y].Sublist l` says that `l` contains `x` and, later, `y`.  The lemmas here
move between that form and the split of `l` at an occurrence, and say that in a
list without repetition the order of two members is decided one way.
-/

namespace ControlPlaneKit.Library.ListOrder

variable {α : Type}

/-- `x` before `l'`: split at an occurrence of `x`. -/
theorem cons_sublist_split {x : α} {l' l : List α} :
    (x :: l').Sublist l ↔ ∃ pre post, l = pre ++ x :: post ∧ l'.Sublist post := by
  constructor
  · intro h
    obtain ⟨r₁, r₂, rfl, hx, hsub⟩ := List.cons_sublist_iff.mp h
    obtain ⟨s, t, rfl⟩ := List.append_of_mem hx
    exact ⟨s, t ++ r₂, by simp, hsub.trans (List.sublist_append_right t r₂)⟩
  · rintro ⟨pre, post, rfl, hsub⟩
    exact (hsub.cons_cons x).trans (List.sublist_append_right pre _)

theorem pair_sublist_split {x y : α} {l : List α} :
    [x, y].Sublist l ↔ ∃ pre post, l = pre ++ x :: post ∧ y ∈ post := by
  rw [cons_sublist_split]
  simp only [List.singleton_sublist]

/-- Two different members stand in one order or the other. -/
theorem pair_sublist_total {x y : α} {l : List α} (hne : x ≠ y) (hx : x ∈ l)
    (hy : y ∈ l) : [x, y].Sublist l ∨ [y, x].Sublist l := by
  obtain ⟨pre, post, rfl⟩ := List.append_of_mem hx
  rcases List.mem_append.mp hy with hpre | hpost
  · obtain ⟨s, t, rfl⟩ := List.append_of_mem hpre
    exact .inr (pair_sublist_split.mpr ⟨s, t ++ x :: post, by simp, by simp⟩)
  · rcases List.mem_cons.mp hpost with rfl | hpost
    · exact absurd rfl hne
    · exact .inl (pair_sublist_split.mpr ⟨pre, post, rfl, hpost⟩)

/-- Without repetitions, not both. -/
theorem pair_sublist_asymm {x y : α} {l : List α} (hnd : l.Nodup)
    (hxy : [x, y].Sublist l) : ¬ [y, x].Sublist l := by
  intro hyx
  obtain ⟨pre, post, rfl, hy⟩ := pair_sublist_split.mp hxy
  obtain ⟨-, htail, hdisj⟩ := List.nodup_append.mp hnd
  have hxpost : x ∉ post := (List.nodup_cons.mp htail).1
  have hypre : y ∉ pre := fun h => hdisj y h y (List.mem_cons_of_mem x hy) rfl
  obtain ⟨l₁, l₂, hsplit, h₁, h₂⟩ := List.sublist_append_iff.mp hyx
  cases l₁ with
  | nil =>
      rw [List.nil_append] at hsplit
      subst hsplit
      rcases List.sublist_cons_iff.mp h₂ with h | ⟨r, hr, h⟩
      · exact hxpost (h.subset (by simp))
      · obtain ⟨-, rfl⟩ := List.cons.inj hr
        exact hxpost (h.subset (by simp))
  | cons z zs =>
      obtain ⟨rfl, -⟩ := List.cons.inj hsplit
      exact hypre (h₁.subset (by simp))

/-- A pair that ends inside a prefix lies inside it. -/
theorem pair_sublist_of_append {x y : α} {l₁ l₂ : List α} (hnd : (l₁ ++ l₂).Nodup)
    (h : [x, y].Sublist (l₁ ++ l₂)) (hy : y ∈ l₁) : [x, y].Sublist l₁ := by
  obtain ⟨pre, post, hsplit, hpost⟩ := pair_sublist_split.mp h
  have hne : x ≠ y := by
    rintro rfl
    rw [hsplit] at hnd
    exact (List.nodup_cons.mp (List.nodup_append.mp hnd).2.1).1 hpost
  have hx : x ∈ l₁ ∨ x ∈ l₂ := List.mem_append.mp (h.subset (by simp))
  rcases hx with hx | hx
  · refine (pair_sublist_total hne hx hy).resolve_right fun hyx => ?_
    exact pair_sublist_asymm hnd h (hyx.trans (List.sublist_append_left l₁ l₂))
  · refine absurd h (pair_sublist_asymm hnd ?_)
    exact (List.singleton_sublist.mpr hy).append (List.singleton_sublist.mpr hx)

end ControlPlaneKit.Library.ListOrder
