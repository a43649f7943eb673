import Mathlib.Data.List.Sort
import Mathlib.Data.String.Basic

/-!
# Ordering — stable sorting by a text key

`sorted(values, key=...)` with a text or a tuple of texts as key: a stable sort
by lexicographic comparison.  Insertion sort is the executable stable sort the
kernel can run.
-/

namespace ControlPlaneKit.Library.Ordering

variable {β : Type}

/-- `sorted(values, key=key)`, the key a tuple of texts. -/
def sortedBy (key : β → List String) (values : List β) : List β :=
  values.insertionSort fun a b => key a ≤ key b

/-- `sorted(values)` on texts. -/
def sorted (values : List String) : List String :=
  values.insertionSort fun a b => a ≤ b

theorem sortedBy_perm (key : β → List String) (values : List β) :
    (sortedBy key values).Perm values :=
  List.perm_insertionSort _ _

@[simp] theorem mem_sortedBy {key : β → List String} {values : List β} {b : β} :
    b ∈ sortedBy key values ↔ b ∈ values :=
  (sortedBy_perm key values).mem_iff

theorem sortedBy_eq_nil {key : β → List String} {values : List β} :
    sortedBy key values = [] ↔ values = [] := by
  rw [← List.length_eq_zero_iff, (sortedBy_perm key values).length_eq,
    List.length_eq_zero_iff]

/-- **Sorting is canonical** where the keys are distinct: it forgets the order it
was given. -/
theorem insertionSort_eq_of_perm {γ : Type} [LinearOrder γ] {key : β → γ}
    {values values' : List β} (hperm : values.Perm values')
    (hkeys : (values.map key).Nodup) : values.insertionSort (fun a b => key a ≤ key b) =
      values'.insertionSort fun a b => key a ≤ key b := by
  have htrans : IsTrans β fun a b => key a ≤ key b := ⟨fun _ _ _ => le_trans⟩
  have htotal : Std.Total fun a b : β => key a ≤ key b := ⟨fun _ _ => le_total _ _⟩
  refine List.Perm.eq_of_pairwise ?_ (List.pairwise_insertionSort _ values)
    (List.pairwise_insertionSort _ values')
    ((List.perm_insertionSort _ values).trans
      (hperm.trans (List.perm_insertionSort _ values').symm))
  intro a b ha hb hab hba
  have ha : a ∈ values := (List.perm_insertionSort _ values).mem_iff.mp ha
  have hb : b ∈ values :=
    hperm.mem_iff.mpr ((List.perm_insertionSort _ values').mem_iff.mp hb)
  exact List.inj_on_of_nodup_map hkeys ha hb (le_antisymm hab hba)

theorem sortedBy_eq_of_perm {key : β → List String} {values values' : List β}
    (hperm : values.Perm values') (hkeys : (values.map key).Nodup) :
    sortedBy key values = sortedBy key values' :=
  insertionSort_eq_of_perm hperm hkeys

/-- Two values sorted by one text. -/
theorem sortedBy_pair {key : β → String} {a b : β} :
    sortedBy (fun value => [key value]) [a, b] = if key a ≤ key b then [a, b]
      else [b, a] := by
  have hle : [key a] ≤ [key b] ↔ key a ≤ key b := by
    rw [← not_lt, ← not_lt, List.cons_lt_cons_iff]
    simp
  simp only [sortedBy, List.insertionSort_cons, List.insertionSort_nil,
    List.orderedInsert_nil, List.orderedInsert_cons, hle]

example : sortedBy (fun s => [s]) ["b", "a", "ab"] = ["a", "ab", "b"] := by
  decide

end ControlPlaneKit.Library.Ordering
