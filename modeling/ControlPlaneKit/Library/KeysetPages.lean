import ControlPlaneKit.Library.Ordering

/-!
# KeysetPages — reading an ordered set page by page

A page is what a query returns after a position: the rows with a greater key, in key
order, up to a count.  Reading on from the last row of every page, until a page names
no position, collects the ordered rows.  The rule is stated for any way of fetching,
so that a page may be refused.
-/

namespace ControlPlaneKit.Library.KeysetPages

/-! ## Rows after a position -/

section Seek

variable {ρ K : Type} [LinearOrder K] (key : ρ → K)

/-- `ORDER BY key ASC`. -/
def ordered (rows : List ρ) : List ρ := rows.insertionSort fun a b => key a ≤ key b

/-- `WHERE key > position`. -/
def isAfter (position : Option K) (row : ρ) : Bool :=
  position.all fun last => decide (last < key row)

/-- `WHERE key > position ORDER BY key ASC LIMIT count`. -/
def seek (rows : List ρ) (position : Option K) (count : Nat) : List ρ :=
  (ordered key (rows.filter (isAfter key position))).take count

variable {key}

theorem ordered_perm (rows : List ρ) : (ordered key rows).Perm rows :=
  List.perm_insertionSort _ _

theorem ordered_pairwise (rows : List ρ) :
    (ordered key rows).Pairwise fun a b => key a ≤ key b := by
  have htrans : IsTrans ρ fun a b => key a ≤ key b := ⟨fun _ _ _ => le_trans⟩
  have htotal : Std.Total fun a b : ρ => key a ≤ key b := ⟨fun _ _ => le_total _ _⟩
  exact List.pairwise_insertionSort _ rows

/-- Distinct keys rise strictly. -/
theorem ordered_strict {rows : List ρ} (hkeys : (rows.map key).Nodup) :
    (ordered key rows).Pairwise fun a b => key a < key b := by
  have hnodup : ((ordered key rows).map key).Nodup :=
    ((ordered_perm rows).map key).nodup_iff.mpr hkeys
  have hne : (ordered key rows).Pairwise fun a b => key a ≠ key b :=
    List.pairwise_map.mp hnodup
  exact (ordered_pairwise rows).imp₂ (fun _ _ hle hne => lt_of_le_of_ne hle hne) hne

/-- Filtering and sorting may change places where the keys are distinct. -/
theorem ordered_filter {rows : List ρ} (hkeys : (rows.map key).Nodup) (p : ρ → Bool) :
    ordered key (rows.filter p) = (ordered key rows).filter p := by
  have hperm : (rows.filter p).Perm ((ordered key rows).filter p) :=
    (ordered_perm rows).symm.filter p
  have hsub : ((rows.filter p).map key).Nodup :=
    hkeys.sublist (List.filter_sublist.map key)
  refine (Ordering.insertionSort_eq_of_perm hperm hsub).trans ?_
  have htrans : IsTrans ρ fun a b => key a ≤ key b := ⟨fun _ _ _ => le_trans⟩
  have htotal : Std.Total fun a b : ρ => key a ≤ key b := ⟨fun _ _ => le_total _ _⟩
  exact List.Pairwise.insertionSort_eq
    ((ordered_pairwise rows).sublist List.filter_sublist)

/-- The position behind `front`: none at the start, else its last row. -/
def PositionAfter (key : ρ → K) (front : List ρ) (position : Option K) : Prop :=
  position = front.getLast?.map key

/-- **What a query returns after a position**: the rows that follow. -/
theorem seek_after {rows front back : List ρ} (hkeys : (rows.map key).Nodup)
    (hsplit : ordered key rows = front ++ back) {position : Option K}
    (hposition : PositionAfter key front position) (count : Nat) :
    seek key rows position count = back.take count := by
  have hstrict := ordered_strict hkeys
  rw [hsplit, List.pairwise_append] at hstrict
  rw [seek, ordered_filter hkeys, hsplit, List.filter_append]
  have hfront : front.filter (isAfter key position) = [] := by
    rw [List.filter_eq_nil_iff]
    intro row hrow hafter
    rw [hposition] at hafter
    cases hlast : front.getLast? with
    | none =>
        rw [List.getLast?_eq_none_iff] at hlast
        rw [hlast] at hrow
        cases hrow
    | some last =>
        rw [hlast] at hafter
        have hlt : key last < key row := by simpa [isAfter] using hafter
        obtain ⟨init, rfl⟩ := List.getLast?_eq_some_iff.mp hlast
        rcases List.mem_append.mp hrow with hrow | hrow
        · exact lt_asymm hlt
            ((List.pairwise_append.mp hstrict.1).2.2 row hrow last (by simp))
        · rw [List.mem_singleton.mp hrow] at hlt
          exact lt_irrefl _ hlt
  have hback : back.filter (isAfter key position) = back := by
    rw [List.filter_eq_self]
    intro row hrow
    rw [hposition]
    cases hlast : front.getLast? with
    | none => rfl
    | some last =>
        have hmem : last ∈ front := List.mem_of_getLast? hlast
        simpa [isAfter] using hstrict.2.2 last hmem row hrow
  rw [hfront, hback, List.nil_append]

end Seek

/-! ## Following positions -/

section Walk

variable {ρ C ε : Type}

/-- One read after another, each from where the last one ended: what they collect. -/
inductive Collects (fetch : Option C → Except ε (List ρ × Option C)) :
    Option C → List ρ → Prop where
  | last {cursor : Option C} {items : List ρ} :
      fetch cursor = .ok (items, none) → Collects fetch cursor items
  | more {cursor : Option C} {next : C} {items rest : List ρ} :
      fetch cursor = .ok (items, some next) → Collects fetch (some next) rest →
      Collects fetch cursor (items ++ rest)

/-- A fetch that serves a list of rows: from behind any part of it, the next rows, and a
cursor behind those as long as more follow. -/
def Serves (fetch : Option C → Except ε (List ρ × Option C)) (limit : Nat)
    (at' : List ρ → Option C → Prop) (rows : List ρ) : Prop :=
  ∀ front back cursor, rows = front ++ back → at' front cursor →
    (back.length ≤ limit ∧ fetch cursor = .ok (back, none)) ∨
    (limit < back.length ∧ ∃ next, fetch cursor = .ok (back.take limit, some next) ∧
      at' (front ++ back.take limit) (some next))

/-- **Nothing lost, nothing repeated**: following the cursors of a fetch that serves
some rows collects what is left of them.  The induction is on how much that is. -/
theorem collects_of_serves
    {fetch : Option C → Except ε (List ρ × Option C)} {limit : Nat} (hlimit : 1 ≤ limit)
    {at' : List ρ → Option C → Prop} {rows : List ρ} (h : Serves fetch limit at' rows) :
    ∀ (size : Nat) (front back : List ρ) (cursor : Option C), back.length ≤ size →
      rows = front ++ back → at' front cursor → Collects fetch cursor back := by
  intro size
  induction size with
  | zero =>
      intro front back cursor hsize hsplit hat
      rcases h front back cursor hsplit hat with ⟨-, hfetch⟩ | ⟨hmore, -⟩
      · exact .last hfetch
      · omega
  | succ size ih =>
      intro front back cursor hsize hsplit hat
      rcases h front back cursor hsplit hat with ⟨-, hfetch⟩ |
        ⟨hmore, next, hfetch, hnext⟩
      · exact .last hfetch
      · have hrest := ih (front ++ back.take limit) (back.drop limit) (some next)
          (by rw [List.length_drop]; omega)
          (by rw [List.append_assoc, List.take_append_drop]; exact hsplit) hnext
        have := Collects.more hfetch hrest
        rwa [List.take_append_drop] at this

end Walk

end ControlPlaneKit.Library.KeysetPages
