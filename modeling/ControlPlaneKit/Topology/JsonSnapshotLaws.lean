import ControlPlaneKit.Library.EventFold
import ControlPlaneKit.Topology.JsonSnapshot

/-!
# JsonSnapshotLaws — the walk against the encoder

What the walk returns has the width the encoder gives it, and a value that fits is
never refused: a member takes at least one byte, and the estimate for an integer is
off by one digit at most, which the brackets around it make up for.
-/

namespace ControlPlaneKit.Topology

open ControlPlaneKit.Library
open ControlPlaneKit.Library.AsciiJson
open ControlPlaneKit.Library.EventFold (bind_ok)

/-! ## What a value stands for -/

mutual

/-- The value as JSON, tuples as lists. -/
def HostValue.plain : HostValue → JsonDocument
  | .none => .null
  | .bool b => .bool b
  | .int n => .int n
  | .float x => .float x
  | .str points => .text points
  | .list _ items => .list (plainItems items)
  | .tuple _ items => .list (plainItems items)
  | .mapping _ entries => .object (plainEntries entries)
  | .nonFinite => .null
  | .unsupported => .null

def plainItems : List HostValue → List JsonDocument
  | [] => []
  | v :: vs => v.plain :: plainItems vs

def plainEntries : List (MappingKey × HostValue) → List (CodePoints × JsonDocument)
  | [] => []
  | (.str key, v) :: es => (key, v.plain) :: plainEntries es
  | (.other _, _) :: es => plainEntries es

end

mutual

/-- Built from null, booleans, printable integers, finite floats, texts, lists, tuples
and text-keyed objects, without a cycle and nested no deeper than allowed. -/
def HostValue.jsonShaped (active : List Nat) (depth : Nat) : HostValue → Bool
  | .int n => decide (depth ≤ maxProductMappingDepth) && PyValue.printable n
  | .list identity items => decide (depth ≤ maxProductMappingDepth) &&
      decide (identity ∉ active) &&
        jsonShapedItems (identity :: active) (depth + 1) items
  | .tuple identity items => decide (depth ≤ maxProductMappingDepth) &&
      decide (identity ∉ active) &&
        jsonShapedItems (identity :: active) (depth + 1) items
  | .mapping identity entries => decide (depth ≤ maxProductMappingDepth) &&
      decide (identity ∉ active) && decide ((plainEntries entries).map (·.1)).Nodup &&
        jsonShapedEntries (identity :: active) (depth + 1) entries
  | .nonFinite => false
  | .unsupported => false
  | _ => decide (depth ≤ maxProductMappingDepth)

def jsonShapedItems (active : List Nat) (depth : Nat) : List HostValue → Bool
  | [] => true
  | v :: vs => v.jsonShaped active depth && jsonShapedItems active depth vs

def jsonShapedEntries (active : List Nat) (depth : Nat) :
    List (MappingKey × HostValue) → Bool
  | [] => true
  | (.str _, v) :: es => v.jsonShaped active depth && jsonShapedEntries active depth es
  | (.other _, _) :: _ => false

end

/-- The width of a value's encoding. -/
def HostValue.width (value : HostValue) : Nat := (compact value.plain).length

mutual

/-- The members inside a value. -/
def HostValue.memberCount : HostValue → Nat
  | .list _ items => countItems items
  | .tuple _ items => countItems items
  | .mapping _ entries => countEntries entries
  | .none | .bool _ | .int _ | .float _ | .nonFinite | .str _ | .unsupported => 0

def countItems : List HostValue → Nat
  | [] => 0
  | v :: vs => 1 + v.memberCount + countItems vs

def countEntries : List (MappingKey × HostValue) → Nat
  | [] => 0
  | (.str _, v) :: es => 1 + v.memberCount + countEntries es
  | (.other _, _) :: es => countEntries es

end

/-! ## Widths -/

/-- The widths of items, without what is between them. -/
def itemsWidth (items : List HostValue) : Nat := (items.map HostValue.width).sum

/-- The widths of the members of an object, keys and colons included. -/
def entriesWidth : List (MappingKey × HostValue) → Nat
  | [] => 0
  | (.str key, v) :: es => jsonStringWidth key + 1 + v.width + entriesWidth es
  | (.other _, _) :: es => entriesWidth es

theorem pointWidth_eq (point : Fin 0x110000) :
    pointWidth point = (escapePoint point).length := by
  by_cases hspecial : point.val ∈ [34, 92, 8, 12, 10, 13, 9]
  · rw [pointWidth, if_pos hspecial]
    simp only [List.mem_cons, List.not_mem_nil, or_false] at hspecial
    rcases hspecial with h | h | h | h | h | h | h <;> simp [escapePoint, h]
  · rw [pointWidth, if_neg hspecial]
    simp only [List.mem_cons, List.not_mem_nil, or_false, not_or] at hspecial
    obtain ⟨hquote, hbackslash, hb, hf, hn, hr, ht⟩ := hspecial
    rw [escapePoint, if_neg hquote, if_neg hbackslash, if_neg hn, if_neg hr, if_neg ht,
      if_neg hb, if_neg hf]
    by_cases hplain : 32 ≤ point.val ∧ point.val ≤ 126
    · rw [if_pos hplain, if_neg (by omega), if_neg (by omega)]
      rfl
    · rw [if_neg hplain]
      by_cases hbasic : point.val < 0x10000
      · rw [if_pos hbasic, if_pos (by omega)]
        rfl
      · rw [if_neg hbasic, if_neg (by omega), if_pos (by omega)]
        rfl

theorem jsonStringWidth_eq (value : CodePoints) :
    jsonStringWidth value = (textCode value).length := by
  rw [jsonStringWidth, length_textCode]
  congr 2
  exact List.map_congr_left fun point _ => pointWidth_eq point

theorem length_plainItems (items : List HostValue) :
    (plainItems items).length = items.length := by
  induction items with
  | nil => rfl
  | cons v vs ih => simp [plainItems, ih]

theorem sum_compactItems (items : List HostValue) :
    ((compactItems (plainItems items)).map (·.length)).sum = itemsWidth items := by
  induction items with
  | nil => rfl
  | cons v vs ih =>
      rw [plainItems, compactItems, List.map_cons, List.sum_cons, ih, itemsWidth,
        itemsWidth, List.map_cons, List.sum_cons]
      rfl

theorem sum_compactEntries (entries : List (MappingKey × HostValue)) :
    ((compactEntries (plainEntries entries)).map (·.length)).sum =
      entriesWidth entries := by
  induction entries with
  | nil => rfl
  | cons e es ih =>
      obtain ⟨key, v⟩ := e
      cases key with
      | str key =>
          rw [plainEntries, compactEntries, List.map_cons, List.sum_cons, ih,
            entriesWidth, List.length_append, List.length_cons, ← jsonStringWidth_eq,
            HostValue.width]
          omega
      | other identity =>
          rw [plainEntries, ih, entriesWidth]

theorem width_list (identity : Nat) (items : List HostValue) :
    (HostValue.list identity items).width =
      2 + itemsWidth items + (items.length - 1) := by
  rw [HostValue.width, HostValue.plain, compact, length_bracketed, sum_compactItems,
    length_compactItems, length_plainItems]

theorem width_tuple (identity : Nat) (items : List HostValue) :
    (HostValue.tuple identity items).width = (HostValue.list identity items).width := by
  rw [HostValue.width, HostValue.width, HostValue.plain, HostValue.plain]

theorem width_mapping (identity : Nat) (entries : List (MappingKey × HostValue)) :
    (HostValue.mapping identity entries).width =
      2 + entriesWidth entries + ((plainEntries entries).length - 1) := by
  rw [HostValue.width, HostValue.plain, compact, length_bracketed, sum_compactEntries,
    length_compactEntries]

theorem width_pos (value : HostValue) : 0 < value.width := compact_pos _

mutual

/-- **A member takes at least a byte**, and the value around it one more. -/
theorem memberCount_lt : ∀ value : HostValue, value.memberCount < value.width
  | .none => by rw [HostValue.memberCount]; exact width_pos _
  | .bool b => by rw [HostValue.memberCount]; exact width_pos _
  | .int n => by rw [HostValue.memberCount]; exact width_pos _
  | .float x => by rw [HostValue.memberCount]; exact width_pos _
  | .nonFinite => by rw [HostValue.memberCount]; exact width_pos _
  | .str points => by rw [HostValue.memberCount]; exact width_pos _
  | .unsupported => by rw [HostValue.memberCount]; exact width_pos _
  | .list identity items => by
      have := countItems_le items
      rw [HostValue.memberCount, width_list]
      omega
  | .tuple identity items => by
      have := countItems_le items
      rw [HostValue.memberCount, width_tuple, width_list]
      omega
  | .mapping identity entries => by
      have := countEntries_le entries
      rw [HostValue.memberCount, width_mapping]
      omega

/-- Items have no more members than characters. -/
theorem countItems_le : ∀ items : List HostValue, countItems items ≤ itemsWidth items
  | [] => by simp [countItems]
  | v :: vs => by
      have hv := memberCount_lt v
      have hvs := countItems_le vs
      rw [countItems]
      simp only [itemsWidth, List.map_cons, List.sum_cons] at hvs ⊢
      omega

/-- Nor have entries. -/
theorem countEntries_le : ∀ entries : List (MappingKey × HostValue),
    countEntries entries ≤ entriesWidth entries
  | [] => by simp [countEntries]
  | (.str key, v) :: es => by
      have hv := memberCount_lt v
      have hes := countEntries_le es
      rw [countEntries, entriesWidth]
      omega
  | (.other _, _) :: es => by
      have hes := countEntries_le es
      rw [countEntries, entriesWidth]
      exact hes

end

/-- The commas before the members that are left. -/
def commas {α β : Type} (snapshot : List α) (left : List β) : Nat :=
  if snapshot.isEmpty then left.length - 1 else left.length

/-- The separators of the rest, once a child is taken. -/
theorem commas_cons {α β : Type} (snapshot : List α) (child : α) (item : β)
    (left : List β) : commas snapshot (item :: left) =
      separatorWidth snapshot + commas (snapshot ++ [child]) left := by
  have hmore : (snapshot ++ [child]).isEmpty = false := by simp
  rw [commas, commas, hmore, separatorWidth, List.length_cons]
  cases snapshot.isEmpty
  · simp [Nat.add_comm]
  · simp

/-! ## What is returned is right -/

/-- A width passes when it is within what remains. -/
theorem requireJsonWidth_eq_ok {width width' : Nat} {remaining : Int} :
    requireJsonWidth width remaining = .ok width' ↔
      width' = width ∧ (width : Int) ≤ remaining := by
  unfold requireJsonWidth
  split
  · simp
    omega
  · simp only [Except.ok.injEq]
    constructor
    · rintro rfl
      exact ⟨rfl, by omega⟩
    · exact fun h => h.1.symm

/-- A walk closes when what it used is within what remained. -/
theorem closeWalk_eq_ok {α : Type} {build : List α → JsonDocument} {remaining : Int}
    {walk : Walk α} {document : JsonDocument} {width members : Nat} :
    closeWalk build remaining walk = .ok (document, width, members) ↔
      document = build walk.snapshot ∧ width = walk.used ∧ members = walk.members ∧
        (walk.used : Int) ≤ remaining := by
  rw [closeWalk, Outcome.map_eq_ok]
  constructor
  · rintro ⟨width', hwidth, heq⟩
    obtain ⟨rfl, hle⟩ := requireJsonWidth_eq_ok.mp hwidth
    cases heq
    exact ⟨rfl, rfl, rfl, hle⟩
  · rintro ⟨rfl, rfl, rfl, hle⟩
    exact ⟨_, requireJsonWidth_eq_ok.mpr ⟨rfl, hle⟩, rfl⟩

section Walking

variable {limit : Int}

mutual

/-- **Soundness.** A copy is the value as JSON, and the width is that of its
encoding. -/
theorem snapshot_sound :
    ∀ (value : HostValue) {remaining : Int} {depth : Nat} {active : List Nat}
    {members width members' : Nat} {document : JsonDocument},
    boundedJsonSnapshot limit value remaining depth active members =
      .ok (document, width, members') →
    document = value.plain ∧ width = value.width ∧ (width : Int) ≤ remaining
  | value, remaining, depth, active, members, width, members', document, h => by
      unfold boundedJsonSnapshot at h
      split at h
      · cases h
      · cases value with
        | none =>
            obtain ⟨width', hwidth, heq⟩ := Outcome.map_eq_ok.mp h
            obtain ⟨rfl, hle⟩ := requireJsonWidth_eq_ok.mp hwidth
            cases heq
            exact ⟨rfl, rfl, hle⟩
        | bool b =>
            obtain ⟨width', hwidth, heq⟩ := Outcome.map_eq_ok.mp h
            obtain ⟨rfl, hle⟩ := requireJsonWidth_eq_ok.mp hwidth
            cases heq
            exact ⟨rfl, by cases b <;> rfl, hle⟩
        | int n =>
            obtain ⟨width', hwidth, heq⟩ := Outcome.map_eq_ok.mp h
            cases heq
            unfold snapshotInt at hwidth
            split at hwidth
            · cases hwidth
            · obtain ⟨digits, hdigits, hwidth⟩ := EventFold.bind_ok.mp hwidth
              obtain ⟨rfl, hle⟩ := requireJsonWidth_eq_ok.mp hwidth
              unfold intWidth at hdigits
              split at hdigits
              · cases hdigits
                exact ⟨rfl, rfl, hle⟩
              · cases hdigits
        | float x =>
            obtain ⟨width', hwidth, heq⟩ := Outcome.map_eq_ok.mp h
            obtain ⟨rfl, hle⟩ := requireJsonWidth_eq_ok.mp hwidth
            cases heq
            exact ⟨rfl, rfl, hle⟩
        | nonFinite => cases h
        | str points =>
            obtain ⟨width', hwidth, heq⟩ := Outcome.map_eq_ok.mp h
            obtain ⟨rfl, hle⟩ := requireJsonWidth_eq_ok.mp hwidth
            cases heq
            exact ⟨rfl, jsonStringWidth_eq points, hle⟩
        | list identity items =>
            dsimp only at h
            split at h
            · cases h
            · obtain ⟨walk, hwalk, hclose⟩ := EventFold.bind_ok.mp h
              obtain ⟨rfl, rfl, -, hle⟩ := closeWalk_eq_ok.mp hclose
              obtain ⟨hsnapshot, hused⟩ := snapshotItems_sound items hwalk
              refine ⟨by rw [hsnapshot]; rfl, ?_, hle⟩
              rw [hused, width_list]
              rfl
        | tuple identity items =>
            dsimp only at h
            split at h
            · cases h
            · obtain ⟨walk, hwalk, hclose⟩ := EventFold.bind_ok.mp h
              obtain ⟨rfl, rfl, -, hle⟩ := closeWalk_eq_ok.mp hclose
              obtain ⟨hsnapshot, hused⟩ := snapshotItems_sound items hwalk
              refine ⟨by rw [hsnapshot]; rfl, ?_, hle⟩
              rw [hused, width_tuple, width_list]
              rfl
        | mapping identity entries =>
            dsimp only at h
            split at h
            · cases h
            · obtain ⟨walk, hwalk, hclose⟩ := EventFold.bind_ok.mp h
              obtain ⟨rfl, rfl, -, hle⟩ := closeWalk_eq_ok.mp hclose
              obtain ⟨hsnapshot, hused⟩ := snapshotEntries_sound entries hwalk
              refine ⟨by rw [hsnapshot]; rfl, ?_, hle⟩
              rw [hused, width_mapping]
              rfl
        | unsupported => cases h

/-- **A walk through items** copies them and counts their width; by induction on the
items. -/
theorem snapshotItems_sound : ∀ (items : List HostValue) {remaining : Int} {depth : Nat}
    {active : List Nat} {walk walk' : Walk JsonDocument},
    snapshotItems limit items remaining depth active walk = .ok walk' →
    walk'.snapshot = walk.snapshot ++ plainItems items ∧
      walk'.used = walk.used + itemsWidth items + commas walk.snapshot items
  | [], remaining, depth, active, walk, walk', h => by
      unfold snapshotItems at h
      cases h
      simp [plainItems, itemsWidth, commas]
  | item :: rest, remaining, depth, active, walk, walk', h => by
      unfold snapshotItems at h
      dsimp only at h
      split at h
      · cases h
      · split at h
        · cases h
        · obtain ⟨⟨child, childWidth, members⟩, hchild, hrest⟩ := EventFold.bind_ok.mp h
          obtain ⟨rfl, rfl, -⟩ := snapshot_sound item hchild
          obtain ⟨hsnapshot, hused⟩ := snapshotItems_sound rest hrest
          refine ⟨by rw [hsnapshot, plainItems]; simp, ?_⟩
          rw [hused, commas_cons walk.snapshot item.plain]
          simp only [itemsWidth, List.map_cons, List.sum_cons]
          omega

/-- **A walk through entries** does as well. -/
theorem snapshotEntries_sound :
    ∀ (entries : List (MappingKey × HostValue)) {remaining : Int}
    {depth : Nat} {active : List Nat} {walk walk' : Walk (CodePoints × JsonDocument)},
    snapshotEntries limit entries remaining depth active walk = .ok walk' →
    walk'.snapshot = walk.snapshot ++ plainEntries entries ∧
      walk'.used = walk.used + entriesWidth entries +
        commas walk.snapshot (plainEntries entries)
  | [], remaining, depth, active, walk, walk', h => by
      unfold snapshotEntries at h
      cases h
      simp [plainEntries, entriesWidth, commas]
  | (.other identity, value) :: rest, remaining, depth, active, walk, walk', h => by
      unfold snapshotEntries at h
      cases h
  | (.str key, value) :: rest, remaining, depth, active, walk, walk', h => by
      unfold snapshotEntries at h
      dsimp only at h
      split at h
      · cases h
      · split at h
        · cases h
        · obtain ⟨⟨child, childWidth, members⟩, hchild, hrest⟩ := EventFold.bind_ok.mp h
          obtain ⟨rfl, rfl, -⟩ := snapshot_sound value hchild
          obtain ⟨hsnapshot, hused⟩ := snapshotEntries_sound rest hrest
          refine ⟨by rw [hsnapshot, plainEntries]; simp, ?_⟩
          rw [hused, plainEntries,
            commas_cons walk.snapshot (key, value.plain), entriesWidth]
          dsimp only
          omega

end

/-! ## What fits is copied -/

/-- What is JSON-shaped is no deeper than allowed. -/
theorem depth_le_of_jsonShaped {value : HostValue} {active : List Nat} {depth : Nat}
    (h : value.jsonShaped active depth = true) : depth ≤ maxProductMappingDepth := by
  cases value <;>
    simp only [HostValue.jsonShaped, Bool.and_eq_true, decide_eq_true_eq,
      Bool.false_eq_true] at h
  all_goals tauto

theorem requireJsonWidth_of_le {width : Nat} {remaining : Int}
    (h : (width : Int) ≤ remaining) : requireJsonWidth width remaining = .ok width :=
  requireJsonWidth_eq_ok.mpr ⟨rfl, h⟩

/-- The guard in front of every value: something is left, and it is not too deep. -/
theorem not_exceeded {value : HostValue} {active : List Nat} {depth : Nat}
    {remaining : Int} (h : value.jsonShaped active depth = true)
    (hfits : (value.width : Int) ≤ remaining) :
    ¬ (remaining < 1 ∨ maxProductMappingDepth < depth) := by
  have hdepth := depth_le_of_jsonShaped h
  have hpos := width_pos value
  omega

/-- How far the estimate for a value may exceed its width. -/
def HostValue.slack : HostValue → Nat
  | .int _ => 1
  | _ => 0

/-- The estimate is at most one character too wide. -/
theorem slack_le (value : HostValue) : value.slack ≤ 1 := by
  cases value <;> simp [HostValue.slack]

mutual

/-- **Completeness.** A JSON-shaped value that fits is copied. -/
theorem snapshot_complete : ∀ (value : HostValue) {remaining : Int} {depth : Nat}
    {active : List Nat} {members : Nat}, value.jsonShaped active depth = true →
    (value.width : Int) ≤ remaining → (value.width : Int) + value.slack ≤ limit →
    (members : Int) + value.memberCount ≤ limit →
    boundedJsonSnapshot limit value remaining depth active members =
      .ok (value.plain, value.width, members + value.memberCount)
  | value, remaining, depth, active, members, hshaped, hfits, hlimit, hmembers => by
      unfold boundedJsonSnapshot
      rw [if_neg (not_exceeded hshaped hfits)]
      cases value with
      | none => exact Outcome.map_eq_ok.mpr ⟨_, requireJsonWidth_of_le hfits, rfl⟩
      | bool b =>
          refine Outcome.map_eq_ok.mpr ⟨_, requireJsonWidth_eq_ok.mpr ⟨rfl, ?_⟩, ?_⟩
          · cases b <;> exact hfits
          · cases b <;> rfl
      | int n =>
          rw [HostValue.jsonShaped, Bool.and_eq_true] at hshaped
          have hbound := digitBound_le hshaped.2
          have hwidth : (HostValue.int n).width = (PyValue.intText n).length := rfl
          have hslack : (HostValue.int n).slack = 1 := rfl
          refine Outcome.map_eq_ok.mpr ⟨(PyValue.intText n).length, ?_, rfl⟩
          rw [snapshotInt, if_neg (by omega), intWidth, if_pos hshaped.2,
            Outcome.ok_bind]
          exact requireJsonWidth_of_le hfits
      | float x => exact Outcome.map_eq_ok.mpr ⟨_, requireJsonWidth_of_le hfits, rfl⟩
      | nonFinite => cases hshaped
      | str points =>
          have hwidth : jsonStringWidth points = (HostValue.str points).width :=
            jsonStringWidth_eq points
          refine Outcome.map_eq_ok.mpr ⟨_, requireJsonWidth_of_le (hwidth ▸ hfits), ?_⟩
          rw [hwidth]
          rfl
      | list identity items =>
          simp only [HostValue.jsonShaped, Bool.and_eq_true,
            decide_eq_true_eq] at hshaped
          rw [width_list] at hfits hlimit
          rw [HostValue.memberCount] at hmembers
          dsimp only
          rw [if_neg (by rintro (hin | hin); exacts [hshaped.1.2 hin, by omega]),
            snapshotItems_complete items hshaped.2 (by simp [commas]; omega)
              (by omega) hmembers,
            Outcome.ok_bind, closeWalk_eq_ok]
          refine ⟨rfl, ?_, rfl, ?_⟩
          · rw [width_list]
            rfl
          · simp [commas]
            omega
      | tuple identity items =>
          simp only [HostValue.jsonShaped, Bool.and_eq_true,
            decide_eq_true_eq] at hshaped
          rw [width_tuple, width_list] at hfits hlimit
          rw [HostValue.memberCount] at hmembers
          dsimp only
          rw [if_neg (by rintro (hin | hin); exacts [hshaped.1.2 hin, by omega]),
            snapshotItems_complete items hshaped.2 (by simp [commas]; omega)
              (by omega) hmembers,
            Outcome.ok_bind, closeWalk_eq_ok]
          refine ⟨rfl, ?_, rfl, ?_⟩
          · rw [width_tuple, width_list]
            rfl
          · simp [commas]
            omega
      | mapping identity entries =>
          simp only [HostValue.jsonShaped, Bool.and_eq_true,
            decide_eq_true_eq] at hshaped
          rw [width_mapping] at hfits hlimit
          rw [HostValue.memberCount] at hmembers
          dsimp only
          rw [if_neg (by rintro (hin | hin); exacts [hshaped.1.1.2 hin, by omega]),
            snapshotEntries_complete entries hshaped.2 (by simpa using hshaped.1.2)
              (by simp [commas]; omega) (by omega) hmembers,
            Outcome.ok_bind, closeWalk_eq_ok]
          refine ⟨rfl, ?_, rfl, ?_⟩
          · rw [width_mapping]
            rfl
          · simp [commas]
            omega
      | unsupported => cases hshaped

/-- **What fits is walked through**, item by item. -/
theorem snapshotItems_complete :
    ∀ (items : List HostValue) {remaining : Int} {depth : Nat}
    {active : List Nat} {walk : Walk JsonDocument},
    jsonShapedItems active (depth + 1) items = true →
    (walk.used : Int) + itemsWidth items + commas walk.snapshot items ≤ remaining →
    (itemsWidth items : Int) + 1 ≤ limit →
    (walk.members : Int) + countItems items ≤ limit →
    snapshotItems limit items remaining depth active walk =
      .ok ⟨walk.snapshot ++ plainItems items,
        walk.used + itemsWidth items + commas walk.snapshot items,
        walk.members + countItems items⟩
  | [], remaining, depth, active, walk, hshaped, hfits, hlimit, hmembers => by
      unfold snapshotItems
      simp [plainItems, itemsWidth, commas, countItems]
  | item :: rest, remaining, depth, active, walk, hshaped, hfits, hlimit, hmembers => by
      rw [jsonShapedItems, Bool.and_eq_true] at hshaped
      have hwidth : itemsWidth (item :: rest) = item.width + itemsWidth rest := by
        simp [itemsWidth]
      have hpos := width_pos item
      have hslack := slack_le item
      rw [commas_cons walk.snapshot item.plain, hwidth] at hfits
      rw [hwidth] at hlimit
      rw [countItems] at hmembers
      unfold snapshotItems
      dsimp only
      rw [if_neg (by omega), if_neg (by omega),
        snapshot_complete item hshaped.1 (by omega) (by omega) (by omega),
        Outcome.ok_bind]
      dsimp only
      rw [snapshotItems_complete rest hshaped.2 (by dsimp only; omega) (by omega)
        (by dsimp only; omega)]
      refine congrArg Except.ok ?_
      rw [plainItems, countItems, hwidth, commas_cons walk.snapshot item.plain]
      simp only [List.append_assoc, List.singleton_append, Walk.mk.injEq, true_and]
      omega

/-- **What fits is walked through**, entry by entry. -/
theorem snapshotEntries_complete :
    ∀ (entries : List (MappingKey × HostValue)) {remaining : Int}
    {depth : Nat} {active : List Nat} {walk : Walk (CodePoints × JsonDocument)},
    jsonShapedEntries active (depth + 1) entries = true →
    ((walk.snapshot ++ plainEntries entries).map (·.1)).Nodup →
    (walk.used : Int) + entriesWidth entries +
      commas walk.snapshot (plainEntries entries) ≤
      remaining →
    (entriesWidth entries : Int) + 1 ≤ limit →
    (walk.members : Int) + countEntries entries ≤ limit →
    snapshotEntries limit entries remaining depth active walk =
      .ok ⟨walk.snapshot ++ plainEntries entries,
        walk.used + entriesWidth entries + commas walk.snapshot (plainEntries entries),
        walk.members + countEntries entries⟩
  | [], remaining, depth, active, walk, hshaped, hkeys, hfits, hlimit, hmembers => by
      unfold snapshotEntries
      simp [plainEntries, entriesWidth, commas, countEntries]
  | (.other identity, value) :: rest, remaining, depth, active, walk, hshaped, hkeys,
      hfits, hlimit, hmembers => by
      cases hshaped
  | (.str key, value) :: rest, remaining, depth, active, walk, hshaped, hkeys,
      hfits, hlimit, hmembers => by
      rw [jsonShapedEntries, Bool.and_eq_true] at hshaped
      have hpos := width_pos value
      have hslack := slack_le value
      rw [plainEntries] at hkeys hfits
      rw [commas_cons walk.snapshot (key, value.plain), entriesWidth] at hfits
      rw [entriesWidth] at hlimit
      rw [countEntries] at hmembers
      have hfresh : key ∉ walk.snapshot.map (·.1) := by
        rw [List.map_append, List.map_cons] at hkeys
        exact fun hmem =>
          (List.nodup_append.mp hkeys).2.2 key hmem key (List.mem_cons_self ..) rfl
      unfold snapshotEntries
      dsimp only
      rw [if_neg (by rintro (hover | hin); exacts [by omega, hfresh hin]),
        if_neg (by omega), snapshot_complete value hshaped.1 (by omega) (by omega)
          (by omega), Outcome.ok_bind]
      dsimp only
      rw [snapshotEntries_complete rest hshaped.2 (by simpa using hkeys)
        (by dsimp only; omega)
        (by omega) (by dsimp only; omega)]
      refine congrArg Except.ok ?_
      rw [plainEntries, countEntries, entriesWidth,
        commas_cons walk.snapshot (key, value.plain)]
      simp only [List.append_assoc, List.singleton_append, Walk.mk.injEq, true_and]
      omega

end

end Walking

/-! ## The whole snapshot -/

mutual

/-- What is JSON-shaped can be encoded. -/
theorem isPrintable_of_jsonShaped :
    ∀ (value : HostValue) {active : List Nat} {depth : Nat},
    value.jsonShaped active depth = true → isPrintable value.plain = true
  | .none, _, _, _ | .bool _, _, _, _ | .float _, _, _, _ | .str _, _, _, _ => by
      simp [HostValue.plain, isPrintable]
  | .int n, _, _, h => by
      rw [HostValue.jsonShaped, Bool.and_eq_true] at h
      rw [HostValue.plain, isPrintable]
      exact h.2
  | .nonFinite, _, _, h | .unsupported, _, _, h => by cases h
  | .list _ items, _, _, h | .tuple _ items, _, _, h => by
      rw [HostValue.jsonShaped, Bool.and_eq_true] at h
      rw [HostValue.plain, isPrintable]
      exact isPrintable_of_jsonShapedItems items h.2
  | .mapping _ entries, _, _, h => by
      rw [HostValue.jsonShaped, Bool.and_eq_true] at h
      rw [HostValue.plain, isPrintable]
      exact isPrintable_of_jsonShapedEntries entries h.2

theorem isPrintable_of_jsonShapedItems : ∀ (items : List HostValue) {active : List Nat}
    {depth : Nat}, jsonShapedItems active depth items = true →
    isPrintableItems (plainItems items) = true
  | [], _, _, _ => rfl
  | v :: vs, _, _, h => by
      rw [jsonShapedItems, Bool.and_eq_true] at h
      rw [plainItems, isPrintableItems, isPrintable_of_jsonShaped v h.1,
        isPrintable_of_jsonShapedItems vs h.2]
      rfl

theorem isPrintable_of_jsonShapedEntries : ∀ (entries : List (MappingKey × HostValue))
    {active : List Nat} {depth : Nat}, jsonShapedEntries active depth entries = true →
    isPrintableEntries (plainEntries entries) = true
  | [], _, _, _ => rfl
  | (.str _, v) :: es, _, _, h => by
      rw [jsonShapedEntries, Bool.and_eq_true] at h
      rw [plainEntries, isPrintableEntries, isPrintable_of_jsonShaped v h.1,
        isPrintable_of_jsonShapedEntries es h.2]
      rfl
  | (.other _, _) :: _, _, _, h => by cases h

end

/-- The bytes of a JSON-shaped value are as many as its width. -/
theorem encoded_plain {value : HostValue} {active : List Nat} {depth : Nat}
    (h : value.jsonShaped active depth = true) :
    ∃ bytes, encoded value.plain = .ok bytes ∧ bytes.length = value.width := by
  refine ⟨Text.utf8 (compact value.plain), ?_, length_utf8_of_ascii (compact_ascii _)⟩
  rw [encoded, if_pos (isPrintable_of_jsonShaped value h)]

/-- **The snapshot agrees with the encoder.**  A JSON-shaped mapping is accepted exactly
when its encoding has no more bytes than allowed; then the snapshot is the value as
JSON, and the width the walk added up is the number of those bytes. -/
theorem snapshot_agrees (maxBytes : Int) (identity : Nat)
    (entries : List (MappingKey × HostValue))
    (h : (HostValue.mapping identity entries).jsonShaped [] 0 = true) :
    ∃ bytes, encoded (HostValue.mapping identity entries).plain = .ok bytes ∧
      ((∃ snapshot, boundedMappingSnapshot maxBytes (.mapping identity entries) =
        .ok snapshot) ↔
        (bytes.length : Int) ≤ maxBytes) ∧
      ∀ snapshot, boundedMappingSnapshot maxBytes (.mapping identity entries) =
        .ok snapshot →
        snapshot = (HostValue.mapping identity entries).plain ∧
          ∃ members, boundedJsonSnapshot maxBytes (.mapping identity entries) maxBytes 0
            [] 0 =
            .ok (snapshot, bytes.length, members) := by
  obtain ⟨bytes, hbytes, hlength⟩ := encoded_plain h
  refine ⟨bytes, hbytes, ?_⟩
  have hplain : (HostValue.mapping identity entries).plain =
    .object (plainEntries entries) := rfl
  cases hwalk : boundedJsonSnapshot maxBytes
      (.mapping identity entries) maxBytes 0 [] 0 with
  | error error =>
      have hrefused : ∀ snapshot,
          boundedMappingSnapshot maxBytes (.mapping identity entries) ≠
            .ok snapshot := by
        intro snapshot hok
        rw [boundedMappingSnapshot, hwalk] at hok
        cases hok
      refine ⟨⟨fun ⟨snapshot, hok⟩ => absurd hok (hrefused snapshot), fun hfits => ?_⟩,
        fun snapshot hok => absurd hok (hrefused snapshot)⟩
      have hmembers := memberCount_lt (.mapping identity entries)
      have hslack : (HostValue.mapping identity entries).slack = 0 := rfl
      rw [snapshot_complete (.mapping identity entries) h (by omega) (by omega)
        (by push_cast; omega)] at hwalk
      cases hwalk
  | ok result =>
      obtain ⟨document, width, members⟩ := result
      obtain ⟨rfl, rfl, hfits⟩ := snapshot_sound _ hwalk
      have haccepted : boundedMappingSnapshot maxBytes (.mapping identity entries) =
          .ok (HostValue.mapping identity entries).plain := by
        rw [boundedMappingSnapshot, hwalk, hplain]
        dsimp only
        rw [← hplain, hbytes]
        exact if_pos hlength
      refine ⟨⟨fun _ => hlength ▸ hfits, fun _ => ⟨_, haccepted⟩⟩,
        fun snapshot hok => ?_⟩
      obtain rfl := Except.ok.inj (haccepted.symm.trans hok)
      exact ⟨rfl, members, by rw [hlength]⟩

/-- A tuple in a mapping, at the exact width of its encoding. -/
theorem snapshot_agrees_tuple :
    ∃ bytes,
      encoded (HostValue.mapping 1 [(.str [97], .tuple 2 [.none, .int 8])]).plain =
        .ok bytes ∧
      ((∃ snapshot, boundedMappingSnapshot 14
          (.mapping 1 [(.str [97], .tuple 2 [.none, .int 8])]) = .ok snapshot) ↔
        (bytes.length : Int) ≤ 14) ∧
      ∀ snapshot,
        boundedMappingSnapshot 14 (.mapping 1 [(.str [97], .tuple 2 [.none, .int 8])]) =
          .ok snapshot →
        snapshot = (HostValue.mapping 1 [(.str [97], .tuple 2 [.none, .int 8])]).plain ∧
          ∃ members,
            boundedJsonSnapshot 14 (.mapping 1 [(.str [97], .tuple 2 [.none, .int 8])])
            14 0 [] 0 = .ok (snapshot, bytes.length, members) :=
  snapshot_agrees 14 1 [(.str [97], .tuple 2 [.none, .int 8])] (by
    have hprintable : PyValue.printable 8 = true := by
      unfold PyValue.printable
      exact decide_eq_true (Nat.lt_of_lt_of_le (by decide : (8 : Int).natAbs < 10 ^ 1)
        (Nat.pow_le_pow_right (by decide) (by decide)))
    simp [HostValue.jsonShaped, jsonShapedEntries, jsonShapedItems, hprintable,
      plainEntries, maxProductMappingDepth])

end ControlPlaneKit.Topology
