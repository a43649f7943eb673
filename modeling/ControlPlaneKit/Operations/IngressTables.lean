import ControlPlaneKit.Library.Outcome
import ControlPlaneKit.Operations.IngressResources

/-!
# IngressTables — the rows of one ingress

The rows of an ingress are numbered from one, and all but the newest are removed.
So the store's lookups by status see at most the newest row, a new row takes the
next number, and a mark changes the newest row and no other.

## Main results

* `recordCloudflare_spec` — a recorded resource is the newest row.
* `markRemoving_spec`, `markRemoved_spec`, `markUncertain_spec` — what a mark makes of
  the newest row.
-/

namespace ControlPlaneKit.Operations

open ControlPlaneKit.Library.EventFold (bind_ok)
open ControlPlaneKit.Topology

namespace IngressResourceStore

/-- The rows of one ingress: numbered from one, and all but the newest removed. -/
structure Numbered (rows : List CloudflareOwnedIngressResource) : Prop where
  epochs : rows.map (·.epoch) = List.range' 1 rows.length
  removed : ∀ row ∈ rows.dropLast, row.status = .removed

variable {rows after : List CloudflareOwnedIngressResource} {key other : IngressKey}
  {row resource updated : CloudflareOwnedIngressResource}
  {statuses : List OwnedIngressResourceStatus}

theorem mem_rowsOf : row ∈ rowsOf rows key ↔ row ∈ rows ∧ row.key = key := by
  simp [rowsOf]

theorem mem_rowsOf_key : row ∈ rows ↔ row ∈ rowsOf rows row.key := by
  simp [mem_rowsOf]

theorem rowsOf_concat (rows : List CloudflareOwnedIngressResource)
    (row : CloudflareOwnedIngressResource) (key : IngressKey) :
    rowsOf (rows ++ [row]) key = if row.key = key then rowsOf rows key ++ [row]
      else rowsOf rows key := by
  by_cases h : row.key = key <;> simp [rowsOf, List.filter_append, h]

/-! ## Numbered rows -/

theorem numbered_nil : Numbered [] := ⟨rfl, by simp⟩

theorem Numbered.concat (h : Numbered rows)
    (hremoved : ∀ row ∈ rows, row.status = .removed)
    (hepoch : row.epoch = rows.length + 1) : Numbered (rows ++ [row]) where
  epochs := by
    rw [List.map_append, h.epochs, List.length_append, List.length_singleton,
      List.range'_concat]
    simp [hepoch, Nat.add_comm]
  removed := by
    rw [List.dropLast_concat]
    exact hremoved

/-- The newest row may change, but for its number. -/
theorem Numbered.replaceLast {closed : List CloudflareOwnedIngressResource}
    (h : Numbered (closed ++ [row])) (hepoch : updated.epoch = row.epoch) :
    Numbered (closed ++ [updated]) where
  epochs := by
    have hbefore := h.epochs
    rw [List.map_append, List.length_append] at hbefore ⊢
    rwa [List.map_singleton, hepoch]
  removed := by
    have hbefore := h.removed
    rwa [List.dropLast_concat] at hbefore ⊢

theorem Numbered.epochs_nodup (h : Numbered rows) : (rows.map (·.epoch)).Nodup :=
  h.epochs ▸ List.nodup_range'

/-- All rows are removed, or all but the newest. -/
theorem Numbered.cases (h : Numbered rows) :
    (∀ row ∈ rows, row.status = .removed) ∨
      ∃ closed row, rows = closed ++ [row] ∧ row.status ≠ .removed ∧
        ∀ earlier ∈ closed, earlier.status = .removed := by
  rcases List.eq_nil_or_concat rows with rfl | ⟨closed, row, rfl⟩
  · exact .inl (by simp)
  · have hclosed := h.removed
    rw [List.concat_eq_append, List.dropLast_concat] at hclosed
    by_cases hrow : row.status = .removed
    · refine .inl fun other hother => ?_
      rcases List.mem_append.mp (List.concat_eq_append ▸ hother) with hmem | hmem
      · exact hclosed other hmem
      · rw [List.mem_singleton.mp hmem, hrow]
    · exact .inr ⟨closed, row, List.concat_eq_append, hrow, hclosed⟩

/-! ## Reading -/

/-- **What a lookup sees**: the newest row, where it stands in one of the statuses. -/
theorem getCloudflareByStatus_eq_some (h : Numbered (rowsOf rows key))
    (hstatuses : .removed ∉ statuses)
    (hrow : getCloudflareByStatus rows key statuses = some row) :
    row.status ∈ statuses ∧ ∃ closed, rowsOf rows key = closed ++ [row] ∧
      ∀ earlier ∈ closed, earlier.status = .removed := by
  have hmem := List.argmax_mem (Option.mem_def.mpr hrow)
  obtain ⟨hrows, hstatus⟩ := List.mem_filter.mp hmem
  have hin : row.status ∈ statuses := by simpa using hstatus
  refine ⟨hin, ?_⟩
  rcases h.cases with hremoved | ⟨closed, newest, hsplit, -, hclosed⟩
  · exact absurd (hremoved row hrows ▸ hin) hstatuses
  · rw [hsplit] at hrows
    rcases List.mem_append.mp hrows with hearlier | hnewest
    · exact absurd (hclosed row hearlier ▸ hin) hstatuses
    · rw [List.mem_singleton.mp hnewest]
      exact ⟨closed, hsplit, hclosed⟩

theorem getCloudflareByStatus_eq_none
    (hrow : getCloudflareByStatus rows key statuses = none) :
    ∀ row ∈ rowsOf rows key, row.status ∉ statuses := by
  intro row hmem hin
  have hnil := List.argmax_eq_none.mp hrow
  exact absurd (List.mem_filter.mpr ⟨hmem, by simpa using hin⟩)
    (hnil ▸ List.not_mem_nil)

/-- The newest row is seen. -/
theorem getCloudflareByStatus_newest {closed : List CloudflareOwnedIngressResource}
    (hsplit : rowsOf rows key = closed ++ [row])
    (hclosed : ∀ earlier ∈ closed, earlier.status = .removed)
    (hstatuses : .removed ∉ statuses) (hin : row.status ∈ statuses) :
    getCloudflareByStatus rows key statuses = some row := by
  have hnone : closed.filter (fun row => statuses.contains row.status) = [] := by
    refine List.filter_eq_nil_iff.mpr fun earlier hearlier => ?_
    rw [hclosed earlier hearlier]
    simpa using hstatuses
  rw [getCloudflareByStatus, hsplit, List.filter_append, hnone]
  simp [hin]

theorem removed_not_blocking :
    OwnedIngressResourceStatus.removed ∉ blockingStatuses := by decide

theorem getBlockingCloudflare_eq_none (hrow : getBlockingCloudflare rows key = none) :
    ∀ row ∈ rowsOf rows key, row.status = .removed := fun row hmem =>
  not_not.mp (mem_blockingStatuses.not.mp (getCloudflareByStatus_eq_none hrow row hmem))

theorem foldl_max_range' (count first : Nat) :
    (List.range' (first + 1) count).foldl max first = first + count := by
  induction count generalizing first with
  | zero => rfl
  | succ count ih =>
      rw [List.range'_succ, List.foldl_cons, Nat.max_eq_right (Nat.le_succ _), ih]
      omega

theorem Numbered.nextEpoch (h : Numbered (rowsOf rows key)) :
    nextCloudflareEpoch rows key = (rowsOf rows key).length + 1 := by
  rw [nextCloudflareEpoch, h.epochs]
  cases hlength : (rowsOf rows key).length with
  | zero => rfl
  | succ count =>
      rw [List.range'_succ, List.max?_cons', foldl_max_range']
      simp [Nat.add_comm]

/-! ## Writing -/

/-- **Recording**: the row that already holds the resource, or a new newest row. -/
theorem recordCloudflare_spec (h : Numbered (rowsOf rows resource.key))
    (hrecord : recordCloudflare rows resource = .ok (row, after)) :
    (row = resource ∧ after = rows ∧ row ∈ rows ∧ row.status ≠ .removed) ∨
      (row = { resource with epoch := (rowsOf rows resource.key).length + 1 } ∧
        after = rows ++ [row] ∧ ∀ earlier ∈ rowsOf rows resource.key,
          earlier.status = .removed) := by
  simp only [recordCloudflare, bind_ok] at hrecord
  obtain ⟨⟨⟩, -, ⟨⟩, -, hrecord⟩ := hrecord
  split at hrecord
  · rename_i existing hexisting
    split at hrecord
    · rename_i hsame
      cases hrecord
      obtain ⟨hin, closed, hsplit, -⟩ :=
        getCloudflareByStatus_eq_some h removed_not_blocking hexisting
      have hmem : row ∈ rowsOf rows resource.key :=
        hsplit ▸ List.mem_append_right _ (by simp)
      exact .inl ⟨hsame, rfl, (mem_rowsOf.mp hmem).1, mem_blockingStatuses.mp hin⟩
    · cases hrecord
  · rename_i hnone
    cases hrecord
    refine .inr ⟨by rw [h.nextEpoch], rfl, getBlockingCloudflare_eq_none hnone⟩

/-- One row stands for another: a mark changed its status, its run and its removal. -/
structure MarkOf (row updated : CloudflareOwnedIngressResource) : Prop where
  key : updated.key = row.key
  epoch : updated.epoch = row.epoch
  lifecycle : updated.lifecycle = row.lifecycle
  coordinates : updated.tunnelId = row.tunnelId ∧ updated.tunnelName = row.tunnelName ∧
    updated.dnsRecordId = row.dnsRecordId ∧ updated.hostname = row.hostname
  created : updated.createdAt = row.createdAt
  activity : updated.sourceActivityId = row.sourceActivityId
  event : updated.sourceEventId = row.sourceEventId

/-- A mark of an ingress's newest row. -/
structure Marks (rows after : List CloudflareOwnedIngressResource) (key : IngressKey)
    (row updated : CloudflareOwnedIngressResource) : Prop where
  newest : ∃ closed, rowsOf rows key = closed ++ [row] ∧
    rowsOf after key = closed ++ [updated] ∧
    ∀ earlier ∈ closed, earlier.status = .removed
  others : ∀ other, other ≠ key → rowsOf after other = rowsOf rows other
  mark : MarkOf row updated

theorem Marks.numbered (h : Marks rows after key row updated)
    (hnumbered : ∀ key, Numbered (rowsOf rows key)) (other : IngressKey) :
    Numbered (rowsOf after other) := by
  by_cases hother : other = key
  · subst hother
    obtain ⟨closed, hbefore, hafter, -⟩ := h.newest
    have hrows := hnumbered other
    rw [hbefore] at hrows
    rw [hafter]
    exact hrows.replaceLast h.mark.epoch
  · rw [h.others other hother]
    exact hnumbered other

/-- A row after a mark is the marked one or one of those before. -/
theorem Marks.mem (h : Marks rows after key row updated)
    {last : CloudflareOwnedIngressResource} (hlast : last ∈ after) :
    last = updated ∨ last ∈ rows := by
  have hin := mem_rowsOf_key.mp hlast
  by_cases hother : last.key = key
  · obtain ⟨closed, hbefore, hafter, -⟩ := h.newest
    rw [hother, hafter] at hin
    rcases List.mem_append.mp hin with hclosed | hmarked
    · have hrows : last ∈ rowsOf rows key := hbefore ▸ List.mem_append_left _ hclosed
      exact .inr (mem_rowsOf.mp hrows).1
    · exact .inl (List.mem_singleton.mp hmarked)
  · rw [h.others _ hother] at hin
    exact .inr (mem_rowsOf.mp hin).1

/-- A row before a mark is the one it changed or one of those after. -/
theorem Marks.mem_before (h : Marks rows after key row updated)
    {first : CloudflareOwnedIngressResource} (hfirst : first ∈ rows) :
    first = row ∨ first ∈ after := by
  have hin := mem_rowsOf_key.mp hfirst
  by_cases hother : first.key = key
  · obtain ⟨closed, hbefore, hafter, -⟩ := h.newest
    rw [hother, hbefore] at hin
    rcases List.mem_append.mp hin with hclosed | hmarked
    · have hrows : first ∈ rowsOf after key := hafter ▸ List.mem_append_left _ hclosed
      exact .inr (mem_rowsOf.mp hrows).1
    · exact .inl (List.mem_singleton.mp hmarked)
  · rw [← h.others _ hother] at hin
    exact .inr (mem_rowsOf.mp hin).1

theorem Marks.row_mem (h : Marks rows after key row updated) :
    row ∈ rows ∧ row.key = key := by
  obtain ⟨closed, hbefore, -⟩ := h.newest
  exact mem_rowsOf.mp (hbefore ▸ List.mem_append_right _ (by simp))

theorem Marks.updated_mem (h : Marks rows after key row updated) : updated ∈ after := by
  obtain ⟨closed, -, hafter, -⟩ := h.newest
  have hmem : updated ∈ rowsOf after key := hafter ▸ List.mem_append_right _ (by simp)
  exact (mem_rowsOf.mp hmem).1

/-- An update is seen by key. -/
theorem rowsOf_updateCloudflareStatus (rows : List CloudflareOwnedIngressResource)
    (updated : CloudflareOwnedIngressResource) (key : IngressKey) :
    rowsOf (updateCloudflareStatus rows updated) key =
      updateCloudflareStatus (rowsOf rows key) updated := by
  have hkey : ∀ row : CloudflareOwnedIngressResource,
      (if row.key = updated.key ∧ row.epoch = updated.epoch then
        row.withStatusOf updated
        else row).key = row.key := by
    intro row
    split <;> rfl
  rw [updateCloudflareStatus, rowsOf, List.filter_map, updateCloudflareStatus, rowsOf]
  congr 1
  exact List.filter_congr fun row _ => by simp only [Function.comp_apply, hkey]

/-- An update leaves the rows that it does not name. -/
theorem updateCloudflareStatus_of_ne
    (h : ∀ row ∈ rows, row.key = updated.key → row.epoch ≠ updated.epoch) :
    updateCloudflareStatus rows updated = rows := by
  refine (List.map_congr_left fun row hrow => ?_).trans (List.map_id' rows)
  exact if_neg fun hnamed => h row hrow hnamed.1 hnamed.2

/-- **The update of the newest row**, which its key and number name. -/
theorem marks_updateCloudflareStatus {status : OwnedIngressResourceStatus}
    {sourceRunId : String} {removedAt removedByRunId : Option String}
    {closed : List CloudflareOwnedIngressResource} (h : Numbered (rowsOf rows key))
    (hsplit : rowsOf rows key = closed ++ [row])
    (hclosed : ∀ earlier ∈ closed, earlier.status = .removed) (hreplaced : row.replaced
      status sourceRunId removedAt removedByRunId = .ok updated) :
    Marks rows (updateCloudflareStatus rows updated) key row updated ∧
    updated.status = status := by
  unfold CloudflareOwnedIngressResource.replaced at hreplaced
  split at hreplaced
  · rename_i hremoval
    cases hreplaced
    have hrow : row ∈ rowsOf rows key := hsplit ▸ List.mem_append_right _ (by simp)
    have hkey := (mem_rowsOf.mp hrow).2
    have hepochs := h.epochs_nodup
    rw [hsplit, List.map_append] at hepochs
    refine ⟨⟨⟨closed, hsplit, ?_, hclosed⟩, fun other hother => ?_,
      ⟨rfl, rfl, rfl, ⟨rfl, rfl, rfl, rfl⟩, rfl, rfl, rfl⟩⟩, rfl⟩
    · rw [rowsOf_updateCloudflareStatus, hsplit, updateCloudflareStatus,
        List.map_append]
      congr 1
      · refine updateCloudflareStatus_of_ne fun earlier hearlier _ hsame => ?_
        exact (List.disjoint_of_nodup_append hepochs) (List.mem_map_of_mem hearlier)
          (by simp [hsame])
      · exact congrArg (fun last => [last]) (if_pos ⟨rfl, rfl⟩)
    · rw [rowsOf_updateCloudflareStatus]
      refine updateCloudflareStatus_of_ne fun earlier hearlier hsame => ?_
      exact absurd ((mem_rowsOf.mp hearlier).2.symm.trans (hsame.trans hkey)) hother
  · split at hreplaced <;> cases hreplaced

/-- **Marking as being removed** takes the active row. -/
theorem markRemoving_spec {sourceRunId : String} (h : Numbered (rowsOf rows key))
    (hmark : markRemoving rows key sourceRunId = .ok (updated, after)) :
    ∃ row, requireActiveCloudflare rows key = .ok row ∧
    Marks rows after key row updated ∧
      updated.status = .removing := by
  simp only [markRemoving, bind_ok] at hmark
  obtain ⟨⟨⟩, -, row, hrow, marked, hreplaced, hpure⟩ := hmark
  cases hpure
  have hactive := hrow
  unfold requireActiveCloudflare at hactive
  split at hactive
  · rename_i found hfound
    cases hactive
    obtain ⟨-, closed, hsplit, hclosed⟩ :=
      getCloudflareByStatus_eq_some h (by decide) hfound
    exact ⟨row, hrow, marks_updateCloudflareStatus h hsplit hclosed hreplaced⟩
  · cases hactive

/-- A row that is being removed names the run that removes it. -/
theorem markRemoving_run {sourceRunId : String}
    (hmark : markRemoving rows key sourceRunId = .ok (updated, after)) :
    updated.sourceRunId = sourceRunId := by
  simp only [markRemoving, bind_ok] at hmark
  obtain ⟨⟨⟩, -, row, -, marked, hreplaced, hpure⟩ := hmark
  cases hpure
  unfold CloudflareOwnedIngressResource.replaced at hreplaced
  split at hreplaced
  · cases hreplaced
    rfl
  · split at hreplaced <;> cases hreplaced

/-- **Marking as removed** takes the row that is active or being removed. -/
theorem markRemoved_spec {removedAt removedByRunId : String}
    (h : Numbered (rowsOf rows key))
    (hmark : markRemoved rows key removedAt removedByRunId = .ok (updated, after)) :
    ∃ row, Marks rows after key row updated ∧ updated.status = .removed := by
  simp only [markRemoved, bind_ok] at hmark
  obtain ⟨⟨⟩, -, ⟨⟩, -, hmark⟩ := hmark
  split at hmark
  · cases hmark
  · rename_i row hrow
    rw [bind_ok] at hmark
    obtain ⟨marked, hreplaced, hpure⟩ := hmark
    cases hpure
    obtain ⟨-, closed, hsplit, hclosed⟩ :=
      getCloudflareByStatus_eq_some h (by decide) hrow
    exact ⟨row, marks_updateCloudflareStatus h hsplit hclosed hreplaced⟩

/-- **Marking as uncertain** takes the row that blocks. -/
theorem markUncertain_spec {sourceRunId : String} (h : Numbered (rowsOf rows key))
    (hmark : markUncertain rows key sourceRunId = .ok (updated, after)) :
    ∃ row, Marks rows after key row updated ∧ updated.status = .uncertain := by
  simp only [markUncertain, bind_ok] at hmark
  obtain ⟨⟨⟩, -, row, hrow, marked, hreplaced, hpure⟩ := hmark
  cases hpure
  unfold getCloudflare at hrow
  split at hrow
  · rename_i found hfound
    cases hrow
    obtain ⟨-, closed, hsplit, hclosed⟩ :=
      getCloudflareByStatus_eq_some h removed_not_blocking hfound
    exact ⟨row, marks_updateCloudflareStatus h hsplit hclosed hreplaced⟩
  · cases hrow

end IngressResourceStore

end ControlPlaneKit.Operations
