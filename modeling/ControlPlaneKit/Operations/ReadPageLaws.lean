import ControlPlaneKit.Operations.ReadPages

/-!
# ReadPageLaws — following the cursors of runs and events

Runs are read completely from page to page.  Events are as well, unless one of the run
has an identity that no cursor can hold: a page that fetches it is refused.
-/

namespace ControlPlaneKit.Operations

open ControlPlaneKit.Library (PyValue)
open ControlPlaneKit.Library.EventFold (bind_ok)
open ControlPlaneKit.Library.KeysetPages
  (Collects Serves collects_of_serves ordered ordered_perm
  seek seek_after)
open ControlPlaneKit.Library.Outcome (forM_eq_ok map_eq_ok mapM_eq_ok ok_bind)
open ControlPlaneKit.Library.PyValue (pyEq)
open ControlPlaneKit.Library.Text (isCanonicalIdentity)

variable {categories : UnicodeCategories}

/-! ## A page of rows -/

theorem matchingCursor_ok {request : ReadPageRequest categories}
    {cursor : ReadCursor categories} (hcollection : cursor.collection =
      request.collection) (hscope : cursor.scope = request.scope) :
    matchingCursor request cursor = .ok () := by
  refine if_pos ⟨?_, hcollection, hscope⟩
  rw [← hcollection, cursor.congruent]

theorem items_of_parts {T : Type} {request : ReadPageRequest categories}
    {items : List T} {next : Option (ReadCursor categories)}
    {page : ReadPage categories T} (h : fromParts request items next = .ok page) :
    page.items = items := by
  unfold fromParts at h
  split at h
  · cases h
  · obtain ⟨-, -, h⟩ := bind_ok.mp h
    cases h
    rfl

/-- What a page exposes of its candidates. -/
theorem items_of_candidates {T : Type} {request : ReadPageRequest categories}
    {candidates : List (ReadPageCandidate categories T)} {page : ReadPage categories T}
    (h : fromCandidates request candidates = .ok page) :
    page.items = (candidates.take request.limit).map (·.item) := by
  unfold fromCandidates at h
  by_cases hcount : request.limit + 1 < candidates.length
  · rw [if_pos hcount] at h
    cases h
  · rw [if_neg hcount] at h
    obtain ⟨-, -, h⟩ := bind_ok.mp h
    exact items_of_parts h

theorem exists_of_mapM {α β ε : Type} {f : α → Except ε β} {as : List α} {bs : List β}
    (h : as.mapM f = .ok bs) {b : β} (hb : b ∈ bs) : ∃ a, f a = .ok b := by
  rw [mapM_eq_ok] at h
  induction h with
  | nil => cases hb
  | cons hab _ ih =>
      rcases List.mem_cons.mp hb with rfl | hb
      · exact ⟨_, hab⟩
      · exact ih hb

theorem mapM_candidates {ρ T : Type} {item : ρ → T}
    {cursorAfter : ρ → Except ReadPageError (ReadCursor categories)}
    {after : ρ → ReadCursor categories} {rows : List ρ}
    (h : ∀ row ∈ rows, cursorAfter row = .ok (after row)) :
    (rows.mapM fun row => (cursorAfter row).map (ReadPageCandidate.mk (item row))) =
      .ok (rows.map fun row => ⟨item row, after row⟩) := by
  rw [mapM_eq_ok, List.forall₂_map_right_iff, List.forall₂_same]
  intro row hrow
  rw [h row hrow]
  rfl

/-- **A page**: the rows up to the limit, and the cursor of the last one when there was
one row more. -/
theorem pageOfRows_ok {ρ T : Type} {request : ReadPageRequest categories} {item : ρ → T}
    {cursorAfter : ρ → Except ReadPageError (ReadCursor categories)}
    {after : ρ → ReadCursor categories} {rows : List ρ}
    (hcount : rows.length ≤ request.limit + 1)
    (h : ∀ row ∈ rows, cursorAfter row = .ok (after row) ∧
      (after row).collection = request.collection ∧ (after row).scope = request.scope) :
    pageOfRows request item cursorAfter rows =
      .ok ⟨request, (rows.take request.limit).map item,
      if rows.length = request.limit + 1 then
        (rows.take request.limit).getLast?.map after
      else none⟩ := by
  have hexposed : ∀ row ∈ rows.take request.limit,
      matchingCursor request (after row) = .ok () := fun row hrow =>
    matchingCursor_ok (h row (List.mem_of_mem_take hrow)).2.1
      (h row (List.mem_of_mem_take hrow)).2.2
  have hcandidates :
      (rows.map fun row => ReadPageCandidate.mk (item row) (after row)).forM
      (fun candidate => matchingCursor request candidate.cursorAfterItem) = .ok () := by
    rw [forM_eq_ok]
    intro candidate hcandidate
    obtain ⟨row, hrow, rfl⟩ := List.mem_map.mp hcandidate
    exact matchingCursor_ok (h row hrow).2.1 (h row hrow).2.2
  have hnext : ∀ next : Option (ReadCursor categories),
      (∀ cursor ∈ next, matchingCursor request cursor = .ok ()) →
      next.toList.forM (matchingCursor request) = .ok () := by
    intro next hmatch
    rw [forM_eq_ok]
    intro cursor hcursor
    exact hmatch cursor (Option.mem_toList.mp hcursor)
  rw [pageOfRows, mapM_candidates fun row hrow => (h row hrow).1, ok_bind,
    fromCandidates, List.length_map, if_neg (by omega), hcandidates, ok_bind, fromParts]
  simp only [← List.map_take, List.map_map, List.length_map, List.getLast?_map,
    Option.map_map]
  rw [if_neg (by rw [List.length_take]; omega), hnext _ ?_, ok_bind]
  · rfl
  · intro cursor hcursor
    split at hcursor
    · obtain ⟨row, hrow, rfl⟩ := Option.mem_map.mp hcursor
      exact hexposed row (List.mem_of_getLast? hrow)
    · cases hcursor

/-! ## From page to page -/

section Walk

variable {ρ T K : Type} [LinearOrder K] {key : ρ → K} {rows : List ρ} {item : ρ → T}
  {cursorAfter : ρ → Except ReadPageError (ReadCursor categories)}
  {after : ρ → ReadCursor categories}
  {page : ReadPageRequest categories → Except ReadPageError (ReadPage categories T)}
  {collection : ReadCollection} {scope : ReadScope categories} {limit : Nat}

theorem resent_eq (cursor : Option (ReadCursor categories)) :
    resent cursor = .ok cursor := by
  cases cursor with
  | none => rfl
  | some cursor =>
      rw [resent, readCursorFromMapping_descriptor]
      rfl

/-- Where a cursor stands: behind the last row that was collected. -/
def Behind (key : ρ → K) (rows : List ρ) (item : ρ → T)
    (after : ρ → ReadCursor categories) (front : List T)
    (cursor : Option (ReadCursor categories)) : Prop :=
  ∃ seen left, ordered key rows = seen ++ left ∧ front = seen.map item ∧
    cursor = seen.getLast?.map after

/-- **Pages of rows collect the rows**: a read that seeks behind the row its cursor was
made of, and makes its next cursor of the last row exposed. -/
theorem collects_pages (hkeys : (rows.map key).Nodup) (hlimit : 1 ≤ limit ∧ limit ≤ 100)
    (hscope : scope.scopeType = (readCollectionSpec collection).scopeType)
    (hafter : ∀ row ∈ rows, cursorAfter row = .ok (after row) ∧
      (after row).collection = collection ∧ (after row).scope = scope)
    (hpage : ∀ request : ReadPageRequest categories, ∀ last : Option ρ,
      (∀ row ∈ last, row ∈ rows) → request.collection = collection →
      request.scope = scope →
      request.cursor = last.map after →
      page request = pageOfRows request item cursorAfter
        (seek key rows (last.map key) (request.limit + 1))) :
    Collects (pageFrom page collection scope limit) none
      ((ordered key rows).map item) := by
  have hserves : Serves (pageFrom page collection scope limit) limit
      (Behind key rows item after) ((ordered key rows).map item) := by
    rintro front back cursor hsplit ⟨seen, left, hrows, rfl, rfl⟩
    have hback : back = left.map item := by
      rw [hrows, List.map_append] at hsplit
      exact (List.append_cancel_left hsplit).symm
    have hmem : ∀ row ∈ seen ++ left, row ∈ rows := fun row hrow =>
      (ordered_perm rows).mem_iff.mp (by rw [hrows]; exact hrow)
    have hlast : ∀ row ∈ seen.getLast?, row ∈ rows := fun row hrow =>
      hmem row (List.mem_append_left _ (List.mem_of_getLast? hrow))
    have hcursor : ∀ found ∈ seen.getLast?.map after,
        found.collection = collection ∧ found.scope = scope := by
      intro found hfound
      obtain ⟨row, hrow, rfl⟩ := Option.mem_map.mp hfound
      exact (hafter row (hlast row hrow)).2
    have hrequest : readPageRequest collection scope limit (seen.getLast?.map after) =
        .ok ⟨collection, scope, limit, seen.getLast?.map after, hscope, hlimit,
          hcursor⟩ := by
      rw [readPageRequest, dif_pos hscope, dif_pos hlimit, dif_pos hcursor]
    have hfetch : pageFrom page collection scope limit (seen.getLast?.map after) =
        .ok ((left.take limit).map item,
          if limit < left.length then (left.take limit).getLast?.map after
          else none) := by
      rw [pageFrom, resent_eq, ok_bind, hrequest, ok_bind, hpage _ _ hlast rfl rfl rfl,
        seek_after hkeys hrows rfl, @pageOfRows_ok categories ρ T _ _ _ after]
      · simp only [ok_bind, List.take_take, List.length_take]
        rw [show min limit (limit + 1) = limit from by omega]
        have hiff : min (limit + 1) left.length = limit + 1 ↔
          limit < left.length := by omega
        simp only [hiff]
      · exact List.length_take_le _ _
      · intro row hrow
        exact hafter row
          (hmem row (List.mem_append_right _ (List.mem_of_mem_take hrow)))
    rw [hback, List.length_map]
    by_cases hmore : limit < left.length
    · have hne : left.take limit ≠ [] := by
        intro hnil
        have := congrArg List.length hnil
        rw [List.length_take, List.length_nil] at this
        omega
      obtain ⟨last, hlast⟩ : ∃ last, (left.take limit).getLast? = some last :=
        ⟨_, List.getLast?_eq_some_getLast hne⟩
      refine .inr ⟨hmore, after last, ?_,
        ⟨seen ++ left.take limit, left.drop limit, ?_, ?_, ?_⟩⟩
      · rw [hfetch, if_pos hmore, hlast, List.map_take]
        rfl
      · rw [List.append_assoc, List.take_append_drop]
        exact hrows
      · rw [List.map_append, List.map_take]
      · rw [List.getLast?_append, hlast]
        rfl
    · refine .inl ⟨by omega, ?_⟩
      rw [hfetch, if_neg hmore, List.take_of_length_le (by omega)]
  exact collects_of_serves hlimit.1 hserves _ [] _ none le_rfl rfl
    ⟨[], _, rfl, rfl, rfl⟩

end Walk

/-- Keys that hold a distinct field are distinct. -/
theorem nodup_keys {ρ K : Type} {key : ρ → K} {field : ρ → String} {rows : List ρ}
    (hfield : ∀ a b, key a = key b → field a = field b)
    (hids : (rows.map field).Nodup) : (rows.map key).Nodup :=
  List.pairwise_map.mpr ((List.pairwise_map.mp hids).imp fun {a b} hne hkey =>
    hne (hfield a b hkey))

/-! ## Runs -/

section Runs

variable (collation : Collation) (tables : ExecutionTables)

/-- The joins find each run once. -/
theorem planRunRows_sublist (workspaceId planId : String) :
    (planRunRows tables workspaceId planId).Sublist tables.runs := by
  have hunique {α : Type} {field : α → String} {table : List α} (hkey :
      (table.map field).Nodup) {matching : α → Bool} (name : String) (hmatching : ∀ row,
      matching row = true → field row = name) : (table.filter matching).length ≤ 1 := by
    have hsub : ((table.filter matching).map field).Nodup :=
      hkey.sublist (List.filter_sublist.map field)
    have hall : ∀ text ∈ (table.filter matching).map field, text = name := by
      intro text htext
      obtain ⟨row, hrow, rfl⟩ := List.mem_map.mp htext
      exact hmatching row (List.mem_filter.mp hrow).2
    have hrep := List.eq_replicate_iff.mpr ⟨rfl, hall⟩
    rw [hrep, List.nodup_replicate, List.length_map] at hsub
    exact hsub
  have hstep {α : Type} {run : ActivityRunRow} {found : List α}
      (hfound : found.length ≤ 1) {next : α → List ActivityRunRow} (hnext : ∀ row,
        (next row).Sublist [run]) : (found.flatMap next).Sublist [run] := by
    match found, hfound with
    | [], _ => exact List.nil_sublist _
    | [row], _ => simpa using hnext row
  have hall : ∀ runs : List ActivityRunRow,
      ∀ next : ActivityRunRow → List ActivityRunRow,
      (∀ run, (next run).Sublist [run]) → (runs.flatMap next).Sublist runs := by
    intro runs next hnext
    induction runs with
    | nil => exact List.nil_sublist _
    | cons run runs ih =>
        rw [List.flatMap_cons]
        exact (hnext run).append ih
  refine hall _ _ fun run => ?_
  refine hstep (hunique tables.requestIds run.requestId ?_) fun request => ?_
  · intro row hrow
    exact (of_decide_eq_true hrow).1
  refine hstep (hunique tables.planIds run.planId ?_) fun plan => ?_
  · intro row hrow
    exact (of_decide_eq_true hrow).1
  refine hstep (hunique tables.sessionIds plan.sessionId ?_) fun session => ?_
  · intro row hrow
    exact (of_decide_eq_true hrow).1
  split
  · exact List.Sublist.refl _
  · exact List.nil_sublist _

theorem runKeys_nodup (workspaceId planId : String) :
    ((planRunRows tables workspaceId planId).map (runKey collation)).Nodup := by
  have hids := tables.runIds.sublist
    ((planRunRows_sublist tables workspaceId planId).map (·.runId))
  refine nodup_keys (fun a b hkey => ?_) hids
  exact congrArg (fun position => (ofLex position).2.text) hkey

/-- The cursor behind a run. -/
def runCursor (workspaceId planId : Checked (isGeneralIdentifier categories))
    (row : ActivityRunRow) : ReadCursor categories where
  collection := .planRuns
  scope := .plan workspaceId planId
  position := .temporal
    ⟨decodePostgresCursorTimestamp row.createdAt,
      by rw [isCanonicalInstant, parseInstant_decode]; rfl⟩
    ⟨row.runId, isGeneralIdentifier_of_identity categories row.identity⟩
  congruent := rfl

theorem runCursorAfter_eq
    (workspaceId planId : Checked (isGeneralIdentifier categories))
    (row : ActivityRunRow) :
    runCursorAfter (.plan workspaceId planId) row =
      .ok (runCursor workspaceId planId row) := by
  have hinstant := requireText_self "temporal cursor instant is malformed"
    (⟨decodePostgresCursorTimestamp row.createdAt, by
      rw [isCanonicalInstant, parseInstant_decode]; rfl⟩ : Checked isCanonicalInstant)
  have hitem := requireText_self "read identifier is malformed"
    (⟨row.runId, isGeneralIdentifier_of_identity categories row.identity⟩ :
      Checked (isGeneralIdentifier categories))
  rw [runCursorAfter, temporalReadCursor, cursorHeader_ok rfl, ok_bind,
    canonicalCursorInstant, hinstant, ok_bind, generalIdentifier, hitem, ok_bind]
  rfl

theorem runPosition_eq (workspaceId planId : Checked (isGeneralIdentifier categories))
    (last : Option ActivityRunRow) :
    runPosition collation (last.map (runCursor workspaceId planId)) =
      .ok (last.map (runKey collation)) := by
  cases last with
  | none => rfl
  | some row =>
      simp only [Option.map_some, runPosition, runCursor, requirePageRunId,
        row.identity, if_true, ok_bind, encodePostgresCursorTimestamp_decode, runKey]

/-- **The pages of a plan's runs are the plan's runs.** -/
theorem collects_runs
    (workspaceId planId : Checked (isGeneralIdentifier categories)) {limit : Nat}
    (hlimit : 1 ≤ limit ∧ limit ≤ 100) :
    Collects (pageFrom (runPage collation tables) .planRuns
      (.plan workspaceId planId) limit) none
      ((ordered (runKey collation)
        (planRunRows tables workspaceId.text planId.text)).map
        activityRun) := by
  refine @collects_pages _ _ _ _ _ _ _ _ (runCursorAfter (.plan workspaceId planId))
    (runCursor workspaceId planId) _ _ _ _ (runKeys_nodup collation tables _ _)
    hlimit rfl ?_ ?_
  · intro row _
    exact ⟨runCursorAfter_eq workspaceId planId row, rfl, rfl⟩
  · rintro request last - hcollection hscope hcursor
    rw [runPage, if_pos hcollection, hcursor, runPosition_eq, ok_bind, hscope]

end Runs

/-! ## Events -/

section Events

variable (collation : Collation) (tables : ExecutionTables)

theorem eventKeys_nodup (runId : String) :
    ((runEventRows tables runId).map (eventKey collation)).Nodup := by
  have hids := tables.eventIds.sublist
    ((List.filter_sublist : (runEventRows tables runId).Sublist _).map (·.eventId))
  refine nodup_keys (fun a b hkey => ?_) hids
  exact congrArg (fun position => (ofLex position).2.text) hkey

/-- The cursor behind an event, where there is one; else a cursor at the run's own
name. -/
def eventCursor (workspaceId : Checked (isGeneralIdentifier categories))
    (runId : Checked isCanonicalIdentity) (row : ActivityEventRecord) :
    ReadCursor categories where
  collection := .runEvents
  scope := .run workspaceId runId
  position := .ordinal ⟨max 1 (row.ordinal : Int), by omega⟩
    (if h : isGeneralIdentifier categories row.eventId = true then ⟨row.eventId, h⟩
      else ⟨runId.text, isGeneralIdentifier_of_identity categories runId.accepted⟩)
  congruent := rfl

theorem readCursor_ext {a b : ReadCursor categories}
    (hcollection : a.collection = b.collection) (hscope : a.scope = b.scope)
    (hposition : a.position = b.position) : a = b := by
  cases a
  cases b
  cases hcollection
  cases hscope
  cases hposition
  rfl

theorem eventCursor_position (workspaceId : Checked (isGeneralIdentifier categories))
    (runId : Checked isCanonicalIdentity) {row : ActivityEventRecord}
    (hordinal : 0 < row.ordinal)
    (h : isGeneralIdentifier categories row.eventId = true) :
    (eventCursor workspaceId runId row).position =
      .ordinal ⟨(row.ordinal : Int), by omega⟩ ⟨row.eventId, h⟩ := by
  have hmax : max 1 (row.ordinal : Int) = row.ordinal := by omega
  simp only [eventCursor, hmax, dif_pos h]

theorem eventCursorAfter_eq (workspaceId : Checked (isGeneralIdentifier categories))
    (runId : Checked isCanonicalIdentity) {row : ActivityEventRecord}
    (hordinal : 0 < row.ordinal)
    (h : isGeneralIdentifier categories row.eventId = true) :
    eventCursorAfter (.run workspaceId runId) row =
      .ok (eventCursor workspaceId runId row) := by
  have hpositive := cursorOrdinal_self ⟨(row.ordinal : Int), by omega⟩
  have hitem := requireText_self "read identifier is malformed"
    (⟨row.eventId, h⟩ : Checked (isGeneralIdentifier categories))
  rw [eventCursorAfter, ordinalReadCursor, cursorHeader_ok rfl, ok_bind, hpositive,
    ok_bind, generalIdentifier, hitem, ok_bind]
  exact congrArg Except.ok
    (readCursor_ext rfl rfl (eventCursor_position workspaceId runId hordinal h).symm)

/-- An event that a page exposes has a general identifier. -/
theorem general_of_cursor {scope : ReadScope categories} {row : ActivityEventRecord}
    {cursor : ReadCursor categories} (h : eventCursorAfter scope row = .ok cursor) :
    isGeneralIdentifier categories row.eventId = true := by
  unfold eventCursorAfter ordinalReadCursor at h
  obtain ⟨_, -, h⟩ := bind_ok.mp h
  obtain ⟨_, -, h⟩ := bind_ok.mp h
  obtain ⟨itemId, hitem, -⟩ := bind_ok.mp h
  have htext := requireText_eq_ok hitem
  rw [PyValue.str.injEq] at htext
  rw [htext]
  exact itemId.accepted

theorem general_of_page {request : ReadPageRequest categories}
    {rows : List ActivityEventRecord} {page : ReadPage categories ActivityEventRecord}
    {scope : ReadScope categories}
    (h : pageOfRows request id (eventCursorAfter scope) rows = .ok page) :
    ∀ event ∈ page.items, isGeneralIdentifier categories event.eventId = true := by
  obtain ⟨candidates, hcandidates, h⟩ := bind_ok.mp h
  have hbuilt : ∀ candidate ∈ candidates,
      isGeneralIdentifier categories candidate.item.eventId = true := by
    intro candidate hcandidate
    obtain ⟨row, hrow⟩ := exists_of_mapM hcandidates hcandidate
    obtain ⟨cursor, hcursor, rfl⟩ := map_eq_ok.mp hrow
    exact general_of_cursor hcursor
  rw [items_of_candidates h]
  intro event hevent
  obtain ⟨candidate, hcandidate, rfl⟩ := List.mem_map.mp hevent
  exact hbuilt candidate (List.mem_of_mem_take hcandidate)

theorem general_of_eventPage {request : ReadPageRequest categories}
    {page : ReadPage categories ActivityEventRecord}
    (h : eventPage collation tables request = .ok page) :
    ∀ event ∈ page.items, isGeneralIdentifier categories event.eventId = true := by
  unfold eventPage at h
  split at h
  · split at h
    · obtain ⟨-, -, h⟩ := bind_ok.mp h
      obtain ⟨position, -, h⟩ := bind_ok.mp h
      exact general_of_page h
    · cases h
  · cases h

/-- What is collected of events has general identifiers. -/
theorem general_of_collects {scope : ReadScope categories} {limit : Nat}
    {cursor : Option (ReadCursor categories)} {events : List ActivityEventRecord}
    (h : Collects (pageFrom (eventPage collation tables) .runEvents scope limit)
      cursor events) :
    ∀ event ∈ events, isGeneralIdentifier categories event.eventId = true := by
  have hfetch : ∀ {cursor next : Option (ReadCursor categories)} {items :
      List ActivityEventRecord},
      pageFrom (eventPage collation tables) .runEvents scope limit cursor =
        .ok (items, next) →
      ∀ event ∈ items, isGeneralIdentifier categories event.eventId = true := by
    intro cursor next items hok
    obtain ⟨_, -, hok⟩ := bind_ok.mp hok
    obtain ⟨request, -, hok⟩ := bind_ok.mp hok
    obtain ⟨page, hpage, hok⟩ := bind_ok.mp hok
    cases hok
    exact general_of_eventPage collation tables hpage
  induction h with
  | last hok => exact hfetch hok
  | more hok _ ih =>
      intro event hevent
      rcases List.mem_append.mp hevent with hevent | hevent
      · exact hfetch hok event hevent
      · exact ih event hevent

/-- **The pages of a run's events are the run's events**, when each has a general
identifier. -/
theorem collects_events (workspaceId : Checked (isGeneralIdentifier categories))
    (runId : Checked isCanonicalIdentity) {limit : Nat}
    (hlimit : 1 ≤ limit ∧ limit ≤ 100)
    (hgeneral : ∀ event ∈ runEventRows tables runId.text,
      isGeneralIdentifier categories event.eventId = true) :
    Collects (pageFrom (eventPage collation tables) .runEvents
      (.run workspaceId runId) limit) none
      (ordered (eventKey collation) (runEventRows tables runId.text)) := by
  have hordinal : ∀ event ∈ runEventRows tables runId.text, 0 < event.ordinal :=
      fun event hevent =>
    tables.ordinals event (List.mem_filter.mp hevent).1
  rw [← List.map_id (ordered (eventKey collation) (runEventRows tables runId.text))]
  refine @collects_pages _ _ _ _ _ _ _ _ (eventCursorAfter (.run workspaceId runId))
    (eventCursor workspaceId runId) _ _ _ _ (eventKeys_nodup collation tables _)
    hlimit rfl ?_ ?_
  · intro event hevent
    exact ⟨eventCursorAfter_eq workspaceId runId (hordinal event hevent)
      (hgeneral event hevent),
      rfl, rfl⟩
  · rintro request last hlast hcollection hscope hcursor
    have hposition :
        eventPosition collation (last.map (eventCursor workspaceId runId)) =
        .ok (last.map (eventKey collation)) := by
      cases last with
      | none => rfl
      | some event =>
          have hevent := hlast event rfl
          rw [Option.map_some, eventPosition, eventCursor_position workspaceId runId
            (hordinal event hevent) (hgeneral event hevent)]
          rfl
    rw [eventPage, if_pos hcollection, hscope]
    simp only [requirePageRunId, runId.accepted, if_true, ok_bind, hcursor, hposition]

end Events

/-! ## Paged reads -/

section PagedReads

/-- Cursors and their descriptors are inverse to each other, and following the cursors
of a plan's runs and of a run's events ends with all of them, in their order. -/
structure ReadsCompletely (collation : Collation) (tables : ExecutionTables)
    (planScope runScope : Checked (isGeneralIdentifier categories))
    (planId : Checked (isGeneralIdentifier categories))
    (runId : Checked isCanonicalIdentity) (limit : Nat) : Prop where
  reads_descriptor : ∀ cursor : ReadCursor categories,
    readCursorFromMapping cursor.descriptor = .ok cursor
  descriptor_of_read : ∀ value : PyValue, ∀ cursor : ReadCursor categories,
    readCursorFromMapping value = .ok cursor → pyEq value cursor.descriptor = true
  runs : Collects (pageFrom (runPage collation tables) .planRuns
    (.plan planScope planId) limit) none ((ordered (runKey collation)
      (planRunRows tables planScope.text planId.text)).map activityRun)
  events : Collects (pageFrom (eventPage collation tables) .runEvents (.run runScope
    runId) limit) none (ordered (eventKey collation) (runEventRows tables runId.text))

/-- **Paged reads are complete exactly when every event of the run has a general
identifier.** -/
theorem readsCompletely_iff (collation : Collation) (tables : ExecutionTables)
    (planScope runScope : Checked (isGeneralIdentifier categories))
    (planId : Checked (isGeneralIdentifier categories))
    (runId : Checked isCanonicalIdentity) (limit : Nat)
    (hlimit : 1 ≤ limit ∧ limit ≤ 100) :
    ReadsCompletely collation tables planScope runScope planId runId limit ↔
      ∀ event ∈ tables.events, event.runId = runId.text →
        isGeneralIdentifier categories event.eventId = true := by
  have hrows : (∀ event ∈ runEventRows tables runId.text,
      isGeneralIdentifier categories event.eventId = true) ↔
      ∀ event ∈ tables.events, event.runId = runId.text →
        isGeneralIdentifier categories event.eventId = true := by
    simp only [runEventRows, List.mem_filter, decide_eq_true_eq, and_imp]
  rw [← hrows]
  constructor
  · intro h event hevent
    exact general_of_collects collation tables h.events event
      ((ordered_perm _).mem_iff.mpr hevent)
  · intro h
    exact {
      reads_descriptor := readCursorFromMapping_descriptor
      descriptor_of_read := fun _ _ => pyEq_descriptor
      runs := collects_runs collation tables planScope planId hlimit
      events := collects_events collation tables runScope runId hlimit h }

end PagedReads

/-! ## Two runs, and one event -/

section OneEvent

theorem plainCategories_identity (c : Char)
    (hc : Library.Text.isIdentityTail c = true) :
    (c.toNat < 32 || (127 ≤ c.toNat && c.toNat < 160) || c.toNat = 173 : Bool) =
      false := by
  simp only [Library.Text.isIdentityTail, Library.Text.isAsciiAlnum, Bool.or_eq_true,
    Bool.and_eq_true, decide_eq_true_eq] at hc
  have hother : ∀ d : Char, d = '.' ∨ d = '_' ∨ d = ':' ∨ d = '-' →
      32 ≤ d.toNat ∧ d.toNat < 127 := by
    rintro d (rfl | rfl | rfl | rfl) <;> decide
  have hrange : 32 ≤ c.toNat ∧ c.toNat < 127 := by
    rcases hc with (((hc | hc) | hc) | hc) | hc
    · omega
    · exact hother c (.inl hc)
    · exact hother c (.inr (.inl hc))
    · exact hother c (.inr (.inr (.inl hc)))
    · exact hother c (.inr (.inr (.inr hc)))
  simp only [Bool.or_eq_false_iff, Bool.and_eq_false_iff, decide_eq_false_iff_not]
  omega

/-- Control characters and the soft hyphen; the other characters are never met here. -/
def plainCategories : UnicodeCategories where
  isOther c := c.toNat < 32 || (127 ≤ c.toNat && c.toNat < 160) || c.toNat = 173
  identity := plainCategories_identity

def oneEvent (eventId : String) : ExecutionTables where
  runs := []
  requests := []
  plans := []
  sessions := []
  events := [⟨eventId, "run-1", 1, .runOpened, 0, none, ⟨"\x7b\x7d"⟩, none, none⟩]
  runIds := List.nodup_nil
  requestIds := List.nodup_nil
  planIds := List.nodup_nil
  sessionIds := List.nodup_nil
  eventIds := List.nodup_singleton _
  ordinals := by
    intro event hevent
    rw [List.mem_singleton.mp hevent]
    exact Nat.one_pos

def generalText (text : String) (h : isGeneralIdentifier plainCategories text = true) :
    Checked (isGeneralIdentifier plainCategories) :=
  ⟨text, h⟩

theorem runOne_canonical : isCanonicalIdentity "run-1" = true := by decide

def runOne : Checked isCanonicalIdentity := ⟨"run-1", runOne_canonical⟩

theorem newYear_valid : IsDatetime 2026 1 1 0 0 0 0 := by decide

theorem unstarted_timing : RunTiming .claimed none none := by decide

/-- A run that was claimed as the year began. -/
def claimedRun (runId : String) (attempt : Nat) (priorRunId : Option String)
    (hidentity : isCanonicalIdentity runId = true)
    (hlineage : RetryLineage runId attempt priorRunId) : ActivityRunRow where
  runId := runId
  planId := "p"
  requestId := "request-1"
  attempt := attempt
  priorRunId := priorRunId
  status := .claimed
  createdAt := ⟨2026, 1, 1, 0, 0, 0, 0, newYear_valid⟩
  startedAt := none
  settledAt := none
  metadata := ⟨"\x7b\x7d"⟩
  identity := hidentity
  timing := unstarted_timing
  lineage := hlineage

theorem runTwo_canonical : isCanonicalIdentity "run-2" = true := by decide

theorem firstRun_lineage : RetryLineage "run-1" 1 none := by decide

theorem secondRun_lineage : RetryLineage "run-2" 2 (some "run-1") := by decide

def firstRun : ActivityRunRow :=
  claimedRun "run-1" 1 none runOne_canonical firstRun_lineage

/-- Its repetition, claimed in the same instant. -/
def secondRun : ActivityRunRow :=
  claimedRun "run-2" 2 (some "run-1") runTwo_canonical secondRun_lineage

def openingEvent : ActivityEventRecord :=
  ⟨"event-1", "run-1", 1, .runOpened, 0, none, ⟨"\x7b\x7d"⟩, none, none⟩

def startingEvent : ActivityEventRecord :=
  ⟨"event-2", "run-1", 2, .runStarted, 0, none, ⟨"\x7b\x7d"⟩, none, none⟩

/-- Two runs of one plan and two events of the first, none in the order they are read
in. -/
def retriedTables : ExecutionTables where
  runs := [secondRun, firstRun]
  requests := [⟨"request-1", "w", "s", "p"⟩]
  plans := [⟨"p", "s"⟩]
  sessions := [⟨"s", "w"⟩]
  events := [startingEvent, openingEvent]
  runIds := by decide
  requestIds := List.nodup_singleton _
  planIds := List.nodup_singleton _
  sessionIds := List.nodup_singleton _
  eventIds := by decide
  ordinals := by
    intro event hevent
    rcases List.mem_pair.mp hevent with rfl | rfl
    · exact Nat.two_pos
    · exact Nat.one_pos

/-- Pages of one row each read both runs and both events. -/
theorem readsCompletely_retried :
    (planRunRows retriedTables "w" "p" = [secondRun, firstRun] ∧
      runEventRows retriedTables "run-1" = [startingEvent, openingEvent]) ∧
    ReadsCompletely ⟨inferInstance⟩ retriedTables (generalText "w" (by decide))
      (generalText "w" (by decide)) (generalText "p" (by decide)) runOne 1 := by
  refine ⟨⟨rfl, rfl⟩, (readsCompletely_iff _ _ _ _ _ _ 1 ⟨le_rfl, by decide⟩).mpr ?_⟩
  intro event hevent _
  rcases List.mem_pair.mp hevent with rfl | rfl <;> decide

/-- **A soft hyphen in an event's identity refuses every page it is on.** -/
theorem softHyphen_unread :
    ¬ ReadsCompletely ⟨inferInstance⟩ (oneEvent "event\u00ad1")
      (generalText "w" (by decide)) (generalText "w" (by decide))
      (generalText "p" (by decide)) runOne 100 := by
  intro h
  have hgeneral := general_of_collects _ _ h.events
    ⟨"event\u00ad1", "run-1", 1, .runOpened, 0, none, ⟨"\x7b\x7d"⟩, none, none⟩
    ((ordered_perm _).mem_iff.mpr
      (List.mem_filter.mpr ⟨List.mem_singleton.mpr rfl, rfl⟩))
  revert hgeneral
  decide

end OneEvent

end ControlPlaneKit.Operations
