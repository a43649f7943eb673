import ControlPlaneKit.Library.JsonMeaning
import ControlPlaneKit.Planning.PlanCodecLaws

/-!
# OperationCodec — the descriptor of one operation on its own

The codec of plans compares what it read with the descriptor, and so refuses a
descriptor with more in it than the plan.  Read on its own, the descriptor of an
operation may have more fields than an operation of its kind; with none it is, as a
JSON value, what the operation is written as.
-/

namespace ControlPlaneKit.Planning

open ControlPlaneKit.Library
open ControlPlaneKit.Library.EventFold (bind_ok)
open ControlPlaneKit.Library.JsonText (reread reread_dict_iff reread_str)
open ControlPlaneKit.Library.Outcome (ErrorsIn map_eq_ok)
open ControlPlaneKit.Library.PyValue (mem_of_lookup wellKeyed wellKeyed_dict_iff)
open ControlPlaneKit.Library.Text (isBlank)
open ControlPlaneKit.Topology (DiffOwner DiffSubject StructuralField)

/-! ## Descriptors without other fields -/

/-- No key but these. -/
def hasOnly (keys : List String) (entries : PyDict) : Bool :=
  entries.all fun entry => keys.contains entry.1

theorem hasOnly_iff {keys : List String} {entries : PyDict} :
    hasOnly keys entries = true ↔ ∀ entry ∈ entries, entry.1 ∈ keys := by
  simp [hasOnly]

/-- The keys of a target, by its kind. -/
def targetKeys : String → List String
  | "node" => ["kind", "node_id"]
  | "runtime" => ["kind", "runtime_id"]
  | "socket-connection" => ["kind", "edge_id"]
  | "data-resource" => ["kind", "node_id", "resource_id"]
  | "public-ingress" => ["kind", "ingress_id"]
  | "change" => ["kind", "subject"]
  | _ => ["kind"]

/-- The keys of a subject that is known by one text, by its kind. -/
def subjectKeys : String → List String
  | "runtime" => ["kind", "runtime_id"]
  | "node" => ["kind", "node_id"]
  | "edge" => ["kind", "edge_id"]
  | "public-ingress" => ["kind", "ingress_id"]
  | _ => ["kind"]

/-- The kinds of subjects that are no field. -/
def plainKinds : List String := ["graph", "runtime", "node", "edge", "public-ingress"]

/-- The kind of a subject that is no field. -/
def plainKind (entries : PyDict) : Option String :=
  match getValue entries "kind" with
  | .str kind => if plainKinds.contains kind then some kind else none
  | _ => none

/-- A key that is there is no null. -/
def keyIsText (entries : PyDict) : Bool :=
  match entries.lookup "key" with
  | some .none => false
  | _ => true

/-- No field besides those of an owner. -/
def closedOwner : PyValue → Bool
  | .dict entries =>
      (plainKind entries).all fun kind => hasOnly (subjectKeys kind) entries
  | _ => true

/-- No field besides those of a subject. -/
def closedSubject : PyValue → Bool
  | .dict entries =>
      match plainKind entries with
      | some kind => hasOnly (subjectKeys kind) entries
      | none =>
          hasOnly ["owner", "field", "key"] entries && keyIsText entries &&
            closedOwner (getValue entries "owner")
  | _ => true

/-- No field besides those of a target. -/
def closedTarget : PyValue → Bool
  | .dict target =>
      match getValue target "kind" with
      | .str kind => hasOnly (targetKeys kind) target &&
          (kind ≠ "change" || closedSubject (getValue target "subject"))
      | _ => true
  | _ => true

/-- The keys of an operation, by its kind. -/
def operationKeys : String → List String
  | "review-change" => ["kind", "target", "reason"]
  | _ => ["kind", "target"]

/-- No field besides those of an operation, and none in its target. -/
def closedOperation (entries : PyDict) : Bool :=
  match getValue entries "kind" with
  | .str kind =>
      hasOnly (operationKeys kind) entries && closedTarget (getValue entries "target")
  | _ => true

/-! ## Texts that were read -/

section Reading

variable {repr : PyValue → String} {entries expected : PyDict} {key text : String}

theorem lookup_of_getValue (h : getValue entries key = .str text) :
    entries.lookup key = some (.str text) := by
  rw [getValue] at h
  cases hlookup : entries.lookup key with
  | none => rw [hlookup] at h; cases h
  | some value => rw [hlookup] at h; rw [← h]; rfl

theorem lookup_of_dict {fields : PyDict} (h : getValue entries key = .dict fields) :
    entries.lookup key = some (.dict fields) := by
  rw [getValue] at h
  cases hlookup : entries.lookup key with
  | none => rw [hlookup] at h; cases h
  | some value => rw [hlookup] at h; rw [← h]; rfl

theorem getValue_of_textAt (h : textAt entries key = .ok text) :
    getValue entries key = .str text := by
  unfold textAt primitiveText at h
  split at h
  · split at h
    · cases h
    · cases h
      assumption
  · cases h

theorem getValue_of_nonemptyAt {found : {text : String // isBlank text = false}}
    (h : nonemptyAt entries key = .ok found) : getValue entries key = .str found.1 := by
  unfold nonemptyAt at h
  split at h
  · split at h
    · cases h
      assumption
    · cases h
  · cases h

theorem getValue_of_requireKind {kind : String}
    (h : requireKind repr entries kind = .ok ()) :
    getValue entries "kind" = .str kind := by
  obtain ⟨actual, hactual, h⟩ := bind_ok.mp h
  unfold requirePlan at h
  split at h
  · rename_i heq
    rw [getValue_of_textAt hactual, of_decide_eq_true heq]
  · cases h

theorem getValue_of_memberAt {α : Type} {members : List α} {value : α → String}
    {className : String} {member : α}
    (h : memberAt repr members value className entries key = .ok member) :
    getValue entries key = .str (value member) := by
  obtain ⟨text, htext, h⟩ := bind_ok.mp (Outcome.mapError_eq_ok.mp h)
  unfold memberOf at h
  split at h
  · rename_i found hfind
    cases h
    have heq := List.find?_some hfind
    rw [getValue_of_textAt htext, of_decide_eq_true heq]
  · cases h

/-- The texts of `expected` stand in the dictionary, under the same keys. -/
def HasTexts (expected entries : PyDict) : Prop :=
  ∀ entry ∈ expected, ∃ text, entry.2 = .str text ∧
    entries.lookup entry.1 = some (.str text)

theorem hasTexts_cons {text : String} (h : getValue entries key = .str text)
    (hrest : HasTexts expected entries) :
    HasTexts ((key, .str text) :: expected) entries := by
  intro entry hentry
  rcases List.mem_cons.mp hentry with rfl | hentry
  · exact ⟨text, rfl, lookup_of_getValue h⟩
  · exact hrest entry hentry

theorem hasTexts_nil : HasTexts [] entries := fun _ h => absurd h List.not_mem_nil

/-- Texts are the same JSON value as a dictionary that has them, and no other key. -/
theorem reread_texts_iff {keys : List String} (hkeys : expected.map (·.1) = keys)
    (hnodup : keys.Nodup) (hentries : (entries.map (·.1)).Nodup)
    (htexts : HasTexts expected entries) :
    reread (.dict expected) (.dict entries) = true ↔ hasOnly keys entries = true := by
  have hfound : ∀ entry ∈ expected, ∃ other, entries.lookup entry.1 = some other ∧
      reread entry.2 other = true := by
    intro entry hentry
    obtain ⟨text, hvalue, hlookup⟩ := htexts entry hentry
    exact ⟨_, hlookup, by rw [hvalue, reread_str]⟩
  rw [reread_dict_iff (hkeys ▸ hnodup) hentries fun entry hentry =>
    (hfound entry hentry).imp fun _ h => h.1, hasOnly_iff, hkeys]
  exact ⟨fun h => h.1, fun h => ⟨h, hfound⟩⟩

end Reading

/-! ## Targets -/

section Targets

variable {repr : PyValue → String} {target : PyDict}

/-- What is read of a target stands in its descriptor. -/
theorem decodeNamedTarget_texts {α : Type} {kind key : String}
    {make : ∀ text : String, isBlank text = false → α} {found : α} (name : α → String)
    (hname : ∀ text h, name (make text h) = text)
    (h : decodeNamedTarget repr kind key make target = .ok found) :
    getValue target "kind" = .str kind ∧
      HasTexts [("kind", .str kind), (key, .str (name found))] target := by
  obtain ⟨_, hkind, h⟩ := bind_ok.mp h
  obtain ⟨text, htext, h⟩ := bind_ok.mp h
  cases h
  have hkind := getValue_of_requireKind hkind
  rw [hname]
  exact ⟨hkind, hasTexts_cons hkind
    (hasTexts_cons (getValue_of_nonemptyAt htext) hasTexts_nil)⟩

theorem decodeDataResourceTarget_texts {found : DataResourceTarget}
    (h : decodeDataResourceTarget repr target = .ok found) :
    getValue target "kind" = .str "data-resource" ∧
      HasTexts [("kind", .str "data-resource"), ("node_id", .str found.nodeId),
        ("resource_id", .str found.resourceId)] target := by
  obtain ⟨_, hkind, h⟩ := bind_ok.mp h
  obtain ⟨nodeId, hnode, h⟩ := bind_ok.mp h
  obtain ⟨resourceId, hresource, h⟩ := bind_ok.mp h
  cases h
  have hkind := getValue_of_requireKind hkind
  exact ⟨hkind, hasTexts_cons hkind (hasTexts_cons (getValue_of_nonemptyAt hnode)
    (hasTexts_cons (getValue_of_nonemptyAt hresource) hasTexts_nil))⟩

end Targets

/-! ## Subjects -/

section Subjects

variable {repr : PyValue → String} {entries : PyDict}

theorem decodeOwner_eq (entries : PyDict) :
    decodeOwner repr entries = match entries.lookup "owner" with
      | some value => decodeSubject repr "field owner" value
      | none => .error (notMapping "field owner") := by
  induction entries with
  | nil => rfl
  | cons entry entries ih =>
      obtain ⟨key, value⟩ := entry
      rw [decodeOwner, List.lookup_cons]
      by_cases hkey : key = "owner"
      · rw [if_pos hkey, hkey, beq_self_eq_true]
      · rw [if_neg hkey, beq_false_of_ne (Ne.symm hkey)]
        exact ih

/-- What is read of a subject that is no field stands in its descriptor. -/
theorem subjectOf_plain {owner : Except PlanCodecError DiffSubject}
    {subject : DiffSubject} {kind : String} (hkind : plainKind entries = some kind)
    (h : subjectOf repr entries owner = .ok subject) :
    ∃ expected, subject.descriptor = .dict expected ∧
    expected.map (·.1) = subjectKeys kind ∧
      HasTexts expected entries := by
  unfold plainKind at hkind
  split at hkind
  · rename_i found hvalue
    split at hkind
    · rename_i hplain
      cases hkind
      have hplain : kind ∈ plainKinds := by simpa using hplain
      simp only [plainKinds, List.mem_cons, List.not_mem_nil, or_false] at hplain
      unfold subjectOf at h
      rw [hvalue] at h
      rcases hplain with rfl | rfl | rfl | rfl | rfl
      · cases h
        exact ⟨_, rfl, rfl, hasTexts_cons hvalue hasTexts_nil⟩
      all_goals
        obtain ⟨text, htext, rfl⟩ := map_eq_ok.mp h
        exact ⟨_, rfl, rfl, hasTexts_cons hvalue
          (hasTexts_cons (getValue_of_textAt htext) hasTexts_nil)⟩
    · cases hkind
  · cases hkind

/-- Any other subject is a field, with the owner that was read. -/
theorem subjectOf_field {owner : Except PlanCodecError DiffSubject}
    {subject : DiffSubject} (hkind : plainKind entries = none)
    (h : subjectOf repr entries owner = .ok subject) :
    ∃ found fieldOwner structuralField key, owner = .ok found ∧
    ownerOf found = .ok fieldOwner ∧
      getValue entries "field" = .str structuralField.value ∧
      fieldKeyOf (getValue entries "key") = .ok key ∧
      subject = .field fieldOwner structuralField key := by
  unfold subjectOf at h
  split at h
  iterate 5 (rename_i hvalue; simp [plainKind, hvalue, plainKinds] at hkind)
  split at h
  · obtain ⟨structuralField, hfield, h⟩ := bind_ok.mp h
    obtain ⟨fieldOwner, howner, h⟩ := bind_ok.mp h
    obtain ⟨key, hkey, h⟩ := bind_ok.mp h
    obtain ⟨found, hfound, howner⟩ := bind_ok.mp howner
    cases h
    exact ⟨found, fieldOwner, structuralField, key, hfound, howner,
      getValue_of_memberAt hfield, hkey, rfl⟩
  · cases h

theorem subjectKeys_nodup (kind : String) : (subjectKeys kind).Nodup := by
  unfold subjectKeys
  split <;> decide

theorem ownerOf_descriptor {found : DiffSubject} {owner : DiffOwner}
    (h : ownerOf found = .ok owner) : found.descriptor = owner.descriptor := by
  cases found <;> cases h <;> rfl

/-- A plain subject is what it was read from when that has no other field. -/
theorem plain_reread {owner : Except PlanCodecError DiffSubject} {subject : DiffSubject}
    {kind : String} (hentries : (entries.map (·.1)).Nodup)
    (hkind : plainKind entries = some kind)
    (h : subjectOf repr entries owner = .ok subject) :
    reread subject.descriptor (.dict entries) = true ↔
      hasOnly (subjectKeys kind) entries = true := by
  obtain ⟨expected, hdescriptor, hkeys, htexts⟩ := subjectOf_plain hkind h
  rw [hdescriptor]
  exact reread_texts_iff hkeys (subjectKeys_nodup kind) hentries htexts

theorem decodeSubject_dict {name : String} {value : PyValue} {subject : DiffSubject}
    (h : decodeSubject repr name value = .ok subject) :
    ∃ entries, value = .dict entries ∧
      subjectOf repr entries (decodeOwner repr entries) = .ok subject := by
  cases value with
  | dict entries => exact ⟨entries, rfl, by rwa [decodeSubject] at h⟩
  | _ => rw [decodeSubject] at h <;> cases h

theorem owner_reread {value : PyValue} {found : DiffSubject} {owner : DiffOwner}
    (hkeyed : wellKeyed value = true)
    (h : decodeSubject repr "field owner" value = .ok found)
    (howner : ownerOf found = .ok owner) :
    reread owner.descriptor value = true ↔ closedOwner value = true := by
  obtain ⟨entries, rfl, h⟩ := decodeSubject_dict h
  rw [closedOwner, ← ownerOf_descriptor howner]
  cases hkind : plainKind entries with
  | some kind => exact plain_reread (wellKeyed_dict_iff.mp hkeyed).1 hkind h
  | none =>
      obtain ⟨_, _, _, _, -, -, -, -, rfl⟩ := subjectOf_field hkind h
      cases howner

/-- A key that is null or absent is absent when no null is written. -/
theorem only_without_key (h : getValue entries "key" = .none) :
    (∀ entry ∈ entries, entry.1 ∈ ["owner", "field"]) ↔
      (∀ entry ∈ entries, entry.1 ∈ ["owner", "field", "key"]) ∧
      keyIsText entries = true := by
  rw [getValue] at h
  unfold keyIsText
  cases hlookup : entries.lookup "key" with
  | none =>
      have habsent := List.lookup_eq_none_iff.mp hlookup
      refine ⟨fun honly => ⟨fun entry hentry => ?_, rfl⟩, fun honly entry hentry => ?_⟩
      · have := honly entry hentry
        simp only [List.mem_cons, List.not_mem_nil, or_false] at this ⊢
        exact this.imp_right .inl
      · have hkey : entry.1 ≠ "key" :=
          fun heq => by simpa [heq] using habsent entry hentry
        simpa [hkey] using honly.1 entry hentry
  | some value =>
      rw [hlookup, Option.getD_some] at h
      subst h
      refine ⟨fun honly => ?_, fun honly => by simp at honly⟩
      exact absurd (honly _ (mem_of_lookup hlookup)) (by decide)

/-- **A subject** is what it was read from when that has no other field. -/
theorem subject_reread {name : String} {value : PyValue} {subject : DiffSubject}
    (hkeyed : wellKeyed value = true)
    (h : decodeSubject repr name value = .ok subject) :
    reread subject.descriptor value = true ↔ closedSubject value = true := by
  obtain ⟨entries, rfl, h⟩ := decodeSubject_dict h
  obtain ⟨hentries, hvalues⟩ := wellKeyed_dict_iff.mp hkeyed
  rw [closedSubject]
  cases hkind : plainKind entries with
  | some kind => exact plain_reread hentries hkind h
  | none =>
      obtain ⟨found, owner, structuralField, key, hfound, howner, hfield, hkey, rfl⟩ :=
        subjectOf_field hkind h
      rw [decodeOwner_eq] at hfound
      cases hvalue : entries.lookup "owner" with
      | none => rw [hvalue] at hfound; cases hfound
      | some value =>
          rw [hvalue] at hfound
          have howner := owner_reread (hvalues _ (mem_of_lookup hvalue)) hfound howner
          have hget : getValue entries "owner" = value := by
            rw [getValue, hvalue, Option.getD_some]
          have hfield := lookup_of_getValue hfield
          simp only [hget, Bool.and_eq_true, hasOnly_iff, ← howner, field_descriptor]
          cases key with
          | some text =>
              have htext : entries.lookup "key" = some (.str text) := by
                unfold fieldKeyOf at hkey
                split at hkey <;> cases hkey
                exact lookup_of_getValue ‹_›
              rw [reread_dict_iff (by simp [keyEntry]) hentries]
              · simp [keyEntry, hvalue, hfield, htext, keyIsText, reread_str]
              · simp [keyEntry, hvalue, hfield, htext]
          | none =>
              have hnone : getValue entries "key" = .none := by
                unfold fieldKeyOf at hkey
                split at hkey <;> cases hkey
                assumption
              rw [reread_dict_iff
                (by simp [keyEntry]) hentries, ← only_without_key hnone]
              · simp [keyEntry, hvalue, hfield, reread_str]
              · simp [keyEntry, hvalue, hfield]

end Subjects

/-! ## Operations -/

section Operations

variable {repr : PyValue → String} {entries target : PyDict}
  {operation : ActivityOperation}

theorem targetKeys_nodup (kind : String) : (targetKeys kind).Nodup := by
  unfold targetKeys
  split <;> decide

/-- What is read of an operation that reviews nothing stands in its target. -/
theorem operationOf_targeted {kind : String} (hreview : kind ≠ "review-change")
    (h : operationOf repr entries target kind = .ok operation) :
    ∃ expected targetKind, encodeOperation operation = targeted kind (.dict expected) ∧
      targetKind ≠ "change" ∧ getValue target "kind" = .str targetKind ∧
      expected.map (·.1) = targetKeys targetKind ∧ HasTexts expected target := by
  unfold operationOf at h
  split at h
  case h_16 => exact absurd rfl hreview
  case h_17 => cases h
  all_goals
    obtain ⟨found, hfound, rfl⟩ := map_eq_ok.mp h
    first
    | obtain ⟨hkind, htexts⟩ :=
        decodeNamedTarget_texts NodeTarget.nodeId (fun _ _ => rfl) hfound
      exact ⟨_, "node", rfl, by decide, hkind, rfl, htexts⟩
    | obtain ⟨hkind, htexts⟩ :=
        decodeNamedTarget_texts RuntimeTarget.runtimeId (fun _ _ => rfl) hfound
      exact ⟨_, "runtime", rfl, by decide, hkind, rfl, htexts⟩
    | obtain ⟨hkind, htexts⟩ :=
        decodeNamedTarget_texts SocketConnectionTarget.edgeId (fun _ _ => rfl) hfound
      exact ⟨_, "socket-connection", rfl, by decide, hkind, rfl, htexts⟩
    | obtain ⟨hkind, htexts⟩ := decodeNamedTarget_texts
        PublicIngressActivityTarget.ingressId (fun _ _ => rfl) hfound
      exact ⟨_, "public-ingress", rfl, by decide, hkind, rfl, htexts⟩
    | obtain ⟨hkind, htexts⟩ := decodeDataResourceTarget_texts hfound
      exact ⟨_, "data-resource", rfl, by decide, hkind, rfl, htexts⟩

theorem lookup_of_mappingOf {key name : String}
    (h : mappingOf name (getValue entries key) = .ok target) :
    entries.lookup key = some (.dict target) := by
  unfold mappingOf at h
  split at h
  · cases h
    exact lookup_of_dict ‹_›
  · cases h

theorem targeted_reread {kind : String} (hkeyed : wellKeyed (.dict entries) = true)
    (hreview : kind ≠ "review-change") (hkind : getValue entries "kind" = .str kind)
    (htarget : entries.lookup "target" = some (.dict target))
    (h : operationOf repr entries target kind = .ok operation) :
    reread (encodeOperation operation) (.dict entries) = true ↔
      closedOperation entries = true := by
  obtain ⟨expected, targetKind, hencode, hchange, htargetKind, hkeys, htexts⟩ :=
    operationOf_targeted hreview h
  obtain ⟨hentries, hvalues⟩ := wellKeyed_dict_iff.mp hkeyed
  have hinner := reread_texts_iff hkeys (targetKeys_nodup targetKind)
    (wellKeyed_dict_iff.mp (hvalues _ (mem_of_lookup htarget))).1 htexts
  have hlookup := lookup_of_getValue hkind
  have hget : getValue entries "target" = .dict target := by
    rw [getValue, htarget, Option.getD_some]
  have hoperation : operationKeys kind = ["kind", "target"] := by
    unfold operationKeys
    split
    · exact absurd rfl hreview
    · rfl
  rw [hencode, targeted,
    reread_dict_iff (by simp) hentries (by simp [hlookup, htarget]),
    closedOperation, hkind]
  simp only [hget, closedTarget, htargetKind, hoperation, hasOnly_iff] at hinner ⊢
  simp [hlookup, htarget, reread_str, hinner, hchange, hasOnly_iff]

theorem review_reread (hkeyed : wellKeyed (.dict entries) = true)
    (hkind : getValue entries "kind" = .str "review-change")
    (htarget : entries.lookup "target" = some (.dict target))
    (h : operationOf repr entries target "review-change" = .ok operation) :
    reread (encodeOperation operation) (.dict entries) = true ↔
      closedOperation entries = true := by
  rw [operationOf_review] at h
  obtain ⟨_, hchange, h⟩ := bind_ok.mp h
  obtain ⟨reason, hreason, h⟩ := bind_ok.mp h
  obtain ⟨subject, hsubject, h⟩ := bind_ok.mp h
  cases h
  obtain ⟨hentries, hvalues⟩ := wellKeyed_dict_iff.mp hkeyed
  obtain ⟨hinner, hsubjects⟩ :=
    wellKeyed_dict_iff.mp (hvalues _ (mem_of_lookup htarget))
  have hchange := getValue_of_requireKind hchange
  have hget : getValue entries "target" = .dict target := by
    rw [getValue, htarget, Option.getD_some]
  have hlookup := lookup_of_getValue hkind
  have hreason := lookup_of_getValue (getValue_of_memberAt hreason)
  have hchangeLookup := lookup_of_getValue hchange
  obtain ⟨value, hvalue, hget'⟩ : ∃ value, target.lookup "subject" = some value ∧
      getValue target "subject" = value := by
    obtain ⟨found, hfound, -⟩ := decodeSubject_dict hsubject
    cases hlookup : target.lookup "subject" with
    | none => rw [getValue, hlookup] at hfound; cases hfound
    | some value => exact ⟨value, rfl, by rw [getValue, hlookup, Option.getD_some]⟩
  rw [hget'] at hsubject
  have hsame := subject_reread (hsubjects _ (mem_of_lookup hvalue)) hsubject
  have htargets : reread (.dict [("kind", .str "change"),
      ("subject", subject.descriptor)]) (.dict target) = true ↔
      closedTarget (.dict target) = true := by
    rw [reread_dict_iff (by simp) hinner (by simp [hchangeLookup, hvalue]),
      closedTarget, hchange]
    simp [hchangeLookup, hvalue, hget', hsame, reread_str, hasOnly_iff, targetKeys]
  rw [encodeOperation,
    reread_dict_iff (by simp) hentries (by simp [hlookup, htarget, hreason]),
    closedOperation, hkind]
  simp only [hget, ← htargets, hasOnly_iff, operationKeys, Bool.and_eq_true]
  simp [hlookup, htarget, hreason, reread_str]

/-- **An operation** is what it was read from when that has no other field, and neither
have its target and its subject. -/
theorem operation_reread (hkeyed : wellKeyed (.dict entries) = true)
    (h : decodeOperation repr entries = .ok operation) :
    reread (encodeOperation operation) (.dict entries) = true ↔
      closedOperation entries = true := by
  obtain ⟨kind, hkind, h⟩ := bind_ok.mp h
  obtain ⟨target, htarget, h⟩ := bind_ok.mp h
  have hkind := getValue_of_textAt hkind
  have htarget := lookup_of_mappingOf htarget
  by_cases hreview : kind = "review-change"
  · subst hreview
    exact review_reread hkeyed hkind htarget h
  · exact targeted_reread hkeyed hreview hkind htarget h

end Operations

/-! ## Errors -/

/-- An error that is no `RuntimeError`. -/
def PlanCodecError.IsValueError : PlanCodecError → Prop
  | .runtimeError _ => False
  | _ => True

section Errors

variable {repr : PyValue → String} {entries : PyDict}

theorem requirePlan_errors {condition : Bool} {error : PlanCodecError}
    (h : error.IsValueError) :
    ErrorsIn PlanCodecError.IsValueError (requirePlan condition error) := by
  unfold requirePlan
  split
  · exact .ok ()
  · exact .error h

theorem textAt_errors (key : String) :
    ErrorsIn PlanCodecError.IsValueError (textAt entries key) := by
  unfold textAt primitiveText
  split
  · split
    · exact .error trivial
    · exact .ok _
  · exact .error trivial

theorem memberAt_errors {α : Type} {members : List α} {value : α → String}
    {className : String} (key : String) :
    ErrorsIn PlanCodecError.IsValueError
      (memberAt repr members value className entries key) :=
  .mapError fun _ => trivial

theorem requireKind_errors (kind : String) :
    ErrorsIn PlanCodecError.IsValueError (requireKind repr entries kind) :=
  .bind (textAt_errors _) fun _ _ => requirePlan_errors trivial

theorem nonemptyAt_errors (key : String) :
    ErrorsIn PlanCodecError.IsValueError (nonemptyAt entries key) := by
  unfold nonemptyAt
  split
  · split
    · exact .ok _
    · exact .error trivial
  · exact .error trivial

theorem subjectOf_errors {owner : Except PlanCodecError DiffSubject}
    (howner : ErrorsIn PlanCodecError.IsValueError owner) :
    ErrorsIn PlanCodecError.IsValueError (subjectOf repr entries owner) := by
  unfold subjectOf
  split
  · exact .ok _
  iterate 4 exact .map (textAt_errors _)
  split
  · refine .bind (memberAt_errors _) fun _ _ =>
        .bind (.bind howner fun found _ => ?_) fun _ _ =>
      .bind ?_ fun _ _ => .ok _
    · cases found <;> first | exact .ok _ | exact .error trivial
    · unfold fieldKeyOf
      split <;> first | exact .ok _ | exact .error trivial
  · exact .error trivial

mutual

theorem decodeSubject_errors (name : String) : ∀ value : PyValue,
    ErrorsIn PlanCodecError.IsValueError (decodeSubject repr name value)
  | .dict entries => by
      rw [decodeSubject]
      exact subjectOf_errors (decodeOwner_errors entries)
  | .none | .bool _ | .int _ | .float _ | .str _ | .list _ | .tuple _
  | .object _ _ => by
      rw [decodeSubject]
      · exact .error trivial
      · exact nofun

theorem decodeOwner_errors : ∀ entries : List (String × PyValue),
    ErrorsIn PlanCodecError.IsValueError (decodeOwner repr entries)
  | [] => .error trivial
  | (key, value) :: entries => by
      rw [decodeOwner]
      split
      · exact decodeSubject_errors "field owner" value
      · exact decodeOwner_errors entries

end

theorem operationOf_errors {target : PyDict} (kind : String) :
    ErrorsIn PlanCodecError.IsValueError (operationOf repr entries target kind) := by
  unfold operationOf
  split
  case h_16 =>
    exact .bind (requireKind_errors _) fun _ _ => .bind (memberAt_errors _) fun _ _ =>
      .bind (decodeSubject_errors _ _) fun _ _ => .ok _
  case h_17 => exact .error trivial
  case h_15 =>
    exact .map (.bind (requireKind_errors _) fun _ _ =>
        .bind (nonemptyAt_errors _) fun _ _ =>
      .bind (nonemptyAt_errors _) fun _ _ => .ok _)
  all_goals
    exact .map (.bind (requireKind_errors _) fun _ _ =>
      .bind (nonemptyAt_errors _) fun _ _ => .ok _)

/-- Reading an operation raises nothing but the errors of the codec. -/
theorem decodeOperation_errors :
    ErrorsIn PlanCodecError.IsValueError (decodeOperation repr entries) := by
  refine .bind (textAt_errors _) fun kind _ => .bind ?_ fun _ _ =>
    operationOf_errors kind
  unfold mappingOf
  split
  · exact .ok _
  · exact .error trivial

end Errors

end ControlPlaneKit.Planning
