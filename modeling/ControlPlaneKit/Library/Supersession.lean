import ControlPlaneKit.Library.EventFold
import Mathlib.Data.List.Nodup
import Mathlib.Data.List.Pairwise

/-!
# Supersession — registrations that replace one another

A subject is registered once, and each later registration names the one it
supersedes.  A row is active until it is superseded or revoked, and stays in the
table.  While a row is active only that row may be superseded; when none is, any
row of the subject may be named.

## Main results

* `Move.sound` — identities are distinct and only the last row of a subject is
  active.
* `Move.settled` — a row that is not active never changes again.
* `Move.chained_iff` — the rows of every subject stay one chain exactly when a
  registration over a revoked row names the newest.
-/

namespace ControlPlaneKit.Library.Supersession

inductive RegistrationStatus where
  | active
  | revoked
  | superseded
  deriving DecidableEq, Repr

/-- A row's place in the table; it never changes. -/
structure Link (κ : Type) where
  registrationId : String
  scope : String
  subject : κ
  supersedes : Option String

structure Registration (κ μ : Type) extends Link κ where
  material : μ
  admittedBy : String
  admittedAt : String
  status : RegistrationStatus
  revokedBy : Option String
  revokedAt : Option String

variable {κ μ ε : Type} [DecidableEq κ]

def Link.isOf (link : Link κ) (scope : String) (subject : κ) : Bool :=
  link.scope = scope && link.subject = subject

/-! ## Reading -/

/-- The row of an identity in a scope. -/
def byId (rows : List (Registration κ μ)) (scope registrationId : String) :
    Option (Registration κ μ) :=
  rows.find? fun row => row.scope = scope && row.registrationId = registrationId

/-- The rows of a subject, in the order they were inserted. -/
def chain (rows : List (Registration κ μ)) (scope : String) (subject : κ) :
    List (Registration κ μ) :=
  rows.filter fun row => row.isOf scope subject

def activeOf (rows : List (Registration κ μ)) (scope : String) (subject : κ) :
    Option (Registration κ μ) :=
  (chain rows scope subject).find? (·.status = .active)

/-- The rows of a subject by the instant they were admitted, then by identity. -/
def listHistory (instant : String → Nat) (rows : List (Registration κ μ))
    (scope : String) (subject : κ) : List (Registration κ μ) :=
  (chain rows scope subject).mergeSort fun a b =>
    instant a.admittedAt < instant b.admittedAt ||
      (instant a.admittedAt = instant b.admittedAt &&
        a.registrationId ≤ b.registrationId)

/-! ## Writing -/

/-- What a register or a revocation raises. -/
structure Refusals (ε : Type) where
  unnamed : ε
  invalidTarget : ε
  stale : ε
  taken : ε
  missing : ε
  notActive : ε
  lost : ε

/-- An update of the selected rows that are active. -/
def updateActive (selected : Registration κ μ → Bool)
    (update : Registration κ μ → Registration κ μ) (rows : List (Registration κ μ)) :
    List (Registration κ μ) :=
  rows.map fun row => if selected row && row.status = .active then update row else row

def supersededRow (row : Registration κ μ) : Registration κ μ :=
  { row with status := .superseded }

def revokedRow (revokedBy revokedAt : String) (row : Registration κ μ) :
    Registration κ μ :=
  { row with
      status := .revoked, revokedBy := some revokedBy, revokedAt := some revokedAt }

def hasId (scope registrationId : String) (row : Registration κ μ) : Bool :=
  row.scope = scope && row.registrationId = registrationId

/-- The insertion, with the table's primary key. -/
def insertRow (taken : ε) (rows : List (Registration κ μ))
    (candidate : Registration κ μ) :
    Except ε (Registration κ μ × List (Registration κ μ)) :=
  if rows.any fun row => row.registrationId = candidate.registrationId then .error taken
  else .ok (candidate, rows ++ [candidate])

/-- `_validate_supersession(candidate, active)`. -/
def validateSupersession (refusals : Refusals ε) (rows : List (Registration κ μ))
    (candidate : Registration κ μ) (active : Option (Registration κ μ)) :
    Except ε Unit :=
  match candidate.supersedes with
  | none =>
      if active.isSome || !(chain rows candidate.scope candidate.subject).isEmpty then
        .error refusals.unnamed
      else .ok ()
  | some supersedes =>
      match byId rows candidate.scope supersedes with
      | none => .error refusals.invalidTarget
      | some target =>
          if target.subject ≠ candidate.subject then .error refusals.invalidTarget
          else match active with
            | none => .ok ()
            | some active =>
                if active.registrationId ≠ supersedes then .error refusals.stale
                else .ok ()

/-- `register(candidate)`. -/
def register (refusals : Refusals ε) (same : Registration κ μ → Registration κ μ → Bool)
    (rows : List (Registration κ μ)) (candidate : Registration κ μ) :
    Except ε (Registration κ μ × List (Registration κ μ)) :=
  match byId rows candidate.scope candidate.registrationId with
  | some existing => .ok (existing, rows)
  | none =>
      match activeOf rows candidate.scope candidate.subject with
      | some active =>
          if same active candidate then .ok (active, rows)
          else do
            validateSupersession refusals rows candidate (some active)
            insertRow refusals.taken
              (updateActive (hasId candidate.scope active.registrationId)
                supersededRow rows)
              candidate
      | none => do
          validateSupersession refusals rows candidate none
          insertRow refusals.taken rows candidate

theorem register_empty {refusals : Refusals ε}
    {same : Registration κ μ → Registration κ μ → Bool} {candidate : Registration κ μ}
    (h : candidate.supersedes = none) :
    register refusals same [] candidate = .ok (candidate, [candidate]) := by
  simp only [register, byId, activeOf, chain, validateSupersession, insertRow,
    List.find?_nil, List.filter_nil, h]
  rfl

/-- Revoke the active row of a subject; with none active, the newest row by the
instants answers if it is revoked. -/
def revokeActive (refusals : Refusals ε) (instant : String → Nat)
    (scope : String) (subject : κ) (revokedBy revokedAt : String)
    (rows : List (Registration κ μ)) :
    Except ε (Registration κ μ × List (Registration κ μ)) :=
  match activeOf rows scope subject with
  | some active =>
      let after := updateActive (hasId scope active.registrationId)
        (revokedRow revokedBy revokedAt) rows
      match byId after scope active.registrationId with
      | some revoked => .ok (revoked, after)
      | none => .error refusals.lost
  | none =>
      match (listHistory instant rows scope subject).getLast? with
      | some last =>
          if last.status = .revoked then .ok (last, rows) else .error refusals.missing
      | none => .error refusals.missing

/-- Revoke the row of an identity, unless it is revoked already. -/
def revokeById (refusals : Refusals ε)
    (scope registrationId revokedBy revokedAt : String)
    (rows : List (Registration κ μ)) :
    Except ε (Registration κ μ × List (Registration κ μ)) :=
  match byId rows scope registrationId with
  | none => .error refusals.missing
  | some current =>
      if current.status = .revoked then .ok (current, rows)
      else if current.status ≠ .active then .error refusals.notActive
      else
        let after := updateActive (hasId scope registrationId)
          (revokedRow revokedBy revokedAt) rows
        match byId after scope registrationId with
        | some revoked => .ok (revoked, after)
        | none => .error refusals.lost

/-! ## Invariants -/

structure Sound (rows : List (Registration κ μ)) : Prop where
  distinct : (rows.map (·.registrationId)).Nodup
  /-- A row that another of its subject follows is not active. -/
  lastActive : rows.Pairwise fun a b =>
    a.scope = b.scope → a.subject = b.subject → a.status ≠ .active

/-- Rows that are not active stay as they are. -/
def Settled (rows after : List (Registration κ μ)) : Prop :=
  ∀ row ∈ rows, row.status ≠ .active → row ∈ after

/-- Each row supersedes the one before it. -/
def LinkedFrom : Option String → List (Link κ) → Prop
  | _, [] => True
  | before, link :: rest =>
      link.supersedes = before ∧ LinkedFrom (some link.registrationId) rest

/-- The rows of every subject are one chain. -/
def Chained (rows : List (Registration κ μ)) : Prop :=
  ∀ scope subject, LinkedFrom none ((chain rows scope subject).map (·.toLink))

/-- One row of a subject is active. -/
def OneActive (rows : List (Registration κ μ)) : Prop :=
  ∀ scope subject, ((chain rows scope subject).filter (·.status = .active)).length ≤ 1

/-- A registration that is made while no row of its subject is active names, if it
names one, the newest. -/
def NamesNewest (rows : List (Registration κ μ))
    (candidate : Registration κ μ) : Prop :=
  activeOf rows candidate.scope candidate.subject = none →
    (∀ row ∈ rows, row.registrationId ≠ candidate.registrationId) →
    ∀ target ∈ chain rows candidate.scope candidate.subject,
      candidate.supersedes = some target.registrationId →
        (chain rows candidate.scope candidate.subject).getLast? = some target

/-- Every row stays, but for what becomes of its status. -/
def Kept (rows after : List (Registration κ μ)) : Prop :=
  ∀ row ∈ rows, ∃ kept ∈ after, kept.toLink = row.toLink ∧ kept.material = row.material

/-- An update that keeps the links and the material and leaves no row active. -/
structure Retires (update : Registration κ μ → Registration κ μ) : Prop where
  link : ∀ row, (update row).toLink = row.toLink
  material : ∀ row, (update row).material = row.material
  status : ∀ row, (update row).status ≠ .active

/-- What a command makes of a table. -/
inductive Move (rows : List (Registration κ μ)) : List (Registration κ μ) → Prop where
  | keep : Move rows rows
  | first (candidate : Registration κ μ) (hactive : candidate.status = .active)
      (hfree : ∀ row ∈ rows, row.registrationId ≠ candidate.registrationId)
      (hnone : chain rows candidate.scope candidate.subject = [])
      (hsupersedes : candidate.supersedes = none) :
      Move rows (rows ++ [candidate])
  | resume (candidate target : Registration κ μ) (hactive : candidate.status = .active)
      (hfree : ∀ row ∈ rows, row.registrationId ≠ candidate.registrationId)
      (hnone : activeOf rows candidate.scope candidate.subject = none)
      (htarget : target ∈ chain rows candidate.scope candidate.subject)
      (hsupersedes : candidate.supersedes = some target.registrationId) :
      Move rows (rows ++ [candidate])
  | replace (candidate active : Registration κ μ) (hactive : candidate.status = .active)
      (hfree : ∀ row ∈ rows, row.registrationId ≠ candidate.registrationId)
      (hcurrent : activeOf rows candidate.scope candidate.subject = some active)
      (hsupersedes : candidate.supersedes = some active.registrationId) :
      Move rows (updateActive (hasId candidate.scope active.registrationId)
        supersededRow rows ++
        [candidate])
  | retire (selected : Registration κ μ → Bool)
      (update : Registration κ μ → Registration κ μ) (hretires : Retires update) :
      Move rows (updateActive selected update rows)

variable {rows after : List (Registration κ μ)}
  {row candidate active : Registration κ μ} {selected : Registration κ μ → Bool}
  {update : Registration κ μ → Registration κ μ} {scope : String} {subject : κ}

/-! ## Reading a table -/

theorem Link.isOf_iff {link : Link κ} :
    link.isOf scope subject = true ↔ link.scope = scope ∧ link.subject = subject := by
  simp [Link.isOf]

theorem mem_chain : row ∈ chain rows scope subject ↔
    row ∈ rows ∧ row.scope = scope ∧ row.subject = subject := by
  rw [chain, List.mem_filter, Link.isOf_iff]

theorem activeOf_eq_some (h : activeOf rows scope subject = some row) :
    row ∈ chain rows scope subject ∧ row.status = .active :=
  ⟨List.mem_of_find?_eq_some h, by simpa using List.find?_some h⟩

theorem activeOf_eq_none : activeOf rows scope subject = none ↔
    ∀ row ∈ rows, row.scope = scope → row.subject = subject → row.status ≠ .active := by
  simp only [activeOf, List.find?_eq_none, mem_chain, decide_eq_true_eq, and_imp, ne_eq]

omit [DecidableEq κ] in
theorem byId_eq_some {registrationId : String}
    (h : byId rows scope registrationId = some row) :
    row ∈ rows ∧ row.scope = scope ∧ row.registrationId = registrationId := by
  have hrow := List.find?_some h
  simp only [Bool.and_eq_true, decide_eq_true_eq] at hrow
  exact ⟨List.mem_of_find?_eq_some h, hrow⟩

omit [DecidableEq κ] in
theorem byId_eq_none {registrationId : String} : byId rows scope registrationId = none ↔
    ∀ row ∈ rows, row.scope = scope → row.registrationId ≠ registrationId := by
  simp [byId]

/-- The links of a subject's rows, whatever their status. -/
theorem chain_toLink (rows : List (Registration κ μ)) (scope : String) (subject : κ) :
    (chain rows scope subject).map (·.toLink) =
      (rows.map (·.toLink)).filter (·.isOf scope subject) := by
  rw [List.filter_map]
  rfl

/-! ## Updating active rows -/

omit [DecidableEq κ] in
theorem updateActive_toLink (hretires : Retires update) :
    (updateActive selected update rows).map (·.toLink) = rows.map (·.toLink) := by
  rw [updateActive, List.map_map]
  refine List.map_congr_left fun row _ => ?_
  rw [Function.comp_apply]
  split
  · exact hretires.link row
  · rfl

omit [DecidableEq κ] in
theorem toLink_ids (rows : List (Registration κ μ)) :
    (rows.map (·.toLink)).map (·.registrationId) = rows.map (·.registrationId) := by
  rw [List.map_map]
  rfl

omit [DecidableEq κ] in
/-- A row of an updated table is an old one that was not selected, or is no longer
active. -/
theorem mem_updateActive (hretires : Retires update)
    (hrow : row ∈ updateActive selected update rows) :
    ∃ old ∈ rows, row.toLink = old.toLink ∧
      (row.status = .active → row = old ∧ selected old = false) := by
  obtain ⟨old, hold, rfl⟩ := List.mem_map.mp hrow
  refine ⟨old, hold, ?_⟩
  split
  · exact ⟨hretires.link old, fun h => absurd h (hretires.status old)⟩
  · rename_i hselected
    refine ⟨rfl, fun h => ⟨rfl, ?_⟩⟩
    simpa [h] using hselected

omit [DecidableEq κ] in
theorem settled_updateActive : Settled rows (updateActive selected update rows) := by
  intro row hrow hstatus
  refine List.mem_map.mpr ⟨row, hrow, if_neg ?_⟩
  simp [hstatus]

omit [DecidableEq κ] in
theorem kept_updateActive (hretires : Retires update) :
    Kept rows (updateActive selected update rows) := by
  intro row hrow
  refine ⟨_, List.mem_map.mpr ⟨row, hrow, rfl⟩, ?_⟩
  split
  · exact ⟨hretires.link row, hretires.material row⟩
  · exact ⟨rfl, rfl⟩

omit [DecidableEq κ] in
theorem Kept.trans {middle : List (Registration κ μ)} (h : Kept rows middle)
    (h' : Kept middle after) : Kept rows after := by
  intro row hrow
  obtain ⟨kept, hkept, hlink, hmaterial⟩ := h row hrow
  obtain ⟨last, hlast, hlink', hmaterial'⟩ := h' kept hkept
  exact ⟨last, hlast, hlink'.trans hlink, hmaterial'.trans hmaterial⟩

omit [DecidableEq κ] in
theorem retires_supersededRow : Retires (supersededRow (κ := κ) (μ := μ)) where
  link _ := rfl
  material _ := rfl
  status _ := by simp [supersededRow]

omit [DecidableEq κ] in
theorem retires_revokedRow (revokedBy revokedAt : String) :
    Retires (revokedRow (κ := κ) (μ := μ) revokedBy revokedAt) where
  link _ := rfl
  material _ := rfl
  status _ := by simp [revokedRow]

/-! ## What the tables keep -/

omit [DecidableEq κ] in
theorem sound_nil : Sound ([] : List (Registration κ μ)) where
  distinct := by simp
  lastActive := by simp

omit [DecidableEq κ] in
theorem Sound.updateActive (hsound : Sound rows) (hretires : Retires update) :
    Sound (updateActive selected update rows) where
  distinct := by
    rw [← toLink_ids, updateActive_toLink hretires, toLink_ids]
    exact hsound.distinct
  lastActive := by
    refine List.pairwise_map.mpr (hsound.lastActive.imp fun {a b} hab => ?_)
    have hlink : ∀ row : Registration κ μ,
        (if selected row && decide (row.status = .active) then update row
          else row).toLink =
          row.toLink := by
      intro row
      split
      · exact hretires.link row
      · rfl
    intro hscope hsubject
    have hscope' : a.scope = b.scope := by
      rw [← congrArg Link.scope (hlink a), ← congrArg Link.scope (hlink b)]
      exact hscope
    have hsubject' : a.subject = b.subject := by
      rw [← congrArg Link.subject (hlink a), ← congrArg Link.subject (hlink b)]
      exact hsubject
    split
    · exact hretires.status a
    · exact hab hscope' hsubject'

/-- A row is inserted when no row of its subject is active. -/
theorem Sound.insert (hsound : Sound rows)
    (hfree : ∀ row ∈ rows, row.registrationId ≠ candidate.registrationId)
    (hnone : activeOf rows candidate.scope candidate.subject = none) :
    Sound (rows ++ [candidate]) where
  distinct := by
    rw [List.map_append, List.map_singleton, ← List.concat_eq_append]
    refine hsound.distinct.concat fun hmem => ?_
    obtain ⟨row, hrow, hid⟩ := List.mem_map.mp hmem
    exact hfree row hrow hid
  lastActive := by
    refine List.pairwise_append.mpr ⟨hsound.lastActive, List.pairwise_singleton _ _, ?_⟩
    intro a ha b hb hscope hsubject
    rw [List.mem_singleton.mp hb] at hscope hsubject
    exact activeOf_eq_none.mp hnone a ha hscope hsubject

omit [DecidableEq κ] in
theorem Sound.eq_of_id (hsound : Sound rows) {a b : Registration κ μ} (ha : a ∈ rows)
    (hb : b ∈ rows) (hid : a.registrationId = b.registrationId) : a = b :=
  List.inj_on_of_nodup_map hsound.distinct ha hb hid

omit [DecidableEq κ] in
theorem Sound.active_unique (hsound : Sound rows) {a b : Registration κ μ}
    (ha : a ∈ rows) (hb : b ∈ rows) (hscope : a.scope = b.scope)
    (hsubject : a.subject = b.subject) (haactive : a.status = .active)
    (hbactive : b.status = .active) : a = b := by
  by_contra hne
  let Apart (a b : Registration κ μ) : Prop :=
    a.scope = b.scope → a.subject = b.subject →
    ¬ (a.status = .active ∧ b.status = .active)
  have hsymm : Std.Symm Apart := ⟨fun a b h hs hk hboth => h hs.symm hk.symm hboth.symm⟩
  have hpair : rows.Pairwise Apart :=
    hsound.lastActive.imp fun h hs hk hboth => h hs hk hboth.1
  exact hpair.forall ha hb hne hscope hsubject ⟨haactive, hbactive⟩

/-- The active row of a subject is superseded; then none is. -/
theorem Sound.activeOf_superseded (hsound : Sound rows)
    (hcurrent : activeOf rows scope subject = some active) :
    activeOf
      (Supersession.updateActive (hasId scope active.registrationId) supersededRow rows)
      scope subject = none := by
  obtain ⟨hmem, hactive⟩ := activeOf_eq_some hcurrent
  obtain ⟨hrows, hscope, hsubject⟩ := mem_chain.mp hmem
  refine activeOf_eq_none.mpr fun row hrow hrowscope hrowsubject hrowactive => ?_
  obtain ⟨old, hold, -, hkept⟩ := mem_updateActive retires_supersededRow hrow
  obtain ⟨rfl, hselected⟩ := hkept hrowactive
  have heq := hsound.active_unique hold hrows (hrowscope.trans hscope.symm)
    (hrowsubject.trans hsubject.symm) hrowactive hactive
  rw [heq, hasId, hscope] at hselected
  simp at hselected

omit [DecidableEq κ] in
theorem free_updateActive (hretires : Retires update)
    (hfree : ∀ row ∈ rows, row.registrationId ≠ candidate.registrationId) :
    ∀ row ∈ updateActive selected update rows,
      row.registrationId ≠ candidate.registrationId := by
  intro row hrow
  obtain ⟨old, hold, hlink, -⟩ := mem_updateActive hretires hrow
  rw [congrArg Link.registrationId hlink]
  exact hfree old hold

/-- **The table's invariant.** -/
theorem Move.sound (hmove : Move rows after) (hsound : Sound rows) : Sound after := by
  cases hmove with
  | keep => exact hsound
  | first candidate _ hfree hnone _ =>
      refine hsound.insert hfree
        (activeOf_eq_none.mpr fun row hrow hscope hsubject => ?_)
      have hmem : row ∈ chain rows candidate.scope candidate.subject :=
        mem_chain.mpr ⟨hrow, hscope, hsubject⟩
      rw [hnone] at hmem
      cases hmem
  | resume candidate target _ hfree hnone _ _ => exact hsound.insert hfree hnone
  | replace candidate active _ hfree hcurrent _ =>
      exact (hsound.updateActive retires_supersededRow).insert
        (free_updateActive retires_supersededRow hfree)
        (hsound.activeOf_superseded hcurrent)
  | retire selected update hretires => exact hsound.updateActive hretires

/-- **A row that is not active never changes.** -/
theorem Move.settled (hmove : Move rows after) : Settled rows after := by
  cases hmove with
  | keep => exact fun row hrow _ => hrow
  | first | resume => exact fun row hrow _ => List.mem_append_left _ hrow
  | replace =>
      exact fun row hrow h => List.mem_append_left _ (settled_updateActive row hrow h)
  | retire => exact settled_updateActive

/-- **No row is lost**, and none says anything else than it did. -/
theorem Move.kept (hmove : Move rows after) : Kept rows after := by
  cases hmove with
  | keep => exact fun row hrow => ⟨row, hrow, rfl, rfl⟩
  | first | resume => exact fun row hrow => ⟨row, List.mem_append_left _ hrow, rfl, rfl⟩
  | replace =>
      intro row hrow
      obtain ⟨kept, hkept, hsame⟩ := kept_updateActive retires_supersededRow row hrow
      exact ⟨kept, List.mem_append_left _ hkept, hsame⟩
  | retire _ _ hretires => exact kept_updateActive hretires

/-- One row of a subject is active. -/
theorem Sound.one_active (hsound : Sound rows) : OneActive rows := by
  intro scope subject
  have hpair : ((chain rows scope subject).filter (·.status = .active)).Pairwise
      fun a _ => a.status ≠ .active := by
    refine List.Pairwise.imp_of_mem (fun {a b} ha hb h => ?_)
      (hsound.lastActive.sublist (List.filter_sublist.trans List.filter_sublist))
    have ha := (mem_chain.mp (List.mem_of_mem_filter ha)).2
    have hb := (mem_chain.mp (List.mem_of_mem_filter hb)).2
    exact h (ha.1.trans hb.1.symm) (ha.2.trans hb.2.symm)
  match hactive : (chain rows scope subject).filter (·.status = .active) with
  | [] => rw [hactive]; exact Nat.zero_le 1
  | [_] => rw [hactive]; exact Nat.le_refl 1
  | a :: b :: rest =>
      rw [hactive] at hpair
      have ha : a ∈ (chain rows scope subject).filter (·.status = .active) := by
        simp [hactive]
      exact absurd (by simpa using List.of_mem_filter ha)
        ((List.pairwise_cons.mp hpair).1 b (by simp))

/-! ## One chain -/

omit [DecidableEq κ] in
theorem linkedFrom_concat {links : List (Link κ)} {link : Link κ} :
    ∀ {before : Option String},
    LinkedFrom before (links ++ [link]) ↔
      LinkedFrom before links ∧
        link.supersedes = (links.getLast?.map (·.registrationId)).or before := by
  induction links with
  | nil => intro before; simp [LinkedFrom]
  | cons first rest ih =>
      intro before
      rw [List.cons_append, LinkedFrom, LinkedFrom, ih, and_assoc]
      cases rest with
      | nil => simp
      | cons second rest => simp [List.getLast?_cons]

omit [DecidableEq κ] in
/-- What a chain's links supersede, in order, is what stood before each. -/
theorem LinkedFrom.stood_before {links : List (Link κ)} : ∀ {before : Option String},
    LinkedFrom before links →
      links.map (·.supersedes) <+: before :: links.map fun link =>
        some link.registrationId := by
  induction links with
  | nil => intro before _; exact List.nil_prefix
  | cons first rest ih =>
      rintro before ⟨hfirst, hrest⟩
      rw [List.map_cons, List.map_cons, hfirst]
      exact (List.cons_prefix_cons).mpr ⟨rfl, ih hrest⟩

/-- **No registration is superseded twice.** -/
theorem Chained.superseded_once (hchained : Chained rows) (hsound : Sound rows)
    {a b : Registration κ μ} (ha : a ∈ rows) (hb : b ∈ rows) {target : String}
    (htarget : a.supersedes = some target)
    (hsame : b.supersedes = some target) : a = b := by
  -- what a row supersedes is a row of its own subject
  have hnamed : ∀ row ∈ rows, row.supersedes = some target → ∃ old ∈ rows,
      old.registrationId = target ∧ old.scope = row.scope ∧
      old.subject = row.subject := by
    intro row hrow hsupersedes
    have hmem : some target ∈ none :: ((chain rows row.scope row.subject).map
        (·.toLink)).map fun link => some link.registrationId := by
      refine (hchained row.scope row.subject).stood_before.subset
        (List.mem_map.mpr ⟨row.toLink, ?_, ?_⟩)
      · exact List.mem_map.mpr ⟨row, mem_chain.mpr ⟨hrow, rfl, rfl⟩, rfl⟩
      · exact hsupersedes
    obtain ⟨link, hlink, hid⟩ :=
      List.mem_map.mp ((List.mem_cons.mp hmem).resolve_left nofun)
    obtain ⟨old, hold, rfl⟩ := List.mem_map.mp hlink
    obtain ⟨holdrows, hscope, hsubject⟩ := mem_chain.mp hold
    exact ⟨old, holdrows, Option.some.inj hid, hscope, hsubject⟩
  obtain ⟨olda, holda, hida, hscopea, hsubjecta⟩ := hnamed a ha htarget
  obtain ⟨oldb, holdb, hidb, hscopeb, hsubjectb⟩ := hnamed b hb hsame
  obtain rfl := hsound.eq_of_id holda holdb (hida.trans hidb.symm)
  -- in one chain the superseded identities are distinct
  have hids : (none :: ((chain rows a.scope a.subject).map (·.toLink)).map
      fun link => some link.registrationId).Nodup := by
    refine List.nodup_cons.mpr ⟨by simp, ?_⟩
    rw [List.map_map]
    have hchain : ((chain rows a.scope a.subject).map (·.registrationId)).Nodup :=
      hsound.distinct.sublist (List.filter_sublist.map _)
    have hsome :
        (((chain rows a.scope a.subject).map (·.registrationId)).map some).Nodup :=
      hchain.map fun _ _ h => Option.some.inj h
    rwa [List.map_map] at hsome
  have hinj := (hchained a.scope a.subject).stood_before.sublist.nodup hids
  rw [List.map_map] at hinj
  refine List.inj_on_of_nodup_map hinj (mem_chain.mpr ⟨ha, rfl, rfl⟩) (mem_chain.mpr
    ⟨hb, hscopeb.symm.trans hscopea, hsubjectb.symm.trans hsubjecta⟩) ?_
  exact htarget.trans hsame.symm

theorem chained_of_toLink (h : after.map (·.toLink) = rows.map (·.toLink)) :
    Chained after ↔ Chained rows := by
  simp only [Chained, chain_toLink, h]

/-- A row that is inserted extends the chain of its subject. -/
theorem chained_insert {before : List (Registration κ μ)}
    (hlinks : before.map (·.toLink) = rows.map (·.toLink)) :
    Chained (before ++ [candidate]) ↔ Chained rows ∧
      candidate.supersedes =
        (chain rows candidate.scope candidate.subject).getLast?.map
        (·.registrationId) := by
  have hown : ∀ scope subject,
      (chain (before ++ [candidate]) scope subject).map (·.toLink) =
      (chain rows scope subject).map (·.toLink) ++
        if candidate.isOf scope subject then [candidate.toLink] else [] := by
    intro scope subject
    rw [chain_toLink, chain_toLink, List.map_append, hlinks, List.filter_append]
    congr 1
    rw [List.map_singleton, List.filter_singleton]
    cases candidate.isOf scope subject <;> rfl
  have hlast : ((chain rows candidate.scope candidate.subject).map
        (·.toLink)).getLast?.map (·.registrationId) =
        (chain rows candidate.scope candidate.subject).getLast?.map
          (·.registrationId) := by
    rw [List.getLast?_map, Option.map_map]
    rfl
  constructor
  · intro hchained
    have hprior : Chained rows := by
      intro scope subject
      have h := hchained scope subject
      rw [hown] at h
      split at h
      · exact (linkedFrom_concat.mp h).1
      · rwa [List.append_nil] at h
    have h := hchained candidate.scope candidate.subject
    rw [hown, if_pos (Link.isOf_iff.mpr ⟨rfl, rfl⟩), linkedFrom_concat,
      Option.or_none, hlast] at h
    exact ⟨hprior, h.2⟩
  · rintro ⟨hchained, hsupersedes⟩ scope subject
    rw [hown]
    split
    · rename_i hisOf
      obtain ⟨rfl, rfl⟩ := Link.isOf_iff.mp hisOf
      rw [linkedFrom_concat, Option.or_none, hlast]
      exact ⟨hchained _ _, hsupersedes⟩
    · rw [List.append_nil]
      exact hchained scope subject

/-- An active row is the newest of its subject. -/
theorem Sound.newest_of_active (hsound : Sound rows)
    (hactive : activeOf rows scope subject = some active) :
    (chain rows scope subject).getLast? = some active := by
  obtain ⟨hmem, hstatus⟩ := activeOf_eq_some hactive
  have hpair : (chain rows scope subject).Pairwise fun a _ => a.status ≠ .active := by
    refine List.Pairwise.imp_of_mem (fun {a b} ha hb h => ?_)
      (hsound.lastActive.sublist List.filter_sublist)
    obtain ⟨-, ha⟩ := mem_chain.mp ha
    obtain ⟨-, hb⟩ := mem_chain.mp hb
    exact h (ha.1.trans hb.1.symm) (ha.2.trans hb.2.symm)
  obtain ⟨older, newer, hsplit⟩ := List.append_of_mem hmem
  rw [hsplit] at hpair ⊢
  cases newer with
  | nil => simp
  | cons next rest =>
      exact absurd hstatus
        ((List.pairwise_cons.mp (List.pairwise_append.mp hpair).2.1).1 next (by simp))

/-! ## What a register does -/

/-- The ends of a register. -/
inductive Registers (rows : List (Registration κ μ)) (candidate : Registration κ μ) :
    Except ε (Registration κ μ × List (Registration κ μ)) → Prop where
  | refused (refusal : ε) (hnames : NamesNewest rows candidate) :
      Registers rows candidate (.error refusal)
  | replayed (existing : Registration κ μ) (hnames : NamesNewest rows candidate) :
      Registers rows candidate (.ok (existing, rows))
  | first (hfree : ∀ row ∈ rows, row.registrationId ≠ candidate.registrationId)
      (hnone : chain rows candidate.scope candidate.subject = [])
      (hsupersedes : candidate.supersedes = none) :
      Registers rows candidate (.ok (candidate, rows ++ [candidate]))
  | resume (target : Registration κ μ)
      (hfree : ∀ row ∈ rows, row.registrationId ≠ candidate.registrationId)
      (hnone : activeOf rows candidate.scope candidate.subject = none)
      (htarget : target ∈ chain rows candidate.scope candidate.subject)
      (hsupersedes : candidate.supersedes = some target.registrationId) :
      Registers rows candidate (.ok (candidate, rows ++ [candidate]))
  | replace (active : Registration κ μ)
      (hfree : ∀ row ∈ rows, row.registrationId ≠ candidate.registrationId)
      (hcurrent : activeOf rows candidate.scope candidate.subject = some active)
      (hsupersedes : candidate.supersedes = some active.registrationId) :
      Registers rows candidate (.ok (candidate,
        updateActive (hasId candidate.scope active.registrationId) supersededRow rows ++
          [candidate]))

theorem namesNewest_of_active
    (h : activeOf rows candidate.scope candidate.subject = some active) :
    NamesNewest rows candidate :=
  fun hnone => absurd (hnone.symm.trans h) nofun

omit [DecidableEq κ] in
theorem insertRow_cases (rows : List (Registration κ μ)) (taken : ε)
    (candidate : Registration κ μ) :
    ((∃ row ∈ rows, row.registrationId = candidate.registrationId) ∧
        insertRow taken rows candidate = .error taken) ∨
      ((∀ row ∈ rows, row.registrationId ≠ candidate.registrationId) ∧
        insertRow taken rows candidate = .ok (candidate, rows ++ [candidate])) := by
  unfold insertRow
  split
  · rename_i htaken
    exact .inl ⟨by simpa using htaken, rfl⟩
  · rename_i hfree
    exact .inr ⟨by simpa using hfree, rfl⟩

/-- What the check of a supersession lets pass; with no active row it refuses no
registration that names a row of its subject. -/
theorem validateSupersession_cases (hsound : Sound rows) (refusals : Refusals ε)
    (candidate : Registration κ μ) (current : Option (Registration κ μ)) :
    ((∃ refusal, validateSupersession refusals rows candidate current =
      .error refusal) ∧
        (current = none → ∀ target ∈ chain rows candidate.scope candidate.subject,
          candidate.supersedes ≠ some target.registrationId)) ∨
      (validateSupersession refusals rows candidate current = .ok () ∧
        ((candidate.supersedes = none ∧ current = none ∧
            chain rows candidate.scope candidate.subject = []) ∨
          ∃ target ∈ chain rows candidate.scope candidate.subject,
            candidate.supersedes = some target.registrationId ∧
              ∀ active, current = some active →
                active.registrationId = target.registrationId)) := by
  unfold validateSupersession
  split
  · rename_i hsupersedes
    split
    · exact .inl ⟨⟨_, rfl⟩, fun _ target _ => by rw [hsupersedes]; nofun⟩
    · rename_i hempty
      simp only [Bool.or_eq_true, Option.isSome_iff_ne_none, Bool.not_eq_true',
        List.isEmpty_eq_false_iff, not_or, not_not] at hempty
      exact .inr ⟨rfl, .inl ⟨hsupersedes, hempty⟩⟩
  · rename_i supersedes hsupersedes
    split
    · rename_i hnone
      refine .inl ⟨⟨_, rfl⟩, fun _ target htarget h => ?_⟩
      obtain ⟨hmem, hscope, -⟩ := mem_chain.mp htarget
      rw [hsupersedes] at h
      exact byId_eq_none.mp hnone target hmem hscope (Option.some.inj h).symm
    · rename_i target htarget
      obtain ⟨hmem, hscope, hid⟩ := byId_eq_some htarget
      split
      · rename_i hsubject
        refine .inl ⟨⟨_, rfl⟩, fun _ other hother h => hsubject ?_⟩
        obtain ⟨hothermem, -, hothersubject⟩ := mem_chain.mp hother
        rw [hsupersedes] at h
        rw [hsound.eq_of_id hmem hothermem (hid.trans (Option.some.inj h))]
        exact hothersubject
      · rename_i hsubject
        have hchain : target ∈ chain rows candidate.scope candidate.subject :=
          mem_chain.mpr ⟨hmem, hscope, not_not.mp hsubject⟩
        split
        · exact .inr ⟨rfl, .inr ⟨target, hchain, by rw [hid, hsupersedes], nofun⟩⟩
        · split
          · exact .inl ⟨⟨_, rfl⟩, nofun⟩
          · rename_i active hstale
            refine .inr ⟨rfl, .inr ⟨target, hchain, by rw [hid, hsupersedes], ?_⟩⟩
            rintro _ ⟨⟩
            rw [hid]
            exact not_not.mp hstale

/-- **Every register ends in one of these ways.** -/
theorem register_ends (hsound : Sound rows) (refusals : Refusals ε)
    (same : Registration κ μ → Registration κ μ → Bool) (candidate : Registration κ μ) :
    Registers rows candidate (register refusals same rows candidate) := by
  unfold register
  split
  · rename_i existing hexisting
    obtain ⟨hmem, -, hid⟩ := byId_eq_some hexisting
    exact .replayed existing fun _ hfree => absurd hid (hfree existing hmem)
  · split
    · rename_i active hactive
      split
      · exact .replayed active (namesNewest_of_active hactive)
      · rcases validateSupersession_cases hsound refusals candidate (some active) with
          ⟨⟨refusal, herror⟩, -⟩ |
            ⟨hok, ⟨-, hnone, -⟩ | ⟨target, -, hsupersedes, hcurrent⟩⟩
        · rw [herror]
          exact .refused refusal (namesNewest_of_active hactive)
        · cases hnone
        · rw [hok]
          change Registers rows candidate (insertRow _ _ _)
          rcases insertRow_cases (updateActive
            (hasId candidate.scope active.registrationId) supersededRow rows)
            refusals.taken candidate with ⟨-, herror⟩ | ⟨hfree, hok⟩
          · rw [herror]
            exact .refused _ (namesNewest_of_active hactive)
          · rw [hok]
            refine .replace active (fun row hrow => ?_) hactive (by rw [hsupersedes,
              hcurrent active rfl])
            have hids : row.registrationId ∈ (updateActive (hasId candidate.scope
                active.registrationId) supersededRow rows).map (·.registrationId) := by
              rw [← toLink_ids, updateActive_toLink retires_supersededRow, toLink_ids]
              exact List.mem_map.mpr ⟨row, hrow, rfl⟩
            obtain ⟨updated, hupdated, hid⟩ := List.mem_map.mp hids
            rw [← hid]
            exact hfree updated hupdated
    · rename_i hnone
      rcases validateSupersession_cases hsound refusals candidate none with
        ⟨⟨refusal, herror⟩, hunnamed⟩ | ⟨hok, hnamed⟩
      · rw [herror]
        exact .refused refusal fun _ _ target htarget h =>
          absurd h (hunnamed rfl target htarget)
      · rw [hok]
        change Registers rows candidate (insertRow _ _ _)
        rcases insertRow_cases rows refusals.taken candidate with
          ⟨⟨row, hrow, hid⟩, herror⟩ | ⟨hfree, hok⟩
        · rw [herror]
          exact .refused _ fun _ hfree => absurd hid (hfree row hrow)
        · rw [hok]
          rcases hnamed with ⟨hsupersedes, -, hempty⟩ |
            ⟨target, htarget, hsupersedes, -⟩
          · exact .first hfree hempty hsupersedes
          · exact .resume target hfree hnone htarget hsupersedes

theorem register_move (hsound : Sound rows) {refusals : Refusals ε}
    {same : Registration κ μ → Registration κ μ → Bool}
    (hactive : candidate.status = .active)
    (h : register refusals same rows candidate = .ok (row, after)) :
    Move rows after := by
  have hends := register_ends hsound refusals same candidate
  rw [h] at hends
  cases hends with
  | replayed => exact .keep
  | first hfree hnone hsupersedes => exact .first _ hactive hfree hnone hsupersedes
  | resume target hfree hnone htarget hsupersedes =>
      exact .resume _ target hactive hfree hnone htarget hsupersedes
  | replace active hfree hcurrent hsupersedes =>
      exact .replace _ active hactive hfree hcurrent hsupersedes

/-- **What a register answers with** is in the table afterwards, under the candidate's
identity or for its subject. -/
theorem register_answers {refusals : Refusals ε}
    {same : Registration κ μ → Registration κ μ → Bool}
    (h : register refusals same rows candidate = .ok (row, after)) :
    row ∈ after ∧ row.scope = candidate.scope ∧
      (row.registrationId = candidate.registrationId ∨
        row.subject = candidate.subject) := by
  have hinserted : ∀ before, insertRow refusals.taken before candidate =
      .ok (row, after) →
      row ∈ after ∧ row = candidate := by
    intro before hinsert
    unfold insertRow at hinsert
    split at hinsert
    · cases hinsert
    · cases hinsert
      exact ⟨by simp, rfl⟩
  unfold register at h
  split at h
  · rename_i existing hexisting
    cases h
    obtain ⟨hmem, hscope, hid⟩ := byId_eq_some hexisting
    exact ⟨hmem, hscope, .inl hid⟩
  · split at h
    · rename_i active hactive
      split at h
      · cases h
        obtain ⟨hrows, hscope, hsubject⟩ := mem_chain.mp (activeOf_eq_some hactive).1
        exact ⟨hrows, hscope, .inr hsubject⟩
      · rw [EventFold.bind_ok] at h
        obtain ⟨-, -, hinsert⟩ := h
        obtain ⟨hmem, rfl⟩ := hinserted _ hinsert
        exact ⟨hmem, rfl, .inl rfl⟩
    · rw [EventFold.bind_ok] at h
      obtain ⟨-, -, hinsert⟩ := h
      obtain ⟨hmem, rfl⟩ := hinserted _ hinsert
      exact ⟨hmem, rfl, .inl rfl⟩

/-- The table a command leaves behind. -/
def settleRows (rows : List (Registration κ μ)) :
    Except ε (Registration κ μ × List (Registration κ μ)) → List (Registration κ μ)
  | .ok (_, after) => after
  | .error _ => rows

/-- **One chain.**  A register keeps the chains exactly when it names the newest. -/
theorem register_chained (hsound : Sound rows) (refusals : Refusals ε)
    (same : Registration κ μ → Registration κ μ → Bool) (candidate : Registration κ μ) :
    Chained (settleRows rows (register refusals same rows candidate)) ↔
      Chained rows ∧ NamesNewest rows candidate := by
  have hends := register_ends hsound refusals same candidate
  generalize register refusals same rows candidate = outcome at hends ⊢
  cases hends with
  | refused refusal hnames => exact ⟨fun h => ⟨h, hnames⟩, fun h => h.1⟩
  | replayed existing hnames => exact ⟨fun h => ⟨h, hnames⟩, fun h => h.1⟩
  | first hfree hnone hsupersedes =>
      rw [settleRows, chained_insert rfl, hnone, hsupersedes]
      refine and_congr_right fun _ => ⟨fun _ _ _ target htarget => ?_, fun _ => rfl⟩
      rw [hnone] at htarget
      cases htarget
  | resume target hfree hnone htarget hsupersedes =>
      rw [settleRows, chained_insert rfl, hsupersedes]
      refine and_congr_right fun _ =>
        ⟨fun hlast _ _ other hother h => ?_, fun hnames => ?_⟩
      · -- the newest row has the identity that is named
        obtain ⟨last, hnewest, hid⟩ := Option.map_eq_some_iff.mp hlast.symm
        have hmem := (mem_chain.mp (List.mem_of_getLast? hnewest)).1
        rw [hsupersedes] at h
        rw [hnewest,
          hsound.eq_of_id hmem (mem_chain.mp hother).1 (hid.trans (Option.some.inj h))]
      · rw [hnames hnone hfree target htarget hsupersedes]
        rfl
  | replace active hfree hcurrent hsupersedes =>
      rw [settleRows, chained_insert (updateActive_toLink retires_supersededRow),
        hsound.newest_of_active hcurrent, hsupersedes]
      exact and_congr_right fun _ =>
        ⟨fun _ => namesNewest_of_active hcurrent, fun _ => rfl⟩

/-! ## Revoking again -/

section Revoke

variable {refusals : Refusals ε} {instant : String → Nat}
  {registrationId revokedBy revokedAt : String}

omit [DecidableEq κ] in
/-- A row of an updated table is the update of the old one. -/
theorem byId_updateActive (hretires : Retires update) :
    byId (updateActive selected update rows) scope registrationId =
      (byId rows scope registrationId).map fun row =>
        if selected row && row.status = .active then update row else row := by
  rw [byId, updateActive, List.find?_map, byId]
  congr 1
  refine congrArg (List.find? · rows) (funext fun row => ?_)
  rw [Function.comp_apply]
  split
  · rw [hretires.link]
  · rfl

omit [DecidableEq κ] in
/-- In a table of distinct identities a row is found by its identity. -/
theorem Sound.byId_eq (hsound : Sound rows) (hrow : row ∈ rows) :
    byId rows row.scope row.registrationId = some row := by
  cases hfound : byId rows row.scope row.registrationId with
  | none => exact absurd rfl (byId_eq_none.mp hfound row hrow rfl)
  | some other =>
      obtain ⟨hother, -, hid⟩ := byId_eq_some hfound
      rw [hsound.eq_of_id hother hrow hid]

theorem chain_updateActive (hretires : Retires update) :
    chain (updateActive selected update rows) scope subject =
      updateActive selected update (chain rows scope subject) := by
  rw [chain, updateActive, List.filter_map, updateActive, chain]
  congr 1
  refine congrArg (List.filter · rows) (funext fun row => ?_)
  rw [Function.comp_apply]
  split
  · rw [hretires.link]
  · rfl

/-- The order of a subject's rows does not see their status. -/
theorem listHistory_updateActive (instant : String → Nat)
    (rows : List (Registration κ μ)) (scope : String) (subject : κ)
    (selected : Registration κ μ → Bool) (hretires : Retires update)
    (hadmitted : ∀ row, (update row).admittedAt = row.admittedAt) :
    listHistory instant (updateActive selected update rows) scope subject =
      updateActive selected update (listHistory instant rows scope subject) := by
  rw [listHistory, chain_updateActive hretires, listHistory, updateActive, updateActive]
  refine (List.map_mergeSort fun a _ b _ => ?_).symm
  have hkept : ∀ row : Registration κ μ,
      (if selected row && decide (row.status = .active) then update row
        else row).admittedAt =
          row.admittedAt ∧
        (if selected row && decide (row.status = .active) then update row
          else row).registrationId =
          row.registrationId := by
    intro row
    split
    · exact ⟨hadmitted row, congrArg Link.registrationId (hretires.link row)⟩
    · exact ⟨rfl, rfl⟩
  rw [(hkept a).1, (hkept b).1, (hkept a).2, (hkept b).2]

omit [DecidableEq κ] in
theorem updateActive_none : updateActive (fun _ => false) update rows = rows := by
  simp [updateActive]

/-- A revocation of a subject retires rows, if any. -/
theorem revokeActive_retires
    (h : revokeActive refusals instant scope subject revokedBy revokedAt rows =
      .ok (row, after)) :
    ∃ selected,
      after = updateActive selected (revokedRow revokedBy revokedAt) rows := by
  unfold revokeActive at h
  split at h
  · dsimp only at h
    split at h <;> cases h
    exact ⟨_, rfl⟩
  · split at h
    · split at h <;> cases h
      exact ⟨fun _ => false, updateActive_none.symm⟩
    · cases h

omit [DecidableEq κ] in
/-- A revocation of an identity retires rows, if any. -/
theorem revokeById_retires
    (h : revokeById refusals scope registrationId revokedBy revokedAt rows =
      .ok (row, after)) :
    ∃ selected,
      after = updateActive selected (revokedRow revokedBy revokedAt) rows := by
  unfold revokeById at h
  split at h
  · cases h
  · split at h
    · cases h
      exact ⟨fun _ => false, updateActive_none.symm⟩
    · split at h
      · cases h
      · dsimp only at h
        split at h <;> cases h
        exact ⟨_, rfl⟩

theorem activeOf_of_chain {later : List (Registration κ μ)}
    (hchain : chain later scope subject = chain after scope subject) :
    activeOf later scope subject = activeOf after scope subject := by
  rw [activeOf, hchain, activeOf]

theorem listHistory_of_chain {later : List (Registration κ μ)}
    (hchain : chain later scope subject = chain after scope subject) :
    listHistory instant later scope subject =
      listHistory instant after scope subject := by
  rw [listHistory, hchain, listHistory]

/-- What a revocation of a subject's active row does. -/
theorem revokeActive_active (hsound : Sound rows)
    (hactive : activeOf rows scope subject = some active) :
    revokeActive refusals instant scope subject revokedBy revokedAt rows =
      .ok (revokedRow revokedBy revokedAt active,
        updateActive (hasId scope active.registrationId)
          (revokedRow revokedBy revokedAt) rows) := by
  obtain ⟨hmem, hstatus⟩ := activeOf_eq_some hactive
  obtain ⟨hrows, hscope, -⟩ := mem_chain.mp hmem
  have hfound : byId rows scope active.registrationId = some active := by
    rw [← hscope]
    exact hsound.byId_eq hrows
  have hselected : (hasId scope active.registrationId active &&
      decide (active.status = .active)) = true := by
    simp [hasId, hscope, hstatus]
  simp only [revokeActive, hactive, byId_updateActive
    (retires_revokedRow revokedBy revokedAt), hfound, Option.map_some, if_pos hselected]

/-- **Revoking a subject again** answers with the row that was revoked exactly when
that row is the last by the instants. -/
theorem revokeActive_again (hsound : Sound rows)
    (h : revokeActive refusals instant scope subject revokedBy revokedAt rows =
      .ok (row, after))
    {later : List (Registration κ μ)}
    (hchain : chain later scope subject = chain after scope subject) :
    revokeActive refusals instant scope subject revokedBy revokedAt later =
      .ok (row, later) ↔
      ∀ active, activeOf rows scope subject = some active →
        (listHistory instant rows scope subject).getLast? = some active := by
  cases hactive : activeOf rows scope subject with
  | none =>
      -- the first answer was the last row by the instants, and nothing was written
      simp only [revokeActive, hactive] at h
      split at h
      · rename_i last hlast
        split at h
        · rename_i hrevoked
          cases h
          refine ⟨fun _ => nofun, fun _ => ?_⟩
          simp only [revokeActive, activeOf_of_chain hchain, hactive,
            listHistory_of_chain hchain, hlast, if_pos hrevoked]
        · cases h
      · cases h
  | some active =>
      rw [revokeActive_active hsound hactive] at h
      cases h
      obtain ⟨hmem, hstatus⟩ := activeOf_eq_some hactive
      obtain ⟨hrows, hscope, hsubject⟩ := mem_chain.mp hmem
      have hretires := retires_revokedRow (κ := κ) (μ := μ) revokedBy revokedAt
      have hselected : (hasId scope active.registrationId active &&
          decide (active.status = .active)) = true := by
        simp [hasId, hscope, hstatus]
      have hnone : activeOf later scope subject = none := by
        rw [activeOf_of_chain hchain]
        refine activeOf_eq_none.mpr fun row hrow hrowscope hrowsubject hrowactive => ?_
        obtain ⟨old, hold, -, hkept⟩ := mem_updateActive hretires hrow
        obtain ⟨rfl, hunselected⟩ := hkept hrowactive
        have heq := hsound.active_unique hold hrows (hrowscope.trans hscope.symm)
          (hrowsubject.trans hsubject.symm) hrowactive hstatus
        rw [heq, hasId, hscope] at hunselected
        simp at hunselected
      have hhistory := listHistory_updateActive instant rows scope subject
        (hasId scope active.registrationId) hretires fun _ => rfl
      simp only [revokeActive, hnone, listHistory_of_chain hchain, hhistory]
      rw [updateActive, List.getLast?_map]
      constructor
      · intro hagain other hother
        cases hother
        cases hlast : (listHistory instant rows scope subject).getLast? with
        | none => rw [hlast] at hagain; cases hagain
        | some last =>
            rw [hlast, Option.map_some] at hagain
            dsimp only at hagain
            have hlastmem : last ∈ rows := by
              have hsorted := List.mem_of_getLast? hlast
              rw [listHistory, List.mem_mergeSort] at hsorted
              exact (mem_chain.mp hsorted).1
            have hkept : (if hasId scope active.registrationId last &&
                decide (last.status = .active) then revokedRow revokedBy revokedAt last
                else last).registrationId = last.registrationId := by
              split <;> rfl
            generalize (if hasId scope active.registrationId last &&
                decide (last.status = .active) then revokedRow revokedBy revokedAt last
                else last) = updated at hagain hkept
            by_cases hrevoked : updated.status = .revoked
            · rw [if_pos hrevoked] at hagain
              have hid : updated.registrationId = active.registrationId := by
                rw [(Prod.mk.inj (Except.ok.inj hagain)).1]
                rfl
              rw [hsound.eq_of_id hlastmem hrows (hkept.symm.trans hid)]
            · rw [if_neg hrevoked] at hagain
              cases hagain
      · intro hlast
        rw [hlast active rfl, Option.map_some, if_pos hselected]
        rfl

omit [DecidableEq κ] in
/-- **Revoking an identity again**, at any later time, answers with the same row. -/
theorem revokeById_again {laterBy laterAt : String} (hafter : Sound after)
    (h : revokeById refusals scope registrationId revokedBy revokedAt rows =
      .ok (row, after))
    {later : List (Registration κ μ)} (hlater : Sound later)
    (hsettled : Settled after later) :
    revokeById refusals scope registrationId laterBy laterAt later =
      .ok (row, later) := by
  have hfound : row ∈ after ∧ row.scope = scope ∧ row.registrationId = registrationId ∧
      row.status = .revoked := by
    unfold revokeById at h
    split at h
    · cases h
    · rename_i current hcurrent
      split at h
      · rename_i hstatus
        cases h
        obtain ⟨hmem, hscope, hid⟩ := byId_eq_some hcurrent
        exact ⟨hmem, hscope, hid, hstatus⟩
      · split at h
        · cases h
        · rename_i hactive
          dsimp only at h
          rw [byId_updateActive (retires_revokedRow revokedBy revokedAt), hcurrent,
            Option.map_some] at h
          obtain ⟨hmem, hscope, hid⟩ := byId_eq_some hcurrent
          have hselected : (hasId scope registrationId current &&
              decide (current.status = .active)) = true := by
            simp [hasId, hscope, hid, not_not.mp hactive]
          rw [if_pos hselected] at h
          cases h
          refine ⟨List.mem_map.mpr ⟨current, hmem, if_pos hselected⟩, hscope, hid, rfl⟩
  obtain ⟨hmem, rfl, rfl, hstatus⟩ := hfound
  have hkept : row ∈ later := hsettled row hmem (by rw [hstatus]; nofun)
  simp only [revokeById, hlater.byId_eq hkept, hstatus, if_true]

end Revoke

end ControlPlaneKit.Library.Supersession
