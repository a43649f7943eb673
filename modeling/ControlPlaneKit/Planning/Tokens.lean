import ControlPlaneKit.Planning.DraftLookup

/-!
# Tokens — finding the drafts of a change by its token

A draft is found again by looking for sixteen hexadecimal digits in its
identity.  Labels have no such run of digits, so what is found are the drafts of
that token, and where tokens are distinct the drafts of that change.
-/

namespace ControlPlaneKit.Planning

open ControlPlaneKit.Library
open ControlPlaneKit.Library.Outcome (Succeeds)
open ControlPlaneKit.Topology

/-- **The tokens of distinct sources are distinct.** -/
def TokensDistinct (changes : List StructuralChange) : Prop :=
  ∀ source source', IsSource changes source → IsSource changes source' →
    ∀ token, source.token = .ok token → source'.token = .ok token → source = source'

/-- The reconciled changes of one owner, as a source. -/
def groupSource (changes : List StructuralChange) (owner : ReconciledOwner) :
    DraftSource :=
  match owner with
  | .node nodeId => .nodeGroup nodeId (groupOf owner changes)
  | .runtime runtimeId => .runtimeGroup runtimeId (groupOf owner changes)

/-- The sources of a diff, as a list. -/
def sourcesOf (changes : List StructuralChange) : List DraftSource :=
  (changes.filter fun change => reconciliationOwner change = none).map .single ++
    (changes.filterMap reconciliationOwner).dedup.map (groupSource changes)

def DraftSource.digits (source : DraftSource) : Option (List Char) :=
  source.token.toOption.map (·.digits)

theorem IsSource.mem_sourcesOf {changes : List StructuralChange} {source : DraftSource}
    (h : IsSource changes source) : source ∈ sourcesOf changes := by
  have hgroup : ∀ {owner : ReconciledOwner} {group : List StructuralChange},
      foundGroup owner changes = some group →
      groupSource changes owner ∈ sourcesOf changes ∧
      group = groupOf owner changes := by
    intro owner group hfound
    obtain ⟨change, hmem, howner⟩ := foundGroup_isSome.mp ⟨group, hfound⟩
    unfold foundGroup at hfound
    split at hfound <;> cases hfound
    exact ⟨List.mem_append_right _ (List.mem_map_of_mem
      (List.mem_dedup.mpr (List.mem_filterMap.mpr ⟨change, hmem, howner⟩))), rfl⟩
  cases h with
  | single hmem hnone =>
      exact List.mem_append_left _ (List.mem_map_of_mem (by simp [hmem, hnone]))
  | nodeGroup hfound =>
      obtain ⟨hmem, rfl⟩ := hgroup hfound
      exact hmem
  | runtimeGroup hfound =>
      obtain ⟨hmem, rfl⟩ := hgroup hfound
      exact hmem

/-- Distinct digits are distinct tokens. -/
theorem tokensDistinct_of_digits {changes : List StructuralChange}
    (h : ((sourcesOf changes).map DraftSource.digits).Nodup) :
    TokensDistinct changes := by
  intro source source' hs hs' token htoken htoken'
  refine List.inj_on_of_nodup_map h hs.mem_sourcesOf hs'.mem_sourcesOf ?_
  rw [DraftSource.digits, DraftSource.digits, htoken, htoken']

/-- No label has sixteen hexadecimal digits. -/
theorem DraftLabel.hexDigits_lt (label : DraftLabel) :
    (label.value.toList.filter Sha256.isHexDigit).length < 16 := by
  cases label <;> decide

/-- The identity of a draft shows the token it was made from, and no other. -/
theorem token_infix {token token' : ChangeToken} {label : DraftLabel} :
    token.digits <:+: (labelledId label token').value.toList ↔ token = token' := by
  rw [labelledId_toList]
  constructor
  · intro h
    have hcolon : ':' ∉ token.digits := fun hmem => by
      have := token.hexadecimal _ hmem
      revert this
      decide
    rcases Text.infix_around hcolon h with hlabel | hdigits
    · have hsub := (hlabel.sublist.filter Sha256.isHexDigit).length_le
      rw [List.filter_eq_self.mpr token.hexadecimal, token.length_eq] at hsub
      exact absurd hsub (Nat.not_le_of_lt label.hexDigits_lt)
    · exact ChangeToken.ext_digits
        (hdigits.eq_of_length (by rw [token.length_eq, token'.length_eq]))
  · rintro rfl
    exact (List.suffix_cons _ _).isInfix.trans (List.suffix_append _ _).isInfix

theorem matchesToken_iff {token : ChangeToken} {draft : Draft} :
    Compilation.matchesToken token draft = true ↔ draft.token = token := by
  rw [Compilation.matchesToken, decide_eq_true_eq, Draft.activityId,
    token_infix, eq_comm]

section Matching

variable {codec : GraphDescriptorCodec} {current desired : DeploymentGraph}
  {changes : List StructuralChange} {c : Compilation} {change : StructuralChange}

namespace Compiled

theorem succeeds_matchingRef (h : Compiled codec current desired changes c)
    (hmem : change ∈ changes) : Succeeds (c.matchingRef change) := by
  rw [Compilation.matchingRef]
  split
  · exact Outcome.succeeds_ok _
  · exact Outcome.succeeds_map.mpr
      ((succeeds_changeToken change).mpr (h.renderable change hmem))

variable (hdistinct : TokensDistinct changes) (hmem : change ∈ changes)
  (hnone : reconciliationOwner change = none)

include hdistinct hmem hnone

/-- What the token of a change finds is a draft of that change. -/
theorem matchingRef_some (h : Compiled codec current desired changes c) {ref : Nat}
    (hfound : c.matchingRef change = .ok (some ref)) :
    ∃ operation, c.Holds ref operation ∧ Drafts change operation := by
  unfold Compilation.matchingRef at hfound
  split at hfound
  · cases hfound
  · obtain ⟨token, htoken, hfind⟩ := Outcome.map_eq_ok.mp hfound
    obtain ⟨hlt, hmatch, -⟩ := List.findIdx?_eq_some_iff_getElem.mp hfind
    have hdraft : c.drafts[ref]? = some c.drafts[ref] := List.getElem?_eq_getElem hlt
    obtain ⟨source, token', hs, htoken', hgroup, hin⟩ := h.source_of_holds hdraft
    have heq : token' = token :=
      (hgroup.token_eq _ hin).symm.trans (matchesToken_iff.mp hmatch)
    subst heq
    obtain rfl :=
      hdistinct source (.single change) hs (.single hmem hnone) token' htoken' htoken
    exact ⟨_, ⟨_, hdraft, rfl⟩, hgroup.sound _ hin⟩

omit hdistinct in
/-- A change without drafts finds none. -/
theorem matchingRef_none (h : Compiled codec current desired changes c)
    (hfound : c.matchingRef change = .ok none) {operation : ActivityOperation} :
    ¬ Drafts change operation := by
  intro hdrafts
  have hs : IsSource changes (.single change) := .single hmem hnone
  obtain ⟨token, htoken, hgroup⟩ := h.group_of_mem hs
  obtain ⟨draft, hin, -⟩ := hgroup.complete operation hdrafts
  obtain ⟨ref, hdraft⟩ := h.holds_of_source hs hin
  have hmemDraft := List.mem_of_getElem? hdraft
  unfold Compilation.matchingRef at hfound
  split at hfound
  · rename_i hempty
    rw [List.isEmpty_iff.mp hempty] at hmemDraft
    cases hmemDraft
  · obtain ⟨token', htoken', hfind⟩ := Outcome.map_eq_ok.mp hfound
    have htoken : changeToken change = .ok token := htoken
    rw [htoken'] at htoken
    cases htoken
    have := List.findIdx?_eq_none_iff.mp hfind draft hmemDraft
    rw [matchesToken_iff.mpr (hgroup.token_eq draft hin)] at this
    cases this

end Compiled

end Matching

end ControlPlaneKit.Planning
