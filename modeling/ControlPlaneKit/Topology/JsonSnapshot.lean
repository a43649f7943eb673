import ControlPlaneKit.Library.AsciiJson

/-!
# JsonSnapshot — copying a mapping within a budget

A product descriptor given as a mapping is copied by a walk that adds up the width its
encoding will have, spends a budget that shrinks on the way down, counts members, and
looks out for cycles by object identity.  The copy is encoded afterwards and the two
widths are compared.
-/

namespace ControlPlaneKit.Topology

open ControlPlaneKit.Library
open ControlPlaneKit.Library.AsciiJson

/-! ## What may be given -/

inductive MappingKey where
  | str (points : CodePoints)
  | other (identity : Nat)
  deriving DecidableEq

/-- A value of the host language; containers have an identity. -/
inductive HostValue where
  | none
  | bool (b : Bool)
  | int (n : Int)
  | float (x : FiniteFloat)
  | nonFinite
  | str (points : CodePoints)
  | list (identity : Nat) (items : List HostValue)
  | tuple (identity : Nat) (items : List HostValue)
  | mapping (identity : Nat) (entries : List (MappingKey × HostValue))
  | unsupported

/-! ## The walk -/

/-- `_MAX_PRODUCT_MAPPING_DEPTH`. -/
def maxProductMappingDepth : Nat := 64

/-- The width of one code point. -/
def pointWidth (point : Fin 0x110000) : Nat :=
  let codepoint := point.val
  if codepoint ∈ [34, 92, 8, 12, 10, 13, 9] then 2
  else if codepoint < 0x20 ∨ 0x7e < codepoint ∧ codepoint ≤ 0xffff then 6
  else if 0xffff < codepoint then 12
  else 1

/-- `_json_string_width(value)`. -/
def jsonStringWidth (value : CodePoints) : Nat := 2 + (value.map pointWidth).sum

/-- `_require_json_width(width, remaining)`. -/
def requireJsonWidth (width : Nat) (remaining : Int) : Except PyError Nat :=
  if remaining < width then .error (.valueError "JSON value exceeds its budget")
  else .ok width

/-- The state of a loop: the copy so far, the width used, the members counted. -/
structure Walk (α : Type) where
  snapshot : List α
  used : Nat
  members : Nat

/-- `1 if snapshot else 0`. -/
def separatorWidth {α : Type} (snapshot : List α) : Nat :=
  if snapshot.isEmpty then 0 else 1

/-- After the loop: the copy, its width checked, and the members counted. -/
def closeWalk {α : Type} (build : List α → JsonDocument) (remaining : Int)
    (walk : Walk α) : Except PyError (JsonDocument × Nat × Nat) :=
  (requireJsonWidth walk.used remaining).map fun width =>
    (build walk.snapshot, width, walk.members)

/-- `len(str(value))`. -/
def intWidth (n : Int) : Except PyError Nat :=
  if PyValue.printable n then .ok (PyValue.intText n).length else .error digitLimit

/-- An integer: first the estimate against the member limit, then the width. -/
def snapshotInt (memberLimit remaining : Int) (n : Int) : Except PyError Nat :=
  if memberLimit < digitBound n then .error (.valueError "integer exceeds JSON budget")
  else do
    let width ← intWidth n
    requireJsonWidth width remaining

section Walking

variable (memberLimit : Int)

mutual

/-- `_bounded_json_snapshot(value, ...)`: the copy, its width and the members
counted. -/
def boundedJsonSnapshot (value : HostValue) (remaining : Int) (depth : Nat)
    (active : List Nat) (members : Nat) : Except PyError (JsonDocument × Nat × Nat) :=
  if remaining < 1 ∨ maxProductMappingDepth < depth then
    .error (.valueError "JSON budget exceeded")
  else
    match value with
    | .none => (requireJsonWidth 4 remaining).map fun width => (.null, width, members)
    | .bool b =>
        (requireJsonWidth (if b then 4 else 5) remaining).map fun width =>
          (.bool b, width, members)
    | .str points =>
        (requireJsonWidth (jsonStringWidth points) remaining).map
          fun width => (.text points, width, members)
    | .int n =>
        (snapshotInt memberLimit remaining n).map fun width => (.int n, width, members)
    | .float x =>
        (requireJsonWidth x.repr.length remaining).map fun width =>
          (.float x, width, members)
    | .nonFinite => .error (.valueError "non-finite JSON number")
    | .mapping identity entries =>
        if identity ∈ active ∨ remaining < 2 then
          .error (.valueError "cyclic or oversized JSON mapping")
        else
          snapshotEntries entries remaining depth (identity :: active)
            ⟨[], 2, members⟩ >>=
            closeWalk .object remaining
    | .list identity items =>
        if identity ∈ active ∨ remaining < 2 then
          .error (.valueError "cyclic or oversized JSON sequence")
        else
          snapshotItems items remaining depth (identity :: active) ⟨[], 2, members⟩ >>=
            closeWalk .list remaining
    | .tuple identity items =>
        if identity ∈ active ∨ remaining < 2 then
          .error (.valueError "cyclic or oversized JSON sequence")
        else
          snapshotItems items remaining depth (identity :: active) ⟨[], 2, members⟩ >>=
            closeWalk .list remaining
    | .unsupported => .error (.valueError "unsupported JSON value")

/-- The loop of `_bounded_json_mapping`. -/
def snapshotEntries (entries : List (MappingKey × HostValue))
    (remaining : Int) (depth : Nat) (active : List Nat)
    (walk : Walk (CodePoints × JsonDocument)) :
    Except PyError (Walk (CodePoints × JsonDocument)) :=
  match entries with
  | [] => .ok walk
  | (.other _, _) :: _ => .error (.valueError "JSON mapping is not accepted")
  | (.str key, value) :: rest =>
      if memberLimit < ((walk.members + 1 : Nat) : Int) ∨
          key ∈ walk.snapshot.map (·.1) then
        .error (.valueError "JSON mapping is not accepted")
      else
        let spent :=
          walk.used + separatorWidth walk.snapshot + (jsonStringWidth key + 1)
        if remaining - spent < 1 then
          .error (.valueError "JSON mapping exceeds its budget")
        else do
          let (child, childWidth, members) ←
            boundedJsonSnapshot value (remaining - spent) (depth + 1) active
            (walk.members + 1)
          snapshotEntries rest remaining depth active
            ⟨walk.snapshot ++ [(key, child)], spent + childWidth, members⟩

/-- The loop of `_bounded_json_sequence`. -/
def snapshotItems (items : List HostValue) (remaining : Int) (depth : Nat)
    (active : List Nat) (walk : Walk JsonDocument) :
    Except PyError (Walk JsonDocument) :=
  match items with
  | [] => .ok walk
  | item :: rest =>
      if memberLimit < ((walk.members + 1 : Nat) : Int) then
        .error (.valueError "JSON sequence exceeds its member budget")
      else
        let spent := walk.used + separatorWidth walk.snapshot
        if remaining - spent < 1 then
          .error (.valueError "JSON sequence exceeds its budget")
        else do
          let (child, childWidth, members) ←
            boundedJsonSnapshot item (remaining - spent) (depth + 1) active
            (walk.members + 1)
          snapshotItems rest remaining depth active
            ⟨walk.snapshot ++ [child], spent + childWidth, members⟩

end

end Walking

/-- `ProductDescriptorError`. -/
structure ProductDescriptorError where
  message : String
  deriving DecidableEq, Repr

/-- `ProductDescriptorCodec._bounded_mapping_snapshot(mapping)`. -/
def boundedMappingSnapshot (maxBytes : Int) (mapping : HostValue) :
    Except ProductDescriptorError JsonDocument :=
  match boundedJsonSnapshot maxBytes mapping maxBytes 0 [] 0 with
  | .ok (.object entries, encodedSize, _) =>
      match encoded (.object entries) with
      | .ok bytes =>
          if bytes.length = encodedSize then .ok (.object entries)
          else .error
            ⟨"product descriptor mapping is not JSON shaped or exceeds its bound"⟩
      | .error _ =>
          .error ⟨"product descriptor mapping is not JSON shaped or exceeds its bound"⟩
  | _ => .error ⟨"product descriptor mapping is not JSON shaped or exceeds its bound"⟩

end ControlPlaneKit.Topology
