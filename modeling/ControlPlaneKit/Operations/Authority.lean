import ControlPlaneKit.Library.EventFold
import ControlPlaneKit.Operations.Records

/-!
# Authority — scopes, workers and the errors of the services

A worker acts under its identity and a canonical set of scopes.  What a service
raises is kept by its class and message; the tables' own constraints are errors
of the database, which abort the transaction like any other.
-/

namespace ControlPlaneKit.Operations

/-- Closed authority scopes used by pure policy decisions. -/
inductive PolicyScope where
  | hubInstanceCreate
  | hubInstanceRead
  | instanceWorkspaceRead
  | instanceWorkspaceEdit
  | planRequest
  | planApprove
  | planApproveDestructive
  | planExecute
  | executionOperate
  | runtimeAuthorityRegister
  | runtimeAuthorityRead
  | runtimeAuthorityRevoke
  | runtimeAuthorityUse
  | runtimeAuthorityDeliveryRegister
  | runtimeAuthorityDeliveryRead
  | runtimeAuthorityDeliveryRevoke
  | ingressAuthorityRegister
  | ingressAuthorityRead
  | ingressAuthorityRevoke
  | ingressAuthorityUse
  | secretProviderRegister
  | secretProviderRead
  | secretProviderUse
  | secretProviderRevoke
  | delegationKeyGenerate
  | delegationKeyRegister
  | delegationKeyRead
  | delegationKeyActivate
  | delegationKeyRetire
  | delegationKeyRevoke
  | delegationKeyUse
  | delegationKeyRotate
  | delegationKeyRotateApprove
  | gatewayProbeUse
  | nodeControlRead
  | nodeControlApply
  | nodeControlExecute
  deriving DecidableEq, Repr

def PolicyScope.value : PolicyScope → String
  | .hubInstanceCreate => "hub:instance:create"
  | .hubInstanceRead => "hub:instance:read"
  | .instanceWorkspaceRead => "instance:workspace:read"
  | .instanceWorkspaceEdit => "instance:workspace:edit"
  | .planRequest => "plan:request"
  | .planApprove => "plan:approve"
  | .planApproveDestructive => "plan:approve-destructive"
  | .planExecute => "plan:execute"
  | .executionOperate => "execution:operate"
  | .runtimeAuthorityRegister => "runtime-authority:register"
  | .runtimeAuthorityRead => "runtime-authority:read"
  | .runtimeAuthorityRevoke => "runtime-authority:revoke"
  | .runtimeAuthorityUse => "runtime-authority:use"
  | .runtimeAuthorityDeliveryRegister => "runtime-authority-delivery:register"
  | .runtimeAuthorityDeliveryRead => "runtime-authority-delivery:read"
  | .runtimeAuthorityDeliveryRevoke => "runtime-authority-delivery:revoke"
  | .ingressAuthorityRegister => "ingress-authority:register"
  | .ingressAuthorityRead => "ingress-authority:read"
  | .ingressAuthorityRevoke => "ingress-authority:revoke"
  | .ingressAuthorityUse => "ingress-authority:use"
  | .secretProviderRegister => "secret-provider:register"
  | .secretProviderRead => "secret-provider:read"
  | .secretProviderUse => "secret-provider:use"
  | .secretProviderRevoke => "secret-provider:revoke"
  | .delegationKeyGenerate => "delegation-key:generate"
  | .delegationKeyRegister => "delegation-key:register"
  | .delegationKeyRead => "delegation-key:read"
  | .delegationKeyActivate => "delegation-key:activate"
  | .delegationKeyRetire => "delegation-key:retire"
  | .delegationKeyRevoke => "delegation-key:revoke"
  | .delegationKeyUse => "delegation-key:use"
  | .delegationKeyRotate => "delegation-key:rotate"
  | .delegationKeyRotateApprove => "delegation-key:rotate-approve"
  | .gatewayProbeUse => "gateway-probe:use"
  | .nodeControlRead => "node-control:read"
  | .nodeControlApply => "node-control:apply"
  | .nodeControlExecute => "node-control:execute"

/-- Worker identity plus least privilege lifecycle scopes, sorted without
repetition. -/
structure ExecutionWorkerAuthority where
  workerId : String
  scopes : List PolicyScope
  canonical : scopes.Pairwise fun a b => a.value < b.value

instance : DecidableEq ExecutionWorkerAuthority := fun a b =>
  decidable_of_iff (a.workerId = b.workerId ∧ a.scopes = b.scopes)
    ⟨by cases a; cases b; simp_all, by rintro rfl; simp⟩

/-- What a service raises, by the role of the exception's class; `base` is the
service's own base class. -/
inductive ServiceError where
  | base (message : String)
  | conflict (message : String)
  | denied (message : String)
  | idempotencyConflict (message : String)
  | notFound (message : String)
  | invalidCommand (message : String)
  | record (message : String)
  | integrity (table : String)
  deriving DecidableEq, Repr

def requireThat (condition : Bool) (error : ServiceError) : Except ServiceError Unit :=
  if condition then .ok () else .error error

theorem requireThat_eq_ok {condition : Bool} {error : ServiceError} {checked : Unit} :
    requireThat condition error = .ok checked ↔ condition = true := by
  cases condition <;> simp [requireThat]

/-- A check that is passed, and what follows it. -/
theorem requireThat_bind {α : Type} {condition : Bool} {error : ServiceError}
    {rest : Unit → Except ServiceError α} {value : α} :
    (requireThat condition error >>= rest) = .ok value ↔
      condition = true ∧ rest () = .ok value := by
  rw [Library.EventFold.bind_ok]
  exact ⟨fun ⟨(), hcheck, hrest⟩ => ⟨requireThat_eq_ok.mp hcheck, hrest⟩,
    fun ⟨hcheck, hrest⟩ => ⟨(), requireThat_eq_ok.mpr hcheck, hrest⟩⟩

/-- `_validate_text(value, field)`. -/
def validateText (value field : String) : Except ServiceError Unit := do
  requireThat (value ≠ "" && value.length ≤ 512)
    (.record (field ++ " must be nonempty bounded text"))
  requireThat (value.toList.all fun character => 32 ≤ character.toNat)
    (.record (field ++ " must not contain control characters"))

theorem validateText_eq_ok {value field : String} :
    validateText value field = .ok () ↔ validText value = true := by
  simp only [validateText, requireThat_bind, requireThat_eq_ok, validText,
    Bool.and_eq_true]

/-- A row that must be there. -/
def found {α : Type} (row : Option α) (error : ServiceError) : Except ServiceError α :=
  match row with
  | some value => .ok value
  | none => .error error

theorem found_eq_ok {α : Type} {row : Option α} {error : ServiceError} {value : α} :
    found row error = .ok value ↔ row = some value := by
  cases row <;> simp [found]

theorem found_bind {α β : Type} {row : Option α} {error : ServiceError}
    {rest : α → Except ServiceError β} {value : β} :
    (found row error >>= rest) = .ok value ↔
      ∃ a, row = some a ∧ rest a = .ok value := by
  rw [Library.EventFold.bind_ok]
  simp only [found_eq_ok]

end ControlPlaneKit.Operations
