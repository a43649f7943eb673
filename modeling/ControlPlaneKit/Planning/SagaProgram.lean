import ControlPlaneKit.Library.Text

/-!
# SagaProgram — saga syntax

Sequential steps, declared fan-out, and the flattening that fixes the order and
the identities of a program's steps.  `walk` is compositional: appending a
continuation appends its steps.
-/

namespace ControlPlaneKit.Planning

open ControlPlaneKit.Library.Text (isBlank)

/-- `SagaStepId`: stable nonblank identity. -/
structure SagaStepId where
  value : String
  nonempty : isBlank value = false

theorem SagaStepId.ext_value {a b : SagaStepId} (h : a.value = b.value) : a = b := by
  cases a; cases b; cases h; rfl

instance : DecidableEq SagaStepId := fun a b =>
  decidable_of_iff (a.value = b.value) ⟨SagaStepId.ext_value, congrArg SagaStepId.value⟩

/-- One forward effect and its optional compensating effect. -/
structure SagaStep (Effect : Type) where
  stepId : SagaStepId
  effect : Effect
  compensation : Option Effect

/-- `End | StepNode | ParallelNode`. -/
inductive SagaProgram (Effect : Type) where
  | done
  | stepNode (step : SagaStep Effect) (next : SagaProgram Effect)
  | parallelNode (branches : List (SagaProgram Effect)) (next : SagaProgram Effect)

inductive SagaProgramError where
  | tooFewBranches
  | emptyBranch
  | duplicateStepId (stepId : SagaStepId)
  deriving DecidableEq

/-- The text of the error; `repr` is the host's `repr` of a text. -/
def SagaProgramError.message (repr : String → String) : SagaProgramError → String
  | .tooFewBranches => "parallel saga nodes require at least two branches"
  | .emptyBranch => "parallel saga branches must not be empty"
  | .duplicateStepId stepId => "duplicate saga step id " ++ repr stepId.value

namespace SagaProgram

variable {Effect : Type}

def isEnd : SagaProgram Effect → Bool
  | .done => true
  | _ => false

/-- `ParallelNode.__post_init__` before the node is built. -/
def parallelNode? (branches : List (SagaProgram Effect)) (next : SagaProgram Effect) :
    Except SagaProgramError (SagaProgram Effect) :=
  if branches.length < 2 then .error .tooFewBranches
  else if branches.any isEnd then .error .emptyBranch
  else .ok (.parallelNode branches next)

/-- `step(value)`. -/
def step (value : SagaStep Effect) : SagaProgram Effect :=
  .stepNode value .done

/-- `chain(*values)`. -/
def chain (values : List (SagaStep Effect)) : SagaProgram Effect :=
  values.foldr .stepNode .done

/-- `parallel(*branches)`. -/
def parallel (branches : List (SagaProgram Effect)) :
    Except SagaProgramError (SagaProgram Effect) :=
  parallelNode? branches .done

/-- `then(program, continuation)`. -/
def andThen : SagaProgram Effect → SagaProgram Effect → SagaProgram Effect
  | .done, following => following
  | .stepNode value next, following => .stepNode value (andThen next following)
  | .parallelNode branches next, following =>
      .parallelNode branches (andThen next following)

mutual

/-- `_walk(program)`: steps in source order, branches left to right. -/
def walk : SagaProgram Effect → List (SagaStep Effect)
  | .done => []
  | .stepNode value following => value :: walk following
  | .parallelNode branches following => walkBranches branches ++ walk following

def walkBranches : List (SagaProgram Effect) → List (SagaStep Effect)
  | [] => []
  | branch :: branches => walk branch ++ walkBranches branches

end

/-- The first identity that repeats, in walk order. -/
def repeatedStepId (seen : List SagaStepId) : List (SagaStep Effect) → Option SagaStepId
  | [] => none
  | value :: values =>
      if value.stepId ∈ seen then some value.stepId
      else repeatedStepId (value.stepId :: seen) values

/-- `program_steps(program)`. -/
def programSteps (program : SagaProgram Effect) :
    Except SagaProgramError (List (SagaStep Effect)) :=
  match repeatedStepId [] (walk program) with
  | some stepId => .error (.duplicateStepId stepId)
  | none => .ok (walk program)

theorem repeatedStepId_eq_none_iff (seen : List SagaStepId)
    (values : List (SagaStep Effect)) : repeatedStepId seen values = none ↔
      (values.map (·.stepId)).Nodup ∧ ∀ value ∈ values, value.stepId ∉ seen := by
  induction values generalizing seen with
  | nil => simp [repeatedStepId]
  | cons value values ih =>
      rw [repeatedStepId]
      split
      · rename_i hmem
        simp only [reduceCtorEq, false_iff, not_and]
        exact fun _ hall => hall value (by simp) hmem
      · rename_i hfresh
        rw [ih]
        simp only [List.map_cons, List.nodup_cons, List.mem_map, not_exists, not_and,
          List.mem_cons, not_or, forall_eq_or_imp]
        constructor
        · rintro ⟨hnd, hall⟩
          exact ⟨⟨fun v hv => (hall v hv).1, hnd⟩, hfresh, fun v hv => (hall v hv).2⟩
        · rintro ⟨⟨hne, hnd⟩, -, hall⟩
          exact ⟨hnd, fun v hv => ⟨hne v hv, hall v hv⟩⟩

/-- **Accepted programs** are those whose steps have pairwise different
identities; nothing else about the tree matters. -/
theorem programSteps_eq_ok {program : SagaProgram Effect}
    {steps : List (SagaStep Effect)} : programSteps program = .ok steps ↔
      steps = walk program ∧ (steps.map (·.stepId)).Nodup := by
  unfold programSteps
  cases hdup : repeatedStepId [] (walk program) with
  | none =>
      have hnd := ((repeatedStepId_eq_none_iff [] (walk program)).mp hdup).1
      constructor
      · intro h
        cases h
        exact ⟨rfl, hnd⟩
      · rintro ⟨rfl, -⟩
        rfl
  | some stepId =>
      simp only [reduceCtorEq, false_iff, not_and]
      rintro rfl hnd
      rw [(repeatedStepId_eq_none_iff [] (walk program)).mpr ⟨hnd, by simp⟩] at hdup
      cases hdup

/-- **Sequencing appends**: a continuation runs after everything before it. -/
theorem walk_andThen (program following : SagaProgram Effect) :
    walk (andThen program following) = walk program ++ walk following := by
  match program with
  | .done => simp [andThen, walk]
  | .stepNode value next => simp [andThen, walk, walk_andThen next following]
  | .parallelNode branches next => simp [andThen, walk, walk_andThen next following]

theorem walk_chain (values : List (SagaStep Effect)) :
    walk (chain values) = values := by
  induction values with
  | nil => simp [chain, walk]
  | cons value values ih =>
      simp only [chain, List.foldr_cons, walk] at ih ⊢
      rw [ih]

end SagaProgram

end ControlPlaneKit.Planning
