import AleoFinalize.Api.ExecuteRoutes
import Mathlib.Data.List.Forall2

/-!
**What a successful finalize preview has done.**

`PreviewSuccess env body response`: the body names a program the database has and a transition of
it with a finalize block; the preview ran on one value per input of that block, the value at each
position converted from the request input at the same index (so the request had at least as
many inputs); and the response renders every operation the preview returned, in order, each of
them an update.

`PreviewCall env body program functionName values`: the call of `preview_finalize_execution` the
route may make on `body`, on the program and transition the body names and one value per input of
the finalize block, converted from the request input at the same index.
-/

namespace AleoFinalize.Api

/-- A 200 of the preview route, in terms of what the route read and ran. -/
def PreviewSuccess (env : PreviewEnv) (body : Json) (response : Response) : Prop :=
  ∃ programId transitionName inputs program functionName finalizeInputs values operations updates,
    body.get "program_id" = .ok (some programId) ∧
    body.get "transition_name" = .ok (some transitionName) ∧
    body.get "inputs" = .ok (some (.arr inputs)) ∧
    env.getProgram programId = some program ∧
    env.identifierLoads transitionName = .ok functionName ∧
    (program.functions.lookup functionName).bind Function.finalize = some finalizeInputs ∧
    finalizeInputs.length ≤ inputs.length ∧
    List.Forall₂ (fun (input : Nat × PlaintextType) value =>
      loadFinalizeInput env program inputs input.1 input.2 = .ok (.ok value))
      finalizeInputs.enum values ∧
    env.previewFinalizeExecution program functionName values = .ok operations ∧
    List.Forall₂ (fun operation update => mappingUpdate operation = .ok update) operations
      updates ∧
    response = .json (.obj [("mapping_updates", .arr updates)])

/-- A call of `preview_finalize_execution` on `body`'s program and transition, with every input of
the finalize block converted. -/
def PreviewCall (env : PreviewEnv) (body : Json) (program : Program) (functionName : String)
    (values : List Value) : Prop :=
  ∃ programId transitionName inputs finalizeInputs,
    body.get "program_id" = .ok (some programId) ∧
    body.get "transition_name" = .ok (some transitionName) ∧
    body.get "inputs" = .ok (some (.arr inputs)) ∧
    env.getProgram programId = some program ∧
    env.identifierLoads transitionName = .ok functionName ∧
    (program.functions.lookup functionName).bind Function.finalize = some finalizeInputs ∧
    List.Forall₂ (fun (input : Nat × PlaintextType) value =>
      loadFinalizeInput env program inputs input.1 input.2 = .ok (.ok value))
      finalizeInputs.enum values

end AleoFinalize.Api
