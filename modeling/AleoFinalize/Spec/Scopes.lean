import AleoFinalize.Spec.AwaitOrder

/-!
**Which finalize scopes a transaction runs: future linearity and the scopes of a call graph.**

* `externalCalls`, `heldFutures`, `fedFutures`, `futurePositions`, `awaitedInputs` — the external
  calls of a body with their numbers, the futures its finalize inputs hold and those a function
  feeds its finalize, the positions of those inputs, and the inputs its finalize awaits;
* `Linear` — a well-formed call graph with Aleo's future linearity at every node: one child per
  external call, the future of every call to a function with a finalizer fed to the finalize
  exactly once, every future input awaited exactly once;
* `descendants`, `nodeHasFinalizer` — the nodes below a node, at any depth, and whether the
  function a node names has a finalizer.
-/

namespace AleoFinalize

/-! ### Calls, futures and awaits of a function -/

/-- The external calls of `instructions`, numbered from `n` in order: number, program, function. -/
def externalCalls : Nat → List Instruction → List (Nat × String × String)
  | _, [] => []
  | n, .call (.locator programId resource) _ :: instructions =>
    (n, programId, resource) :: externalCalls (n + 1) instructions
  | n, _ :: instructions => externalCalls n instructions

/-- The futures the finalize inputs hold, in input order: call number, program, function. -/
def heldFutures : List Held → List (Nat × String × String)
  | [] => []
  | .future call programId resource :: inputs => (call, programId, resource) :: heldFutures inputs
  | .other :: inputs => heldFutures inputs

/-- The futures `function` feeds its finalize. A deployed function has an async instruction exactly
when it has a finalize, so a function without one feeds none. -/
def fedFutures (programs : List Program) (function : Function) : List (Nat × String × String) :=
  if function.finalize.isSome then heldFutures (futureInputs programs function) else []

/-- The positions, counted from `start`, of the inputs holding futures. -/
def futurePositions : Nat → List Held → List Nat
  | _, [] => []
  | start, .future .. :: inputs => start :: futurePositions (start + 1) inputs
  | start, .other :: inputs => futurePositions (start + 1) inputs

/-- The input positions the finalize awaits, in command order. -/
def awaitedInputs : List Command → List Nat
  | [] => []
  | .await register :: commands => register.locator :: awaitedInputs commands
  | .other :: commands => awaitedInputs commands

/-! ### Linearity -/

/-- A well-formed call graph with future linearity at every node: valid transition indices; the
function exists; the call graph has one child per external call, named after its callee; the
futures fed to the finalize are those of the calls to functions with a finalizer, each exactly
once; every input holding a future is awaited exactly once, and nothing else is; and the child of
each call is linear in turn. -/
def Linear (programs : List Program) (ids : List TransitionID) (program : Program)
    (functionName : String) (node : CallGraphNode) : Prop :=
  (∀ child ∈ node.calls, child.index < ids.length) ∧
  ∃ function, program.function? functionName = some function ∧
    CallsMatch programs node 0 function.instructions ∧
    node.calls.length = (externalCalls 0 function.instructions).length ∧
    (fedFutures programs function).Perm
      ((externalCalls 0 function.instructions).filter fun call =>
        calleeHasFinalizer programs call.2.1 call.2.2) ∧
    (∀ finalize, function.finalize = some finalize →
      (awaitedInputs finalize.commands).Perm (futurePositions 0 (futureInputs programs function))) ∧
    ∀ call programId resource, (call, programId, resource) ∈ externalCalls 0 function.instructions →
      ∃ child callee, node.calls.attach[call]? = some child ∧
        getProgram programs programId = some callee ∧
        Linear programs ids callee resource child.1
termination_by node
decreasing_by exact CallGraphNode.sizeOf_lt_of_mem child.2

/-! ### The finalize scopes of a call graph -/

/-- Whether the function a node names, `program/function`, has a finalizer. -/
def nodeHasFinalizer (programs : List Program) (node : CallGraphNode) : Bool :=
  match splitName node.name with
  | [programId, resource] => calleeHasFinalizer programs programId resource
  | _ => false

/-- The nodes below `node`, at any depth, depth first in call order. -/
def descendants (node : CallGraphNode) : List CallGraphNode :=
  node.calls.attach.flatMap fun child => child.1 :: descendants child.1
termination_by node
decreasing_by exact CallGraphNode.sizeOf_lt_of_mem child.2

end AleoFinalize
