import AleoFinalize.Interpreter.Trace

/-!
**What the tracer is for: the await order, defined by the dataflow of futures.**

* `flowInstruction` / `futureInputs` — run a function body over an abstract register file in
  which only futures are told apart: the `j`-th external call to a function with a finalizer puts
  its future in its last destination, every other write puts something else, and an async
  instruction binds the finalize inputs to the values of its operands.
* `CallsMatch`, `Traceable` — the hypotheses on the call graph: one child per external call, in
  order, named `"program/function"` after its callee, with a valid transition index; every await
  of a traced finalize reads an input that holds the future of a call to a finalizer-bearing
  function, whose child is traceable in turn.
* `awaitOrder` — the await order itself: over the awaits of the finalize, in command order, the
  awaited child's transition id followed by the await order of the child's function.
-/

namespace AleoFinalize

/-! ### The dataflow of futures -/

/-- What a register holds, as far as awaits are concerned: the future of external call number
`call` (to `programId/resource`), or anything else. -/
inductive Held where
  | future (call : Nat) (programId resource : String)
  | other
  deriving DecidableEq, Repr

/-- The abstract state along a function body: the registers, the number of external calls made,
and the finalize inputs bound by the last async instruction. -/
structure Flow where
  registers : Nat → Held
  calls : Nat
  inputs : List Held

/-- Nothing held, no call made, no input bound. -/
def Flow.init : Flow := ⟨fun _ => .other, 0, []⟩

/-- Whether `programId/resource` is a function with a finalizer. -/
def calleeHasFinalizer (programs : List Program) (programId resource : String) : Bool :=
  match getProgram programs programId with
  | some callee => match callee.function? resource with
    | some function => function.finalize.isSome
    | none => false
  | none => false

/-- Registers after writing `destinations`: the last one receives `last`, the others something
that is not a future. -/
def writeDestinations (registers : Nat → Held) (destinations : List Register) (last : Held) :
    Nat → Held := fun locator =>
  if destinations.getLast?.map Register.locator = some locator then last
  else if destinations.any (·.locator = locator) then .other
  else registers locator

/-- The value of an operand: a `LocatorRegister` reads its register. -/
def operandValue (registers : Nat → Held) : Operand → Held
  | .register (.locatorRegister locator) => registers locator
  | _ => .other

/-- One instruction of the abstract run. -/
def flowInstruction (programs : List Program) (flow : Flow) : Instruction → Flow
  | .call (.locator programId resource) destinations =>
    { registers := writeDestinations flow.registers destinations
        (if calleeHasFinalizer programs programId resource then
          .future flow.calls programId resource else .other)
      calls := flow.calls + 1
      inputs := flow.inputs }
  | .call (.resource _) destinations | .other destinations =>
    { flow with registers := writeDestinations flow.registers destinations .other }
  | .async operands => { flow with inputs := operands.map (operandValue flow.registers) }

/-- The finalize inputs of a function, as its last async instruction binds them. -/
def futureInputs (programs : List Program) (function : Function) : List Held :=
  (function.instructions.foldl (flowInstruction programs) Flow.init).inputs

/-! ### The hypotheses on the call graph -/

/-- From external call number `n` on, every external call of `instructions` names an existing
callee, whose future (when it has a finalizer) lands in a destination, and has its child
`node.calls[n + k]` named `"program/function"` after the callee. -/
def CallsMatch (programs : List Program) (node : CallGraphNode) :
    Nat → List Instruction → Prop
  | _, [] => True
  | n, .call (.locator programId resource) destinations :: instructions =>
    (∃ callee function, getProgram programs programId = some callee ∧
      callee.function? resource = some function ∧
      (function.finalize.isSome → destinations ≠ [])) ∧
    (∃ child, node.calls[n]? = some child ∧ child.name = programId ++ "/" ++ resource) ∧
    CallsMatch programs node (n + 1) instructions
  | n, _ :: instructions => CallsMatch programs node n instructions

/-- The hypotheses of the await-order theorem at a traced node: valid transition indices, the
function exists, and if it has a finalize, its calls match the children and every await reads the
future of a call to a finalizer-bearing function, whose child is traceable in turn. -/
def Traceable (programs : List Program) (ids : List TransitionID) (program : Program)
    (functionName : String) (node : CallGraphNode) : Prop :=
  (∀ child ∈ node.calls, child.index < ids.length) ∧
  ∃ function, program.function? functionName = some function ∧
    ∀ finalize, function.finalize = some finalize →
      CallsMatch programs node 0 function.instructions ∧
      ∀ register, Command.await register ∈ finalize.commands →
        ∃ call programId resource child callee,
          (futureInputs programs function)[register.locator]? =
            some (.future call programId resource) ∧
          node.calls.attach[call]? = some child ∧
          getProgram programs programId = some callee ∧
          Traceable programs ids callee resource child.1
termination_by node
decreasing_by exact CallGraphNode.sizeOf_lt_of_mem child.2

/-! ### The await order -/

/-- `Order(program, functionName, node)`: over the awaits of the finalize in command order, the
awaited child's transition id, then the await order of the child's function. -/
def awaitOrder (programs : List Program) (ids : List TransitionID) (program : Program)
    (functionName : String) (node : CallGraphNode) : List TransitionID :=
  match program.function? functionName with
  | none => []
  | some function =>
    match function.finalize with
    | none => []
    | some finalize =>
      finalize.commands.flatMap fun command =>
        match command with
        | .await register =>
          match (futureInputs programs function)[register.locator]? with
          | some (.future call programId resource) =>
            match node.calls.attach[call]?, getProgram programs programId with
            | some child, some callee =>
              ids.getD child.1.index 0 :: awaitOrder programs ids callee resource child.1
            | _, _ => []
          | _ => []
        | .other => []
termination_by node
decreasing_by exact CallGraphNode.sizeOf_lt_of_mem child.2

end AleoFinalize
