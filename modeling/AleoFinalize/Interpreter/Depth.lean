import AleoFinalize.Interpreter.Trace

/-!
**`_trace_execution` under Python's recursion limit.**

* `traceChild`, `traceExecutionStep` — one level of `_trace_execution` (lines 82-126), the
  recursive call of line 126 being a parameter: what the command loop does with an awaited child,
  and the whole body;
* `traceExecutionWithin` — the tracer when at most `limit` calls may be nested below the current
  one: a call past the limit raises `RecursionError`, which is a `RuntimeError`;
* `CallGraphNode.height` — the height of a call-graph tree, `0` for a leaf.
-/

namespace AleoFinalize

/-! ### One level of the tracer -/

/-- Lines 118-126 on the awaited child `calledNode`: append its transition id, find its program
and function, and trace into it by `recurse`. -/
def traceChild (programs : List Program) (transitionIds : List TransitionID)
    (recurse : Program → String → CallGraphNode → List TransitionID →
      Except Fault (List TransitionID))
    (calledNode : CallGraphNode) (asyncOrder : List TransitionID) :
    Except Fault (List TransitionID) := do
  let some transitionId := transitionIds[calledNode.index]? | throw .indexError
  let asyncOrder := asyncOrder ++ [transitionId]
  let [p, f] := splitName calledNode.name | throw .valueError
  let some calledProgram := getProgram programs p | throw (.runtimeError "program not found")
  if (calledProgram.function? f).isNone then throw (.runtimeError "function not found")
  recurse calledProgram f calledNode asyncOrder

/-- The body of `_trace_execution`, the recursive call being `recurse`. -/
def traceExecutionStep (programs : List Program) (transitionIds : List TransitionID)
    (recurse : Program → String → CallGraphNode → List TransitionID →
      Except Fault (List TransitionID))
    (program : Program) (functionName : String) (node : CallGraphNode)
    (asyncOrder : List TransitionID) : Except Fault (List TransitionID) := do
  if node.calls.any (fun child => transitionIds.length ≤ child.index) then throw .indexError
  let some function := program.function? functionName | throw .keyError
  let some finalize := function.finalize | return asyncOrder
  let state ← scanInstructions programs node (ScanState.init node) function.instructions
  awaitCommands state.finalizeRegisterMap
    (fun calledNode => traceChild programs transitionIds recurse calledNode.1)
    finalize.commands asyncOrder

/-! ### The recursion limit -/

/-- `RecursionError("maximum recursion depth exceeded")`, a subclass of `RuntimeError`. -/
def recursionError : Fault := .runtimeError "maximum recursion depth exceeded"

/-- `_trace_execution` when at most `limit` calls may be nested below this one. -/
def traceExecutionWithin (programs : List Program) (transitionIds : List TransitionID) :
    Nat → Program → String → CallGraphNode → List TransitionID → Except Fault (List TransitionID)
  | 0 => traceExecutionStep programs transitionIds fun _ _ _ _ => throw recursionError
  | limit + 1 =>
    traceExecutionStep programs transitionIds (traceExecutionWithin programs transitionIds limit)

/-! ### The height of a call graph -/

mutual

/-- The height of a call-graph tree: the longest chain of calls below the node. -/
def CallGraphNode.height : CallGraphNode → Nat
  | ⟨_, _, calls⟩ => CallGraphNode.callsHeight calls

/-- One more than the greatest height among `calls`, or `0` when there are none. -/
def CallGraphNode.callsHeight : List CallGraphNode → Nat
  | [] => 0
  | child :: calls => max (child.height + 1) (CallGraphNode.callsHeight calls)

end

end AleoFinalize
