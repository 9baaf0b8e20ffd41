import AleoFinalize.Interpreter.Types

/-!
**The call-graph tracer** (`_trace_execution`, `build_async_order`, lines 82-142).

`build_async_order` seeds the order with the outermost transition and walks the finalize of the
root function. `_trace_execution` makes two passes over a function:

* `scanInstructions` — the instruction loop (lines 92-111): an external call to a function with a
  finalizer records its future destination register against the next call-graph child
  (`future_register_map`), an async instruction passes those nodes on to the finalize inputs it
  feeds (`finalize_register_map`);
* `awaitCommands` — the command loop (lines 113-126): every `await` resolves its register to a
  child, appends the child's transition id and traces into the child's function.

The register maps hold children of the current node as a subtype, which is what makes the
recursion well founded: every recursive call is on a child of the current node.
-/

namespace AleoFinalize

/-! ### `str.split("/")` -/

/-- `str.split(sep)` for a one-character separator, on the characters of a string. -/
def splitChars (sep : Char) : List Char → List (List Char)
  | [] => [[]]
  | c :: rest =>
    if c = sep then [] :: splitChars sep rest
    else match splitChars sep rest with
      | [] => [[c]]
      | word :: words => (c :: word) :: words

/-- `name.split("/")`. -/
def splitName (name : String) : List String :=
  (splitChars '/' name.data).map String.mk

theorem splitChars_of_not_mem {sep : Char} {cs : List Char} (absent : sep ∉ cs) :
    splitChars sep cs = [cs] := by
  induction cs with
  | nil => rfl
  | cons c rest ih =>
    have head : c ≠ sep := fun same => absent (same ▸ List.mem_cons_self c rest)
    rw [splitChars, if_neg head, ih fun member => absent (List.mem_cons_of_mem c member)]

theorem splitChars_append_sep {sep : Char} {first : List Char} (absent : sep ∉ first)
    (rest : List Char) : splitChars sep (first ++ sep :: rest) = first :: splitChars sep rest := by
  induction first with
  | nil => simp [splitChars]
  | cons c cs ih =>
    have head : c ≠ sep := fun same => absent (same ▸ List.mem_cons_self c cs)
    rw [List.cons_append, splitChars, if_neg head, ih fun member => absent (List.mem_cons_of_mem c member)]

/-- **Splitting a call-graph name gives back its program and function**: neither holds a `/`. -/
theorem splitName_join {programId functionName : String} (program : NoSlash programId)
    (function : NoSlash functionName) :
    splitName (programId ++ "/" ++ functionName) = [programId, functionName] := by
  have chars : (programId ++ "/" ++ functionName).data = programId.data ++ '/' :: functionName.data := by
    simp
  rw [splitName, chars, splitChars_append_sep program, splitChars_of_not_mem function]
  rfl

/-! ### The instruction pass -/

/-- The two register maps of `_trace_execution` and its `call_index`. Both maps hold children of
the node being traced. -/
structure ScanState (node : CallGraphNode) where
  futureRegisterMap : Nat → Option {child // child ∈ node.calls}
  finalizeRegisterMap : Nat → Option {child // child ∈ node.calls}
  callIndex : Nat

/-- Both maps empty, `call_index = 0`. -/
def ScanState.init (node : CallGraphNode) : ScanState node :=
  ⟨fun _ => none, fun _ => none, 0⟩

/-- One operand of an async instruction (lines 109-111): a `LocatorRegister` holding a recorded
future passes that future's node to finalize input `param_index`. -/
def feedOperand {α : Type} (futureRegisterMap finalizeRegisterMap : Nat → Option α)
    (paramIndex : Nat) : Operand → Nat → Option α
  | .register (.locatorRegister locator) =>
    match futureRegisterMap locator with
    | some child => Function.update finalizeRegisterMap paramIndex (some child)
    | none => finalizeRegisterMap
  | _ => finalizeRegisterMap

/-- The operand loop of an async instruction (lines 108-111), from `param_index` on. -/
def feedOperands {α : Type} (futureRegisterMap : Nat → Option α) :
    Nat → List Operand → (Nat → Option α) → Nat → Option α
  | _, [], finalizeRegisterMap => finalizeRegisterMap
  | paramIndex, operand :: operands, finalizeRegisterMap =>
    feedOperands futureRegisterMap (paramIndex + 1) operands
      (feedOperand futureRegisterMap finalizeRegisterMap paramIndex operand)

/-- One instruction of the instruction loop (lines 92-111). -/
def scanInstruction (programs : List Program) (node : CallGraphNode) (state : ScanState node) :
    Instruction → Except Fault (ScanState node)
  | .call (.locator programId resource) destinations => do
    let some calledProgram := getProgram programs programId
      | throw (.runtimeError "program not found")
    let some calledFunction := calledProgram.function? resource | throw .keyError
    if calledFunction.finalize.isNone then
      return { state with callIndex := state.callIndex + 1 }
    let some futureDestination := destinations.getLast? | throw .indexError
    let some child := node.calls.attach[state.callIndex]? | throw .indexError
    let state := { state with
      futureRegisterMap := Function.update state.futureRegisterMap futureDestination.locator
        (some child) }
    if calledProgram.id ++ "/" ++ calledFunction.name ≠ child.1.name then
      throw (.runtimeError "call analysis failed")
    return { state with callIndex := state.callIndex + 1 }
  | .async operands =>
    return { state with
      finalizeRegisterMap := feedOperands state.futureRegisterMap 0 operands
        state.finalizeRegisterMap }
  | _ => return state

/-- The instruction loop of `_trace_execution`. -/
def scanInstructions (programs : List Program) (node : CallGraphNode) :
    ScanState node → List Instruction → Except Fault (ScanState node)
  | state, [] => pure state
  | state, instruction :: instructions => do
    scanInstructions programs node (← scanInstruction programs node state instruction) instructions

/-! ### The await pass and the recursion -/

/-- The command loop of `_trace_execution` (lines 113-126), given what tracing into an awaited
child does. -/
def awaitCommands {node : CallGraphNode}
    (finalizeRegisterMap : Nat → Option {child // child ∈ node.calls})
    (traceChild : {child // child ∈ node.calls} → List TransitionID →
      Except Fault (List TransitionID)) :
    List Command → List TransitionID → Except Fault (List TransitionID)
  | [], asyncOrder => pure asyncOrder
  | .await register :: commands, asyncOrder => do
    let some calledNode := finalizeRegisterMap register.locator
      | throw (.runtimeError "invalid await command")
    awaitCommands finalizeRegisterMap traceChild commands (← traceChild calledNode asyncOrder)
  | .other :: commands, asyncOrder =>
    awaitCommands finalizeRegisterMap traceChild commands asyncOrder

/-- `_trace_execution(db, transition_ids, program, function_name, node, async_order)`: the order
`async_order` extended by the awaits of the function's finalize, depth first. Line 85 stores
`transition_ids[c["index"]]` in every child, raising `IndexError` for an index out of range; line
119 reads it back. -/
def traceExecution (programs : List Program) (transitionIds : List TransitionID)
    (program : Program) (functionName : String) (node : CallGraphNode)
    (asyncOrder : List TransitionID) : Except Fault (List TransitionID) := do
  if node.calls.any (fun child => transitionIds.length ≤ child.index) then throw .indexError
  let some function := program.function? functionName | throw .keyError
  let some finalize := function.finalize | return asyncOrder
  let state ← scanInstructions programs node (ScanState.init node) function.instructions
  awaitCommands state.finalizeRegisterMap
    (fun calledNode asyncOrder => do
      let some transitionId := transitionIds[calledNode.1.index]? | throw .indexError
      let asyncOrder := asyncOrder ++ [transitionId]
      let [p, f] := splitName calledNode.1.name | throw .valueError
      let some calledProgram := getProgram programs p | throw (.runtimeError "program not found")
      if (calledProgram.function? f).isNone then throw (.runtimeError "function not found")
      traceExecution programs transitionIds calledProgram f calledNode.1 asyncOrder)
    finalize.commands asyncOrder
termination_by node
decreasing_by exact CallGraphNode.sizeOf_lt_of_mem calledNode.2

/-- `build_async_order`: the outermost transition first, then the awaits of the root function.
The root node's index (`len(transition_ids) - 1`) is never read. -/
def buildAsyncOrder (programs : List Program)
    (callGraph : Program → String → Except Fault (List CallGraphNode))
    (transitionIds : List TransitionID) (program : Program) (functionName : String) :
    Except Fault (List TransitionID) := do
  let calls ← callGraph program functionName
  let rootCallGraph : CallGraphNode := ⟨transitionIds.length - 1, "", calls⟩
  let some outermost := transitionIds.getLast? | throw .indexError
  traceExecution programs transitionIds program functionName rootCallGraph [outermost]

end AleoFinalize
