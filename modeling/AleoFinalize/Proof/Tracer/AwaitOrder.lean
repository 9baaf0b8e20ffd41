import AleoFinalize.Spec.AwaitOrder

/-!
**The tracer computes the await order.**

* `scanInstructions_simulates` — the instruction loop of `_trace_execution` simulates the dataflow
  of futures: whenever the abstract run holds the future of external call `j` in a register (or a
  finalize input), the register map holds the child `node.calls[j]` there, and the code's own name
  check pins that child to the callee (`Resolves`).
* `awaitCommands_eq` — the command loop appends, command by command, what tracing each awaited
  child appends.
* `traceExecution_eq_awaitOrder` — by induction over the call tree: on a traceable node, the
  tracer returns the order it was given followed by `awaitOrder`.
-/

namespace AleoFinalize

variable {programs : List Program} {node : CallGraphNode}

/-! ### The operand loop and the register writes -/

/-- One operand only ever writes the input of its own position. -/
theorem feedOperand_of_ne {α : Type} (futureRegisterMap finalizeRegisterMap : Nat → Option α)
    (operand : Operand) {paramIndex index : Nat} (other : index ≠ paramIndex) :
    feedOperand futureRegisterMap finalizeRegisterMap paramIndex operand index =
      finalizeRegisterMap index := by
  match operand with
  | .register (.locatorRegister locator) =>
    cases stored : futureRegisterMap locator <;>
      simp [feedOperand, stored, Function.update_noteq other]
  | .register (.accessRegister _ _) | .other => rfl

/-- The operand loop never touches the inputs before its start. -/
theorem feedOperands_of_lt {α : Type} (futureRegisterMap : Nat → Option α) (operands : List Operand)
    (start : Nat) (finalizeRegisterMap : Nat → Option α) {index : Nat} (before : index < start) :
    feedOperands futureRegisterMap start operands finalizeRegisterMap index =
      finalizeRegisterMap index := by
  induction operands generalizing start finalizeRegisterMap with
  | nil => rfl
  | cons operand operands ih =>
    rw [feedOperands, ih _ _ (by omega), feedOperand_of_ne _ _ _ (by omega)]

/-- **An operand holding a recorded future feeds its node to the input of its position.** -/
theorem feedOperands_of_getElem? {α : Type} (futureRegisterMap : Nat → Option α)
    (operands : List Operand) (start : Nat) (finalizeRegisterMap : Nat → Option α) {index : Nat}
    {locator : Nat} {child : α}
    (operand : operands[index]? = some (.register (.locatorRegister locator)))
    (held : futureRegisterMap locator = some child) :
    feedOperands futureRegisterMap start operands finalizeRegisterMap (start + index) =
      some child := by
  induction operands generalizing start index finalizeRegisterMap with
  | nil => simp at operand
  | cons first operands ih =>
    rw [feedOperands]
    cases index with
    | zero =>
      simp only [List.getElem?_cons_zero, Option.some.injEq] at operand
      subst operand
      rw [feedOperands_of_lt _ _ _ _ (by omega)]
      simp [feedOperand, held]
    | succ index =>
      rw [show start + (index + 1) = start + 1 + index by omega]
      exact ih _ _ (by simpa using operand)

/-- A register of the written file holds a future only as the last destination, or untouched. -/
theorem writeDestinations_future {registers : Nat → Held} {destinations : List Register}
    {last : Held} {locator call : Nat} {programId resource : String}
    (holds : writeDestinations registers destinations last locator =
      .future call programId resource) :
    (destinations.getLast?.map Register.locator = some locator ∧
        last = .future call programId resource) ∨
      (destinations.getLast?.map Register.locator ≠ some locator ∧
        registers locator = .future call programId resource) := by
  unfold writeDestinations at holds
  split_ifs at holds with isLast written
  · exact .inl ⟨isLast, holds⟩
  · exact .inr ⟨isLast, holds⟩

/-! ### The instruction loop simulates the dataflow -/

/-- The child of external call number `call`: `node.calls[call]`, named `programId/resource` after
its callee, which exists. -/
def Resolves (programs : List Program) (node : CallGraphNode) (call : Nat)
    (programId resource : String) (child : {child // child ∈ node.calls}) : Prop :=
  node.calls.attach[call]? = some child ∧ child.1.name = programId ++ "/" ++ resource ∧
    ∃ callee function, getProgram programs programId = some callee ∧
      callee.function? resource = some function

/-- The scan state against the abstract run: the same number of calls, and a recorded child for
every future the abstract run holds in a register or a finalize input. -/
structure Simulates (programs : List Program) (node : CallGraphNode) (flow : Flow)
    (state : ScanState node) : Prop where
  callIndex_eq : state.callIndex = flow.calls
  registers : ∀ locator call programId resource,
    flow.registers locator = .future call programId resource →
      ∃ child, state.futureRegisterMap locator = some child ∧
        Resolves programs node call programId resource child
  inputs : ∀ index call programId resource,
    flow.inputs[index]? = some (.future call programId resource) →
      ∃ child, state.finalizeRegisterMap index = some child ∧
        Resolves programs node call programId resource child

theorem simulates_init : Simulates programs node Flow.init (ScanState.init node) where
  callIndex_eq := rfl
  registers := by intro _ _ _ _ holds; cases holds
  inputs := by intro _ _ _ _ holds; simp [Flow.init] at holds

/-- Writing destinations with a non-future last value keeps the simulation of the registers. -/
theorem Simulates.write_other {flow : Flow} {state : ScanState node}
    (sim : Simulates programs node flow state) (destinations : List Register) :
    ∀ locator call programId resource,
      writeDestinations flow.registers destinations .other locator =
          .future call programId resource →
        ∃ child, state.futureRegisterMap locator = some child ∧
          Resolves programs node call programId resource child := by
  intro locator call programId resource holds
  rcases writeDestinations_future holds with ⟨-, impossible⟩ | ⟨-, old⟩
  · cases impossible
  · exact sim.registers _ _ _ _ old

/-- Writing destinations whose last one receives the future of a call, while the scan records the
call's child for that register, keeps the simulation of the registers. -/
theorem Simulates.write_future {flow : Flow} {state : ScanState node}
    (sim : Simulates programs node flow state) {destinations : List Register} {last : Register}
    (isLast : destinations.getLast? = some last) {programId resource : String}
    {child : {child // child ∈ node.calls}}
    (resolves : Resolves programs node flow.calls programId resource child) :
    ∀ locator call programId' resource',
      writeDestinations flow.registers destinations (.future flow.calls programId resource)
          locator = .future call programId' resource' →
        ∃ stored, Function.update state.futureRegisterMap last.locator (some child) locator =
            some stored ∧ Resolves programs node call programId' resource' stored := by
  intro locator call programId' resource' holds
  rcases writeDestinations_future holds with ⟨lastHere, same⟩ | ⟨notLast, old⟩
  · simp only [isLast, Option.map_some', Option.some.injEq] at lastHere
    obtain ⟨rfl, rfl, rfl⟩ := Held.future.inj same
    subst lastHere
    exact ⟨child, by simp, resolves⟩
  · obtain ⟨stored, storedAt, resolvesOld⟩ := sim.registers _ _ _ _ old
    have other : locator ≠ last.locator := fun same => notLast (by simp [isLast, same])
    exact ⟨stored, by simp [Function.update_noteq other, storedAt], resolvesOld⟩

/-- **One instruction keeps the simulation**, and the call-graph hypothesis for the rest. -/
theorem scanInstruction_simulates {flow : Flow} {state : ScanState node}
    (sim : Simulates programs node flow state) (instruction : Instruction)
    (rest : List Instruction) (calls : CallsMatch programs node state.callIndex (instruction :: rest)) :
    ∃ next, scanInstruction programs node state instruction = .ok next ∧
      Simulates programs node (flowInstruction programs flow instruction) next ∧
      CallsMatch programs node next.callIndex rest := by
  match instruction with
  | .call (.locator programId resource) destinations =>
    obtain ⟨⟨callee, function, found, hasFunction, hasDestination⟩,
      ⟨child, childAt, named⟩, restCalls⟩ := calls
    have calleeId : callee.id = programId := getProgram_id found
    have functionName : function.name = resource := Program.function?_name hasFunction
    cases finalize : function.finalize with
    | none =>
      have plain : calleeHasFinalizer programs programId resource = false := by
        simp [calleeHasFinalizer, found, hasFunction, finalize]
      refine ⟨{ state with callIndex := state.callIndex + 1 }, ?_, ?_, restCalls⟩
      · simp [scanInstruction, found, hasFunction, finalize]
      · refine ⟨by simp [flowInstruction, sim.callIndex_eq], ?_, sim.inputs⟩
        simp only [flowInstruction, plain, Bool.false_eq_true, if_false]
        exact sim.write_other destinations
    | some _ =>
      have bearing : calleeHasFinalizer programs programId resource = true := by
        simp [calleeHasFinalizer, found, hasFunction, finalize]
      obtain ⟨last, isLast⟩ := Option.ne_none_iff_exists'.mp
        (mt List.getLast?_eq_none_iff.mp (hasDestination (by simp [finalize])))
      have member : child ∈ node.calls := List.getElem?_mem childAt
      have attached : node.calls.attach[state.callIndex]? = some ⟨child, member⟩ := by
        simp [List.getElem?_attach, childAt]
      refine ⟨{ state with
          futureRegisterMap := Function.update state.futureRegisterMap last.locator
            (some ⟨child, member⟩)
          callIndex := state.callIndex + 1 }, ?_, ?_, restCalls⟩
      · simp [scanInstruction, found, hasFunction, finalize, isLast, attached, calleeId,
          functionName, named]
      · refine ⟨by simp [flowInstruction, sim.callIndex_eq], ?_, sim.inputs⟩
        have resolves : Resolves programs node flow.calls programId resource ⟨child, member⟩ :=
          ⟨sim.callIndex_eq ▸ attached, named, callee, function, found, hasFunction⟩
        simp only [flowInstruction, bearing, if_true]
        exact sim.write_future isLast resolves
  | .call (.resource _) destinations | .other destinations =>
    refine ⟨state, rfl, ⟨sim.callIndex_eq, ?_, sim.inputs⟩, by simpa [CallsMatch] using calls⟩
    exact sim.write_other destinations
  | .async operands =>
    refine ⟨_, rfl, ⟨sim.callIndex_eq, sim.registers, ?_⟩, by simpa [CallsMatch] using calls⟩
    intro index call programId resource holds
    simp only [flowInstruction, List.getElem?_map, Option.map_eq_some'] at holds
    obtain ⟨operand, operandAt, value⟩ := holds
    match operand, value with
    | .register (.locatorRegister locator), value =>
      obtain ⟨child, stored, resolves⟩ := sim.registers _ _ _ _ value
      refine ⟨child, ?_, resolves⟩
      simpa using feedOperands_of_getElem? state.futureRegisterMap operands 0
        state.finalizeRegisterMap operandAt stored

/-- **The instruction loop simulates the dataflow** over a whole function body. -/
theorem scanInstructions_simulates {flow : Flow} {state : ScanState node}
    (sim : Simulates programs node flow state) (instructions : List Instruction)
    (calls : CallsMatch programs node state.callIndex instructions) :
    ∃ final, scanInstructions programs node state instructions = .ok final ∧
      Simulates programs node (instructions.foldl (flowInstruction programs) flow) final := by
  induction instructions generalizing flow state with
  | nil => exact ⟨state, rfl, sim⟩
  | cons instruction instructions ih =>
    obtain ⟨next, step, nextSim, nextCalls⟩ :=
      scanInstruction_simulates sim instruction instructions calls
    obtain ⟨final, run, finalSim⟩ := ih nextSim nextCalls
    exact ⟨final, by simp [scanInstructions, step, run], finalSim⟩

/-! ### The command loop and the recursion -/

/-- **The command loop appends, command by command, what tracing each awaited child appends.** -/
theorem awaitCommands_eq {finalizeRegisterMap : Nat → Option {child // child ∈ node.calls}}
    {traceChild : {child // child ∈ node.calls} → List TransitionID →
      Except Fault (List TransitionID)}
    (output : Command → List TransitionID) (commands : List Command)
    (other : output .other = [])
    (awaited : ∀ register, Command.await register ∈ commands →
      ∃ child, finalizeRegisterMap register.locator = some child ∧
        ∀ order, traceChild child order = .ok (order ++ output (.await register)))
    (order : List TransitionID) :
    awaitCommands finalizeRegisterMap traceChild commands order =
      .ok (order ++ commands.flatMap output) := by
  induction commands generalizing order with
  | nil => simp [awaitCommands]
  | cons command commands ih =>
    have rest := ih fun register member => awaited register (List.mem_cons_of_mem _ member)
    cases command with
    | await register =>
      obtain ⟨child, stored, traced⟩ := awaited register (List.mem_cons_self _ _)
      simp [awaitCommands, stored, traced, rest]
    | other => simp [awaitCommands, other, rest]

/-- **On a traceable node the tracer appends exactly the await order**, by induction over the
call tree. -/
theorem traceExecution_eq_awaitOrder (ids : List TransitionID) (program : Program)
    (functionName : String) (node : CallGraphNode)
    (traceable : Traceable programs ids program functionName node) (asyncOrder : List TransitionID) :
    traceExecution programs ids program functionName node asyncOrder =
      .ok (asyncOrder ++ awaitOrder programs ids program functionName node) := by
  rw [Traceable] at traceable
  obtain ⟨indices, function, hasFunction, finalized⟩ := traceable
  have inRange : node.calls.any (fun child => decide (ids.length ≤ child.index)) = false := by
    simpa [List.any_eq_false] using indices
  rw [traceExecution, awaitOrder]
  cases hasFinalize : function.finalize with
  | none => simp [inRange, hasFunction, hasFinalize]
  | some finalize =>
    obtain ⟨calls, awaits⟩ := finalized finalize hasFinalize
    obtain ⟨state, scanned, sim⟩ :=
      scanInstructions_simulates simulates_init function.instructions calls
    simp only [inRange, hasFunction, hasFinalize, scanned, Bool.false_eq_true, if_false,
      except_ok_bind]
    refine awaitCommands_eq _ _ rfl ?_ asyncOrder
    intro register member
    obtain ⟨call, programId, resource, child, callee, input, childAt, found, childTraceable⟩ :=
      awaits register member
    obtain ⟨stored, storedAt, storedChild, named, callee', function', found', hasFunction'⟩ :=
      sim.inputs _ _ _ _ input
    obtain rfl : stored = child := Option.some.inj (storedChild.symm.trans childAt)
    obtain rfl : callee' = callee := Option.some.inj (found'.symm.trans found)
    have transition : ids[stored.1.index]? = some (ids.getD stored.1.index 0) := by
      simp [List.getElem?_eq_getElem (indices _ stored.2)]
    have split : splitName stored.1.name = [programId, resource] := by
      rw [named, splitName_join (getProgram_id found ▸ callee'.id_valid)
        (Program.function?_name hasFunction' ▸ function'.name_valid)]
    refine ⟨stored, storedAt, fun order => ?_⟩
    simp only [transition, split, found, hasFunction', input, childAt, Option.isNone_some,
      Bool.false_eq_true, if_false, except_ok_bind]
    rw [traceExecution_eq_awaitOrder ids callee' resource stored.1 childTraceable]
    simp
termination_by node
decreasing_by exact CallGraphNode.sizeOf_lt_of_mem stored.2

/-- **`build_async_order` is the outermost transition followed by the await order**: on a
traceable call graph it raises nothing and returns `ids[-1]` followed by `awaitOrder` of the root. -/
theorem buildAsyncOrder_eq_awaitOrder (callGraph : Program → String → Except Fault (List CallGraphNode))
    (ids : List TransitionID) (program : Program) (functionName : String)
    (calls : List CallGraphNode) (graph : callGraph program functionName = .ok calls)
    (nonempty : ids ≠ [])
    (traceable : Traceable programs ids program functionName ⟨ids.length - 1, "", calls⟩) :
    buildAsyncOrder programs callGraph ids program functionName =
      .ok (ids.getLast nonempty ::
        awaitOrder programs ids program functionName ⟨ids.length - 1, "", calls⟩) := by
  rw [buildAsyncOrder, graph, except_ok_bind, List.getLast?_eq_getLast ids nonempty]
  exact traceExecution_eq_awaitOrder ids program functionName _ traceable _

/-! ### The spec's example: `p.aleo/main` calls `a.aleo/fa`, then `b.aleo/fb`, and awaits `fb`
first -/

/-- A function with an empty finalize. -/
def leafFunction (name : String) (valid : NoSlash name) : Function :=
  ⟨name, [], some ⟨[]⟩, valid⟩

/-- `main` calls `a.aleo/fa` into `r0`, `b.aleo/fb` into `r1`, feeds both futures to its finalize,
and awaits the second input before the first. -/
def awaitSwapMain : Function where
  name := "main"
  instructions := [.call (.locator "a.aleo" "fa") [.locatorRegister 0],
    .call (.locator "b.aleo" "fb") [.locatorRegister 1],
    .async [.register (.locatorRegister 0), .register (.locatorRegister 1)]]
  finalize := some ⟨[.await (.locatorRegister 1), .await (.locatorRegister 0)]⟩
  name_valid := by decide

def awaitSwapProgram : Program := ⟨"p.aleo", [awaitSwapMain], [], by decide⟩

def awaitSwapA : Program := ⟨"a.aleo", [leafFunction "fa" (by decide)], [], by decide⟩

def awaitSwapB : Program := ⟨"b.aleo", [leafFunction "fb" (by decide)], [], by decide⟩

def awaitSwapPrograms : List Program := [awaitSwapProgram, awaitSwapA, awaitSwapB]

/-- The call graph of `main` over the transitions `[a, b, p] = [10, 20, 30]`. -/
def awaitSwapCalls : List CallGraphNode := [⟨0, "a.aleo/fa", []⟩, ⟨1, "b.aleo/fb", []⟩]

/-- A function with an empty finalize is traceable at any leaf. -/
theorem leafFunction_traceable {ids : List TransitionID} {program : Program} {name : String}
    {valid : NoSlash name} (hasFunction : program.function? name = some (leafFunction name valid))
    {node : CallGraphNode} (leaf : node.calls = []) : Traceable programs ids program name node := by
  rw [Traceable]
  refine ⟨by simp [leaf], _, hasFunction, fun finalize defined => ?_⟩
  cases defined
  exact ⟨trivial, fun _ member => nomatch member⟩

theorem awaitSwap_traceable :
    Traceable awaitSwapPrograms [10, 20, 30] awaitSwapProgram "main" ⟨2, "", awaitSwapCalls⟩ := by
  rw [Traceable]
  refine ⟨by decide, awaitSwapMain, rfl, fun finalize defined => ?_⟩
  cases defined
  refine ⟨?_, fun register member => ?_⟩
  · exact ⟨⟨awaitSwapA, leafFunction "fa" (by decide), rfl, rfl, by simp⟩, ⟨_, rfl, rfl⟩,
      ⟨awaitSwapB, leafFunction "fb" (by decide), rfl, rfl, by simp⟩, ⟨_, rfl, rfl⟩, trivial⟩
  · simp only [List.mem_cons, Command.await.injEq, List.mem_singleton, List.not_mem_nil,
      or_false] at member
    rcases member with rfl | rfl
    · refine ⟨1, "b.aleo", "fb", ⟨⟨1, "b.aleo/fb", []⟩, by simp [awaitSwapCalls]⟩, awaitSwapB,
        by decide, rfl, rfl, ?_⟩
      apply leafFunction_traceable <;> rfl
    · refine ⟨0, "a.aleo", "fa", ⟨⟨0, "a.aleo/fa", []⟩, by simp [awaitSwapCalls]⟩, awaitSwapA,
        by decide, rfl, rfl, ?_⟩
      apply leafFunction_traceable <;> rfl

theorem awaitSwap_awaitOrder :
    awaitOrder awaitSwapPrograms [10, 20, 30] awaitSwapProgram "main" ⟨2, "", awaitSwapCalls⟩ =
      [20, 10] := by
  have inputs : futureInputs awaitSwapPrograms awaitSwapMain =
      [.future 0 "a.aleo" "fa", .future 1 "b.aleo" "fb"] := by decide
  have leafA (node : CallGraphNode) :
      awaitOrder awaitSwapPrograms [10, 20, 30] awaitSwapA "fa" node = [] := by
    rw [awaitOrder]; rfl
  have leafB (node : CallGraphNode) :
      awaitOrder awaitSwapPrograms [10, 20, 30] awaitSwapB "fb" node = [] := by
    rw [awaitOrder]; rfl
  rw [awaitOrder]
  simp only [show awaitSwapProgram.function? "main" = some awaitSwapMain from rfl, inputs,
    show awaitSwapMain.finalize = some ⟨[.await (.locatorRegister 1), .await (.locatorRegister 0)]⟩
      from rfl, List.flatMap_cons, List.flatMap_nil, Register.locator, List.getElem?_cons_zero,
    List.getElem?_cons_succ,
    show awaitSwapCalls.attach[0]? = some ⟨⟨0, "a.aleo/fa", []⟩, by simp [awaitSwapCalls]⟩ from rfl,
    show awaitSwapCalls.attach[1]? = some ⟨⟨1, "b.aleo/fb", []⟩, by simp [awaitSwapCalls]⟩ from rfl,
    show getProgram awaitSwapPrograms "a.aleo" = some awaitSwapA from rfl,
    show getProgram awaitSwapPrograms "b.aleo" = some awaitSwapB from rfl, leafA, leafB]
  rfl

/-- **The spec's example**: the order is `p`, then `b`, then `a`: await order, not call order. -/
theorem buildAsyncOrder_awaitSwap :
    buildAsyncOrder awaitSwapPrograms (fun _ _ => .ok awaitSwapCalls) [10, 20, 30]
      awaitSwapProgram "main" = .ok [30, 20, 10] := by
  rw [buildAsyncOrder_eq_awaitOrder (fun _ _ => .ok awaitSwapCalls) [10, 20, 30] awaitSwapProgram
    "main" awaitSwapCalls rfl (List.cons_ne_nil _ _) awaitSwap_traceable]
  exact congrArg (fun order => Except.ok (30 :: order)) awaitSwap_awaitOrder

end AleoFinalize
