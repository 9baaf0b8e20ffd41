import AleoFinalize.Interpreter.Depth

/-!
**The tracer terminates within the height of the call graph.**

* `traceExecution_eq_step` — `_trace_execution` is its body with itself as the recursive call;
* `traceExecutionStep_congr` — **every recursive call is on a child of the current node**: the
  register maps hold only children (`node["calls"][call_index]`), so a level depends on the
  recursive call at the children alone;
* `CallGraphNode.height_lt_of_mem` — a child is lower than its parent;
* `traceExecutionWithin_eq` — with room for as many nested calls as the call graph is high,
  `_trace_execution` never reaches the recursion limit, whatever programs it looks up, cycles
  of awaits between finalize bodies included.
-/

namespace AleoFinalize

variable {programs : List Program} {ids : List TransitionID}

/-! ### One level of the tracer -/

/-- `_trace_execution` unfolds to its body, with itself as the recursive call. -/
theorem traceExecution_eq_step (program : Program) (functionName : String) (node : CallGraphNode)
    (asyncOrder : List TransitionID) :
    traceExecution programs ids program functionName node asyncOrder =
      traceExecutionStep programs ids (traceExecution programs ids) program functionName node
        asyncOrder := by
  rw [traceExecution]
  rfl

/-- **Every recursive call is made on a child of the current node**: two recursive calls that
agree on the children give the same level. -/
theorem traceExecutionStep_congr {recurse recurse' : Program → String → CallGraphNode →
      List TransitionID → Except Fault (List TransitionID)}
    {node : CallGraphNode}
    (agree : ∀ child ∈ node.calls, ∀ program functionName asyncOrder,
      recurse program functionName child asyncOrder = recurse' program functionName child asyncOrder)
    (program : Program) (functionName : String) (asyncOrder : List TransitionID) :
    traceExecutionStep programs ids recurse program functionName node asyncOrder =
      traceExecutionStep programs ids recurse' program functionName node asyncOrder := by
  have children : (fun calledNode : {child // child ∈ node.calls} =>
      traceChild programs ids recurse calledNode.1) =
      fun calledNode => traceChild programs ids recurse' calledNode.1 :=
    funext fun calledNode => funext fun order => by
      simp only [traceChild, agree calledNode.1 calledNode.2]
  simp only [traceExecutionStep, children]

/-! ### Heights -/

theorem callsHeight_lt_of_mem {child : CallGraphNode} {calls : List CallGraphNode}
    (member : child ∈ calls) : child.height < CallGraphNode.callsHeight calls := by
  induction calls with
  | nil => cases member
  | cons head calls ih =>
    rw [CallGraphNode.callsHeight]
    rcases List.mem_cons.mp member with rfl | later
    · omega
    · have lower := ih later
      omega

/-- A child is lower than its parent. -/
theorem CallGraphNode.height_lt_of_mem {node child : CallGraphNode} (member : child ∈ node.calls) :
    child.height < node.height := by
  cases node
  exact callsHeight_lt_of_mem member

/-! ### The recursion depth -/

/-- **The tracer stays within the height of the call graph**: for every finite call-graph tree and
whatever programs, with room for as many nested calls as the tree is high, `_trace_execution`
never reaches the recursion limit, and returns what it returns without one. -/
theorem traceExecutionWithin_eq (limit : Nat) (program : Program) (functionName : String)
    (node : CallGraphNode) (asyncOrder : List TransitionID) (within : node.height ≤ limit) :
    traceExecutionWithin programs ids limit program functionName node asyncOrder =
      traceExecution programs ids program functionName node asyncOrder := by
  rw [traceExecution_eq_step]
  induction limit generalizing program functionName node asyncOrder with
  | zero =>
    refine traceExecutionStep_congr (fun child member => ?_) program functionName asyncOrder
    exact absurd (CallGraphNode.height_lt_of_mem member) (by omega)
  | succ limit ih =>
    refine traceExecutionStep_congr (fun child member program functionName asyncOrder => ?_)
      program functionName asyncOrder
    have lower := CallGraphNode.height_lt_of_mem member
    rw [ih program functionName child asyncOrder (by omega), ← traceExecution_eq_step]

/-- `loop.aleo/main` calls itself and its finalize awaits that call. -/
def loopMain : Function where
  name := "main"
  instructions := [.call (.locator "loop.aleo" "main") [.locatorRegister 0],
    .async [.register (.locatorRegister 0)]]
  finalize := some ⟨[.await (.locatorRegister 0)]⟩
  name_valid := by decide

def loopProgram : Program := ⟨"loop.aleo", [loopMain], [], by decide⟩

/-- A finite call graph for `main`: its call, and that call's call, a leaf. -/
def loopNode : CallGraphNode := ⟨0, "", [⟨0, "loop.aleo/main", [⟨0, "loop.aleo/main", []⟩]⟩]⟩

/-- The self-awaiting program is traced two calls deep, and the leaf's call raises
`IndexError`. -/
theorem traceExecutionWithin_eq_loop :
    loopNode.height ≤ 2 ∧
      traceExecution [loopProgram] [5] loopProgram "main" loopNode [5] = .error .indexError :=
  ⟨by decide, (traceExecutionWithin_eq 2 loopProgram "main" loopNode [5] (by decide)).symm.trans rfl⟩

end AleoFinalize
