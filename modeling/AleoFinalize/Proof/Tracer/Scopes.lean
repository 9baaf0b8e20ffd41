import AleoFinalize.Spec.Scopes
import AleoFinalize.Proof.Tracer.AwaitOrder
import Mathlib.Data.List.Perm.Basic

/-!
**`build_async_order` runs every finalize scope exactly once** (lines 82-142).

Over a well-formed call graph with Aleo's future linearity at every node (`Linear`):

* `Linear.traceable` — linearity gives the hypotheses of the await-order theorem;
* `externalCalls_flatMap_perm` — the external calls of a body are the children of its node, one
  to one and in order;
* `awaitOrder_perm_descendants` — **by induction over the call tree**: the await order of a node
  is a permutation of the ids of the nodes below it, at any depth, whose function has a finalizer;
* `buildAsyncOrder_perm_scopes` — `build_async_order` returns the outermost transition and those
  ids, each exactly once;
* `awaitSwap_linear` — the spec's example is linear.
-/

namespace AleoFinalize

variable {programs : List Program} {ids : List TransitionID}

/-! ### The lists of a function -/

theorem flatMap_awaits {β : Type} (F : Command → List β) (K : Nat → List β)
    (awaits : ∀ register, F (.await register) = K register.locator) (other : F .other = []) :
    ∀ commands : List Command, commands.flatMap F = (awaitedInputs commands).flatMap K
  | [] => rfl
  | .await register :: commands => by
    simp [awaitedInputs, awaits, flatMap_awaits F K awaits other commands]
  | .other :: commands => by
    simp [awaitedInputs, other, flatMap_awaits F K awaits other commands]

/-- The inputs from position `start` on, one position further. -/
theorem drop_succ_of_eq_cons {full inputs : List Held} {start : Nat} {input : Held}
    (suffix : full.drop start = input :: inputs) : full.drop (start + 1) = inputs := by
  rw [← List.tail_drop, suffix]
  rfl

theorem flatMap_futurePositions {β : Type} (full : List Held) {K : Nat → List β}
    (H : Nat × String × String → List β)
    (holds : ∀ position call programId resource,
      full[position]? = some (.future call programId resource) →
        K position = H (call, programId, resource)) :
    ∀ (inputs : List Held) (start : Nat), full.drop start = inputs →
      (futurePositions start inputs).flatMap K = (heldFutures inputs).flatMap H
  | [], _, _ => rfl
  | .future call programId resource :: inputs, start, suffix => by
    have here : full[start]? = some (.future call programId resource) := by
      rw [← List.head?_drop, suffix]
      rfl
    simp only [futurePositions, heldFutures, List.flatMap_cons, holds _ _ _ _ here,
      flatMap_futurePositions full H holds inputs (start + 1) (drop_succ_of_eq_cons suffix)]
  | .other :: inputs, start, suffix =>
    flatMap_futurePositions full H holds inputs (start + 1) (drop_succ_of_eq_cons suffix)

theorem fedFutures_of_finalize {function : Function} {finalize : Finalize}
    (defined : function.finalize = some finalize) :
    fedFutures programs function = heldFutures (futureInputs programs function) := by
  simp [fedFutures, defined]

theorem fedFutures_of_none {function : Function} (defined : function.finalize = none) :
    fedFutures programs function = [] := by
  simp [fedFutures, defined]

theorem mem_awaitedInputs {register : Register} :
    ∀ {commands : List Command}, Command.await register ∈ commands →
      register.locator ∈ awaitedInputs commands
  | [], member => nomatch member
  | command :: commands, member => by
    rcases List.mem_cons.mp member with rfl | later
    · simp [awaitedInputs]
    · cases command <;> simp [awaitedInputs, mem_awaitedInputs later]

theorem futurePositions_held {full : List Held} {position : Nat} :
    ∀ {inputs : List Held} {start : Nat}, full.drop start = inputs →
      position ∈ futurePositions start inputs →
      ∃ call programId resource, full[position]? = some (.future call programId resource) ∧
        (call, programId, resource) ∈ heldFutures inputs
  | [], _, _, member => nomatch member
  | .future call programId resource :: inputs, start, suffix, member => by
    rcases List.mem_cons.mp member with rfl | later
    · refine ⟨call, programId, resource, ?_, by simp [heldFutures]⟩
      rw [← List.head?_drop, suffix]
      rfl
    · obtain ⟨call', programId', resource', at_, held⟩ :=
        futurePositions_held (drop_succ_of_eq_cons suffix) later
      exact ⟨call', programId', resource', at_, by simp [heldFutures, held]⟩
  | .other :: inputs, start, suffix, member => by
    obtain ⟨call', programId', resource', at_, held⟩ :=
      futurePositions_held (drop_succ_of_eq_cons suffix) member
    exact ⟨call', programId', resource', at_, by simpa [heldFutures] using held⟩

/-! ### Linearity and the await order -/

/-- **Linearity gives the hypotheses of the await order**: every await reads a future of a call
to a function with a finalizer, whose child is linear in turn. -/
theorem Linear.traceable (program : Program) (functionName : String) (node : CallGraphNode)
    (linear : Linear programs ids program functionName node) :
    Traceable programs ids program functionName node := by
  rw [Linear] at linear
  obtain ⟨indices, function, found, calls, -, fed, awaited, children⟩ := linear
  rw [Traceable]
  refine ⟨indices, function, found, fun finalize defined => ⟨calls, fun register member => ?_⟩⟩
  obtain ⟨call, programId, resource, at_, held⟩ := futurePositions_held (List.drop_zero _)
    ((awaited finalize defined).subset (mem_awaitedInputs member))
  obtain ⟨external, -⟩ := List.mem_filter.mp (fed.subset (fedFutures_of_finalize defined ▸ held))
  obtain ⟨child, callee, childAt, calleeFound, childLinear⟩ := children _ _ _ external
  exact ⟨call, programId, resource, child, callee, at_, childAt, calleeFound,
    childLinear.traceable callee resource child.1⟩
termination_by node
decreasing_by exact CallGraphNode.sizeOf_lt_of_mem child.2

/-! ### Every scope exactly once -/

theorem flatMap_filter {α β : Type} (p : α → Bool) (f : α → List β) :
    ∀ l : List α, (l.filter p).flatMap f = l.flatMap fun a => if p a then f a else []
  | [] => rfl
  | a :: l => by by_cases kept : p a <;> simp [List.filter_cons, kept, flatMap_filter p f l]

/-- **The calls of a body are the children of its node**: along a body whose calls match the
children one to one, what each call contributes is, up to order, what its child contributes. -/
theorem externalCalls_flatMap_perm {β : Type} {node : CallGraphNode}
    (F : Nat × String × String → List β) (G : {child // child ∈ node.calls} → List β) :
    ∀ (instructions : List Instruction) (n : Nat), CallsMatch programs node n instructions →
      node.calls.length = n + (externalCalls n instructions).length →
      (∀ call ∈ externalCalls n instructions, ∀ child, node.calls.attach[call.1]? = some child →
        nodeHasFinalizer programs child.1 = calleeHasFinalizer programs call.2.1 call.2.2 →
        (F call).Perm (G child)) →
      ((externalCalls n instructions).flatMap F).Perm ((node.calls.attach.drop n).flatMap G)
  | [], n, _, length, _ => by
    simp only [externalCalls, List.length_nil, Nat.add_zero] at length
    rw [List.drop_eq_nil_of_le (by simp [length])]
    rfl
  | .call (.locator programId resource) destinations :: instructions, n, calls, length, agree => by
    obtain ⟨⟨callee, function, found, hasFunction, -⟩, ⟨child, childAt, named⟩, rest⟩ := calls
    have member : child ∈ node.calls := List.getElem?_mem childAt
    have attached : node.calls.attach[n]? = some ⟨child, member⟩ := by
      simp [List.getElem?_attach, childAt]
    have same :
        nodeHasFinalizer programs child = calleeHasFinalizer programs programId resource := by
      rw [nodeHasFinalizer, named, splitName_join (getProgram_id found ▸ callee.id_valid)
        (Program.function?_name hasFunction ▸ function.name_valid)]
    have restLength : node.calls.length = n + 1 + (externalCalls (n + 1) instructions).length := by
      simp only [externalCalls, List.length_cons] at length
      omega
    have within : n < node.calls.attach.length := by
      rw [List.length_attach]
      omega
    rw [List.drop_eq_getElem_cons within,
      Option.some.inj ((List.getElem?_eq_getElem within).symm.trans attached)]
    simp only [externalCalls, List.flatMap_cons]
    exact (agree _ (List.mem_cons_self _ _) _ attached same).append
      (externalCalls_flatMap_perm F G instructions (n + 1) rest restLength
        fun call later => agree call (List.mem_cons_of_mem _ later))
  | .call (.resource _) _ :: instructions, n, calls, length, agree =>
    externalCalls_flatMap_perm F G instructions n calls length agree
  | .async _ :: instructions, n, calls, length, agree =>
    externalCalls_flatMap_perm F G instructions n calls length agree
  | .other _ :: instructions, n, calls, length, agree =>
    externalCalls_flatMap_perm F G instructions n calls length agree

/-- A function without a finalizer awaits nothing. -/
theorem awaitOrder_of_not_bearing {programId resource : String} {callee : Program}
    (notBearing : calleeHasFinalizer programs programId resource = false)
    (found : getProgram programs programId = some callee) (node : CallGraphNode) :
    awaitOrder programs ids callee resource node = [] := by
  simp only [calleeHasFinalizer, found] at notBearing
  rw [awaitOrder]
  split
  · rfl
  · rename_i function hasFunction
    cases defined : function.finalize with
    | none => rfl
    | some _ => simp [hasFunction, defined] at notBearing

/-- **No finalize scope is lost or duplicated**, by induction over the call tree: on a linear
node, the await order is a permutation of the ids of the nodes below it whose function has a
finalizer. -/
theorem awaitOrder_perm_descendants (program : Program) (functionName : String)
    (node : CallGraphNode) (linear : Linear programs ids program functionName node) :
    (awaitOrder programs ids program functionName node).Perm
      (((descendants node).filter (nodeHasFinalizer programs)).map fun scope =>
        ids.getD scope.index 0) := by
  rw [Linear] at linear
  obtain ⟨-, function, found, calls, length, fed, awaited, children⟩ := linear
  let H : Nat × String × String → List TransitionID := fun call =>
    match node.calls.attach[call.1]?, getProgram programs call.2.1 with
    | some child, some callee =>
      ids.getD child.1.index 0 :: awaitOrder programs ids callee call.2.2 child.1
    | _, _ => []
  have scopes : (((externalCalls 0 function.instructions).filter fun call =>
      calleeHasFinalizer programs call.2.1 call.2.2).flatMap H).Perm
      (((descendants node).filter (nodeHasFinalizer programs)).map fun scope =>
        ids.getD scope.index 0) := by
    rw [flatMap_filter, descendants, List.filter_flatMap, List.map_flatMap, ← List.drop_zero
      node.calls.attach]
    refine externalCalls_flatMap_perm _ _ function.instructions 0 calls (by simpa using length)
      fun ⟨call, programId, resource⟩ external child attached same => ?_
    obtain ⟨child', callee, attached', found', linear'⟩ := children call programId resource external
    cases attached.symm.trans attached'
    have below := awaitOrder_perm_descendants callee resource child.1 linear'
    simp only [List.filter_cons, same]
    split_ifs with bearing
    · simp only [H, attached', found', List.map_cons]
      exact below.cons _
    · rwa [awaitOrder_of_not_bearing (Bool.eq_false_iff.mpr bearing) found'] at below
  rw [awaitOrder, found]
  dsimp only
  cases defined : function.finalize with
  | none =>
    rw [(fed.symm.trans (.of_eq (fedFutures_of_none defined))).eq_nil, List.flatMap_nil] at scopes
    exact scopes
  | some finalize =>
    let K : Nat → List TransitionID := fun position =>
      match (futureInputs programs function)[position]? with
      | some (.future call programId resource) => H (call, programId, resource)
      | _ => []
    dsimp only
    rw [flatMap_awaits _ K (fun _ => rfl) rfl finalize.commands]
    refine ((awaited finalize defined).flatMap_right K).trans ?_
    rw [flatMap_futurePositions (futureInputs programs function) H
      (fun _ _ _ _ at_ => by simp only [K, at_]) _ 0 (List.drop_zero _)]
    exact ((fedFutures_of_finalize defined ▸ fed).flatMap_right H).trans scopes
termination_by node
decreasing_by exact CallGraphNode.sizeOf_lt_of_mem child.2

/-- **No finalize scope is lost or duplicated**: on a well-formed call graph with future linearity
at every node, `build_async_order` raises nothing and returns, up to order, the outermost
transition and the transition of every node below the root, at any depth, whose function has a
finalizer, each exactly once. Distinct ids are not needed: a permutation counts repeats. -/
theorem buildAsyncOrder_perm_scopes (callGraph : Program → String → Except Fault (List CallGraphNode))
    (ids : List TransitionID) (program : Program) (functionName : String)
    (calls : List CallGraphNode) (graph : callGraph program functionName = .ok calls)
    (nonempty : ids ≠ [])
    (linear : Linear programs ids program functionName ⟨ids.length - 1, "", calls⟩) :
    ∃ order, buildAsyncOrder programs callGraph ids program functionName = .ok order ∧
      order.Perm (ids.getLast nonempty ::
        ((descendants ⟨ids.length - 1, "", calls⟩).filter (nodeHasFinalizer programs)).map
          fun scope => ids.getD scope.index 0) := by
  refine ⟨_, ?_, (awaitOrder_perm_descendants program functionName _ linear).cons _⟩
  rw [buildAsyncOrder, graph, except_ok_bind, List.getLast?_eq_getLast ids nonempty]
  exact traceExecution_eq_awaitOrder ids program functionName _ (linear.traceable _ _ _) _

/-! ### The spec's example is linear -/

/-- A function with an empty finalize is linear at any leaf. -/
theorem leafFunction_linear {program : Program} {name : String} {valid : NoSlash name}
    (hasFunction : program.function? name = some (leafFunction name valid))
    {node : CallGraphNode} (leaf : node.calls = []) : Linear programs ids program name node := by
  rw [Linear]
  refine ⟨by simp [leaf], _, hasFunction, trivial, by simp [leaf, leafFunction, externalCalls],
    .of_eq rfl, fun finalize defined => ?_, fun _ _ _ external => nomatch external⟩
  cases defined
  exact .of_eq rfl

theorem awaitSwap_linear :
    Linear awaitSwapPrograms [10, 20, 30] awaitSwapProgram "main" ⟨2, "", awaitSwapCalls⟩ := by
  rw [Linear]
  refine ⟨by decide, awaitSwapMain, rfl,
    ⟨⟨awaitSwapA, leafFunction "fa" (by decide), rfl, rfl, by simp⟩, ⟨_, rfl, rfl⟩,
      ⟨awaitSwapB, leafFunction "fb" (by decide), rfl, rfl, by simp⟩, ⟨_, rfl, rfl⟩, trivial⟩,
    rfl, .of_eq rfl, fun finalize defined => ?_, fun call programId resource external => ?_⟩
  · cases defined
    exact .swap 0 1 []
  · simp only [show externalCalls 0 awaitSwapMain.instructions =
        [(0, "a.aleo", "fa"), (1, "b.aleo", "fb")] from rfl, List.mem_cons, Prod.mk.injEq,
      List.mem_singleton, List.not_mem_nil, or_false] at external
    rcases external with ⟨rfl, rfl, rfl⟩ | ⟨rfl, rfl, rfl⟩
    · exact ⟨⟨⟨0, "a.aleo/fa", []⟩, by simp [awaitSwapCalls]⟩, awaitSwapA, rfl, rfl,
        by apply leafFunction_linear <;> rfl⟩
    · exact ⟨⟨⟨1, "b.aleo/fb", []⟩, by simp [awaitSwapCalls]⟩, awaitSwapB, rfl, rfl,
        by apply leafFunction_linear <;> rfl⟩

theorem buildAsyncOrder_perm_scopes_awaitSwap :
    Linear awaitSwapPrograms [10, 20, 30] awaitSwapProgram "main" ⟨2, "", awaitSwapCalls⟩ ∧
      ∃ order, buildAsyncOrder awaitSwapPrograms (fun _ _ => .ok awaitSwapCalls) [10, 20, 30]
          awaitSwapProgram "main" = .ok order ∧
        order.Perm (30 :: ((descendants ⟨2, "", awaitSwapCalls⟩).filter
          (nodeHasFinalizer awaitSwapPrograms)).map fun scope => [10, 20, 30].getD scope.index 0) :=
  ⟨awaitSwap_linear, buildAsyncOrder_perm_scopes (fun _ _ => .ok awaitSwapCalls) [10, 20, 30]
    awaitSwapProgram "main" awaitSwapCalls rfl (List.cons_ne_nil _ _) awaitSwap_linear⟩

end AleoFinalize
