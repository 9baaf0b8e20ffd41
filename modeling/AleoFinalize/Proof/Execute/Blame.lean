import AleoFinalize.Proof.Execute.Shape

/-!
**Fault localisation always succeeds.**

* `traceExecution_mem`, `buildAsyncOrder_mem` — every id of the await order is a transition id:
  line 85 reads each child's id from `transition_ids`, line 138 the outermost one;
* `transitionIndex_of_mem`, `transitionIndex_spec` — the search of lines 192-197 finds every id of
  the execution, at a position holding it;
* `primaryExecution_locates` — when the finalizer blames only transitions of the order it was
  given, the primary execution raises only what the finalizer raised, never its own
  `RuntimeError`, and every reason of line 198 cites a position holding the blamed transition.
-/

namespace AleoFinalize

/-! ### The order names transitions of the execution -/

section Order

variable {programs : List Program} {ids : List TransitionID}

/-- The command loop keeps every id a transition id, when tracing each child does. -/
theorem awaitCommands_mem {node : CallGraphNode}
    {finalizeRegisterMap : Nat → Option {child // child ∈ node.calls}}
    {traceChild : {child // child ∈ node.calls} → List TransitionID → Except Fault (List TransitionID)}
    (childMem : ∀ child order traced, (∀ t ∈ order, t ∈ ids) → traceChild child order = .ok traced →
      ∀ t ∈ traced, t ∈ ids) :
    ∀ (commands : List Command) (order traced : List TransitionID), (∀ t ∈ order, t ∈ ids) →
      awaitCommands finalizeRegisterMap traceChild commands order = .ok traced →
        ∀ t ∈ traced, t ∈ ids
  | [], order, traced, known, done => by
    cases done
    exact known
  | .await register :: commands, order, traced, known, done => by
    simp only [awaitCommands] at done
    split at done
    · rename_i child _
      rcases step : traceChild child order with fault | next
      · simp [step] at done
      · simp only [step, except_ok_bind] at done
        exact awaitCommands_mem childMem commands next traced (childMem child order next known step)
          done
    · cases done
  | .other :: commands, order, traced, known, done =>
    awaitCommands_mem childMem commands order traced known done

/-- **Every id the tracer appends is a transition id**, by induction over the call tree. -/
theorem traceExecution_mem (program : Program) (functionName : String) (node : CallGraphNode)
    {asyncOrder traced : List TransitionID} (known : ∀ t ∈ asyncOrder, t ∈ ids)
    (done : traceExecution programs ids program functionName node asyncOrder = .ok traced) :
    ∀ t ∈ traced, t ∈ ids := by
  rw [traceExecution] at done
  split_ifs at done
  · cases done
  cases hasFunction : program.function? functionName with
  | none => simp [hasFunction] at done
  | some function =>
    cases hasFinalize : function.finalize with
    | none =>
      simp only [hasFunction, hasFinalize, except_pure_eq, except_ok_bind, Except.ok.injEq] at done
      exact done ▸ known
    | some finalize =>
      rcases scanned : scanInstructions programs node (ScanState.init node) function.instructions
        with fault | state
      · simp only [hasFunction, hasFinalize, scanned, except_error_bind] at done
        cases done
      simp only [hasFunction, hasFinalize, scanned, except_pure_eq, except_ok_bind] at done
      refine awaitCommands_mem (fun child order next knownOrder step => ?_) _ _ _ known done
      rcases named : ids[child.1.index]? with _ | transitionId
      · simp [named] at step
      have extended : ∀ t ∈ order ++ [transitionId], t ∈ ids := by
        simpa [List.mem_append, or_imp, forall_and] using ⟨knownOrder, List.getElem?_mem named⟩
      simp only [named] at step
      split at step
      · split at step
        · split_ifs at step
          · cases step
          · exact traceExecution_mem _ _ child.1 extended step
        · cases step
      · cases step
termination_by node
decreasing_by exact CallGraphNode.sizeOf_lt_of_mem child.2

/-- **Every id of `build_async_order` is a transition id.** -/
theorem buildAsyncOrder_mem {callGraph : Program → String → Except Fault (List CallGraphNode)}
    {program : Program} {functionName : String} {order : List TransitionID}
    (built : buildAsyncOrder programs callGraph ids program functionName = .ok order) :
    ∀ t ∈ order, t ∈ ids := by
  rw [buildAsyncOrder] at built
  rcases graph : callGraph program functionName with fault | calls
  · simp [graph] at built
  rcases outermost : ids.getLast? with _ | last
  · simp [graph, outermost] at built
  simp only [graph, outermost, except_ok_bind] at built
  refine traceExecution_mem _ _ _ ?_ built
  simpa using List.mem_of_getLast?_eq_some outermost

end Order

/-- The order of the primary execution names transitions of the execution. -/
theorem primaryCall_order {env : Env} {execution : Execution} {allowStateChange : Bool}
    {call : FinalizerCall} (planned : primaryCall env execution allowStateChange = .ok (some call)) :
    ∀ t ∈ call.order, ∃ transition ∈ execution.transitions, transition.id = t := by
  rcases last : execution.transitions.getLast? with _ | transition
  · simp [primaryCall, last] at planned
  rcases outputs : transition.outputs.getLast? with _ | ⟨_ | future⟩ | _
  · simp [primaryCall, last, outputs] at planned
  · simp [primaryCall, last, outputs] at planned
  · rcases found : getProgram env.programs future.programId with _ | program
    · simp [primaryCall, last, outputs, found] at planned
    rw [primaryCall_eq_some last outputs found] at planned
    rcases built : buildAsyncOrder env.programs env.callGraph (execution.transitions.map (·.id))
      program future.functionName with fault | order
    · simp [built, Except.map] at planned
    · simp only [built, Except.map, Except.ok.injEq, Option.some.injEq] at planned
      subst planned
      simpa using buildAsyncOrder_mem built
  · simp [primaryCall, last, outputs] at planned

/-! ### The search of lines 192-197 -/

/-- The search finds a position holding the blamed transition. -/
theorem transitionIndex_spec {transitionId : Option TransitionID} :
    ∀ {transitions : List Transition} {index : Nat},
      transitionIndex transitionId transitions = some index →
        ∃ transition, transitions[index]? = some transition ∧ some transition.id = transitionId
  | [], _, found => nomatch found
  | transition :: transitions, index, found => by
    unfold transitionIndex at found
    split_ifs at found with here
    · cases found
      exact ⟨transition, List.getElem?_cons_zero, here⟩
    · obtain ⟨later, rest, rfl⟩ := Option.map_eq_some'.mp found
      obtain ⟨blamed, at_, same⟩ := transitionIndex_spec rest
      exact ⟨blamed, by simpa using at_, same⟩

/-- The search finds every id of the execution. -/
theorem transitionIndex_of_mem {transitionId : TransitionID} :
    ∀ {transitions : List Transition}, (∃ transition ∈ transitions, transition.id = transitionId) →
      ∃ index, transitionIndex (some transitionId) transitions = some index
  | [], ⟨_, absent, _⟩ => nomatch absent
  | transition :: transitions, ⟨other, member, named⟩ => by
    unfold transitionIndex
    split_ifs with here
    · exact ⟨0, rfl⟩
    · rcases List.mem_cons.mp member with rfl | later
      · exact absurd (congrArg some named) here
      · obtain ⟨index, found⟩ := transitionIndex_of_mem ⟨other, later, named⟩
        exact ⟨index + 1, by rw [found]; rfl⟩

/-! ### The primary execution -/

/-- **Fault localisation always succeeds.** Whenever the finalizer blames only transitions of the
order it is given, the ids of the primary execution's order are transition ids, its faults are
the finalizer's own (it never raises `RuntimeError("rejected transition not found in
transaction")`), and every reason of line 198 cites a position holding the transition that the
`ExecuteError` blames. -/
theorem primaryExecution_locates {env : Env} (blamesOrder : BlamesOrder env.executeFinalizer)
    {execution : Execution} {allowStateChange : Bool} {call : FinalizerCall}
    (planned : primaryCall env execution allowStateChange = .ok (some call))
    (storage : List DbWrite) (caches : Caches) :
    LocatesFaults env storage execution call caches := by
  have named := primaryCall_order planned
  refine ⟨named, fun fault final raised => ?_, fun operations reason final returned => ?_⟩
  · simp only [primaryExecution] at raised
    split at raised
    · cases raised
    · rename_i error after ran
      obtain ⟨t, inOrder, blamed⟩ := blamesOrder _ _ _ _ _ (runFinalizer_result ran)
      obtain ⟨index, found⟩ := transitionIndex_of_mem (named t inOrder)
      rw [blamed, found] at raised
      cases raised
    · cases raised
      assumption
  · rcases primaryExecution_eq_ok returned with ⟨absent, -⟩ | ⟨_, _, _, absent⟩ |
      ⟨_, error, index, same, ran, found, -, reason⟩
    · cases absent
    · cases absent
    · cases same
      obtain ⟨transition, at_, blamed⟩ := transitionIndex_spec found
      exact ⟨error, index, transition, ran, at_, blamed.symm, Option.some.inj reason⟩

/-- Collaborators with `hello.aleo` deployed, whose finalizer blames the first transition of the
order it is given. -/
def blamingEnv : Env :=
  ⟨[helloProgram], fun _ _ => .ok [], fun _ _ => 0, fun call _ cache _ =>
    ⟨match call.order.head? with
      | some t => .error (.executeError ⟨"assert failed", some t, "assert.eq r0 r1"⟩)
      | none => .ok [], cache, Cache.empty⟩⟩

theorem primaryExecution_locates_hello :
    BlamesOrder blamingEnv.executeFinalizer ∧
      primaryCall blamingEnv (helloExecution 7) true =
        .ok (some ⟨[7], helloProgram, "main", [], true⟩) ∧
      LocatesFaults blamingEnv [] (helloExecution 7) ⟨[7], helloProgram, "main", [], true⟩
        ⟨Cache.empty, .processWide⟩ := by
  have blames : BlamesOrder blamingEnv.executeFinalizer := by
    intro call _ _ _ error raised
    rcases first : call.order with _ | ⟨t, rest⟩
    · simp [blamingEnv, first] at raised
    · simp only [blamingEnv, first, List.head?_cons, Except.error.injEq,
        Fault.executeError.injEq] at raised
      exact ⟨t, by simp, by rw [← raised]⟩
  have planned := @primaryCall_hello blamingEnv 7 true rfl rfl
  exact ⟨blames, planned, primaryExecution_locates blames planned [] ⟨Cache.empty, .processWide⟩⟩

end AleoFinalize
