import AleoFinalize.Spec.Preview

/-!
**What a successful finalize preview has done.**

* `loadFinalizeInput_present` — an input converts only when the request has one at that index;
* `loadFinalizeInputs_eq_ok` — the input loop returns values exactly when every finalize input
  converts the request input at its own index, and then the values are those conversions, in
  order;
* `loadFinalizeInputs_rejected` — every response the input loop returns instead is an error;
* `mappingUpdate_eq_ok` — only an `UpdateKeyValue` operation is rendered;
* **`previewFinalizeRoute_success`** — a 200 from the route: the preview ran on one value per
  finalize input, converted from the request input at the same index (so the request had at
  least that many), and the body renders every operation the preview returned, in order, all of
  them updates;
* **`previewFinalizeRoute_converted`** — the route calls the preview on nothing but the body's
  program and transition with every finalize input converted: previews that agree on those calls
  give the same answer to every body.
-/

namespace AleoFinalize.Api

variable {env : PreviewEnv} {program : Program} {inputs : List Json}

/-- `List.mapM` in `Except` returns exactly when every element does, each to its image. -/
theorem except_mapM_eq_ok {ε α β : Type} (f : α → Except ε β) :
    ∀ (items : List α) (images : List β),
      items.mapM f = .ok images ↔
        List.Forall₂ (fun item image => f item = .ok image) items images
  | [], images => by
    rw [List.mapM_nil, List.forall₂_nil_left_iff]
    exact ⟨fun returned => (Except.ok.inj returned).symm, fun empty => empty ▸ rfl⟩
  | item :: items, images => by
    rw [List.mapM_cons, List.forall₂_cons_left_iff]
    cases mapped : f item with
    | error fault => simp only [except_error_bind]; simp
    | ok image =>
      cases rest : items.mapM f with
      | error fault =>
        simp only [except_ok_bind, except_error_bind, ← except_mapM_eq_ok f items, rest]; simp
      | ok rest' =>
        simp only [except_ok_bind, ← except_mapM_eq_ok f items, rest, pure, Except.pure]
        simp [eq_comm]

/-! ### The input loop -/

/-- An input converts only when the request has one at that index. -/
theorem loadFinalizeInput_present {index : Nat} {type : PlaintextType} {value : Value}
    (converted : loadFinalizeInput env program inputs index type = .ok (.ok value)) :
    index < inputs.length := by
  by_contra missing
  have absent : inputs[index]? = none := List.getElem?_eq_none (by omega)
  cases type with
  | literal => simp [loadFinalizeInput, absent] at converted
  | struct name =>
    simp only [loadFinalizeInput, absent] at converted
    split at converted <;> cases converted
  | other => cases converted

/-- **The input loop returns values exactly when every input converts, at its own index.** -/
theorem loadFinalizeInputs_eq_ok (types : List PlaintextType) :
    ∀ (index : Nat) (values : List Value),
      loadFinalizeInputs env program inputs index types = .ok (.ok values) ↔
        List.Forall₂ (fun (input : Nat × PlaintextType) value =>
          loadFinalizeInput env program inputs input.1 input.2 = .ok (.ok value))
          (types.enumFrom index) values := by
  induction types with
  | nil => intro index values; simp [loadFinalizeInputs, eq_comm]
  | cons type types ih =>
    intro index values
    rw [loadFinalizeInputs, List.enumFrom_cons, List.forall₂_cons_left_iff]
    cases converted : loadFinalizeInput env program inputs index type with
    | error fault => simp [bind, Except.bind]
    | ok outcome =>
      cases outcome with
      | error response => simp [bind, Except.bind, pure, Except.pure]
      | ok value =>
        cases rest : loadFinalizeInputs env program inputs (index + 1) types with
        | error fault => simp [bind, Except.bind, rest, ← ih]
        | ok outcome =>
          cases outcome with
          | error response => simp [bind, Except.bind, pure, Except.pure, Except.map, rest, ← ih]
          | ok rest' =>
            simp only [bind, Except.bind, pure, Except.pure, Except.map, rest, ← ih]
            simp [eq_comm]

/-- Converted values need a request input at every index they were read from. -/
theorem converted_within {types : List PlaintextType} :
    ∀ {index : Nat} {values : List Value},
      List.Forall₂ (fun (input : Nat × PlaintextType) value =>
        loadFinalizeInput env program inputs input.1 input.2 = .ok (.ok value))
        (types.enumFrom index) values →
      types = [] ∨ index + types.length ≤ inputs.length := by
  induction types with
  | nil => intro _ _ _; exact .inl rfl
  | cons type types ih =>
    intro index values loaded
    rw [List.enumFrom_cons] at loaded
    cases loaded with
    | cons head tail =>
      have present := loadFinalizeInput_present head
      refine .inr ?_
      rcases ih tail with none | within
      · subst none; simp only [List.length_singleton]; omega
      · simp only [List.length_cons]; omega

/-- One input's conversion answers only with an error. -/
theorem loadFinalizeInput_rejected {index : Nat} {type : PlaintextType} {response : Response}
    (rejected : loadFinalizeInput env program inputs index type = .ok (.error response)) :
    response.statusCode ≠ 200 := by
  cases type with
  | literal =>
    simp only [loadFinalizeInput] at rejected
    split at rejected <;> cases rejected
    simp
  | struct name =>
    simp only [loadFinalizeInput] at rejected
    split at rejected
    · cases rejected
    · split at rejected <;> cases rejected
      simp
  | other => cases rejected; simp

/-- Every response the input loop returns instead of values is an error. -/
theorem loadFinalizeInputs_rejected {response : Response} (types : List PlaintextType) :
    ∀ index, loadFinalizeInputs env program inputs index types = .ok (.error response) →
      response.statusCode ≠ 200 := by
  induction types with
  | nil => intro index rejected; cases rejected
  | cons type types ih =>
    intro index rejected
    simp only [loadFinalizeInputs, bind, Except.bind, pure, Except.pure] at rejected
    split at rejected
    · cases rejected
    · rename_i converted
      split at rejected
      · cases rejected
        exact loadFinalizeInput_rejected converted
      · split at rejected
        · cases rejected
        · rename_i outcome rest
          cases outcome with
          | error => cases rejected; exact ih _ rest
          | ok => cases rejected

/-! ### The rendered operations -/

/-- **Only an update is rendered**, as the dictionary of its fields. -/
theorem mappingUpdate_eq_ok {operation : PreviewOperation} {update : Json} :
    mappingUpdate operation = .ok update ↔
      ∃ mappingId index keyId valueId mapping key value,
        operation = .updateKeyValue mappingId index keyId valueId mapping key value ∧
        update = .obj [("type", .str "UpdateKeyValue"), ("mapping_id", .str mappingId),
          ("index", index), ("key_id", .str keyId), ("value_id", .str valueId),
          ("mapping", .str mapping), ("key", .str key), ("value", .str value)] := by
  cases operation with
  | updateKeyValue mappingId index keyId valueId mapping key value =>
    simp only [mappingUpdate, pure, Except.pure, Except.ok.injEq,
      PreviewOperation.updateKeyValue.injEq]
    constructor
    · intro rendered
      exact ⟨_, _, _, _, _, _, _, ⟨rfl, rfl, rfl, rfl, rfl, rfl, rfl⟩, rendered.symm⟩
    · rintro ⟨_, _, _, _, _, _, _, ⟨rfl, rfl, rfl, rfl, rfl, rfl, rfl⟩, rendered⟩
      exact rendered.symm
  | _ => simp [mappingUpdate, throw, throwThe, MonadExceptOf.throw]

/-- A 200 after the input loop renders every operation of the preview. -/
theorem previewUpdates_success {functionName : String} {values : List Value} {response : Response}
    (answered : previewUpdates env program functionName values = .ok response)
    (success : response.statusCode = 200) :
    ∃ operations updates,
      env.previewFinalizeExecution program functionName values = .ok operations ∧
      List.Forall₂ (fun operation update => mappingUpdate operation = .ok update) operations
        updates ∧
      response = .json (.obj [("mapping_updates", .arr updates)]) := by
  unfold previewUpdates at answered
  split at answered
  · cases answered; cases success
  · cases answered
  · rename_i operations executed
    simp only [bind, Except.bind, pure, Except.pure] at answered
    split at answered
    · cases answered
    · rename_i updates rendered
      cases answered
      exact ⟨operations, updates, executed, (except_mapM_eq_ok _ _ _).mp rendered, rfl⟩

/-! ### The route -/

/-- **A 200 from the preview route** has run the preview on the converted inputs and renders all
of its operations. One case per guard of the route: all but the last two answer with an error. -/
theorem previewFinalizeRoute_success {body : Json} {response : Response}
    (answered : previewFinalizeRoute env body = .ok response)
    (success : response.statusCode = 200) :
    PreviewSuccess env body response := by
  simp only [previewFinalizeRoute, bind, Except.bind] at answered
  repeat' split at answered
  all_goals try (cases answered; done)
  all_goals try (cases answered; cases success)
  · exact absurd success (loadFinalizeInputs_rejected _ 0 (by cases answered; assumption))
  · rename_i _ programId? gotProgramId _ transitionName? gotTransitionName _ _ programId
      programIdGiven _ transitionName transitionNameGiven _ inputs gotInputs _ program found _
      functionName loaded _ function declared _ finalizeInputs withFinalize _ _ values converted
    have converted := (loadFinalizeInputs_eq_ok _ 0 values).mp converted
    obtain ⟨operations, updates, executed, rendered, rfl⟩ :=
      previewUpdates_success answered success
    refine ⟨programId, transitionName, inputs, program, functionName, finalizeInputs, values,
      operations, updates, ?_, ?_, gotInputs, found, loaded, by simp [declared, withFinalize], ?_,
      converted, executed, rendered, rfl⟩
    · rw [gotProgramId, (Option.filter_eq_some.mp programIdGiven).1]
    · rw [gotTransitionName, (Option.filter_eq_some.mp transitionNameGiven).1]
    · rcases converted_within converted with none | within
      · simp [none]
      · simpa using within

/-- The input loop does not read `preview_finalize_execution`. -/
theorem loadFinalizeInputs_finalizer
    (finalizer : Program → String → List Value → Except Fault (List PreviewOperation)) :
    ∀ index types, loadFinalizeInputs { env with previewFinalizeExecution := finalizer } program
      inputs index types = loadFinalizeInputs env program inputs index types
  | _, [] => rfl
  | index, _ :: types => by
    simp only [loadFinalizeInputs, loadFinalizeInputs_finalizer finalizer (index + 1) types]
    rfl

/-- **The preview runs only on converted inputs.** Two `preview_finalize_execution`s that agree on
every call with the body's program and transition and all inputs of the finalize block converted
give the same answer: the route calls it on nothing else, and every other answer is decided before
it runs. -/
theorem previewFinalizeRoute_converted (body : Json)
    (finalizer other : Program → String → List Value → Except Fault (List PreviewOperation))
    (agree : ∀ program functionName values, PreviewCall env body program functionName values →
      finalizer program functionName values = other program functionName values) :
    previewFinalizeRoute { env with previewFinalizeExecution := finalizer } body =
      previewFinalizeRoute { env with previewFinalizeExecution := other } body := by
  simp only [previewFinalizeRoute, loadFinalizeInputs_finalizer]
  simp only [bind, Except.bind]
  repeat' split
  all_goals try rfl
  rename_i _ programId? gotProgramId _ transitionName? gotTransitionName _ _ programId
    programIdGiven _ transitionName transitionNameGiven _ inputs gotInputs _ program found _
    functionName loaded _ function declared _ finalizeInputs withFinalize _ _ values converted
  have called : PreviewCall env body program functionName values :=
    ⟨programId, transitionName, inputs, finalizeInputs,
      by rw [gotProgramId, (Option.filter_eq_some.mp programIdGiven).1],
      by rw [gotTransitionName, (Option.filter_eq_some.mp transitionNameGiven).1], gotInputs,
      found, loaded, by simp [declared, withFinalize],
      (loadFinalizeInputs_eq_ok _ 0 values).mp converted⟩
  simp only [previewUpdates, agree program functionName values called]

/-- A preview of a transition whose finalize block takes one `u64`; the preview returns one
update. -/
def transferEnv : PreviewEnv where
  getProgram _ := some ⟨[("balances", .literal "address")], [],
    [("transfer", ⟨some [.literal "u64"]⟩)]⟩
  identifierLoads
    | .str name => .ok name
    | _ => .error .valueError
  loadsPrimitive _
    | .str text => some text
    | _ => none
  loadsStruct _ _ _ := .error "unsupported"
  previewFinalizeExecution _ _ _ :=
    .ok [.updateKeyValue "1field" (.int 0) "2field" "3field" "balances" "aleo1" "5u64"]
  originalException _ := ""

/-- A request for it, with one input too many. -/
def transferBody : Json :=
  .obj [("program_id", .str "token.aleo"), ("transition_name", .str "transfer"),
    ("inputs", .arr [.str "5u64", .str "extra"])]

/-- What the route answers to it. -/
def transferResponse : Response :=
  .json (.obj [("mapping_updates", .arr [.obj [("type", .str "UpdateKeyValue"),
    ("mapping_id", .str "1field"), ("index", .int 0), ("key_id", .str "2field"),
    ("value_id", .str "3field"), ("mapping", .str "balances"), ("key", .str "aleo1"),
    ("value", .str "5u64")]])])

theorem previewFinalizeRoute_success_transfer :
    (previewFinalizeRoute transferEnv transferBody = .ok transferResponse ∧
      transferResponse.statusCode = 200) ∧
      PreviewSuccess transferEnv transferBody transferResponse :=
  ⟨⟨rfl, rfl⟩, previewFinalizeRoute_success rfl rfl⟩

/-- A preview that fails on every call but one with the single converted input `5u64`. -/
def strictPreview (program : Program) (functionName : String) :
    List Value → Except Fault (List PreviewOperation)
  | [.plaintext "5u64"] => transferEnv.previewFinalizeExecution program functionName
      [.plaintext "5u64"]
  | _ => .error .valueError

theorem previewFinalizeRoute_converted_transfer :
    (∀ program functionName values,
      PreviewCall transferEnv transferBody program functionName values →
      transferEnv.previewFinalizeExecution program functionName values =
        strictPreview program functionName values) ∧
    previewFinalizeRoute { transferEnv with
        previewFinalizeExecution := transferEnv.previewFinalizeExecution } transferBody =
      previewFinalizeRoute { transferEnv with previewFinalizeExecution := strictPreview }
        transferBody :=
  have agree : ∀ program functionName values,
      PreviewCall transferEnv transferBody program functionName values →
      transferEnv.previewFinalizeExecution program functionName values =
        strictPreview program functionName values := by
    rintro program functionName values ⟨programId, transitionName, inputs, finalizeInputs,
      -, gotTransition, gotInputs, found, loaded, declared, converted⟩
    cases gotTransition; cases gotInputs; cases found; cases loaded; cases declared
    cases converted with
    | cons head tail =>
      cases tail
      cases head
      rfl
  ⟨agree, previewFinalizeRoute_converted transferBody _ _ agree⟩

end AleoFinalize.Api
