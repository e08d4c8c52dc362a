import JpegLs.Proofs.Session.Rules

/-!
Sessions used from start to end.  Steps in their turn come down to calls on the instance, and a
call that fails gives it back.
-/

namespace JpegLs

variable {σ α β Handle State Data : Type}

namespace Session

/-- One call on an instance, which is given back if the call fails. -/
def Kind.attempt (kind : Kind σ Handle State) (handle : Handle) (call : Call σ α) : Task σ α :=
  fun world =>
    match call world.codec with
    | (.ok value, codec) => (.ok value, { world with codec })
    | (.error status, codec) =>
        (.error (.codec status.fault),
          ⟨kind.release handle codec, world.warnings ++ status.warnings⟩)

def Kind.giveBack {ε : Type} (kind : Kind σ Handle State) (handle : Handle) :
    ExceptT ε (Run σ) Unit := fun world =>
  (.ok (), { world with codec := kind.release handle world.codec })

variable {kind : Kind σ Handle State} {before : List State} {state : State} {handle : Handle}
  {data : Data}

theorem Kind.attempt_of_ok {call : Call σ α} {value : α} {before after : σ}
    (hcall : call before = (.ok value, after)) (warnings : List Warning) :
    kind.attempt handle call ⟨before, warnings⟩ = (.ok value, ⟨after, warnings⟩) := by
  simp only [attempt, hcall]

theorem Kind.attempt_of_error {call : Call σ α} {status : Status} {before after : σ}
    (hcall : call before = (.error status, after)) (warnings : List Warning) :
    kind.attempt handle call ⟨before, warnings⟩ =
      (.error (.codec status.fault),
        ⟨kind.release handle after, warnings ++ status.warnings⟩) := by
  simp only [attempt, hcall]

theorem use_get (session : Session Handle State Data)
    (next : Session Handle State Data → Method σ Handle State Data α) :
    use kind session (get >>= next) = use kind session (next session) := by
  funext world
  simp only [use, bind_apply, get_apply]

theorem use_modify (session : Session Handle State Data)
    (f : Session Handle State Data → Session Handle State Data)
    (next : PUnit → Method σ Handle State Data α) :
    use kind session (modify f >>= next) = use kind (f session) (next ⟨⟩) := by
  funext world
  simp only [use, bind_apply, modify_apply]

theorem use_close (next : Unit → Method σ Handle State Data α) :
    use kind ⟨some handle, state, data⟩ (close kind >>= next) =
      kind.giveBack handle >>= fun () => use kind ⟨none, kind.closed, data⟩ (next ()) := by
  funext world
  simp only [use, bind_apply, run_bind, Kind.giveBack]
  rw [close_of_some rfl]

variable [DecidableEq State] {after : State}

theorem use_change (hbefore : state ∈ before) (op : Handle → Call σ Handle)
    (next : Unit → Method σ Handle State Data α) :
    use kind ⟨some handle, state, data⟩ (step kind before after (.change op) >>= next) =
      kind.attempt handle (op handle) >>= fun handle =>
        use kind ⟨some handle, after, data⟩ (next ()) := by
  funext world
  simp only [use, bind_apply, step_of_mem hbefore, Calls.change_apply, run_bind,
    Kind.attempt]
  rcases op handle world.codec with ⟨status | changed, codec⟩ <;> rfl

theorem use_query (hbefore : state ∈ before) (op : Handle → Call σ β)
    (next : β → Method σ Handle State Data α) :
    use kind ⟨some handle, state, data⟩ (step kind before after (.query op) >>= next) =
      kind.attempt handle (op handle) >>= fun value =>
        use kind ⟨some handle, after, data⟩ (next value) := by
  funext world
  simp only [use, bind_apply, step_of_mem hbefore, Calls.query_apply, run_bind,
    Kind.attempt]
  rcases op handle world.codec with ⟨status | value, codec⟩ <;> rfl

theorem use_store {destination : List UInt8} (hbefore : state ∈ before)
    (op : Handle → StoringCall σ Handle)
    (next : Unit → Method σ Handle State (List UInt8) α) :
    use kind ⟨some handle, state, destination⟩ (stepWith kind before after (.store op) >>= next) =
      kind.attempt handle (op handle).toCall >>= fun (handle, patches) =>
        use kind ⟨some handle, after, Patch.applyAll patches destination⟩ (next ()) := by
  funext world
  simp only [use, bind_apply, stepWith_of_mem hbefore, Calls.store, run_bind, Kind.attempt,
    StoringCall.toCall]
  rcases op handle world.codec with ⟨⟨status | changed, patches⟩, codec⟩ <;> rfl

end Session

/-- However the codec answers, the task ends with an answer and a record as `goal` says. -/
def Task.Leads (goal : Except Error α → List Event → Prop) (made : List Event)
    (task : Task (Recorded σ) α) : Prop :=
  ∀ world, ∃ added, (task world).2.codec.2 = world.codec.2 ++ added ∧
    goal (task world).1 (made ++ added)

namespace Task

open Session (Kind)

variable {goal : Except Error α → List Event → Prop} {made : List Event}
  {kind : Kind (Recorded σ) Handle State} {handle : Handle}

theorem leads_pure {value : α} (h : goal (.ok value) made) :
    Leads goal made (pure value : Task (Recorded σ) α) := by
  intro world
  exact ⟨[], by simp, by simpa using h⟩

theorem leads_throw {error : Error} (h : goal (.error error) made) :
    Leads goal made (throw error : Task (Recorded σ) α) := by
  intro world
  exact ⟨[], by simp, by simpa using h⟩

theorem leads_liftExcept {result : Except Error β} {next : β → Task (Recorded σ) α}
    (herror : ∀ error, result = .error error → goal (.error error) made)
    (hnext : ∀ value, result = .ok value → Leads goal made (next value)) :
    Leads goal made (liftM result >>= next) := by
  cases result with
  | error error => exact leads_throw (herror error rfl)
  | ok value => exact hnext value rfl

theorem leads_create {create : Call σ Handle} {next : Handle → Task (Recorded σ) α}
    (herror : ∀ status : Status,
      goal (.error (.codec status.fault)) (made ++ [.notCreated status]))
    (hnext : ∀ handle, Leads goal (made ++ [.created]) (next handle)) :
    Leads goal made (Task.call (Codec.noteCreation create) >>= next) := by
  rintro ⟨⟨state, events⟩, warnings⟩
  simp only [run_bind, Task.call, Codec.noteCreation]
  cases hcreate : create state with
  | mk result after =>
      cases result with
      | error status => exact ⟨_, rfl, herror status⟩
      | ok handle =>
          obtain ⟨added, hadded, hgoal⟩ := hnext handle ⟨(after, events ++ [.created]), warnings⟩
          refine ⟨.created :: added, ?_, ?_⟩
          · rw [hadded]
            simp
          · simpa using hgoal

theorem leads_attempt (hnotes : kind.Notes)
    {request : Request} {response : β → Response} {op : Call σ β} {call : Call (Recorded σ) β}
    (hcall : call = Codec.note request response op) {next : β → Task (Recorded σ) α}
    (herror : ∀ status : Status,
      goal (.error (.codec status.fault)) (made ++ [.failed request status, .released]))
    (hnext : ∀ value, Leads goal (made ++ [.answered request (response value)]) (next value)) :
    Leads goal made (kind.attempt handle call >>= next) := by
  subst hcall
  rintro ⟨⟨state, events⟩, warnings⟩
  simp only [run_bind, Kind.attempt, Codec.note]
  cases hcall : op state with
  | mk result after =>
      cases result with
      | error status =>
          refine ⟨[.failed request status, .released], ?_, herror status⟩
          rw [hnotes]
          simp
      | ok value =>
          obtain ⟨added, hadded, hgoal⟩ :=
            hnext value ⟨(after, events ++ [.answered request (response value)]), warnings⟩
          refine ⟨.answered request (response value) :: added, ?_, ?_⟩
          · rw [hadded]
            simp
          · simpa using hgoal

theorem leads_attempt_if (hnotes : kind.Notes) {wanted : Prop} [Decidable wanted]
    {request : Request} {response : Response} {op : Call σ β} {skipped : β}
    {call : Call (Recorded σ) β} (hcall : call = Codec.note request (fun _ => response) op)
    {next : β → Task (Recorded σ) α}
    (herror : ∀ status : Status, wanted →
      goal (.error (.codec status.fault)) (made ++ [.failed request status, .released]))
    (hnext : ∀ value,
      Leads goal (made ++ if wanted then [.answered request response] else []) (next value)) :
    Leads goal made ((if wanted then kind.attempt handle call else pure skipped) >>= next) := by
  by_cases hwanted : wanted
  · simp only [if_pos hwanted] at hnext ⊢
    exact leads_attempt hnotes hcall (fun status => herror status hwanted) hnext
  · simp only [if_neg hwanted, List.append_nil, pure_bind] at hnext ⊢
    exact hnext skipped

theorem leads_giveBack (hnotes : kind.Notes)
    {next : Unit → Task (Recorded σ) α} (hnext : Leads goal (made ++ [.released]) (next ())) :
    Leads goal made (kind.giveBack handle >>= next) := by
  intro world
  obtain ⟨added, hadded, hgoal⟩ :=
    hnext { world with codec := kind.release handle world.codec }
  refine ⟨.released :: added, ?_, ?_⟩
  · simp only [run_bind, Kind.giveBack]
    rw [hadded, hnotes]
    simp
  · simpa [run_bind, Kind.giveBack] using hgoal

end Task

end JpegLs
