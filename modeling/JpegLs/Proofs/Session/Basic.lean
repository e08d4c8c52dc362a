import JpegLs.Proofs.Success
import JpegLs.Session.Command

namespace JpegLs

variable {σ α β Handle State Data : Type}

namespace Task

variable {ε : Type}

@[simp] theorem pure_apply (value : α) (world : World σ) :
    (pure value : ExceptT ε (Run σ) α) world = (.ok value, world) := rfl

@[simp] theorem throw_apply (error : ε) (world : World σ) :
    (throw error : ExceptT ε (Run σ) α) world = (.error error, world) := rfl

theorem map_apply (f : α → β) (task : ExceptT ε (Run σ) α) (world : World σ) :
    (f <$> task) world =
      match task world with
      | (.ok value, world) => (.ok (f value), world)
      | (.error error, world) => (.error error, world) := by
  simp only [Functor.map, ExceptT.map, ExceptT.mk]
  simp only [bind, StateT.bind]
  rcases task world with ⟨_ | _, _⟩ <;> rfl

@[simp] theorem warn_apply (warning : Warning) (world : World σ) :
    warn warning world = (.ok (), { world with warnings := world.warnings ++ [warning] }) := rfl

theorem liftExcept_apply (result : Except ε α) (world : World σ) :
    (liftM result : ExceptT ε (Run σ) α) world = (result, world) := by
  cases result <;> rfl

theorem adapt_apply {ε' : Type} (f : ε → ε') (task : ExceptT ε (Run σ) α) (world : World σ) :
    task.adapt f world = ((task world).1.mapError f, (task world).2) := rfl

end Task

namespace Session

variable {ε : Type} {session : Session Handle State Data} {world : World σ}

theorem pure_apply (value : α) :
    (pure value : Method σ Handle State Data α) session world = ((.ok value, session), world) :=
  rfl

theorem throw_apply (error : Error) :
    (throw error : Method σ Handle State Data α) session world =
      ((.error error, session), world) := rfl

theorem bind_apply (method : ExceptT ε (StateT (Session Handle State Data) (Run σ)) α)
    (next : α → ExceptT ε (StateT (Session Handle State Data) (Run σ)) β) :
    (method >>= next) session world =
      match method session world with
      | ((.ok value, session), world) => next value session world
      | ((.error error, session), world) => ((.error error, session), world) := by
  simp only [bind, ExceptT.bind, ExceptT.mk, StateT.bind]
  rcases method session world with ⟨⟨_ | _, _⟩, _⟩ <;> rfl

theorem map_apply (f : α → β) (method : Method σ Handle State Data α) :
    (f <$> method) session world =
      match method session world with
      | ((.ok value, session), world) => ((.ok (f value), session), world)
      | ((.error error, session), world) => ((.error error, session), world) := by
  simp only [Functor.map, ExceptT.map, ExceptT.mk]
  simp only [bind, StateT.bind]
  rcases method session world with ⟨⟨_ | _, _⟩, _⟩ <;> rfl

theorem get_apply :
    (get : Method σ Handle State Data _) session world = ((.ok session, session), world) := rfl

theorem modify_apply (f : Session Handle State Data → Session Handle State Data) :
    (modify f : Method σ Handle State Data PUnit) session world =
      ((.ok ⟨⟩, f session), world) := rfl

theorem liftExcept_apply (result : Except ε α) :
    (liftM result : ExceptT ε (StateT (Session Handle State Data) (Run σ)) α) session world =
      ((result, session), world) := by
  cases result <;> rfl

theorem adapt_apply {ε' : Type} (f : ε → ε')
    (method : ExceptT ε (StateT (Session Handle State Data) (Run σ)) α) :
    method.adapt f session world =
      (((method session world).1.1.mapError f, (method session world).1.2),
        (method session world).2) := rfl

variable {kind : Kind σ Handle State}

theorem close_of_some {handle : Handle} (hhandle : session.handle? = some handle) :
    close kind session world =
      ((.ok (), { session with handle? := none, state := kind.closed }),
        { world with codec := kind.release handle world.codec }) := by
  simp only [close, drop, hhandle]
  rfl

theorem close_of_none (hhandle : session.handle? = none) :
    close kind session world =
      ((.ok (), { session with handle? := none, state := kind.closed }), world) := by
  simp only [close, drop, hhandle]
  rfl

theorem stepWith_of_mem [DecidableEq State] {before : List State} {state : State}
    (hbefore : state ∈ before) (after : State) (calls : Calls (Handle × Data) σ α)
    (handle : Handle) (data : Data) :
    stepWith kind before after calls ⟨some handle, state, data⟩ world =
      match calls (handle, data) world.codec with
      | ((.ok value, handle, data), codec) =>
          ((.ok value, ⟨some handle, after, data⟩), { world with codec })
      | ((.error status, handle, data), codec) =>
          ((.error (.codec status.fault), ⟨none, kind.closed, data⟩),
            ⟨kind.release handle codec, world.warnings ++ status.warnings⟩) := by
  simp only [stepWith, if_pos hbefore]
  rcases calls (handle, data) world.codec with ⟨⟨status | value, handle', data'⟩, codec⟩
  · simp only [fail]
    rw [close_of_some rfl]
  · rfl

theorem step_of_mem [DecidableEq State] {before : List State} {state : State}
    (hbefore : state ∈ before) (after : State) (calls : Calls Handle σ α) (handle : Handle)
    (data : Data) :
    step kind before after calls ⟨some handle, state, data⟩ world =
      match calls handle world.codec with
      | ((.ok value, handle), codec) =>
          ((.ok value, ⟨some handle, after, data⟩), { world with codec })
      | ((.error status, handle), codec) =>
          ((.error (.codec status.fault), ⟨none, kind.closed, data⟩),
            ⟨kind.release handle codec, world.warnings ++ status.warnings⟩) := by
  rw [step, stepWith_of_mem hbefore]
  simp only [Calls.beside]
  rcases calls handle world.codec with ⟨⟨status | value, handle'⟩, codec⟩ <;> rfl

/-- A step that fails does so with the codec, and no step touches the data. -/
theorem step_outcome [DecidableEq State] (before : List State) (after : State)
    (calls : Calls Handle σ α) (session : Session Handle State Data) (world : World σ) :
    ∃ left world', left.data = session.data ∧
      ((∃ fault, step kind before after calls session world =
          ((.error (.codec fault), left), world')) ∨
        ∃ value, step kind before after calls session world = ((.ok value, left), world')) := by
  unfold step stepWith
  cases session.handle? with
  | none =>
      refine ⟨_, _, ?_, .inl ⟨_, rfl⟩⟩
      rfl
  | some handle =>
      by_cases hbefore : session.state ∈ before
      · simp only [if_pos hbefore, Calls.beside]
        rcases calls handle world.codec with ⟨⟨status | value, handle'⟩, codec⟩
        · refine ⟨_, _, ?_, .inl ⟨_, rfl⟩⟩
          rfl
        · refine ⟨_, _, ?_, .inr ⟨value, rfl⟩⟩
          rfl
      · simp only [if_neg hbefore]
        refine ⟨_, _, ?_, .inl ⟨_, rfl⟩⟩
        rfl

@[simp] theorem drop_closed (state : State) (data : Data) (world : World σ) :
    drop kind ⟨none, state, data⟩ world = ((), world) := rfl

end Session

namespace Run

variable {Answer Command Session : Type}

def performAll (perform : Command → Session → Run σ (Answer × Session)) :
    List Command → Session → Run σ (List Answer × Session)
  | [], session => pure ([], session)
  | command :: rest, session => do
      let (answer, session) ← perform command session
      let (answers, session) ← performAll perform rest session
      return (answer :: answers, session)

variable {perform : Command → Session → Run σ (Answer × Session)}

theorem performAll_cons (command : Command) (rest : List Command) (session : Session)
    (world : World σ) :
    performAll perform (command :: rest) session world =
      let one := perform command session world
      let others := performAll perform rest one.1.2 one.2
      ((one.1.1 :: others.1.1, others.1.2), others.2) := rfl

theorem performAll_induction {motive : Session → World σ → Prop}
    (hstep : ∀ command session world, motive session world →
      motive (perform command session world).1.2 (perform command session world).2)
    (commands : List Command) {session : Session} {world : World σ}
    (hstart : motive session world) :
    motive (performAll perform commands session world).1.2
      (performAll perform commands session world).2 := by
  induction commands generalizing session world with
  | nil => exact hstart
  | cons command rest ih =>
      rw [performAll_cons]
      exact ih (hstep command session world hstart)

theorem performAll_of_idle {answer : Answer} {session : Session} {world : World σ}
    (hidle : ∀ command, perform command session world = ((answer, session), world))
    (commands : List Command) :
    performAll perform commands session world =
      ((commands.map fun _ => answer, session), world) := by
  induction commands with
  | nil => rfl
  | cons command rest ih =>
      rw [performAll_cons, hidle command]
      simp only [ih, List.map_cons]

end Run

end JpegLs
