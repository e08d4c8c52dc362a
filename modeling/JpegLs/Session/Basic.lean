import JpegLs.Session.Run

/-!
What every kind of session has in common.  A session owns one instance and takes it from state to
state; a step that fails or comes out of turn gives the instance back and closes the session, and
there is no way out of a closed one.
-/

namespace JpegLs

variable {σ α Handle State Data : Type}

abbrev Calls (Handle σ α : Type) := ExceptT Status (StateT Handle (StateM σ)) α

namespace Calls

def update (op : Handle → Call σ (Handle × α)) : Calls Handle σ α := fun handle state =>
  match op handle state with
  | (.ok (handle, value), state) => ((.ok value, handle), state)
  | (.error status, state) => ((.error status, handle), state)

def change (op : Handle → Call σ Handle) : Calls Handle σ Unit :=
  update fun handle => (fun handle => (handle, ())) <$> op handle

def query (op : Handle → Call σ α) : Calls Handle σ α :=
  update fun handle => (fun value => (handle, value)) <$> op handle

/-- Calls beside the data of a session, of which they know nothing. -/
def beside (calls : Calls Handle σ α) : Calls (Handle × Data) σ α := fun (handle, data) state =>
  let ((result, handle), state) := calls handle state
  ((result, handle, data), state)

/-- A call that stores bytes in the data of a session, which is the destination. -/
def store (op : Handle → StoringCall σ Handle) : Calls (Handle × List UInt8) σ Unit :=
  fun (handle, destination) state =>
    match op handle state with
    | ((.ok handle, patches), state) =>
        ((.ok (), handle, Patch.applyAll patches destination), state)
    | ((.error status, patches), state) =>
        ((.error status, handle, Patch.applyAll patches destination), state)

end Calls

structure Session (Handle State Data : Type) where
  handle? : Option Handle
  state : State
  data : Data

namespace Session

/-- How sessions of one kind give their instance back, and the state of those that have. -/
structure Kind (σ Handle State : Type) where
  release : Handle → σ → σ
  closed : State

/-- Works on a session; the session it leaves comes with errors as well. -/
abbrev Method (σ Handle State Data α : Type) :=
  ExceptT Error (StateT (Session Handle State Data) (Run σ)) α

def start (state : State) (data : Data) (create : Call σ Handle) :
    Task σ (Session Handle State Data) :=
  (fun handle => { handle? := some handle, state, data }) <$> Task.call create

variable (kind : Kind σ Handle State)

def drop (session : Session Handle State Data) : Run σ Unit :=
  match session.handle? with
  | some handle => Run.release (kind.release handle)
  | none => pure ()

def close : Method σ Handle State Data Unit := fun session world =>
  let (_, world) := drop kind session world
  ((.ok (), { session with handle? := none, state := kind.closed }), world)

def fail (status : Status) : Method σ Handle State Data α := fun session world =>
  let ((_, session), world) := close kind session world
  ((.error (.codec status.fault), session),
    { world with warnings := world.warnings ++ status.warnings })

/-- Makes calls that are meant for sessions in one of the states `before`.  What they have made of
the data stays if they fail. -/
def stepWith [DecidableEq State] (before : List State) (after : State)
    (calls : Calls (Handle × Data) σ α) : Method σ Handle State Data α := fun session world =>
  match session.handle? with
  | some handle =>
      if session.state ∈ before then
        match calls (handle, session.data) world.codec with
        | ((.ok value, handle, data), codec) =>
            ((.ok value, { handle? := some handle, state := after, data }), { world with codec })
        | ((.error status, handle, data), codec) =>
            fail kind status { session with handle? := some handle, data } { world with codec }
      else
        fail kind CodecFault.invalidOperation.status session world
  | none => fail kind CodecFault.invalidOperation.status session world

def step [DecidableEq State] (before : List State) (after : State) (calls : Calls Handle σ α) :
    Method σ Handle State Data α :=
  stepWith kind before after calls.beside

/-- Works on a session to the end, and gives its instance back if it is still open then. -/
def use {ε : Type} (session : Session Handle State Data)
    (method : ExceptT ε (StateT (Session Handle State Data) (Run σ)) α) :
    ExceptT ε (Run σ) α := fun world =>
  let ((result, session), world) := method session world
  let (_, world) := drop kind session world
  (result, world)

end Session

end JpegLs
