import JpegLs.Codec.Loopback
import JpegLs.Session.Basic

/-!
A codec that keeps a record of what it is asked and what it answers.  One record belongs to one
instance: it starts with the creation and ends, if the instance is given back, with the release.
-/

namespace JpegLs

open Loopback (Step)

inductive Request where
  | setSource (source : List UInt8)
  | readHeader
  | frameInfo
  | interleave
  | destinationSize
  | decodeInto (size : Nat)
  | setFrameInfo (frame : FrameInfo)
  | setInterleave (mode : Interleave)
  | estimatedSize
  | setDestination (length : Nat)
  | writeSpiff (space : Spiff.ColorSpace) (units : Spiff.ResolutionUnits)
      (vertical horizontal : UInt32)
  | encodeFrom (source : List UInt8)
  | bytesWritten
deriving DecidableEq, Repr

inductive Response where
  | done
  | frame (frame : FrameInfo)
  | interleave (mode : Interleave)
  | size (size : Nat)
deriving DecidableEq, Repr

inductive Event where
  | created
  | notCreated (status : Status)
  | answered (request : Request) (response : Response)
  | failed (request : Request) (status : Status)
  | released
deriving DecidableEq, Repr

abbrev Recorded (σ : Type) := σ × List Event

namespace Request

def step : Request → Step
  | setSource _ => .setSourceBuffer
  | readHeader => .readHeader
  | frameInfo => .frameInfo
  | interleave => .interleaveMode
  | destinationSize => .destinationSize
  | decodeInto _ => .decodeToBuffer
  | setFrameInfo _ => .setFrameInfo
  | setInterleave _ => .setInterleaveMode
  | estimatedSize => .estimatedDestinationSize
  | setDestination _ => .setDestinationBuffer
  | writeSpiff .. => .writeSpiffHeader
  | encodeFrom _ => .encodeFromBuffer
  | bytesWritten => .bytesWritten

end Request

namespace Event

def outcome? : Event → Option (Step × Bool)
  | answered request _ => some (request.step, true)
  | failed request _ => some (request.step, false)
  | _ => none

def outcomes (events : List Event) : List (Step × Bool) :=
  events.filterMap outcome?

def calls (events : List Event) : List Step :=
  (outcomes events).map Prod.fst

@[simp] theorem outcomes_nil : outcomes [] = [] := rfl

@[simp] theorem outcomes_answered (request : Request) (response : Response)
    (events : List Event) :
    outcomes (.answered request response :: events) = (request.step, true) :: outcomes events :=
  rfl

@[simp] theorem outcomes_failed (request : Request) (status : Status) (events : List Event) :
    outcomes (.failed request status :: events) = (request.step, false) :: outcomes events :=
  rfl

@[simp] theorem outcomes_released (events : List Event) :
    outcomes (.released :: events) = outcomes events := rfl

@[simp] theorem outcomes_append (first second : List Event) :
    outcomes (first ++ second) = outcomes first ++ outcomes second :=
  List.filterMap_append

@[simp] theorem calls_append (first second : List Event) :
    calls (first ++ second) = calls first ++ calls second := by
  simp [calls]

end Event

namespace Codec

variable {σ α : Type}

def noteCreation (op : Call σ α) : Call (Recorded σ) α := fun (state, events) =>
  match op state with
  | (.ok handle, state) => (.ok handle, state, events ++ [.created])
  | (.error status, state) => (.error status, state, events ++ [.notCreated status])

def note (request : Request) (response : α → Response) (op : Call σ α) :
    Call (Recorded σ) α := fun (state, events) =>
  match op state with
  | (.ok value, state) => (.ok value, state, events ++ [.answered request (response value)])
  | (.error status, state) => (.error status, state, events ++ [.failed request status])

theorem map_note {β : Type} (request : Request) (response : β → Response) (f : α → β)
    (op : Call σ α) :
    f <$> note request (fun value => response (f value)) op = note request response (f <$> op) := by
  funext ⟨state, events⟩
  simp only [note, Functor.map, ExceptT.map, ExceptT.mk, bind, StateT.bind]
  rcases op state with ⟨_ | _, _⟩ <;> rfl

def noteStoring (request : Request) (op : StoringCall σ α) : StoringCall (Recorded σ) α :=
  fun (state, events) =>
    match op state with
    | ((.ok value, patches), state) =>
        ((.ok value, patches), state, events ++ [.answered request .done])
    | ((.error status, patches), state) =>
        ((.error status, patches), state, events ++ [.failed request status])

theorem toCall_noteStoring (request : Request) (op : StoringCall σ α) :
    (noteStoring request op).toCall = note request (fun _ => .done) op.toCall := by
  funext ⟨state, events⟩
  simp only [StoringCall.toCall, noteStoring, note]
  rcases op state with ⟨⟨_ | _, _⟩, _⟩ <;> rfl

def noteRelease (op : σ → σ) : Recorded σ → Recorded σ := fun (state, events) =>
  (op state, events ++ [.released])

abbrev recorded (codec : Codec σ) : Codec (Recorded σ) where
  Decoder := codec.Decoder
  Encoder := codec.Encoder
  createDecoder := noteCreation codec.createDecoder
  setSource decoder source :=
    note (.setSource source) (fun _ => .done) (codec.setSource decoder source)
  readHeader decoder := note .readHeader (fun _ => .done) (codec.readHeader decoder)
  frameInfo decoder := note .frameInfo .frame (codec.frameInfo decoder)
  interleave decoder := note .interleave .interleave (codec.interleave decoder)
  destinationSize decoder := note .destinationSize .size (codec.destinationSize decoder)
  decodeInto decoder size :=
    note (.decodeInto size) (fun _ => .done) (codec.decodeInto decoder size)
  releaseDecoder decoder := noteRelease (codec.releaseDecoder decoder)
  createEncoder := noteCreation codec.createEncoder
  setFrameInfo encoder frame :=
    note (.setFrameInfo frame) (fun _ => .done) (codec.setFrameInfo encoder frame)
  setInterleave encoder mode :=
    note (.setInterleave mode) (fun _ => .done) (codec.setInterleave encoder mode)
  estimatedSize encoder := note .estimatedSize .size (codec.estimatedSize encoder)
  setDestination encoder length :=
    note (.setDestination length) (fun _ => .done) (codec.setDestination encoder length)
  writeSpiff encoder space units vertical horizontal :=
    noteStoring (.writeSpiff space units vertical horizontal)
      (codec.writeSpiff encoder space units vertical horizontal)
  encodeFrom encoder source :=
    noteStoring (.encodeFrom source) (codec.encodeFrom encoder source)
  bytesWritten encoder := note .bytesWritten .size (codec.bytesWritten encoder)
  releaseEncoder encoder := noteRelease (codec.releaseEncoder encoder)

end Codec

namespace Calls

variable {σ α β Handle : Type}

theorem bind_apply (calls : Calls Handle σ α) (next : α → Calls Handle σ β) (handle : Handle)
    (state : σ) :
    (calls >>= next) handle state =
      match calls handle state with
      | ((.ok value, handle), state) => next value handle state
      | ((.error status, handle), state) => ((.error status, handle), state) := by
  simp only [bind, ExceptT.bind, ExceptT.mk, StateT.bind]
  rcases calls handle state with ⟨⟨_ | _, _⟩, _⟩ <;> rfl

theorem pure_apply (value : α) (handle : Handle) (state : σ) :
    (pure value : Calls Handle σ α) handle state = ((.ok value, handle), state) := rfl

theorem change_apply (op : Handle → Call σ Handle) (handle : Handle) (state : σ) :
    change op handle state =
      match op handle state with
      | (.ok handle, state) => ((.ok (), handle), state)
      | (.error status, state) => ((.error status, handle), state) := by
  simp only [change, update, Functor.map, ExceptT.map, ExceptT.mk, bind, StateT.bind]
  rcases op handle state with ⟨_ | _, _⟩ <;> rfl

theorem query_apply (op : Handle → Call σ α) (handle : Handle) (state : σ) :
    query op handle state =
      match op handle state with
      | (.ok value, state) => ((.ok value, handle), state)
      | (.error status, state) => ((.error status, handle), state) := by
  simp only [query, update, Functor.map, ExceptT.map, ExceptT.mk, bind, StateT.bind]
  rcases op handle state with ⟨_ | _, _⟩ <;> rfl

end Calls

def Event.Answered (event : Event) : Prop :=
  ∃ request response, event = .answered request response

theorem Event.outcome_of_answered {made : List Event}
    (hmade : ∀ event ∈ made, event.Answered) :
    ∀ outcome ∈ Event.outcomes made, outcome.2 = true := by
  intro outcome houtcome
  obtain ⟨event, hevent, hsome⟩ := List.mem_filterMap.mp houtcome
  obtain ⟨request, response, rfl⟩ := hmade event hevent
  cases hsome
  rfl

theorem Event.count_of_answered {made : List Event} (hmade : ∀ event ∈ made, event.Answered)
    {event : Event} (hevent : ¬event.Answered) : made.count event = 0 :=
  List.count_eq_zero.mpr fun hmem => hevent (hmade event hmem)

theorem Event.not_answered_created : ¬Event.created.Answered := by
  rintro ⟨request, response, h⟩
  cases h

theorem Event.not_answered_released : ¬Event.released.Answered := by
  rintro ⟨request, response, h⟩
  cases h

namespace Calls

variable {σ α Handle Data : Type}

/-- What calls add to the record: all of `log` when they succeed. -/
inductive Outcome (steps : List Step) (log : α → List Event) :
    Except Status α → List Event → Prop where
  | succeeded (value : α) : Outcome steps log (.ok value) (log value)
  | failed {made : List Event} {request : Request} (status : Status)
      (hmade : ∀ event ∈ made, event.Answered)
      (hsteps : Event.calls made ++ [request.step] <+: steps) :
      Outcome steps log (.error status) (made ++ [.failed request status])

/-- Calls that make the given steps and leave nothing of them out of the record. -/
structure Logged (calls : Calls Handle (Recorded σ) α) (steps : List Step)
    (log : α → List Event) : Prop where
  answered : ∀ value, ∀ event ∈ log value, event.Answered
  steps_eq : ∀ value, Event.calls (log value) = steps
  outcome : ∀ handle codec, ∃ added, (calls handle codec).2.2 = codec.2 ++ added ∧
    Outcome steps log (calls handle codec).1.1 added

theorem logged_update (request : Request) (response : α → Response)
    (op : Handle → Call σ (Handle × α)) :
    (update fun handle => Codec.note request (fun result => response result.2) (op handle)).Logged
      [request.step] fun value => [.answered request (response value)] where
  answered value event hevent := ⟨request, response value, List.mem_singleton.mp hevent⟩
  steps_eq _ := rfl
  outcome handle codec := by
    simp only [update, Codec.note]
    rcases op handle codec.1 with ⟨status | ⟨handle, value⟩, state⟩
    · exact ⟨_, rfl, @Outcome.failed _ _ _ [] request status (by simp) (List.prefix_refl _)⟩
    · exact ⟨_, rfl, .succeeded value⟩

theorem logged_change (request : Request) (op : Handle → Call σ Handle) :
    (change fun handle => Codec.note request (fun _ => .done) (op handle)).Logged
      [request.step] fun _ => [.answered request .done] := by
  have h := logged_update request (fun _ => .done) fun handle =>
    (fun handle => (handle, ())) <$> op handle
  simp only [← Codec.map_note] at h
  exact h

theorem logged_query (request : Request) (response : α → Response) (op : Handle → Call σ α) :
    (query fun handle => Codec.note request response (op handle)).Logged
      [request.step] fun value => [.answered request (response value)] := by
  have h := logged_update request response fun handle =>
    (fun value => (handle, value)) <$> op handle
  simp only [← Codec.map_note] at h
  exact h

theorem logged_store (request : Request) (op : Handle → StoringCall σ Handle) :
    (store fun handle => Codec.noteStoring request (op handle)).Logged
      [request.step] fun _ => [.answered request .done] where
  answered _ event hevent := ⟨request, .done, List.mem_singleton.mp hevent⟩
  steps_eq _ := rfl
  outcome lent codec := by
    simp only [store, Codec.noteStoring]
    rcases op lent.1 codec.1 with ⟨⟨status | handle, patches⟩, state⟩
    · exact ⟨_, rfl, @Outcome.failed _ _ _ [] request status (by simp) (List.prefix_refl _)⟩
    · exact ⟨_, rfl, .succeeded ()⟩

theorem Logged.beside {calls : Calls Handle (Recorded σ) α} {steps : List Step}
    {log : α → List Event} (hcalls : calls.Logged steps log) :
    (calls.beside : Calls (Handle × Data) (Recorded σ) α).Logged steps log where
  answered := hcalls.answered
  steps_eq := hcalls.steps_eq
  outcome lent codec := hcalls.outcome lent.1 codec

end Calls

end JpegLs
