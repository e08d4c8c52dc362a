import JpegLs.Proofs.Session.DecodeOrder

namespace JpegLs

variable {σ : Type}

namespace DecodeSession

variable (codec : Codec σ) (decoder : codec.Decoder) (findings : DecodeFindings) (world : World σ)

theorem setSource_apply (source : List UInt8) :
    setSource codec source ⟨some decoder, .created, findings⟩ world =
      match codec.setSource decoder source world.codec with
      | (.ok decoder, state) =>
          ((.ok (), ⟨some decoder, .sourceSet, findings⟩), { world with codec := state })
      | (.error status, state) =>
          ((.error (.codec status.fault), ⟨none, .closed, findings⟩),
            ⟨codec.releaseDecoder decoder state, world.warnings ++ status.warnings⟩) := by
  rw [setSource, Session.step_of_mem List.mem_cons_self, Calls.change_apply]
  rcases codec.setSource decoder source world.codec with ⟨_ | _, _⟩ <;> rfl

theorem readHeader_apply :
    readHeader codec ⟨some decoder, .sourceSet, findings⟩ world =
      match codec.readHeader decoder world.codec with
      | (.error status, state) =>
          ((.error (.codec status.fault), ⟨none, .closed, findings⟩),
            ⟨codec.releaseDecoder decoder state, world.warnings ++ status.warnings⟩)
      | (.ok decoder, state) =>
      match codec.frameInfo decoder state with
      | (.error status, state) =>
          ((.error (.codec status.fault), ⟨none, .closed, findings⟩),
            ⟨codec.releaseDecoder decoder state, world.warnings ++ status.warnings⟩)
      | (.ok frame, state) =>
      match codec.interleave decoder state with
      | (.error status, state) =>
          ((.error (.codec status.fault), ⟨none, .closed, findings⟩),
            ⟨codec.releaseDecoder decoder state, world.warnings ++ status.warnings⟩)
      | (.ok interleave, state) =>
      match Metadata.ofFrame frame interleave with
      | .error error =>
          ((.error error, ⟨none, .closed, findings⟩),
            { world with codec := codec.releaseDecoder decoder state })
      | .ok metadata =>
          ((.ok metadata,
              ⟨some decoder, .headerRead, { findings with metadata? := some metadata }⟩),
            { world with codec := state }) := by
  rw [readHeader, Session.bind_apply, Session.step_of_mem List.mem_cons_self]
  simp only [Calls.bind_apply, Calls.change_apply, Calls.query_apply, Calls.pure_apply]
  rcases codec.readHeader decoder world.codec with ⟨_ | decoder, state⟩
  · rfl
  simp only
  rcases codec.frameInfo decoder state with ⟨_ | frame, state⟩
  · rfl
  simp only
  rcases codec.interleave decoder state with ⟨_ | interleave, state⟩
  · rfl
  simp only
  rcases Metadata.ofFrame frame interleave with error | metadata
  · rfl
  · rfl

theorem querySize_apply :
    querySize codec ⟨some decoder, .headerRead, findings⟩ world =
      match codec.destinationSize decoder world.codec with
      | (.ok size, state) =>
          ((.ok size, ⟨some decoder, .sizeQueried, { findings with size }⟩),
            { world with codec := state })
      | (.error status, state) =>
          ((.error (.codec status.fault), ⟨none, .closed, findings⟩),
            ⟨codec.releaseDecoder decoder state, world.warnings ++ status.warnings⟩) := by
  rw [querySize, Session.bind_apply, Session.step_of_mem List.mem_cons_self, Calls.query_apply]
  rcases codec.destinationSize decoder world.codec with ⟨_ | _, _⟩ <;> rfl

theorem finish_apply (metadata : Metadata) (size : Nat) :
    finish codec ⟨some decoder, .sizeQueried, ⟨some metadata, size⟩⟩ world =
      match codec.decodeInto decoder size world.codec with
      | (.ok stored, state) =>
          ((image metadata (Patch.apply ⟨0, stored⟩ (List.replicate size 0)),
              ⟨none, .closed, ⟨some metadata, size⟩⟩),
            { world with codec := codec.releaseDecoder decoder state })
      | (.error status, state) =>
          ((.error (.codec status.fault), ⟨none, .closed, ⟨some metadata, size⟩⟩),
            ⟨codec.releaseDecoder decoder state, world.warnings ++ status.warnings⟩) := by
  rw [finish, Session.bind_apply, Session.get_apply]
  simp only
  rw [Session.bind_apply, Session.step_of_mem List.mem_cons_self, Calls.query_apply]
  rcases codec.decodeInto decoder size world.codec with ⟨_ | stored, state⟩
  · rfl
  · simp only [Session.bind_apply, Session.liftExcept_apply]
    rfl

end DecodeSession

theorem DecodeSession.image_plain {frame : FrameInfo} (hframe : frame.Valid)
    (interleave : Interleave) (destination : List UInt8) :
    image (.plain frame interleave) destination =
      let expected := frame.width.toNat * frame.height.toNat * frame.components.toNat
      let actual := if frame.bits ≤ 8 then destination.length else destination.length / 2
      if actual = expected then
        .ok ⟨.plain frame interleave,
          (PixelBuffer.ofBytes destination (.ofBits frame.bits.toNat)).pixelOrder
            frame.components.toNat interleave⟩
      else
        .error (.bufferSize expected actual) := by
  have hactual : (PixelBuffer.ofBytes destination (.ofBits frame.bits.toNat)).length =
      if frame.bits ≤ 8 then destination.length else destination.length / 2 := by
    rw [PixelBuffer.length_ofBytes]
    by_cases hbits : frame.bits ≤ 8
    · have hwidth : SampleWidth.ofBits frame.bits.toNat = .eight := if_pos (by omega)
      rw [hwidth, if_pos hbits, SampleWidth.bytes, Nat.div_one]
    · have hwidth : SampleWidth.ofBits frame.bits.toNat = .sixteen := if_neg (by omega)
      rw [hwidth, if_neg hbits, SampleWidth.bytes]
  have hplain : (Metadata.plain frame interleave).frame.Valid := by
    rwa [Metadata.frame_plain hframe]
  rw [image_of_valid hplain]
  simp only [Metadata.frame_plain hframe, Metadata.bits_plain hframe,
    Metadata.components_plain hframe, hactual]
  rfl

/-- What a decoding comes to: its answer, the state it leaves the codec in, what became of its
decoder, and the warnings it has given. -/
structure DecodeOutcome (σ : Type) where
  answer : Except Error DecodedImage
  state : σ
  events : List Event
  warnings : List Warning

def DecodeOutcome.failed (made : List Event) (request : Request) (status : Status) (state : σ) :
    DecodeOutcome σ where
  answer := .error (.codec status.fault)
  state := state
  events := made ++ [.failed request status, .released]
  warnings := status.warnings

def DecodeOutcome.decoded (container : Metadata) (frame : FrameInfo) (interleave : Interleave)
    (destination : List UInt8) (made : List Event) (state : σ) : DecodeOutcome σ :=
  let expected := frame.width.toNat * frame.height.toNat * frame.components.toNat
  let actual := if frame.bits ≤ 8 then destination.length else destination.length / 2
  { answer :=
      if actual ≠ expected then .error (.bufferSize expected actual)
      else .ok {
        metadata := {
          width := frame.width
          height := frame.height
          bits := UInt8.ofNat frame.bits.toNat
          components := UInt8.ofNat frame.components.toNat
          interleave := interleave
          colorSpace := container.colorSpace
          units := container.units
          verticalResolution := container.verticalResolution }
        pixels := (PixelBuffer.ofBytes destination (.ofBits frame.bits.toNat)).pixelOrder
          frame.components.toNat interleave }
    state := state
    events := made ++ [.released]
    warnings :=
      if actual = expected ∧ container.frame ≠ frame then [.frameMismatch container.frame frame]
      else [] }

/-- A decoding as a row of calls, each of which may end it. -/
def decodeReference (codec : Codec σ) (source : List UInt8) (state : σ) : DecodeOutcome σ :=
  match Container.metadata source with
  | .error error => { answer := .error error, state, events := [], warnings := [] }
  | .ok container =>
  match codec.createDecoder state with
  | (.error status, state) =>
      { answer := .error (.codec status.fault)
        state
        events := [.notCreated status]
        warnings := status.warnings }
  | (.ok decoder, state) =>
  let made := [Event.created]
  match codec.setSource decoder source state with
  | (.error status, state) =>
      .failed made (.setSource source) status (codec.releaseDecoder decoder state)
  | (.ok decoder, state) =>
  let made := made ++ [.answered (.setSource source) .done]
  match codec.readHeader decoder state with
  | (.error status, state) =>
      .failed made .readHeader status (codec.releaseDecoder decoder state)
  | (.ok decoder, state) =>
  let made := made ++ [.answered .readHeader .done]
  match codec.frameInfo decoder state with
  | (.error status, state) =>
      .failed made .frameInfo status (codec.releaseDecoder decoder state)
  | (.ok frame, state) =>
  let made := made ++ [.answered .frameInfo (.frame frame)]
  match codec.interleave decoder state with
  | (.error status, state) =>
      .failed made .interleave status (codec.releaseDecoder decoder state)
  | (.ok interleave, state) =>
  let made := made ++ [.answered .interleave (.interleave interleave)]
  match Metadata.ofFrame frame interleave with
  | .error error =>
      { answer := .error error
        state := codec.releaseDecoder decoder state
        events := made ++ [.released]
        warnings := [] }
  | .ok _ =>
  match codec.destinationSize decoder state with
  | (.error status, state) =>
      .failed made .destinationSize status (codec.releaseDecoder decoder state)
  | (.ok size, state) =>
  let made := made ++ [.answered .destinationSize (.size size)]
  match codec.decodeInto decoder size state with
  | (.error status, state) =>
      .failed made (.decodeInto size) status (codec.releaseDecoder decoder state)
  | (.ok stored, state) =>
      .decoded container frame interleave (Patch.apply ⟨0, stored⟩ (List.replicate size 0))
        (made ++ [.answered (.decodeInto size) .done]) (codec.releaseDecoder decoder state)

theorem decode_recorded (codec : Codec σ) (source : List UInt8) (state : σ)
    (events : List Event) (warnings : List Warning) :
    let outcome := decodeReference codec source state
    decode codec.recorded source ⟨(state, events), warnings⟩ =
      (outcome.answer,
        ⟨(outcome.state, events ++ outcome.events), warnings ++ outcome.warnings⟩) := by
  intro outcome
  simp only [outcome, decode, decodeReference]
  rw [run_bind, Task.liftExcept_apply]
  rcases Container.metadata source with error | container
  · simp
  simp only [run_bind, DecodeSession.start, Session.start, Task.map_apply, Task.call,
    Codec.noteCreation]
  rcases codec.createDecoder state with ⟨status | decoder, state⟩
  · simp
  simp only [Session.use, Session.bind_apply, DecodeSession.setSource_apply, Codec.note]
  rcases codec.setSource decoder source state with ⟨status | decoder, state⟩
  · simp [DecodeOutcome.failed, Codec.noteRelease]
  simp only [DecodeSession.readHeader_apply, Codec.note]
  rcases codec.readHeader decoder state with ⟨status | decoder, state⟩
  · simp [DecodeOutcome.failed, Codec.noteRelease]
  simp only
  rcases codec.frameInfo decoder state with ⟨status | frame, state⟩
  · simp [DecodeOutcome.failed, Codec.noteRelease]
  simp only
  rcases codec.interleave decoder state with ⟨status | interleave, state⟩
  · simp [DecodeOutcome.failed, Codec.noteRelease]
  simp only
  rcases hmetadata : Metadata.ofFrame frame interleave with error | metadata
  · simp [Codec.noteRelease]
  simp only [DecodeSession.querySize_apply, Codec.note]
  rcases codec.destinationSize decoder state with ⟨status | size, state⟩
  · simp [DecodeOutcome.failed, Codec.noteRelease]
  simp only [DecodeSession.finish_apply, Codec.note]
  rcases codec.decodeInto decoder size state with ⟨status | stored, state⟩
  · simp [DecodeOutcome.failed, Codec.noteRelease]
  obtain ⟨hframe, rfl⟩ := Metadata.valid_of_ofFrame hmetadata
  simp only [DecodeSession.image_plain hframe, DecodeOutcome.decoded, ne_eq, ite_not]
  generalize Patch.apply ⟨0, stored⟩ (List.replicate size 0) = destination
  generalize (if frame.bits ≤ 8 then destination.length else destination.length / 2) = actual
  by_cases hcount : actual = frame.width.toNat * frame.height.toNat * frame.components.toNat
  · have hgeometry : container.sameGeometry (.plain frame interleave) =
        decide (container.frame = frame) := by
      rw [Metadata.sameGeometry, Metadata.frame_plain hframe]
    by_cases hsame : container.frame = frame
    · simp [hcount, hsame, hgeometry, Codec.noteRelease]
      rfl
    · simp [hcount, hsame, hgeometry, Metadata.frame_plain hframe, Codec.noteRelease,
        Task.map_apply]
      rfl
  · simp [hcount, Codec.noteRelease]

def decodeEvents (source : List UInt8) (frame : FrameInfo) (interleave : Interleave)
    (size : Nat) : List Event :=
  [.created, .answered (.setSource source) .done, .answered .readHeader .done,
    .answered .frameInfo (.frame frame), .answered .interleave (.interleave interleave),
    .answered .destinationSize (.size size), .answered (.decodeInto size) .done]

/-- A decoding ends with an error before its last call has been answered, or with the image in the
destination that the last call has filled. -/
theorem decodeReference_cases (codec : Codec σ) (source : List UInt8) (state : σ) :
    let outcome := decodeReference codec source state
    (∃ error, outcome.answer = .error error ∧
        (∀ size, .answered (.decodeInto size) .done ∉ outcome.events) ∧
        outcome.events.count .released = outcome.events.count .created) ∨
      ∃ container frame interleave, ∃ destination : List UInt8, ∃ state', frame.Valid ∧
        outcome = .decoded container frame interleave destination
          (decodeEvents source frame interleave destination.length) state' := by
  intro outcome
  simp only [outcome, decodeReference]
  cases Container.metadata source with
  | error error => exact .inl ⟨error, rfl, by simp, rfl⟩
  | ok container =>
  simp only
  rcases codec.createDecoder state with ⟨status | decoder, state⟩
  · exact .inl ⟨_, rfl, by simp, rfl⟩
  simp only
  rcases codec.setSource decoder source state with ⟨status | decoder, state⟩
  · exact .inl ⟨_, rfl, by simp [DecodeOutcome.failed], rfl⟩
  simp only
  rcases codec.readHeader decoder state with ⟨status | decoder, state⟩
  · exact .inl ⟨_, rfl, by simp [DecodeOutcome.failed], rfl⟩
  simp only
  rcases codec.frameInfo decoder state with ⟨status | frame, state⟩
  · exact .inl ⟨_, rfl, by simp [DecodeOutcome.failed], rfl⟩
  simp only
  rcases codec.interleave decoder state with ⟨status | interleave, state⟩
  · exact .inl ⟨_, rfl, by simp [DecodeOutcome.failed], rfl⟩
  simp only
  rcases hmetadata : Metadata.ofFrame frame interleave with error | metadata
  · exact .inl ⟨_, rfl, by simp, rfl⟩
  simp only
  rcases codec.destinationSize decoder state with ⟨status | size, state⟩
  · exact .inl ⟨_, rfl, by simp [DecodeOutcome.failed], rfl⟩
  simp only
  rcases codec.decodeInto decoder size state with ⟨status | stored, state⟩
  · exact .inl ⟨_, rfl, by simp [DecodeOutcome.failed], rfl⟩
  simp only
  have hlength : (Patch.apply ⟨0, stored⟩ (List.replicate size 0)).length = size := by simp
  refine .inr ⟨container, frame, interleave, Patch.apply ⟨0, stored⟩ (List.replicate size 0),
    codec.releaseDecoder decoder state, (Metadata.valid_of_ofFrame hmetadata).1, ?_⟩
  rw [hlength]
  rfl

theorem decodeReference_released (codec : Codec σ) (source : List UInt8) (state : σ) :
    (decodeReference codec source state).events.count .released =
      (decodeReference codec source state).events.count .created := by
  rcases decodeReference_cases codec source state with
    ⟨error, -, -, hcount⟩ | ⟨container, frame, interleave, destination, state', -, houtcome⟩
  · exact hcount
  · rw [houtcome]
    rfl

theorem decode_apply (codec : Codec σ) (source : List UInt8) (state : σ)
    (warnings : List Warning) :
    let outcome := decodeReference codec source state
    decode codec source ⟨state, warnings⟩ =
      (outcome.answer, ⟨outcome.state, warnings ++ outcome.warnings⟩) := by
  intro outcome
  have herase : (⟨state, warnings⟩ : World σ) = World.erase ⟨(state, []), warnings⟩ := rfl
  rw [herase, erases_decode codec source, decode_recorded codec source state [] warnings]
  rfl

theorem decode_of_ok {codec : Codec σ} {source stored : List UInt8} {container metadata : Metadata}
    {frame : FrameInfo} {interleave : Interleave} {size : Nat}
    {created opened found : codec.Decoder}
    {start atCreate atSource atRead atFrame atMode atSize atDecode : σ}
    (hcontainer : Container.metadata source = .ok container)
    (hcreate : codec.createDecoder start = (.ok created, atCreate))
    (hsource : codec.setSource created source atCreate = (.ok opened, atSource))
    (hread : codec.readHeader opened atSource = (.ok found, atRead))
    (hframe : codec.frameInfo found atRead = (.ok frame, atFrame))
    (hmode : codec.interleave found atFrame = (.ok interleave, atMode))
    (hmetadata : Metadata.ofFrame frame interleave = .ok metadata)
    (hsize : codec.destinationSize found atMode = (.ok size, atSize))
    (hdecode : codec.decodeInto found size atSize = (.ok stored, atDecode))
    (warnings : List Warning) :
    let outcome := DecodeOutcome.decoded container frame interleave
      (Patch.apply ⟨0, stored⟩ (List.replicate size 0)) [] (codec.releaseDecoder found atDecode)
    decode codec source ⟨start, warnings⟩ =
      (outcome.answer, ⟨outcome.state, warnings ++ outcome.warnings⟩) := by
  intro outcome
  rw [decode_apply]
  simp only [decodeReference, hcontainer, hcreate, hsource, hread, hframe, hmode, hmetadata, hsize,
    hdecode]
  rfl

/-- A decoding is its reference, over any codec; a record of its calls tells what the reference
tells, and that a decoder is given back once if there is one. -/
theorem decode_eq_reference (codec : Codec σ) (source : List UInt8) (state : σ)
    (events : List Event) (warnings : List Warning) :
    let outcome := decodeReference codec source state
    decode codec source ⟨state, warnings⟩ =
        (outcome.answer, ⟨outcome.state, warnings ++ outcome.warnings⟩) ∧
      decode codec.recorded source ⟨(state, events), warnings⟩ =
        (outcome.answer,
          ⟨(outcome.state, events ++ outcome.events), warnings ++ outcome.warnings⟩) ∧
      outcome.events.count .released = outcome.events.count .created :=
  ⟨decode_apply codec source state warnings, decode_recorded codec source state events warnings,
    decodeReference_released codec source state⟩

end JpegLs
