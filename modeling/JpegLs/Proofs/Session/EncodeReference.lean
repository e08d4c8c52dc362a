import JpegLs.Proofs.Container.Implied
import JpegLs.Proofs.Session.Erasure
import JpegLs.Proofs.Session.Prepare
import JpegLs.Proofs.Session.Use

namespace JpegLs

variable {σ : Type}

namespace SourceImage

variable (image : SourceImage) (options : EncodeOptions)

def colorSpace : Spiff.ColorSpace :=
  if image.mode.components = 3 then .rgb else .grayscale

theorem ofComponents_mode :
    Spiff.ColorSpace.ofComponents image.mode.components = image.colorSpace := by
  unfold colorSpace
  cases image.mode with
  | l8 => rfl
  | rgb8 => rfl
  | l16 => rfl
  | rgb16 => rfl

def source (metadata : Metadata) : List UInt8 :=
  image.scanBytes metadata.bits.toNat (options.interleave.getD .sample)

theorem prepare_source {image : SourceImage} {options : EncodeOptions} {width height : UInt32}
    {mode : PixelMode} {pixels : PixelBuffer} {metadata : Metadata}
    (himage : make width height mode pixels = .ok image)
    (hmetadata : Metadata.forEncode image.width image.height image.mode options = .ok metadata) :
    image.prepare options = .ok (metadata, image.source options metadata) := by
  rw [prepare_of_make himage, hmetadata]
  rfl

end SourceImage

abbrev Codec.attempt {α : Type} (codec : Codec σ) (encoder : codec.Encoder) (call : Call σ α) :
    Task σ α :=
  (EncodeSession.kind codec).attempt encoder call

/-- An encoding as a row of calls, each of which may end it.  What is stored behind the bytes
written is cut off, and so is nothing else. -/
def encodeReference (codec : Codec σ) (image : SourceImage) (options : EncodeOptions) :
    Task σ (List UInt8) := do
  let metadata ← Metadata.forEncode image.width image.height image.mode options
  let encoder ← Task.call codec.createEncoder
  let encoder ← codec.attempt encoder (codec.setFrameInfo encoder metadata.frame)
  let encoder ← (
    if image.mode.components = 3 then
      codec.attempt encoder (codec.setInterleave encoder (options.interleave.getD .sample))
    else
      pure encoder)
  let size ← codec.attempt encoder (codec.estimatedSize encoder)
  let encoder ← codec.attempt encoder (codec.setDestination encoder size)
  let (encoder, header) ← (
    if options.spiff then
      codec.attempt encoder
        (codec.writeSpiff encoder image.colorSpace .dotsPerInch 72 72).toCall
    else
      pure (encoder, []))
  let (encoder, stored) ←
    codec.attempt encoder (codec.encodeFrom encoder (image.source options metadata)).toCall
  let written ← codec.attempt encoder (codec.bytesWritten encoder)
  (EncodeSession.kind codec).giveBack encoder
  if size < written then
    throw (.codec .destinationBufferTooSmall)
  else
    return (Patch.applyAll stored (Patch.applyAll header (List.replicate size 0))).take written

namespace EncodeSession

variable (codec : Codec σ) {encoder : codec.Encoder} {destination : List UInt8} {α : Type}

def arrangedState (metadata : Metadata) : EncodeState :=
  if 1 < metadata.components then .interleaveSet else .frameSet

theorem arrangedState_mem (metadata : Metadata) :
    arrangedState metadata ∈ [EncodeState.frameSet, .interleaveSet] := by
  unfold arrangedState
  split <;> simp

theorem use_arrange (metadata : Metadata) (next : Unit → Method codec α) :
    Session.use (kind codec) ⟨some encoder, .frameSet, destination⟩
        (arrange codec metadata >>= next) =
      (if 1 < metadata.components then
          codec.attempt encoder (codec.setInterleave encoder metadata.interleave)
        else
          pure encoder) >>= fun encoder =>
        Session.use (kind codec) ⟨some encoder, arrangedState metadata, destination⟩
          (next ()) := by
  unfold arrange arrangedState
  by_cases hseveral : 1 < metadata.components
  · simp only [if_pos hseveral]
    exact Session.use_change List.mem_cons_self _ _
  · simp only [if_neg hseveral, pure_bind]

theorem use_estimate {state : EncodeState}
    (hstate : state ∈ [EncodeState.frameSet, .interleaveSet]) (next : Nat → Method codec α) :
    Session.use (kind codec) ⟨some encoder, state, destination⟩ (estimate codec >>= next) =
      codec.attempt encoder (codec.estimatedSize encoder) >>= fun size =>
        Session.use (kind codec) ⟨some encoder, state, destination⟩ (next size) := by
  rw [estimate, bind_assoc, Session.use_get]
  exact Session.use_query hstate _ _

theorem use_setDestination {state : EncodeState}
    (hstate : state ∈ [EncodeState.frameSet, .interleaveSet]) (lent : List UInt8)
    (next : PUnit → Method codec α) :
    Session.use (kind codec) ⟨some encoder, state, destination⟩
        (setDestination codec lent >>= next) =
      codec.attempt encoder (codec.setDestination encoder lent.length) >>= fun encoder =>
        Session.use (kind codec) ⟨some encoder, .destinationSet, lent⟩ (next ⟨⟩) := by
  rw [setDestination, bind_assoc, Session.use_change hstate]
  apply bind_congr
  intro encoder
  rw [Session.use_modify]

/-- An implied header has no code that is unknown, so that asking for what it declares does not
fail. -/
theorem declareSpiff_eq (metadata : Metadata) :
    declareSpiff codec metadata =
      match metadata.declaredSpiff? with
      | none => pure ()
      | some (space, units, resolution) => writeSpiff codec space units resolution resolution := by
  unfold declareSpiff
  cases himplied : metadata.impliedSpiff? with
  | none => rw [Option.map_eq_none_iff.mp himplied]
  | some header =>
      obtain ⟨space, units, hspace, hunits, hdeclared, hhorizontal⟩ :=
        Metadata.fields_of_impliedSpiff? himplied
      simp only [hdeclared, hspace, hunits, hhorizontal]
      rfl

theorem use_declareSpiff {metadata : Metadata} {wanted : Prop} [Decidable wanted]
    {space : Spiff.ColorSpace} {units : Spiff.ResolutionUnits} {resolution : UInt32}
    (hdeclared : metadata.declaredSpiff? =
      if wanted then some (space, units, resolution) else none)
    (next : Unit → Method codec α) :
    Session.use (kind codec) ⟨some encoder, .destinationSet, destination⟩
        (declareSpiff codec metadata >>= next) =
      (if wanted then
          codec.attempt encoder
            (codec.writeSpiff encoder space units resolution resolution).toCall
        else
          pure (encoder, [])) >>= fun (encoder, header) =>
        Session.use (kind codec)
          ⟨some encoder, if wanted then .spiffWritten else .destinationSet,
            Patch.applyAll header destination⟩ (next ()) := by
  rw [declareSpiff_eq, hdeclared]
  by_cases hwanted : wanted
  · simp only [if_pos hwanted]
    exact Session.use_store List.mem_cons_self _ _
  · simp only [if_neg hwanted, pure_bind, Patch.applyAll_nil]

theorem use_encodeFrom {state : EncodeState}
    (hstate : state ∈ [EncodeState.destinationSet, .spiffWritten]) (source : List UInt8)
    (next : Unit → Method codec α) :
    Session.use (kind codec) ⟨some encoder, state, destination⟩
        (encodeFrom codec source >>= next) =
      codec.attempt encoder (codec.encodeFrom encoder source).toCall >>= fun (encoder, stored) =>
        Session.use (kind codec) ⟨some encoder, .encoded, Patch.applyAll stored destination⟩
          (next ()) :=
  Session.use_store hstate _ _

theorem use_finish (next : Nat → Method codec α) :
    Session.use (kind codec) ⟨some encoder, .encoded, destination⟩ (finish codec >>= next) = (do
      let written ← codec.attempt encoder (codec.bytesWritten encoder)
      (kind codec).giveBack encoder
      if destination.length < written then
        throw (.codec .destinationBufferTooSmall)
      else
        Session.use (kind codec) ⟨none, .closed, destination⟩ (next written)) := by
  simp only [finish, bind_assoc]
  rw [Session.use_query List.mem_cons_self]
  apply bind_congr
  intro written
  rw [Session.use_close]
  apply bind_congr
  intro done
  rw [Session.use_get]
  by_cases hsize : destination.length < written
  · simp only [if_pos hsize]
    rfl
  · simp only [if_neg hsize, pure_bind]
    rfl

end EncodeSession

variable {width height : UInt32} {mode : PixelMode} {pixels : PixelBuffer} {image : SourceImage}

def EncodeSession.measureSteps (codec : Codec σ) (image : SourceImage) (options : EncodeOptions)
    (metadata : Metadata) (encoder : codec.Encoder) : Task σ (codec.Encoder × Nat) := do
  let encoder ← codec.attempt encoder (codec.setFrameInfo encoder metadata.frame)
  let encoder ← (
    if image.mode.components = 3 then
      codec.attempt encoder (codec.setInterleave encoder (options.interleave.getD .sample))
    else
      pure encoder)
  let size ← codec.attempt encoder (codec.estimatedSize encoder)
  return (encoder, size)

def EncodeSession.fillSteps (codec : Codec σ) (image : SourceImage) (options : EncodeOptions)
    (metadata : Metadata) (encoder : codec.Encoder) (size : Nat) : Task σ (List UInt8) := do
  let encoder ← codec.attempt encoder (codec.setDestination encoder size)
  let (encoder, header) ← (
    if options.spiff then
      codec.attempt encoder
        (codec.writeSpiff encoder image.colorSpace .dotsPerInch 72 72).toCall
    else
      pure (encoder, []))
  let (encoder, stored) ←
    codec.attempt encoder (codec.encodeFrom encoder (image.source options metadata)).toCall
  let written ← codec.attempt encoder (codec.bytesWritten encoder)
  (EncodeSession.kind codec).giveBack encoder
  if size < written then
    throw (.codec .destinationBufferTooSmall)
  else
    return (Patch.applyAll stored (Patch.applyAll header (List.replicate size 0))).take written

theorem encodeReference_eq (codec : Codec σ) (image : SourceImage) (options : EncodeOptions) :
    encodeReference codec image options = (do
      let metadata ← Metadata.forEncode image.width image.height image.mode options
      let encoder ← Task.call codec.createEncoder
      let (encoder, size) ← EncodeSession.measureSteps codec image options metadata encoder
      EncodeSession.fillSteps codec image options metadata encoder size) := by
  simp only [encodeReference, EncodeSession.measureSteps, EncodeSession.fillSteps, bind_assoc,
    pure_bind]

namespace EncodeSession

variable {codec : Codec σ} {options : EncodeOptions} {metadata : Metadata} {α : Type}

theorem use_measure (encoder : codec.Encoder)
    (hmetadata : Metadata.forEncode image.width image.height image.mode options = .ok metadata)
    (next : Nat → Method codec α) :
    Session.use (kind codec) ⟨some encoder, .created, []⟩ (do
        setFrameInfo codec metadata.frame
        arrange codec metadata
        let size ← estimate codec
        next size) = (do
      let (encoder, size) ← measureSteps codec image options metadata encoder
      Session.use (kind codec) ⟨some encoder, arrangedState metadata, []⟩ (next size)) := by
  have hseveral : 1 < metadata.components ↔ image.mode.components = 3 := by
    have hone_or_three := image.mode.components_eq
    rw [UInt8.lt_iff_toNat_lt, Metadata.components_of_forEncode hmetadata]
    change 1 < image.mode.components ↔ _
    omega
  have harrange (encoder : codec.Encoder) : (if 1 < metadata.components then
        codec.attempt encoder (codec.setInterleave encoder metadata.interleave)
      else
        pure encoder) =
      if image.mode.components = 3 then
        codec.attempt encoder (codec.setInterleave encoder (options.interleave.getD .sample))
      else
        pure encoder := by
    by_cases hthree : image.mode.components = 3
    · have hmode := Metadata.interleave_of_forEncode hmetadata
      rw [if_pos (by omega)] at hmode
      rw [if_pos (hseveral.mpr hthree), if_pos hthree, hmode]
    · rw [if_neg (mt hseveral.mp hthree), if_neg hthree]
  -- Both sides make the same calls in a row, and are compared call by call.
  simp only [measureSteps, bind_assoc, pure_bind]
  rw [setFrameInfo, Session.use_change List.mem_cons_self]
  apply bind_congr
  intro encoder
  rw [use_arrange, harrange]
  apply bind_congr
  intro encoder
  rw [use_estimate codec (arrangedState_mem metadata)]

theorem use_fill (encoder : codec.Encoder)
    (hmetadata : Metadata.forEncode image.width image.height image.mode options = .ok metadata)
    (size : Nat) :
    Session.use (kind codec) ⟨some encoder, arrangedState metadata, []⟩ (do
        setDestination codec (List.replicate size 0)
        declareSpiff codec metadata
        encodeFrom codec (image.source options metadata)
        let written ← finish codec
        return (← get).data.take written) =
      fillSteps codec image options metadata encoder size := by
  have hdeclared := Metadata.declaredSpiff?_of_forEncode hmetadata
  rw [image.ofComponents_mode] at hdeclared
  have hstate : (if options.spiff then EncodeState.spiffWritten else .destinationSet) ∈
      [EncodeState.destinationSet, .spiffWritten] := by
    split <;> simp
  rw [use_setDestination codec (arrangedState_mem metadata), List.length_replicate, fillSteps]
  apply bind_congr
  intro encoder
  rw [use_declareSpiff codec hdeclared]
  apply bind_congr
  rintro ⟨encoder, header⟩
  simp only [use_encodeFrom codec hstate]
  apply bind_congr
  rintro ⟨encoder, stored⟩
  simp only [use_finish, Patch.length_applyAll, List.length_replicate]
  rfl

end EncodeSession

theorem encode_eq (himage : SourceImage.make width height mode pixels = .ok image)
    (codec : Codec σ) (options : EncodeOptions) :
    encode codec image options = encodeReference codec image options := by
  rw [encode, encodeReference_eq, SourceImage.prepare_of_make himage]
  cases hmetadata : Metadata.forEncode image.width image.height image.mode options with
  | error error => rfl
  | ok metadata =>
      show EncodeSession.start codec >>= _ = Task.call codec.createEncoder >>= _
      rw [EncodeSession.start, Session.start, bind_map_left]
      apply bind_congr
      intro encoder
      refine (EncodeSession.use_measure encoder hmetadata _).trans ?_
      apply bind_congr
      rintro ⟨encoder, size⟩
      exact EncodeSession.use_fill encoder hmetadata size

theorem encodeReference_of_refused {codec : Codec σ} {options : EncodeOptions} {error : Error}
    (hmetadata : Metadata.forEncode image.width image.height image.mode options = .error error)
    (world : World σ) : encodeReference codec image options world = (.error error, world) := by
  rw [encodeReference, hmetadata, run_bind, Task.liftExcept_apply]

section

variable {codec : Codec σ} {options : EncodeOptions} {metadata : Metadata}
  {created : codec.Encoder} {start atCreate atFrame : σ} {warnings : List Warning}

theorem encodeReference_of_frame_error {status : Status}
    (hmetadata : Metadata.forEncode image.width image.height image.mode options = .ok metadata)
    (hcreate : codec.createEncoder start = (.ok created, atCreate))
    (hframe : codec.setFrameInfo created metadata.frame atCreate = (.error status, atFrame)) :
    (encodeReference codec image options ⟨start, warnings⟩).1 = .error (.codec status.fault) := by
  simp only [encodeReference, hmetadata, run_bind, Task.liftExcept_apply, Task.call, hcreate,
    Codec.attempt, Session.Kind.attempt_of_error hframe]

theorem encodeReference_of_calls {framed arranged lending declared stored : codec.Encoder}
    {header patches : List Patch} {size written : Nat}
    {atArrange atEstimate atLend atDeclare atEncode atEnd : σ}
    (hmetadata : Metadata.forEncode image.width image.height image.mode options = .ok metadata)
    (hcreate : codec.createEncoder start = (.ok created, atCreate))
    (hframe : codec.setFrameInfo created metadata.frame atCreate = (.ok framed, atFrame))
    (harrange : (if image.mode.components = 3 then
          codec.attempt framed (codec.setInterleave framed (options.interleave.getD .sample))
        else
          pure framed) ⟨atFrame, warnings⟩ = (.ok arranged, ⟨atArrange, warnings⟩))
    (hestimate : codec.estimatedSize arranged atArrange = (.ok size, atEstimate))
    (hdestination : codec.setDestination arranged size atEstimate = (.ok lending, atLend))
    (hdeclare : (if options.spiff then
          codec.attempt lending
            (codec.writeSpiff lending image.colorSpace .dotsPerInch 72 72).toCall
        else
          pure (lending, [])) ⟨atLend, warnings⟩ =
      (.ok (declared, header), ⟨atDeclare, warnings⟩))
    (hencode : codec.encodeFrom declared (image.source options metadata) atDeclare =
      ((.ok stored, patches), atEncode))
    (hwritten : codec.bytesWritten stored atEncode = (.ok written, atEnd)) :
    encodeReference codec image options ⟨start, warnings⟩ =
      (if size < written then .error (.codec .destinationBufferTooSmall)
        else .ok
          ((Patch.applyAll patches (Patch.applyAll header (List.replicate size 0))).take written),
        ⟨codec.releaseEncoder stored atEnd, warnings⟩) := by
  have hstored : (codec.encodeFrom declared (image.source options metadata)).toCall atDeclare =
      (.ok (stored, patches), atEncode) := by
    rw [StoringCall.toCall, hencode]
  rw [encodeReference, hmetadata, run_bind, Task.liftExcept_apply]
  simp only [run_bind, Task.call, hcreate, Session.Kind.attempt_of_ok hframe, harrange,
    Session.Kind.attempt_of_ok hestimate, Session.Kind.attempt_of_ok hdestination, hdeclare,
    Session.Kind.attempt_of_ok hstored, Session.Kind.attempt_of_ok hwritten]
  by_cases hsize : size < written
  · simp only [if_pos hsize]
    rfl
  · simp only [if_neg hsize]
    rfl

end

def encodeEvents (image : SourceImage) (options : EncodeOptions) (metadata : Metadata)
    (size written : Nat) : List Event :=
  [.answered (.setFrameInfo metadata.frame) .done] ++
  (if image.mode.components = 3 then
    [.answered (.setInterleave (options.interleave.getD .sample)) .done] else []) ++
  [.answered .estimatedSize (.size size), .answered (.setDestination size) .done] ++
  (if options.spiff then
    [.answered (.writeSpiff image.colorSpace .dotsPerInch 72 72) .done] else []) ++
  [.answered (.encodeFrom (image.source options metadata)) .done,
    .answered .bytesWritten (.size written)]

/-- The answers of an encoding, each with the record it leaves: an encoder that was created is
given back at the end, whether all calls were made or one has failed. -/
inductive EncodeTrail (image : SourceImage) (options : EncodeOptions) :
    Except Error (List UInt8) → List Event → Prop where
  | refused {error : Error}
      (hmetadata : Metadata.forEncode image.width image.height image.mode options = .error error) :
      EncodeTrail image options (.error error) []
  | notCreated {metadata : Metadata} (status : Status)
      (hmetadata : Metadata.forEncode image.width image.height image.mode options = .ok metadata) :
      EncodeTrail image options (.error (.codec status.fault)) [.notCreated status]
  | failed {metadata : Metadata} (status : Status) {made : List Event} {request : Request}
      (hmetadata : Metadata.forEncode image.width image.height image.mode options = .ok metadata)
      (hmade : ∃ response size written,
        made ++ [.answered request response] <+: encodeEvents image options metadata size written) :
      EncodeTrail image options (.error (.codec status.fault))
        ([.created] ++ made ++ [.failed request status, .released])
  | overrun {metadata : Metadata} {size written : Nat}
      (hmetadata : Metadata.forEncode image.width image.height image.mode options = .ok metadata)
      (hsize : size < written) :
      EncodeTrail image options (.error (.codec .destinationBufferTooSmall))
        ([.created] ++ encodeEvents image options metadata size written ++ [.released])
  | done {metadata : Metadata} {size written : Nat} {destination : List UInt8}
      (hmetadata : Metadata.forEncode image.width image.height image.mode options = .ok metadata)
      (hlength : destination.length = size) (hsize : written ≤ size) :
      EncodeTrail image options (.ok (destination.take written))
        ([.created] ++ encodeEvents image options metadata size written ++ [.released])

theorem encodeReference_leads (codec : Codec σ) (image : SourceImage) (options : EncodeOptions) :
    (encodeReference codec.recorded image options).Leads (EncodeTrail image options) [] := by
  have hnotes : (EncodeSession.kind codec.recorded).Notes := fun _ _ => rfl
  -- One rule a call, with the answer that a failure of this call ends in.
  refine Task.leads_liftExcept (fun error => .refused) fun metadata hmetadata => ?_
  refine Task.leads_create (fun status => .notCreated status hmetadata) fun encoder => ?_
  refine Task.leads_attempt hnotes rfl (fun status => ?_) fun encoder => ?_
  · exact .failed status hmetadata ⟨.done, 0, 0, by simp [encodeEvents]⟩
  refine Task.leads_attempt_if hnotes rfl (fun status hseveral => ?_) fun encoder => ?_
  · exact .failed status hmetadata ⟨.done, 0, 0, by simp [encodeEvents, hseveral]⟩
  refine Task.leads_attempt hnotes rfl (fun status => ?_) fun size => ?_
  · exact .failed status hmetadata ⟨.size 0, 0, 0, by simp [encodeEvents]⟩
  refine Task.leads_attempt hnotes rfl (fun status => ?_) fun encoder => ?_
  · exact .failed status hmetadata ⟨.done, size, 0, by simp [encodeEvents]⟩
  refine Task.leads_attempt_if hnotes (Codec.toCall_noteStoring _ _) (fun status hspiff => ?_) fun declared => ?_
  · exact .failed status hmetadata ⟨.done, size, 0, by simp [encodeEvents, hspiff]⟩
  obtain ⟨encoder, header⟩ := declared
  refine Task.leads_attempt hnotes (Codec.toCall_noteStoring _ _) (fun status => ?_) fun encoded => ?_
  · exact .failed status hmetadata ⟨.done, size, 0, by simp [encodeEvents]⟩
  obtain ⟨encoder, stored⟩ := encoded
  refine Task.leads_attempt hnotes rfl (fun status => ?_) fun written => ?_
  · exact .failed status hmetadata ⟨.size 0, size, 0, by simp [encodeEvents]⟩
  refine Task.leads_giveBack hnotes ?_
  by_cases hsize : size < written
  · rw [if_pos hsize]
    apply Task.leads_throw
    simpa [encodeEvents] using
      @EncodeTrail.overrun image options metadata size written hmetadata hsize
  · rw [if_neg hsize]
    apply Task.leads_pure
    have hlength :
        (Patch.applyAll stored (Patch.applyAll header (List.replicate size 0))).length = size := by
      simp
    simpa [encodeEvents] using
      EncodeTrail.done hmetadata hlength (Nat.le_of_not_lt hsize)

theorem answered_encodeEvents (image : SourceImage) (options : EncodeOptions)
    (metadata : Metadata) (size written : Nat) :
    ∀ event ∈ encodeEvents image options metadata size written, event.Answered := by
  intro event hevent
  simp only [encodeEvents, List.mem_append, List.mem_cons, List.mem_ite_nil_right,
    List.not_mem_nil, or_false] at hevent
  rcases hevent with (((rfl | ⟨-, rfl⟩) | rfl | rfl) | ⟨-, rfl⟩) | rfl | rfl <;>
    exact ⟨_, _, rfl⟩

section

variable {options : EncodeOptions} {events : List Event}

theorem EncodeTrail.released {answer : Except Error (List UInt8)}
    (htrail : EncodeTrail image options answer events) :
    events.count .released = events.count .created := by
  have hbalanced {made : List Event} (hmade : ∀ event ∈ made, event.Answered) :
      made.count .released = 0 ∧ made.count .created = 0 :=
    ⟨Event.count_of_answered hmade Event.not_answered_released,
      Event.count_of_answered hmade Event.not_answered_created⟩
  cases htrail with
  | refused hmetadata => rfl
  | notCreated status hmetadata => rfl
  | failed status hmetadata hmade =>
      obtain ⟨response, size, written, hmade⟩ := hmade
      have hanswered := hbalanced fun event hevent =>
        answered_encodeEvents image options _ size written event
          (hmade.subset (List.mem_append_left _ hevent))
      simp [List.count_append, hanswered]
  | overrun hmetadata hsize =>
      simp [List.count_append, hbalanced (answered_encodeEvents image options _ _ _)]
  | done hmetadata hlength hsize =>
      simp [List.count_append, hbalanced (answered_encodeEvents image options _ _ _)]

theorem EncodeTrail.error_cases {error : Error}
    (htrail : EncodeTrail image options (.error error) events) :
    (∃ components bits, error = .unsupportedMode components bits) ∨
      (∃ fault, error = .format fault) ∨ ∃ fault, error = .codec fault := by
  cases htrail with
  | refused hmetadata =>
      rcases Metadata.error_of_forEncode hmetadata with hmode | hformat
      · exact .inl hmode
      · exact .inr (.inl hformat)
  | notCreated status hmetadata => exact .inr (.inr ⟨_, rfl⟩)
  | failed status hmetadata hmade => exact .inr (.inr ⟨_, rfl⟩)
  | overrun hmetadata hsize => exact .inr (.inr ⟨_, rfl⟩)

end

/-- An encoding is its reference, over any codec.  A record changes nothing, and tells the calls in
their order up to the first that fails, and that an encoder is given back once if there is one. -/
theorem encode_eq_reference (himage : SourceImage.make width height mode pixels = .ok image)
    (codec : Codec σ) (options : EncodeOptions) :
    encode codec image options = encodeReference codec image options ∧
      ∀ world : World (Recorded σ),
        let run := encode codec.recorded image options world
        encode codec image options world.erase = (run.1, run.2.erase) ∧
          ∃ added, run.2.codec.2 = world.codec.2 ++ added ∧
            EncodeTrail image options run.1 added := by
  refine ⟨encode_eq himage codec options, fun world => ?_⟩
  refine ⟨erases_encode codec image options world, ?_⟩
  rw [encode_eq himage codec.recorded options]
  exact encodeReference_leads codec image options world

theorem encode_eq_reference_one_pixel :
    let image : SourceImage := ⟨1, 1, .rgb8, .eight [7, 8, 9]⟩
    let codec := Loopback.codec { failAt := some (.writeSpiffHeader, ⟨3⟩) }
    let run := encode codec.recorded image {} ⟨({}, []), []⟩
    SourceImage.make 1 1 .rgb8 (.eight [7, 8, 9]) = .ok image ∧
      encode codec image {} = encodeReference codec image {} ∧
      run.1 = .error (.codec .destinationBufferTooSmall) ∧
      ∃ added, run.2.codec.2 = added ∧ EncodeTrail image {} run.1 added := by
  intro image codec run
  have himage : SourceImage.make 1 1 .rgb8 (.eight [7, 8, 9]) = .ok image := rfl
  obtain ⟨hreference, hrecord⟩ := encode_eq_reference himage codec {}
  obtain ⟨-, added, hadded, htrail⟩ := hrecord ⟨({}, []), []⟩
  exact ⟨himage, hreference, by decide +kernel, added, hadded, htrail⟩

end JpegLs
