import JpegLs.Native.Export
import JpegLs.Proofs.Native.Row
import JpegLs.Proofs.Session.EncodeReference

/-!
The calls that reach a native library.  An instance is asked one thing after another up to the
first call that fails, and is destroyed behind it; a library that fails to create one is asked
nothing more.
-/

namespace JpegLs

variable {σ : Type}

namespace NativeLibrary

variable (library : NativeLibrary σ)

def measured (frame : FrameInfo) (size : Nat) : Except Stop Unit :=
  let expected := frame.width.toNat * frame.height.toNat * frame.components.toNat
  let actual := if frame.bits ≤ 8 then size else size / 2
  if actual = expected then .ok () else .error (.error (.bufferSize expected actual))

def described (frame : FrameInfo) (code : Int) : Except Stop Metadata := do
  let interleave ← (Interleave.ofCode code).mapError Stop.error
  (Metadata.ofFrame frame interleave).mapError Stop.error

def decoderRow (source : List UInt8) (decoder : library.Decoder) : StateM σ CallRow := do
  let opened ← library.decoderSetSourceBuffer decoder source
  let found ← library.decoderReadHeader opened.2
  let frame ← library.decoderGetFrameInfo found.2
  let mode ← library.decoderGetInterleaveMode found.2
  let size ← library.decoderGetDestinationSize found.2 packedStride
  let stored ← library.decoderDecodeToBuffer found.2 size.2 packedStride
  return [
    (.decoderSetSourceBuffer source.length, refusal? (resultOf opened)),
    (.decoderReadHeader, refusal? (resultOf found)),
    (.decoderGetFrameInfo, refusal? (resultOf frame)),
    (.decoderGetInterleaveMode, refusal? (resultOf mode >>= described frame.2)),
    (.decoderGetDestinationSize packedStride, refusal? (resultOf size >>= allocate)),
    (.decoderDecodeToBuffer size.2 packedStride,
      refusal? (resultOf stored >>= fun _ => measured frame.2 size.2))]

def encoderRow (image : SourceImage) (options : EncodeOptions) (metadata : Metadata)
    (encoder : library.Encoder) : StateM σ CallRow := do
  let mode := (options.interleave.getD .sample).code
  let space : Int := if image.mode.components = 3 then 10 else 8
  let source := image.source options metadata
  let framed ← library.encoderSetFrameInfo encoder metadata.frame
  let arranged ← callIf (image.mode.components = 3) (.encoderSetInterleaveMode mode)
    (library.encoderSetInterleaveMode framed.2 mode) framed.2
  let size ← library.encoderGetEstimatedDestinationSize arranged.1
  let lent ← library.encoderSetDestinationBuffer arranged.1 size.2
  let declared ← callIf options.spiff (.encoderWriteStandardSpiffHeader space 1 72 72)
    (library.encoderWriteStandardSpiffHeader lent.2 space 1 72 72) (lent.2, [])
  let encoded ← library.encoderEncodeFromBuffer declared.1.1 source packedStride
  let written ← library.encoderGetBytesWritten encoded.2.1
  return [(.encoderSetFrameInfo metadata.frame, refusal? (resultOf framed))] ++ arranged.2 ++ [
    (.encoderGetEstimatedDestinationSize, refusal? (resultOf size >>= allocate)),
    (.encoderSetDestinationBuffer size.2, refusal? (resultOf lent))] ++ declared.2 ++ [
    (.encoderEncodeFromBuffer source.length packedStride, refusal? (resultOf encoded)),
    (.encoderGetBytesWritten, refusal? (resultOf written >>= fun count =>
      if size.2 < count then .error (.error (.codec .destinationBufferTooSmall)) else .ok ()))]

end NativeLibrary

section

open NativeLibrary

variable (library : NativeLibrary σ)

theorem ofCode_eq (code : Int) :
    (Interleave.ofCode code).mapError Stop.error =
      (interleaveOfCode code).mapError fun status => .error (.codec status.fault) := by
  unfold Interleave.ofCode interleaveOfCode
  cases Interleave.ofCode? code with
  | none => rfl
  | some mode => rfl

theorem of_described {frame : FrameInfo} {code : Int} {metadata : Metadata}
    (h : described frame code = .ok metadata) :
    ∃ interleave, Metadata.ofFrame frame interleave = .ok metadata := by
  obtain ⟨interleave, -, haccepted⟩ := bind_eq_ok_iff.mp h
  cases hframe : Metadata.ofFrame frame interleave with
  | ok accepted =>
      rw [hframe] at haccepted
      cases haccepted
      exact ⟨interleave, hframe⟩
  | error error =>
      rw [hframe] at haccepted
      cases haccepted

theorem toCall_checkedStoring {α : Type} (function : StateM σ (Int × α × List Patch)) :
    (checkedStoring function).toCall = checked function := by
  funext state
  simp only [StoringCall.toCall, checkedStoring, checked]
  rcases function state with ⟨⟨code, value, patches⟩, left⟩
  by_cases hcode : code = 0
  · simp only [if_pos hcode]
  · simp only [if_neg hcode]

theorem refusal?_image {frame : FrameInfo} {interleave : Interleave} {metadata : Metadata}
    (hmetadata : Metadata.ofFrame frame interleave = .ok metadata) (destination : List UInt8) :
    refusal? ((DecodeSession.image metadata destination).mapError Stop.error) =
      refusal? (measured frame destination.length) := by
  obtain ⟨hframe, rfl⟩ := Metadata.valid_of_ofFrame hmetadata
  rw [DecodeSession.image_plain hframe, measured]
  simp only
  generalize (if frame.bits ≤ 8 then destination.length else destination.length / 2) = actual
  split
  · rfl
  · rfl

theorem complete_apply (container : Metadata) (decoded : DecodedImage) (world : World σ) :
    ∃ completed left, container.complete decoded world = (.ok completed, left) ∧
      left.codec = world.codec := by
  rw [Metadata.complete]
  split
  · exact ⟨_, _, rfl, rfl⟩
  · exact ⟨_, _, rfl, rfl⟩

theorem asks_described {last call : NativeCall} {function : StateM σ (Int × Int)}
    {Handle State : Type} {kind : Session.Kind (σ × List NativeCall) Handle State}
    (hends : Task.Ends last kind) (handle : Handle) (frame : FrameInfo) :
    Task.Asks last call function (fun answer => resultOf answer >>= described frame) (do
      let interleave ← (kind.attempt handle (checked (noted call function) >>= fun code =>
        liftM (interleaveOfCode code))).adapt Stop.error
      kind.accept handle ((Metadata.ofFrame frame interleave).mapError Stop.error)) := by
  have hjudged (answer : Int × Int) : resultOf answer >>= described frame =
      (resultOf answer >>= fun code => (Interleave.ofCode code).mapError Stop.error) >>=
        fun interleave => (Metadata.ofFrame frame interleave).mapError Stop.error := by
    rw [bind_assoc]
    rfl
  simp only [hjudged]
  exact (Task.asks_attempt_read hends ofCode_eq).accept hends _

theorem drives_decode (source : List UInt8) :
    Task.Drives .decoderCreate .decoderDestroy (Container.metadata source) library.decoderCreate
      (fun _ => library.decoderRow source) (decodeAllocating library.traced.codec source) := by
  have hends : Task.Ends .decoderDestroy (DecodeSession.kind library.traced.codec) :=
    fun _ _ _ => rfl
  rw [decodeAllocating_eq_steps]
  refine Task.Makes.drives fun container decoder => ?_
  simp only [DecodeSession.measureSteps, DecodeSession.fillSteps, Task.adapt_bind, bind_assoc,
    Task.adapt_pure, pure_bind, Session.Kind.adapt_accept, Session.Kind.adapt_giveBack]
  refine Task.makes_attempt hends rfl fun opened => ?_
  refine Task.makes_attempt hends rfl fun found => ?_
  refine Task.makes_attempt hends rfl fun frame => ?_
  rw [← bind_assoc]
  refine (asks_described hends _ frame.2).makes (fun mode left => ⟨_, rfl⟩)
    fun mode metadata hmetadata => ?_
  obtain ⟨code, -, hdescribed⟩ := bind_eq_ok_iff.mp hmetadata
  obtain ⟨interleave, hmetadata⟩ := of_described hdescribed
  refine Task.makes_allocate hends rfl fun size => ?_
  refine Task.makes_attempt_last hends rfl (fun _ => measured frame.2 size.2)
    (fun stored world => ?_) fun stored => rfl
  have hrefusal := refusal?_image hmetadata (Patch.apply ⟨0, stored⟩ (List.replicate size.2 0))
  rw [Patch.length_apply, List.length_replicate] at hrefusal
  rw [Task.adapt_liftExcept, run_bind, Task.liftExcept_apply]
  cases himage : DecodeSession.image metadata
      (Patch.apply ⟨0, stored⟩ (List.replicate size.2 0)) with
  | error error =>
      rw [himage] at hrefusal
      exact ⟨rfl, hrefusal⟩
  | ok decoded =>
      obtain ⟨completed, left, hcomplete, hcodec⟩ := complete_apply container decoded world
      rw [himage] at hrefusal
      simp only [Except.mapError, Task.adapt_apply, hcomplete]
      exact ⟨hcodec, hrefusal⟩

theorem code_colorSpace (image : SourceImage) :
    ((image.colorSpace.code.toNat : Nat) : Int) = if image.mode.components = 3 then 10 else 8 := by
  unfold SourceImage.colorSpace
  split
  · rfl
  · rfl

theorem drives_encode {width height : UInt32} {mode : PixelMode} {pixels : PixelBuffer}
    {image : SourceImage} (himage : SourceImage.make width height mode pixels = .ok image)
    (options : EncodeOptions) :
    Task.Drives .encoderCreate .encoderDestroy
      (Metadata.forEncode image.width image.height image.mode options) library.encoderCreate
      (library.encoderRow image options)
      (encodeAllocating library.traced.codec image options) := by
  have hends : Task.Ends .encoderDestroy (EncodeSession.kind library.traced.codec) :=
    fun _ _ _ => rfl
  rw [encodeAllocating_eq_steps himage]
  refine Task.Makes.drives fun metadata encoder => ?_
  rw [encoderRow, ← code_colorSpace]
  simp only [EncodeSession.measureSteps, EncodeSession.fillSteps, Task.adapt_bind, bind_assoc,
    Task.adapt_pure, pure_bind, Session.Kind.adapt_giveBack]
  refine Task.makes_attempt hends rfl fun framed => ?_
  refine Task.makes_attempt_if hends rfl fun arranged => ?_
  refine Task.makes_allocate hends rfl fun size => ?_
  refine Task.makes_attempt hends rfl fun lent => ?_
  refine Task.makes_attempt_if hends (toCall_checkedStoring _) fun declared => ?_
  refine Task.makes_attempt hends (toCall_checkedStoring _) fun encoded => ?_
  refine Task.makes_attempt_last hends rfl
    (fun written => if size.2 < written then .error (.error (.codec .destinationBufferTooSmall))
      else .ok ())
    (fun written world => ?_) fun written => ?_
  · by_cases hsize : size.2 < written
    · rw [if_pos hsize, if_pos hsize]
      exact ⟨rfl, rfl⟩
    · rw [if_neg hsize, if_neg hsize]
      exact ⟨rfl, rfl⟩
  · simp only [List.append_assoc, List.nil_append, List.cons_append]
    rfl

def decoderCalls (length size : Nat) : List NativeCall :=
  [.decoderSetSourceBuffer length, .decoderReadHeader, .decoderGetFrameInfo,
    .decoderGetInterleaveMode, .decoderGetDestinationSize 0, .decoderDecodeToBuffer size 0]

theorem decoderRow_calls (source : List UInt8) (decoder : library.Decoder) (state : σ) :
    ∃ size, (library.decoderRow source decoder state).1.map Prod.fst =
      decoderCalls source.length size :=
  ⟨_, rfl⟩

def encoderCalls (image : SourceImage) (options : EncodeOptions) (metadata : Metadata)
    (size : Nat) : List NativeCall :=
  [.encoderSetFrameInfo metadata.frame] ++
  (if image.mode.components = 3 then
    [.encoderSetInterleaveMode (options.interleave.getD .sample).code] else []) ++
  [.encoderGetEstimatedDestinationSize, .encoderSetDestinationBuffer size] ++
  (if options.spiff then
    [.encoderWriteStandardSpiffHeader (if image.mode.components = 3 then 10 else 8) 1 72 72]
    else []) ++
  [.encoderEncodeFromBuffer (image.source options metadata).length 0, .encoderGetBytesWritten]

theorem encoderRow_calls (image : SourceImage) (options : EncodeOptions) (metadata : Metadata)
    (encoder : library.Encoder) (state : σ) :
    ∃ size, (library.encoderRow image options metadata encoder state).1.map Prod.fst =
      encoderCalls image options metadata size := by
  unfold encoderRow encoderCalls callIf
  cases options.spiff with
  | true =>
      split
      · exact ⟨_, rfl⟩
      · exact ⟨_, rfl⟩
  | false =>
      split
      · exact ⟨_, rfl⟩
      · exact ⟨_, rfl⟩

/-- A decoding, and an encoding of an image with the right number of samples, whatever the
functions of the library answer.  What is refused beforehand reaches the library with no call, and
a null handle with one.  Otherwise an instance is created, asked at least one thing and then the
rest up to the first call that ends the row, and destroyed once at the end.  Besides a status, an
answer that cannot be used ends the row, and a size that no buffer can have, which stops the run. -/
theorem calls_in_order :
    (∀ source, Task.Drives .decoderCreate .decoderDestroy (Container.metadata source)
      library.decoderCreate (fun _ => library.decoderRow source)
      (decodeAllocating library.traced.codec source)) ∧
    (∀ source decoder state,
      let row := (library.decoderRow source decoder state).1
      row.made ≠ [] ∧ ∃ size, row.made <+: decoderCalls source.length size) ∧
    (∀ width height mode pixels image, SourceImage.make width height mode pixels = .ok image →
      ∀ options, Task.Drives .encoderCreate .encoderDestroy
        (Metadata.forEncode image.width image.height image.mode options) library.encoderCreate
        (library.encoderRow image options)
      (encodeAllocating library.traced.codec image options)) ∧
    (∀ image options metadata encoder state,
      let row := (library.encoderRow image options metadata encoder state).1
      row.made ≠ [] ∧ ∃ size, row.made <+: encoderCalls image options metadata size) := by
  refine ⟨drives_decode library, ?_, ?_, ?_⟩
  · intro source decoder state row
    obtain ⟨size, hcalls⟩ := decoderRow_calls library source decoder state
    have hmade := row.made_isPrefix
    rw [hcalls] at hmade
    exact ⟨CallRow.made_ne_nil hcalls, size, hmade⟩
  · intro width height mode pixels image himage options
    exact drives_encode library himage options
  · intro image options metadata encoder state row
    obtain ⟨size, hcalls⟩ := encoderRow_calls library image options metadata encoder state
    have hmade := row.made_isPrefix
    rw [hcalls] at hmade
    exact ⟨CallRow.made_ne_nil hcalls, size, hmade⟩

theorem calls_in_order_one_pixel :
    let library := ofCodec (Loopback.codec { failAt := some (.estimatedDestinationSize, ⟨3⟩) })
    let image : SourceImage := ⟨1, 1, .rgb8, .eight [7, 8, 9]⟩
    let run := encodeAllocating library.traced.codec image {} ⟨({}, []), []⟩
    SourceImage.make 1 1 .rgb8 (.eight [7, 8, 9]) = .ok image ∧
      run.1 = .error (.error (.codec .destinationBufferTooSmall)) ∧
      run.2.codec.2 = [.encoderCreate, .encoderSetFrameInfo ⟨1, 1, 8, 3⟩,
        .encoderSetInterleaveMode 2, .encoderGetEstimatedDestinationSize, .encoderDestroy] := by
  intro library image run
  have himage : SourceImage.make 1 1 .rgb8 (.eight [7, 8, 9]) = .ok image := rfl
  have hdrives := (calls_in_order library).2.2.1 _ _ _ _ image himage {} {} [] []
  obtain ⟨hanswer, hcalls⟩ := hdrives
  refine ⟨himage, ?_, ?_⟩
  · refine refusal?_eq_some_iff.mp (hanswer.trans ?_)
    decide +kernel
  · refine hcalls.trans ?_
    decide +kernel

/-- An estimate beyond any buffer: the destination is never set. -/
example :
    let library := { ofCodec (Loopback.codec {}) with
      encoderGetEstimatedDestinationSize := fun _ => pure (0, largestBuffer + 1) }
    let run := encodeAllocating library.traced.codec ⟨1, 1, .l8, .eight [7]⟩ {} ⟨({}, []), []⟩
    run.1 = .error (.overflow ⟨largestBuffer + 1⟩) ∧
      run.2.codec.2 = [.encoderCreate, .encoderSetFrameInfo ⟨1, 1, 8, 1⟩,
        .encoderGetEstimatedDestinationSize, .encoderDestroy] := by
  decide +kernel

end

end JpegLs
