import JpegLs.Native.Export
import JpegLs.Native.Script
import JpegLs.Proofs.Session.DecodeReference
import JpegLs.Proofs.Success

namespace JpegLs

namespace FrameInfo

def byteSize (frame : FrameInfo) : Nat :=
  frame.width.toNat * frame.height.toNat * frame.components.toNat *
    if frame.bits ≤ 8 then 1 else 2

/-- Above eight bits a last byte that completes no sample is left unread. -/
def FitsIn (frame : FrameInfo) (size : Nat) : Prop :=
  size = frame.byteSize ∨ 8 < frame.bits ∧ size = frame.byteSize + 1

theorem fitsIn_iff {frame : FrameInfo} {size : Nat} :
    frame.FitsIn size ↔
      (if frame.bits ≤ 8 then size else size / 2) =
        frame.width.toNat * frame.height.toNat * frame.components.toNat := by
  unfold FitsIn byteSize
  generalize frame.width.toNat * frame.height.toNat * frame.components.toNat = samples
  by_cases hbits : frame.bits ≤ 8
  · simp only [if_pos hbits]
    omega
  · simp only [if_neg hbits]
    omega

theorem length_ofBytes_iff (frame : FrameInfo) (stored : List UInt8) :
    (PixelBuffer.ofBytes stored (.ofBits frame.bits.toNat)).length = frame.samples ↔
      frame.FitsIn stored.length := by
  rw [fitsIn_iff, PixelBuffer.length_ofBytes, SampleWidth.ofBits]
  by_cases hbits : frame.bits ≤ 8
  · have hnat : frame.bits.toNat ≤ 8 := by omega
    rw [if_pos hnat, if_pos hbits, SampleWidth.bytes, Nat.div_one]
    rfl
  · have hnat : ¬frame.bits.toNat ≤ 8 := by omega
    rw [if_neg hnat, if_neg hbits, SampleWidth.bytes]
    rfl

end FrameInfo

structure DecodedImage.Sound (decoded : DecodedImage) : Prop where
  valid : decoded.metadata.frame.Valid
  length : decoded.pixels.length = decoded.metadata.frame.samples
  width : decoded.pixels.width = .ofBits decoded.metadata.bits.toNat

namespace DecodeSession

theorem sound_of_image {metadata : Metadata} (hframe : metadata.frame.Valid)
    {stored : List UInt8} {decoded : DecodedImage} (himage : image metadata stored = .ok decoded) :
    decoded.metadata = metadata ∧ decoded.Sound ∧ metadata.frame.FitsIn stored.length := by
  rw [image_of_valid hframe] at himage
  by_cases hlength : (PixelBuffer.ofBytes stored (.ofBits metadata.bits.toNat)).length =
      metadata.frame.samples
  · rw [if_pos hlength] at himage
    cases himage
    have hdvd : metadata.components.toNat ∣
        (PixelBuffer.ofBytes stored (.ofBits metadata.bits.toNat)).length := by
      rw [hlength]
      exact metadata.frame.components_dvd_samples
    refine ⟨rfl, ⟨hframe, ?_, ?_⟩, (metadata.frame.length_ofBytes_iff stored).mp hlength⟩
    · rw [PixelBuffer.length_pixelOrder hframe.components_ne hdvd, hlength]
    · rw [PixelBuffer.width_pixelOrder hframe.components_ne hdvd, PixelBuffer.width_ofBytes]
  · rw [if_neg hlength] at himage
    cases himage

def sizesTold (events : List Event) : List Nat :=
  events.filterMap fun
    | .answered .destinationSize (.size size) => some size
    | _ => none

theorem sizesTold_append (first second : List Event) :
    sizesTold (first ++ second) = sizesTold first ++ sizesTold second :=
  List.filterMap_append

theorem sizesTold_of_not_asked {events : List Event}
    (hcalls : .destinationSize ∉ Event.calls events) : sizesTold events = [] := by
  apply List.filterMap_eq_nil_iff.mpr
  intro event hevent
  by_contra hsome
  apply hcalls
  split at hsome
  · exact List.mem_map.mpr ⟨(.destinationSize, true), List.mem_filterMap.mpr ⟨_, hevent, rfl⟩, rfl⟩
  · exact absurd rfl hsome

variable {σ : Type} {codec : Codec σ}

structure Sized (session : DecodeSession codec.recorded) (events : List Event) : Prop where
  found : Found codec session
  before : session.state ∈ [DecodeState.created, .sourceSet, .headerRead] → sizesTold events = []
  told : session.state = .sizeQueried → sizesTold events = [session.data.size]

variable {session left : DecodeSession codec.recorded} {events added : List Event}

theorem Sized.turn {command : DecodeCommand} {answer : Except Error DecodeReply}
    (hsized : Sized session events) (hturn : Turn rules command session answer left added) :
    Sized left (events ++ added) := by
  have hcalls := hturn.calls_among
  have hfound := hsized.found.turn hturn
  cases hturn with
  | idle => exact ⟨hfound, by simp [Session.closedAs, rules], by simp [Session.closedAs, rules]⟩
  | refused => exact ⟨hfound, by simp [Session.closedAs, rules], by simp [Session.closedAs, rules]⟩
  | failed => exact ⟨hfound, by simp [rules], by simp [rules]⟩
  | ended => exact ⟨hfound, by simp [rules], by simp [rules]⟩
  | advanced hhandle hfits hmade hsteps hopen handle hsettles =>
      -- Only `querySize` asks, and it leaves the states in which nothing has been told.
      cases command with
      | setSource _ | readHeader =>
          have hbefore := hsized.before (by simp [List.mem_singleton.mp hfits])
          have hadded : sizesTold added = [] :=
            sizesTold_of_not_asked fun hasked => by simpa [rules] using hcalls _ hasked
          refine ⟨hfound, fun _ => ?_, by simp [rules]⟩
          rw [sizesTold_append, hbefore, hadded]
          rfl
      | querySize =>
          obtain ⟨size, rfl, -, rfl⟩ := hsettles
          have hbefore := hsized.before (by simp [List.mem_singleton.mp hfits])
          refine ⟨hfound, by simp [rules], fun _ => ?_⟩
          rw [sizesTold_append, hbefore]
          rfl
      | finish => exact absurd rfl hopen

theorem Sized.finish {decoded : DecodedImage} (hsized : Sized session events)
    (hturn : Turn rules .finish session (.ok (.image decoded)) left added) :
    ∃ size, sizesTold (events ++ added) = [size] ∧ decoded.metadata.frame.FitsIn size := by
  obtain ⟨hhandle, hfits⟩ := hturn.of_ok
  have hstate := List.mem_singleton.mp hfits
  have hadded : sizesTold added = [] :=
    sizesTold_of_not_asked fun hasked => by simpa [rules] using hturn.calls_among _ hasked
  obtain ⟨metadata, size, hdata, hframe, hanswer⟩ := hsized.found.finish hstate hhandle hturn
  rcases hanswer with ⟨request, status, -, hfailed⟩ | ⟨destination, rfl, hanswer⟩
  · cases hfailed
  · refine ⟨destination.length, ?_, ?_⟩
    · rw [sizesTold_append, hsized.told hstate, hadded, hdata]
      rfl
    · simp only at hanswer
      split at hanswer
      · next hlength =>
          cases hanswer
          exact (metadata.frame.length_ofBytes_iff destination).mp hlength
      · cases hanswer

theorem performAll_sized {shared : σ} {warnings : List Warning} {world : World (Recorded σ)}
    (hstart : start codec.recorded ⟨(shared, []), warnings⟩ = (.ok session, world))
    (commands : List DecodeCommand) :
    let run := Run.performAll (perform codec.recorded) commands session world
    Sized run.1.2 run.2.codec.2 := by
  obtain ⟨⟨decoder, rfl⟩, hcreated⟩ := Session.start_eq hstart
  apply (follows codec).preserves (fun hsized hturn => hsized.turn hturn)
  rw [hcreated]
  exact ⟨by simp [Found], fun _ => rfl, by simp⟩

theorem Sized.performed {world : World (Recorded σ)} {decoded : DecodedImage}
    (hsized : Sized session world.codec.2)
    (hdecoded : (perform codec.recorded .finish session world).1.1 = .ok (.image decoded)) :
    ∃ size, sizesTold (perform codec.recorded .finish session world).2.codec.2 = [size] ∧
      decoded.metadata.frame.FitsIn size := by
  obtain ⟨answer, left, added, after, hperform, hadded, -, hturn⟩ :=
    follows codec .finish session world
  rw [hperform] at hdecoded ⊢
  obtain rfl : answer = .ok (.image decoded) := hdecoded
  simp only
  rw [hadded]
  exact hsized.finish hturn

end DecodeSession

variable {σ : Type} {codec : Codec σ} {source : List UInt8} {state : σ}

theorem DecodeOutcome.answer_decoded {container : Metadata} {frame : FrameInfo}
    (hframe : frame.Valid) (interleave : Interleave) (destination : List UInt8)
    (made : List Event) (state : σ) :
    (decoded container frame interleave destination made state).answer =
      (DecodeSession.image (.plain frame interleave) destination).map fun decoded =>
        { decoded with metadata := { decoded.metadata with
          colorSpace := container.colorSpace
          units := container.units
          verticalResolution := container.verticalResolution } } := by
  rw [DecodeSession.image_plain hframe]
  simp only [decoded]
  generalize (if frame.bits ≤ 8 then destination.length else destination.length / 2) = actual
  by_cases hcount : actual = frame.width.toNat * frame.height.toNat * frame.components.toNat
  · rw [if_neg (not_not_intro hcount), if_pos hcount]
    rfl
  · rw [if_pos hcount, if_neg hcount]
    rfl

theorem decodeReference_ok {decoded : DecodedImage}
    (hdecoded : (decodeReference codec source state).answer = .ok decoded) :
    decoded.Sound ∧ ∃ size, (decodeReference codec source state).events =
        decodeEvents source decoded.metadata.frame decoded.metadata.interleave size ++
          [.released] ∧
      decoded.metadata.frame.FitsIn size := by
  rcases decodeReference_cases codec source state with
    ⟨error, herror, -⟩ | ⟨container, frame, interleave, destination, state', hframe, houtcome⟩
  · rw [herror] at hdecoded
    cases hdecoded
  · rw [houtcome] at hdecoded ⊢
    rw [DecodeOutcome.answer_decoded hframe] at hdecoded
    obtain ⟨image, himage, rfl⟩ := map_eq_ok_iff.mp hdecoded
    have hplain : (Metadata.plain frame interleave).frame = frame := Metadata.frame_plain hframe _
    obtain ⟨hmetadata, hsound, hsize⟩ := DecodeSession.sound_of_image (by rwa [hplain]) himage
    have hfound : image.metadata.frame = frame := by rw [hmetadata, hplain]
    have hmode : image.metadata.interleave = interleave := by rw [hmetadata]; rfl
    refine ⟨⟨hsound.valid, hsound.length, hsound.width⟩, destination.length, ?_, ?_⟩
    · show _ = decodeEvents source image.metadata.frame image.metadata.interleave _ ++ _
      rw [hfound, hmode]
      rfl
    · show image.metadata.frame.FitsIn _
      rwa [hfound, ← hplain]

theorem decodeReference_misfit {frame : FrameInfo} {interleave : Interleave} {size : Nat}
    (hevents : (decodeReference codec source state).events =
      decodeEvents source frame interleave size ++ [.released])
    (hsize : ¬frame.FitsIn size) :
    ∃ actual, (decodeReference codec source state).answer =
      .error (.bufferSize
        (frame.width.toNat * frame.height.toNat * frame.components.toNat) actual) := by
  rcases decodeReference_cases codec source state with
    ⟨error, -, hunanswered, -⟩ | ⟨container, frame', interleave', destination, state', -, houtcome⟩
  · apply absurd _ (hunanswered size)
    rw [hevents]
    simp [decodeEvents]
  · rw [houtcome] at hevents ⊢
    have hsame := List.append_cancel_right hevents
    simp only [decodeEvents, List.cons.injEq, Event.answered.injEq, Response.frame.injEq,
      Response.size.injEq, true_and, and_true] at hsame
    obtain ⟨rfl, -, rfl, -⟩ := hsame
    exact ⟨_, if_pos (mt FrameInfo.fitsIn_iff.mpr hsize)⟩

theorem sound_of_decode {world world' : World σ} {decoded : DecodedImage}
    (hdecode : decode codec source world = (.ok decoded, world')) : decoded.Sound := by
  rw [show world = ⟨world.codec, world.warnings⟩ from rfl, decode_apply] at hdecode
  exact (decodeReference_ok (congrArg Prod.fst hdecode)).1

/-- A destination makes an image, in a whole decoding or after any commands of a session, if the
codec has told its size once and it is the size of the frame in bytes or, for samples of two bytes,
one more.  Destinations of other sizes are refused. -/
theorem size_of_decoded (codec : Codec σ) :
    (∀ (source : List UInt8) (world : World (Recorded σ)),
      let run := decode codec.recorded source world
      decode codec source world.erase = (run.1, run.2.erase) ∧
        (∀ decoded, run.1 = .ok decoded →
          ∃ size, run.2.codec.2 = world.codec.2 ++
              (decodeEvents source decoded.metadata.frame decoded.metadata.interleave size ++
                [.released]) ∧
            decoded.metadata.frame.FitsIn size) ∧
        ∀ frame interleave size, run.2.codec.2 = world.codec.2 ++
            (decodeEvents source frame interleave size ++ [.released]) →
          ¬frame.FitsIn size →
          ∃ actual, run.1 = .error (.bufferSize
            (frame.width.toNat * frame.height.toNat * frame.components.toNat) actual)) ∧
    ∀ (shared : σ) (warnings : List Warning) (commands : List DecodeCommand)
      {session : DecodeSession codec.recorded} {world : World (Recorded σ)},
      DecodeSession.start codec.recorded ⟨(shared, []), warnings⟩ = (.ok session, world) →
      let run := Run.performAll (DecodeSession.perform codec.recorded) commands session world
      let finished := DecodeSession.perform codec.recorded .finish run.1.2 run.2
      ∀ decoded, finished.1.1 = .ok (.image decoded) →
        ∃ size, DecodeSession.sizesTold finished.2.codec.2 = [size] ∧
          decoded.metadata.frame.FitsIn size := by
  constructor
  · intro source world run
    obtain ⟨⟨state, events⟩, warnings⟩ := world
    have hrun : run = ((decodeReference codec source state).answer,
        ⟨((decodeReference codec source state).state,
          events ++ (decodeReference codec source state).events),
          warnings ++ (decodeReference codec source state).warnings⟩) :=
      decode_recorded codec source state events warnings
    refine ⟨erases_decode codec source _, ?_, ?_⟩
    · intro decoded hdecoded
      rw [hrun] at hdecoded ⊢
      obtain ⟨-, size, hevents, hsize⟩ := decodeReference_ok hdecoded
      exact ⟨size, congrArg (events ++ ·) hevents, hsize⟩
    · intro frame interleave size hevents hsize
      rw [hrun] at hevents ⊢
      exact decodeReference_misfit (List.append_cancel_left hevents) hsize
  · intro shared warnings commands session world hstart run finished decoded hdecoded
    exact (DecodeSession.performAll_sized hstart commands).performed hdecoded

theorem size_of_decoded_loopback :
    let codec := Loopback.codec {}
    let source := Loopback.startOfImage ++ Loopback.frameBytes ⟨1, 1, 16, 1⟩ .planar [0x34, 0x12]
    let decoded : DecodedImage := ⟨.plain ⟨1, 1, 16, 1⟩ .planar, .sixteen [0x1234]⟩
    let start : World (Recorded Loopback.Record) := ⟨({}, []), []⟩
    let run := decode codec.recorded source start
    let perform := DecodeSession.perform codec.recorded
    let session : DecodeSession codec.recorded := ⟨some {}, .created, {}⟩
    let world : World (Recorded Loopback.Record) :=
      { codec := ({ calls := [.createDecoder], created := 1 }, [.created]) }
    let asked := Run.performAll perform [.setSource source, .readHeader, .querySize] session world
    let finished := perform .finish asked.1.2 asked.2
    (run.1 = .ok decoded ∧ ∃ size, run.2.codec.2 = start.codec.2 ++
          (decodeEvents source decoded.metadata.frame decoded.metadata.interleave size ++
            [.released]) ∧
        decoded.metadata.frame.FitsIn size) ∧
      finished.1.1 = .ok (.image decoded) ∧
        ∃ size, DecodeSession.sizesTold finished.2.codec.2 = [size] ∧
          decoded.metadata.frame.FitsIn size := by
  intro codec source decoded start run perform session world asked finished
  obtain ⟨hdecode, hsession⟩ := size_of_decoded codec
  obtain ⟨-, hsize, -⟩ := hdecode source start
  have hdecoded : run.1 = .ok decoded := by decide +kernel
  have hrun : decode codec.recorded source start = run := rfl
  have hstart : DecodeSession.start codec.recorded start = (.ok session, world) := rfl
  have hfinished : finished.1.1 = .ok (.image decoded) := by decide +kernel
  refine ⟨⟨hdecoded, ?_⟩, hfinished, ?_⟩
  · rw [hrun] at hsize
    exact hsize decoded hdecoded
  · exact hsession {} [] [.setSource source, .readHeader, .querySize] hstart decoded hfinished

/-- A size of one byte too many for the same sample, and the image is made all the same. -/
theorem decode_odd_size :
    let library := (NativeLibrary.ofCodec (Loopback.codec {})).scripted
      { destinationSize := some 3 }
    let frame : FrameInfo := ⟨1, 1, 16, 1⟩
    let source := Loopback.startOfImage ++ Loopback.frameBytes frame .planar [0x34, 0x12]
    let run := decode library.codec.recorded source ⟨({}, []), []⟩
    run.1 = .ok ⟨.plain frame .planar, .sixteen [0x1234]⟩ ∧
      run.2.codec.2 = decodeEvents source frame .planar 3 ++ [.released] ∧
      frame.byteSize = 2 := by
  decide +kernel

end JpegLs
