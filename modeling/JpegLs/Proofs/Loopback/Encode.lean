import JpegLs.Proofs.Loopback.Calls
import JpegLs.Proofs.Loopback.Stream
import JpegLs.Proofs.Session.EncodeReference

namespace JpegLs

/-! Destinations with nothing but zeros behind what has been stored. -/

def zeroed (front : List UInt8) (size : Nat) : List UInt8 :=
  front ++ List.replicate (size - front.length) 0

theorem take_zeroed {front : List UInt8} {more size : Nat} (hroom : front.length + more ≤ size) :
    (zeroed front size).take (front.length + more) = front ++ List.replicate more 0 := by
  rw [zeroed, List.take_length_add_append, List.take_replicate, Nat.min_eq_left (by omega)]

theorem Patch.apply_zeroed {front bytes : List UInt8} {size : Nat}
    (hroom : front.length + bytes.length ≤ size) :
    Patch.apply ⟨front.length, bytes⟩ (zeroed front size) = zeroed (front ++ bytes) size := by
  have hbehind : (zeroed front size).drop (front.length + bytes.length) =
      List.replicate (size - (front ++ bytes).length) 0 := by
    rw [zeroed, List.drop_length_add_append, List.drop_replicate, List.length_append]
    congr 1
    omega
  have hlength : (zeroed (front ++ bytes) size).length = (zeroed front size).length := by
    simp only [zeroed, List.length_append, List.length_replicate]
    omega
  have hfront : (zeroed front size).take front.length = front := List.take_left
  simp only [Patch.apply, hfront, hbehind]
  rw [← hlength]
  exact List.take_length

namespace Loopback

theorem applyAll_zeroed {front : List UInt8} {segments : List (List UInt8)} {size : Nat}
    (hroom : front.length + segments.flatten.length ≤ size) :
    Patch.applyAll (patchesFrom front.length segments) (zeroed front size) =
      zeroed (front ++ segments.flatten) size := by
  induction segments generalizing front with
  | nil => rw [patchesFrom, Patch.applyAll_nil, List.flatten_nil, List.append_nil]
  | cons segment rest ih =>
      rw [List.flatten_cons, List.length_append, ← Nat.add_assoc, ← List.length_append] at hroom
      rw [patchesFrom, Patch.applyAll_cons, ← List.length_append, Patch.apply_zeroed, ih hroom,
        List.flatten_cons, List.append_assoc]
      rw [← List.length_append]
      exact Nat.le_of_add_right_le hroom

theorem length_lead_le (metadata : Metadata) : (lead metadata).length ≤ Spiff.headerLength := by
  rw [lead]
  cases metadata.impliedSpiff? with
  | none => decide
  | some header => exact Nat.le_refl _

theorem length_stream_le (metadata : Metadata) {samples : List UInt8}
    (hlength : samples.length = imageSize metadata.frame) :
    (stream metadata samples).length ≤ estimate metadata.frame := by
  have hlead := length_lead_le metadata
  simp only [stream, frameBytes, estimate, List.length_append, List.length_cons, List.length_nil]
  omega

variable {config : Config} {width height : UInt32} {mode : PixelMode} {pixels : PixelBuffer}
  {image : SourceImage} {options : EncodeOptions} {metadata : Metadata} {source bytes : List UInt8}

theorem arrange_ok (hconfig : config.failAt = none)
    (hmetadata : Metadata.forEncode image.width image.height image.mode options = .ok metadata)
    (encoder : Encoder) (hplanar : encoder.interleave = .planar) (record : Record)
    (warnings : List Warning) :
    ∃ left, (if image.mode.components = 3 then
          (codec config).attempt encoder
            ((codec config).setInterleave encoder (options.interleave.getD .sample))
        else
          pure encoder) ⟨record, warnings⟩ =
      (.ok { encoder with interleave := metadata.interleave }, ⟨left, warnings⟩) ∧
        Unmoved record left := by
  rw [Metadata.interleave_of_forEncode hmetadata]
  by_cases hthree : image.mode.components = 3
  · rw [if_pos hthree, if_pos (by omega)]
    obtain ⟨left, hcall, hleft⟩ :=
      setInterleave_ok hconfig encoder (options.interleave.getD .sample) record
    exact ⟨left, Session.Kind.attempt_of_ok hcall warnings, hleft⟩
  · have hone_or_three := image.mode.components_eq
    rw [if_neg hthree, if_neg (by omega), ← hplanar]
    exact ⟨record, rfl, rfl, rfl⟩

/-- After the declaration the destination holds what stands in front of the frame, but for the
start of image, which the frame brings along if nothing has been written yet. -/
theorem declare_ok (hconfig : config.failAt = none)
    (hmetadata : Metadata.forEncode image.width image.height image.mode options = .ok metadata)
    (encoder : Encoder) (hframe : encoder.frame = some metadata.frame)
    (hposition : encoder.position = 0) {size : Nat} (hcapacity : encoder.capacity = some size)
    (hroom : Spiff.headerLength ≤ size) (record : Record) (warnings : List Warning) :
    ∃ front header left, (if options.spiff then
          (codec config).attempt encoder
            ((codec config).writeSpiff encoder image.colorSpace .dotsPerInch 72 72).toCall
        else
          pure (encoder, [])) ⟨record, warnings⟩ =
        (.ok ({ encoder with position := front.length }, header), ⟨left, warnings⟩) ∧
      Unmoved record left ∧ Patch.applyAll header (zeroed [] size) = zeroed front size ∧
      front ++ (if front.length = 0 then startOfImage else []) = lead metadata := by
  have himplied := Metadata.impliedSpiff?_of_forEncode hmetadata
  rw [SourceImage.ofComponents_mode] at himplied
  by_cases hspiff : options.spiff
  · simp only [if_pos hspiff] at himplied ⊢
    obtain ⟨left, hcall, hleft⟩ := writeSpiff_ok hconfig encoder hframe hposition hcapacity hroom
      image.colorSpace .dotsPerInch 72 72 record
    generalize Spiff.Header.standard _ _ _ _ _ _ _ _ = header at hcall himplied
    have hstored : ((codec config).writeSpiff encoder image.colorSpace .dotsPerInch 72
        72).toCall record = (.ok ({ encoder with position := Spiff.headerLength },
          patchesFrom 0 [header.toBytes]), left) := by
      rw [StoringCall.toCall, hcall]
    refine ⟨header.toBytes, patchesFrom 0 [header.toBytes], left,
      Session.Kind.attempt_of_ok hstored warnings, hleft, ?_, ?_⟩
    · have hlength : ([] : List UInt8).length + [header.toBytes].flatten.length ≤ size := by
        rwa [List.flatten_singleton, header.length_toBytes, List.length_nil, Nat.zero_add]
      have happly := applyAll_zeroed hlength
      rwa [List.flatten_singleton, List.nil_append] at happly
    · have hwritten : ¬header.toBytes.length = 0 := by
        rw [header.length_toBytes]
        decide
      rw [lead, himplied, if_neg hwritten, List.append_nil]
  · simp only [if_neg hspiff] at himplied ⊢
    refine ⟨[], [], record, ?_, ⟨rfl, rfl⟩, Patch.applyAll_nil _, ?_⟩
    · rw [List.length_nil, ← hposition]
      rfl
    · simp [lead, himplied]

theorem length_source (himage : SourceImage.make width height mode pixels = .ok image)
    (hprepare : image.prepare options = .ok (metadata, source)) :
    source.length = imageSize metadata.frame := by
  obtain ⟨hmetadata, scan, hscan, rfl⟩ := SourceImage.of_prepare hprepare
  have hfits := Metadata.fits_of_forEncode hmetadata
  obtain ⟨-, hlength⟩ := SourceImage.of_make himage
  rw [PixelBuffer.length_toBytes, PixelBuffer.length_toScan hscan, PixelBuffer.width_toScan hscan,
    PixelBuffer.length_withBits, PixelBuffer.width_withBits, hlength, ← hfits.samples]
  rfl

/-- A codec that reports more bytes than it has written is believed as far as the destination goes,
which holds zeros behind the stream. -/
theorem encode_reported (hconfig : config.failAt = none)
    (himage : SourceImage.make width height mode pixels = .ok image)
    (hmetadata : Metadata.forEncode image.width image.height image.mode options = .ok metadata)
    (hfault : frameFault? metadata.frame = none) (record : Record) (warnings : List Warning) :
    let written := stream metadata (image.source options metadata)
    ∃ left, encode (codec config) image options ⟨record, warnings⟩ =
      (if estimate metadata.frame < written.length + config.overReport then
          .error (.codec .destinationBufferTooSmall)
        else
          .ok (written ++ List.replicate config.overReport 0), ⟨left, warnings⟩) ∧
      left.created = record.created + 1 ∧ left.destroyed = record.destroyed + 1 := by
  intro written
  have hlength := length_source himage (SourceImage.prepare_source himage hmetadata)
  let arranged : Encoder := { frame := some metadata.frame, interleave := metadata.interleave }
  let lending : Encoder := { arranged with capacity := some (estimate metadata.frame) }
  obtain ⟨atCreate, hcreate, hcreated⟩ := createEncoder_ok hconfig record
  obtain ⟨atFrame, hframe, hmoved⟩ := setFrameInfo_ok hconfig {} hfault atCreate
  obtain ⟨atArrange, harrange, harranged⟩ := arrange_ok hconfig hmetadata
    { frame := some metadata.frame } rfl atFrame warnings
  obtain ⟨atEstimate, hestimate, hestimated⟩ := estimatedSize_ok hconfig arranged rfl atArrange
  obtain ⟨atLend, hdestination, hlent⟩ := setDestination_ok hconfig arranged rfl
    (estimate metadata.frame) atEstimate
  have hheader : Spiff.headerLength ≤ estimate metadata.frame := by
    rw [estimate]
    omega
  obtain ⟨front, header, atDeclare, hdeclare, hdeclared, hfront, hlead⟩ :=
    declare_ok hconfig hmetadata lending rfl rfl rfl hheader atLend warnings
  generalize hsegments : (if front.length = 0 then [startOfImage] else []) ++
    frameSegments metadata.frame metadata.interleave (image.source options metadata) = segments
  have hstream : front ++ segments.flatten = written := by
    rw [← hsegments, List.flatten_append, ← List.append_assoc, flatten_frameSegments,
      apply_ite List.flatten, List.flatten_singleton, List.flatten_nil, hlead]
    rfl
  -- The whole stream fits the estimate, so what is left of it fits behind the header.
  have hroom : front.length + segments.flatten.length ≤ estimate metadata.frame := by
    rw [← List.length_append, hstream]
    exact length_stream_le metadata hlength
  obtain ⟨atEncode, hencode, hencoded⟩ := encodeFrom_ok hconfig
    { lending with position := front.length } rfl hlength rfl hsegments.symm hroom atDeclare
  obtain ⟨atEnd, hwritten, hend⟩ := bytesWritten_ok hconfig
    { lending with position := front.length + segments.flatten.length } atEncode
  have hcalls : Unmoved atCreate atEnd :=
    hmoved.trans (harranged.trans (hestimated.trans (hlent.trans (hdeclared.trans
      (hencoded.trans hend)))))
  have hstored : Patch.applyAll (patchesFrom front.length segments)
      (Patch.applyAll header (List.replicate (estimate metadata.frame) 0)) =
        zeroed written (estimate metadata.frame) := by
    rw [← hstream, ← applyAll_zeroed hroom, ← hfront]
    rfl
  have hrun := encodeReference_of_calls hmetadata hcreate hframe harrange hestimate hdestination
    hdeclare hencode hwritten
  have hcount : front.length + segments.flatten.length = written.length := by
    rw [← hstream, List.length_append]
  rw [encode_eq himage, hrun, hstored, hcount]
  refine ⟨_, Prod.ext ?_ rfl, hcalls.1.trans hcreated.1,
    congrArg (· + 1) (hcalls.2.trans hcreated.2)⟩
  by_cases hover : estimate metadata.frame < written.length + config.overReport
  · simp only [if_pos hover]
  · simp only [if_neg hover, take_zeroed (Nat.le_of_not_lt hover)]

theorem encode_ok (hconfig : config.failAt = none) (hreport : config.overReport = 0)
    (himage : SourceImage.make width height mode pixels = .ok image)
    (hmetadata : Metadata.forEncode image.width image.height image.mode options = .ok metadata)
    (hprepare : image.prepare options = .ok (metadata, image.source options metadata))
    (hfault : frameFault? metadata.frame = none) (record : Record) (warnings : List Warning) :
    ∃ left, encode (codec config) image options ⟨record, warnings⟩ =
      (.ok (stream metadata (image.source options metadata)), ⟨left, warnings⟩) := by
  obtain ⟨left, hencode, -⟩ := encode_reported hconfig himage hmetadata hfault record warnings
  have hfits := length_stream_le metadata (length_source himage hprepare)
  rw [hreport, Nat.add_zero, if_neg (Nat.not_lt.mpr hfits), List.replicate_zero,
    List.append_nil] at hencode
  exact ⟨left, hencode⟩

theorem encode_answer_reported (hconfig : config.failAt = none)
    (himage : SourceImage.make width height mode pixels = .ok image)
    (hmetadata : Metadata.forEncode image.width image.height image.mode options = .ok metadata)
    (record : Record) (warnings : List Warning) :
    let written := stream metadata (image.source options metadata)
    (encode (codec config) image options ⟨record, warnings⟩).1 =
      match frameFault? metadata.frame with
      | some fault => .error (.codec fault)
      | none =>
          if estimate metadata.frame < written.length + config.overReport then
            .error (.codec .destinationBufferTooSmall)
          else
            .ok (written ++ List.replicate config.overReport 0) := by
  intro written
  cases hfault : frameFault? metadata.frame with
  | none =>
      obtain ⟨left, hstream, -⟩ := encode_reported hconfig himage hmetadata hfault record warnings
      rw [hstream]
  | some fault =>
      obtain ⟨atCreate, hcreate, -⟩ := createEncoder_ok hconfig record
      obtain ⟨atFrame, hframe⟩ := setFrameInfo_error hconfig {} hfault atCreate
      rw [encode_eq himage, encodeReference_of_frame_error hmetadata hcreate hframe,
        Status.fault_status]

theorem encode_eq_ok_iff_reported (hconfig : config.failAt = none)
    (himage : SourceImage.make width height mode pixels = .ok image)
    (record : Record) (warnings : List Warning) :
    (encode (codec config) image options ⟨record, warnings⟩).1 = .ok bytes ↔
      ∃ metadata source, image.prepare options = .ok (metadata, source) ∧
        frameFault? metadata.frame = none ∧
        (stream metadata source).length + config.overReport ≤ estimate metadata.frame ∧
        stream metadata source ++ List.replicate config.overReport 0 = bytes := by
  rw [SourceImage.prepare_of_make himage]
  cases hmetadata : Metadata.forEncode image.width image.height image.mode options with
  | error error =>
      rw [encode_eq himage, encodeReference_of_refused hmetadata]
      simp [Except.map]
  | ok metadata =>
      rw [encode_answer_reported hconfig himage hmetadata]
      cases hfault : frameFault? metadata.frame with
      | none =>
          simp only [Except.map, Except.ok.injEq, Prod.mk.injEq]
          by_cases hover : estimate metadata.frame <
              (stream metadata (image.source options metadata)).length + config.overReport
          · rw [if_pos hover]
            constructor
            · intro h
              cases h
            · rintro ⟨_, _, ⟨rfl, rfl⟩, -, hfits, -⟩
              exact absurd hover (Nat.not_lt.mpr hfits)
          · rw [if_neg hover]
            constructor
            · intro h
              cases h
              exact ⟨metadata, _, ⟨rfl, rfl⟩, hfault, Nat.le_of_not_lt hover, rfl⟩
            · rintro ⟨_, _, ⟨rfl, rfl⟩, -, -, rfl⟩
              rfl
      | some fault => simp [hfault, Except.map]

theorem encode_answer (hconfig : config.failAt = none) (hreport : config.overReport = 0)
    (himage : SourceImage.make width height mode pixels = .ok image)
    (hmetadata : Metadata.forEncode image.width image.height image.mode options = .ok metadata)
    (record : Record) (warnings : List Warning) :
    (encode (codec config) image options ⟨record, warnings⟩).1 =
      match frameFault? metadata.frame with
      | some fault => .error (.codec fault)
      | none => .ok (stream metadata (image.source options metadata)) := by
  have hfits := length_stream_le metadata
    (length_source himage (SourceImage.prepare_source himage hmetadata))
  rw [encode_answer_reported hconfig himage hmetadata, hreport, Nat.add_zero,
    if_neg (Nat.not_lt.mpr hfits), List.replicate_zero, List.append_nil]

theorem encode_eq_ok_iff (hconfig : config.failAt = none) (hreport : config.overReport = 0)
    (himage : SourceImage.make width height mode pixels = .ok image)
    (record : Record) (warnings : List Warning) :
    (encode (codec config) image options ⟨record, warnings⟩).1 = .ok bytes ↔
      ∃ metadata source, image.prepare options = .ok (metadata, source) ∧
        frameFault? metadata.frame = none ∧ stream metadata source = bytes := by
  rw [encode_eq_ok_iff_reported hconfig himage]
  constructor
  · rintro ⟨metadata, source, hprepare, hfault, -, rfl⟩
    refine ⟨metadata, source, hprepare, hfault, ?_⟩
    rw [hreport, List.replicate_zero, List.append_nil]
  · rintro ⟨metadata, source, hprepare, hfault, rfl⟩
    have hfits := length_stream_le metadata (length_source himage hprepare)
    refine ⟨metadata, source, hprepare, hfault, ?_, ?_⟩
    · rwa [hreport]
    · rw [hreport, List.replicate_zero, List.append_nil]

end Loopback

end JpegLs
