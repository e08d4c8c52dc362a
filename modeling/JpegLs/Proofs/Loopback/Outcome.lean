import JpegLs.Proofs.Loopback.Encode

namespace JpegLs

namespace SourceImage

variable (image : SourceImage) (options : EncodeOptions)

def spiffHeader : Spiff.Header :=
  .standard image.width image.height (UInt8.ofNat (image.depth options))
    (UInt8.ofNat image.mode.components) image.colorSpace .dotsPerInch 72 72

end SourceImage

namespace Loopback

def twoBytes (n : Nat) : List UInt8 :=
  [UInt8.ofNat (n / 256), UInt8.ofNat (n % 256)]

theorem bigEndian16_ofNat {n : Nat} (hn : n < 65536) :
    bigEndian16 (UInt16.ofNat n) = twoBytes n := by
  have htoNat : (UInt16.ofNat n).toNat = n := by
    rw [UInt16.toNat_ofNat']
    omega
  simp only [bigEndian16, twoBytes, htoNat, List.cons.injEq, and_true, true_and,
    ← UInt8.toNat_inj, UInt8.toNat_ofNat']
  omega

def segmentBytes (width height bits components : Nat) : List UInt8 :=
  [0xFF, 0xF7] ++ twoBytes (8 + 3 * components) ++ [UInt8.ofNat bits] ++ twoBytes height ++
    twoBytes width ++ [UInt8.ofNat components] ++
    (List.range' 1 components).flatMap fun id => [UInt8.ofNat id, 0x11, 0x00]

theorem frameSegment_eq {frame : FrameInfo} (hframe : frame.Valid) (hsmall : Small frame) :
    frameSegment frame =
      segmentBytes frame.width.toNat frame.height.toNat frame.bits.toNat
        frame.components.toNat := by
  have hone_or_three := hframe.components
  have hcomponents : (UInt8.ofNat frame.components.toNat).toNat = frame.components.toNat := by
    rw [UInt8.toNat_ofNat']
    omega
  have htables : (List.range frame.components.toNat).flatMap
        (fun index => [UInt8.ofNat (index + 1), 0x11, 0]) =
      (List.range' 1 frame.components.toNat).flatMap fun id => [UInt8.ofNat id, 0x11, 0x00] := by
    rw [List.range'_eq_map_range, List.flatMap_map]
    simp only [Nat.add_comm]
  simp only [frameSegment, segmentBytes, hcomponents, htables,
    bigEndian16_ofNat (show 8 + 3 * frame.components.toNat < 65536 by omega),
    bigEndian16_ofNat (Nat.lt_succ_of_le hsmall.width_le),
    bigEndian16_ofNat (Nat.lt_succ_of_le hsmall.height_le)]

/-- Every byte of the stream of an image that is not refused. -/
def streamBytes (image : SourceImage) (options : EncodeOptions) : List UInt8 :=
  (if options.spiff then (image.spiffHeader options).toBytes else [0xFF, 0xD8]) ++
    segmentBytes image.width.toNat image.height.toNat (image.depth options)
      image.mode.components ++
    [UInt8.ofNat (image.interleave options).code.toNat] ++
    image.scanBytes (image.depth options) (options.interleave.getD .sample)

/-- What an encoding ends in.  A depth out of range is found before a missing side, and only then
is the codec asked, which has limits of its own. -/
def encodeOutcome (image : SourceImage) (options : EncodeOptions) :
    Except Error (List UInt8) :=
  if ¬(1 ≤ image.depth options ∧ image.depth options ≤ 16) then
    .error (.unsupportedMode image.mode.components (image.depth options))
  else if image.width = 0 ∨ image.height = 0 then .error (.format .zeroDimension)
  else if 65535 < image.width then .error (.codec .invalidArgumentWidth)
  else if 65535 < image.height then .error (.codec .invalidArgumentHeight)
  else if image.depth options = 1 then .error (.codec .invalidArgumentBitsPerSample)
  else .ok (streamBytes image options)

variable {width height : UInt32} {mode : PixelMode} {pixels : PixelBuffer} {image : SourceImage}
  {options : EncodeOptions} {metadata : Metadata}

theorem forEncode_of_depth (hdepth : ¬(1 ≤ image.depth options ∧ image.depth options ≤ 16)) :
    Metadata.forEncode image.width image.height image.mode options =
      .error (.unsupportedMode image.mode.components (image.depth options)) := by
  rw [SourceImage.depth] at hdepth
  rw [Metadata.forEncode, Metadata.ofFrame_eq, if_pos]
  · rfl
  · simp only
    omega

theorem forEncode_of_zero (hdepth : 1 ≤ image.depth options ∧ image.depth options ≤ 16)
    (hzero : image.width = 0 ∨ image.height = 0) :
    Metadata.forEncode image.width image.height image.mode options =
      .error (.format .zeroDimension) := by
  have hcomponents := image.mode.components_eq
  rw [SourceImage.depth] at hdepth
  rw [Metadata.forEncode, Metadata.ofFrame_eq, if_neg, if_pos hzero]
  · rfl
  · simp only
    omega

theorem exists_forEncode (hdepth : 1 ≤ image.depth options ∧ image.depth options ≤ 16)
    (hzero : ¬(image.width = 0 ∨ image.height = 0))
    (himage : SourceImage.make width height mode pixels = .ok image) :
    ∃ metadata,
      Metadata.forEncode image.width image.height image.mode options = .ok metadata := by
  have hcomponents := image.mode.components_eq
  obtain ⟨-, hlt, -⟩ := SourceImage.make_eq_ok_iff.mp himage
  rw [SourceImage.depth] at hdepth
  rw [Metadata.forEncode, Metadata.ofFrame_eq, if_neg, if_neg hzero, if_neg]
  · exact ⟨_, rfl⟩
  · -- The buffer of an image that was made holds its samples, so they are not too many.
    exact Nat.not_le.mpr hlt
  · simp only
    omega

theorem frameFault?_of_valid {frame : FrameInfo} (hframe : frame.Valid) :
    frameFault? frame =
      if 65535 < frame.width then some .invalidArgumentWidth
      else if 65535 < frame.height then some .invalidArgumentHeight
      else if frame.bits = 1 then some .invalidArgumentBitsPerSample
      else none := by
  have hone := hframe.one_le_bits
  have hle := hframe.bits_le
  have hcomponents : ¬(frame.components < 1 ∨ 255 < frame.components) := by
    have hone_or_three := hframe.components
    omega
  have hbits : (frame.bits < 2 ∨ 16 < frame.bits) ↔ frame.bits = 1 := by omega
  simp only [frameFault?, hframe.width_ne, hframe.height_ne, false_or, hbits, if_neg hcomponents]

section

variable
  (hmetadata : Metadata.forEncode image.width image.height image.mode options = .ok metadata)

include hmetadata

theorem impliedSpiff?_eq :
    metadata.impliedSpiff? = if options.spiff then some (image.spiffHeader options) else none := by
  rw [Metadata.impliedSpiff?_of_forEncode hmetadata, (Metadata.frame_of_forEncode hmetadata).2,
    SourceImage.ofComponents_mode]
  rfl

theorem interleave_eq : metadata.interleave = image.interleave options := by
  have hone_or_three := image.mode.components_eq
  rw [Metadata.interleave_of_forEncode hmetadata, SourceImage.interleave]
  by_cases hone : image.mode.components = 1
  · rw [if_neg (by omega), if_pos hone]
  · rw [if_pos (by omega), if_neg hone]

theorem stream_eq (hsmall : Small metadata.frame) :
    stream metadata (image.source options metadata) = streamBytes image options := by
  obtain ⟨hvalid, hframe⟩ := Metadata.frame_of_forEncode hmetadata
  have hbits := SourceImage.bits_eq hmetadata
  have hlead : lead metadata =
      if options.spiff then (image.spiffHeader options).toBytes else [0xFF, 0xD8] := by
    rw [lead, impliedSpiff?_eq hmetadata]
    by_cases hspiff : options.spiff
    · simp only [if_pos hspiff]
    · simp only [if_neg hspiff, startOfImage]
  have hsegment : frameSegment metadata.frame = segmentBytes image.width.toNat image.height.toNat
      (image.depth options) image.mode.components := by
    rw [frameSegment_eq hvalid hsmall, hframe]
    rfl
  rw [stream, frameBytes, streamBytes, SourceImage.source, hlead, hsegment, hbits,
    interleave_eq hmetadata]
  simp only [List.append_assoc]

end

theorem encodeOutcome_of_accepted
    (hmetadata : Metadata.forEncode image.width image.height image.mode options = .ok metadata)
    (hdepth : 1 ≤ image.depth options ∧ image.depth options ≤ 16)
    (hzero : ¬(image.width = 0 ∨ image.height = 0)) :
    encodeOutcome image options =
      match frameFault? metadata.frame with
      | some fault => .error (.codec fault)
      | none => .ok (stream metadata (image.source options metadata)) := by
  obtain ⟨hvalid, hframe⟩ := Metadata.frame_of_forEncode hmetadata
  have hwidth : metadata.frame.width = image.width := congrArg FrameInfo.width hframe
  have hheight : metadata.frame.height = image.height := congrArg FrameInfo.height hframe
  have hbits : metadata.frame.bits = 1 ↔ image.depth options = 1 := by
    rw [hframe]
    exact Int.ofNat_inj
  have hfault := frameFault?_of_valid hvalid
  rw [hwidth, hheight] at hfault
  simp only [hbits] at hfault
  rw [encodeOutcome, if_neg (not_not_intro hdepth), if_neg hzero]
  by_cases hwide : 65535 < image.width
  · rw [if_pos hwide] at hfault ⊢
    rw [hfault]
  · rw [if_neg hwide] at hfault ⊢
    by_cases htall : 65535 < image.height
    · rw [if_pos htall] at hfault ⊢
      rw [hfault]
    · rw [if_neg htall] at hfault ⊢
      by_cases hflat : image.depth options = 1
      · rw [if_pos hflat] at hfault ⊢
        rw [hfault]
      · rw [if_neg hflat] at hfault ⊢
        rw [hfault, stream_eq hmetadata (small_of_frameFault? hfault)]

theorem fault_of_encodeOutcome {fault : CodecFault}
    (h : encodeOutcome image options = .error (.codec fault)) :
    fault = .invalidArgumentWidth ∨ fault = .invalidArgumentHeight ∨
      fault = .invalidArgumentBitsPerSample := by
  unfold encodeOutcome at h
  split at h
  · cases h
  split at h
  · cases h
  split at h
  · cases h
    exact .inl rfl
  split at h
  · cases h
    exact .inr (.inl rfl)
  split at h
  · cases h
    exact .inr (.inr rfl)
  · cases h

/-- Whatever the image and the options, an encoding ends in the outcome they have, and what it
stores fits the destination the codec has asked for. -/
theorem encode_eq_outcome (himage : SourceImage.make width height mode pixels = .ok image)
    (options : EncodeOptions) (record : Record) (warnings : List Warning) :
    let answer := (encode (codec {}) image options ⟨record, warnings⟩).1
    answer = encodeOutcome image options ∧
      (∀ bytes, answer = .ok bytes →
        ∃ metadata, Metadata.forEncode width height mode options = .ok metadata ∧
          metadata.impliedSpiff? =
            (if options.spiff then some (image.spiffHeader options) else none) ∧
          bytes.length ≤ estimate metadata.frame) ∧
      answer ≠ .error (.codec .destinationBufferTooSmall) ∧
      answer ≠ .error (.codec .invalidArgument) := by
  intro answer
  have hanswer : answer = encodeOutcome image options := by
    by_cases hdepth : 1 ≤ image.depth options ∧ image.depth options ≤ 16
    · by_cases hzero : image.width = 0 ∨ image.height = 0
      · simp only [answer, encode_eq himage,
          encodeReference_of_refused (forEncode_of_zero hdepth hzero)]
        rw [encodeOutcome, if_neg (not_not_intro hdepth), if_pos hzero]
      · obtain ⟨metadata, hmetadata⟩ := exists_forEncode hdepth hzero himage
        rw [encodeOutcome_of_accepted hmetadata hdepth hzero]
        exact encode_answer rfl rfl himage hmetadata record warnings
    · simp only [answer, encode_eq himage,
        encodeReference_of_refused (forEncode_of_depth hdepth)]
      rw [encodeOutcome, if_pos hdepth]
  refine ⟨hanswer, ?_, ?_, ?_⟩
  · intro bytes hbytes
    obtain ⟨metadata, source, hprepare, -, rfl⟩ :=
      (encode_eq_ok_iff rfl rfl himage record warnings).mp hbytes
    obtain ⟨hmetadata, -⟩ := SourceImage.of_prepare hprepare
    have hfits := length_stream_le metadata (length_source himage hprepare)
    obtain ⟨rfl, -⟩ := SourceImage.of_make himage
    exact ⟨metadata, hmetadata, impliedSpiff?_eq hmetadata, hfits⟩
  · intro hsmall
    have hfault := fault_of_encodeOutcome (hanswer.symm.trans hsmall)
    simp at hfault
  · intro hinvalid
    have hfault := fault_of_encodeOutcome (hanswer.symm.trans hinvalid)
    simp at hfault

theorem encode_eq_outcome_two_pixels :
    let pixels : PixelBuffer := .sixteen [0x123, 0x456, 0x789, 0xABC, 0xDEF, 0x012]
    let image : SourceImage := ⟨1, 2, .rgb16, pixels⟩
    let options : EncodeOptions := { bits := some 12, interleave := some .planar }
    let answer := (encode (codec {}) image options ⟨{}, []⟩).1
    SourceImage.make 1 2 .rgb16 pixels = .ok image ∧
      answer = .ok [
        0xFF, 0xD8, 0xFF, 0xE8, 0, 32, 0x53, 0x50, 0x49, 0x46, 0x46, 0, 2, 0, 0, 3,
        0, 0, 0, 2, 0, 0, 0, 1, 10, 12, 6, 1, 0, 0, 0, 72, 0, 0, 0, 72,
        0xFF, 0xF7, 0, 17, 12, 0, 2, 0, 1, 3, 1, 0x11, 0, 2, 0x11, 0, 3, 0x11, 0,
        0, 0x23, 0x01, 0xBC, 0x0A, 0x56, 0x04, 0xEF, 0x0D, 0x89, 0x07, 0x12, 0x00] ∧
      (∀ bytes, answer = .ok bytes →
        ∃ metadata, Metadata.forEncode 1 2 .rgb16 options = .ok metadata ∧
          metadata.impliedSpiff? =
            (if options.spiff then some (image.spiffHeader options) else none) ∧
          bytes.length ≤ estimate metadata.frame) ∧
      answer ≠ .error (.codec .destinationBufferTooSmall) ∧
      answer ≠ .error (.codec .invalidArgument) := by
  intro pixels image options answer
  have himage : SourceImage.make 1 2 .rgb16 pixels = .ok image := rfl
  obtain ⟨houtcome, hrest⟩ := encode_eq_outcome himage options {} []
  exact ⟨himage, houtcome.trans (by decide +kernel), hrest⟩

end Loopback

end JpegLs
