import JpegLs.Proofs.Metadata
import JpegLs.Proofs.Pixels.Buffer
import JpegLs.Proofs.Pixels.Planes
import JpegLs.Proofs.Success
import JpegLs.Session.Encode

namespace JpegLs

namespace Metadata

variable {width height : UInt32} {mode : PixelMode} {options : EncodeOptions}
  {metadata : Metadata}

theorem of_forEncode (h : forEncode width height mode options = .ok metadata) :
    ∃ frame interleave, frame.Valid ∧
      frame = ⟨width, height, (options.bits.getD (UInt8.ofNat mode.bits)).toNat,
        mode.components⟩ ∧
      interleave = (if 1 < mode.components then options.interleave.getD .sample else .planar) ∧
      metadata =
        if options.spiff then
          { plain frame interleave with
            colorSpace := some (Spiff.ColorSpace.ofComponents mode.components).code
            units := some Spiff.ResolutionUnits.dotsPerInch.code
            verticalResolution := some defaultResolution }
        else
          plain frame interleave := by
  obtain ⟨read, hread, rfl⟩ := map_eq_ok_iff.mp h
  obtain ⟨hvalid, rfl⟩ := valid_of_ofFrame hread
  exact ⟨_, _, hvalid, rfl, rfl, rfl⟩

theorem error_of_forEncode {error : Error}
    (h : forEncode width height mode options = .error error) :
    (∃ components bits, error = .unsupportedMode components bits) ∨
      ∃ fault, error = .format fault :=
  error_of_ofFrame (map_eq_error_iff.mp h)

theorem forEncode_of_valid {frame : FrameInfo} {interleave : Interleave} (hvalid : frame.Valid)
    (hframe : frame = ⟨width, height, (options.bits.getD (UInt8.ofNat mode.bits)).toNat,
      mode.components⟩)
    (hinterleave : interleave =
      if 1 < mode.components then options.interleave.getD .sample else .planar) :
    forEncode width height mode options = .ok (
      if options.spiff then
        { plain frame interleave with
          colorSpace := some (Spiff.ColorSpace.ofComponents mode.components).code
          units := some Spiff.ResolutionUnits.dotsPerInch.code
          verticalResolution := some defaultResolution }
      else
        plain frame interleave) := by
  rw [forEncode, ← hframe, ← hinterleave, ofFrame_of_valid hvalid]
  rfl

theorem frame_of_forEncode (h : forEncode width height mode options = .ok metadata) :
    metadata.frame.Valid ∧ metadata.frame =
      ⟨width, height, (options.bits.getD (UInt8.ofNat mode.bits)).toNat, mode.components⟩ := by
  obtain ⟨frame, interleave, hvalid, hframe, -, hmetadata⟩ := of_forEncode h
  have hsame : metadata.frame = frame := by
    rw [hmetadata]
    cases options.spiff with
    | true => exact frame_plain hvalid interleave
    | false => exact frame_plain hvalid interleave
  rw [hsame]
  exact ⟨hvalid, hframe⟩

theorem components_of_forEncode (h : forEncode width height mode options = .ok metadata) :
    metadata.components.toNat = mode.components := by
  obtain ⟨-, hframe⟩ := frame_of_forEncode h
  exact Int.ofNat.inj (congrArg FrameInfo.components hframe)

theorem interleave_of_forEncode (h : forEncode width height mode options = .ok metadata) :
    metadata.interleave =
      if 1 < mode.components then options.interleave.getD .sample else .planar := by
  obtain ⟨frame, interleave, -, -, rfl, rfl⟩ := of_forEncode h
  cases options.spiff with
  | true => rfl
  | false => rfl

theorem declaredSpiff?_of_forEncode (h : forEncode width height mode options = .ok metadata) :
    metadata.declaredSpiff? =
      if options.spiff then
        some (.ofComponents mode.components, .dotsPerInch, defaultResolution)
      else
        none := by
  obtain ⟨frame, interleave, -, -, -, rfl⟩ := of_forEncode h
  cases options.spiff with
  | true => simp [declaredSpiff?]
  | false => rfl

theorem impliedSpiff?_of_forEncode (h : forEncode width height mode options = .ok metadata) :
    metadata.impliedSpiff? =
      if options.spiff then
        some (.standard metadata.frame.width metadata.frame.height
          (UInt8.ofNat metadata.frame.bits.toNat) (UInt8.ofNat metadata.frame.components.toNat)
          (.ofComponents mode.components) .dotsPerInch 72 72)
      else
        none := by
  rw [impliedSpiff?, declaredSpiff?_of_forEncode h]
  by_cases hspiff : options.spiff
  · simp [hspiff, Metadata.frame, defaultResolution]
  · simp [hspiff]

structure Fits (metadata : Metadata) (image : SourceImage) : Prop where
  valid : metadata.frame.Valid
  declared : metadata.Declared
  samples : metadata.frame.samples = image.frame.samples

theorem fits_of_forEncode {image : SourceImage}
    (h : forEncode image.width image.height image.mode options = .ok metadata) :
    metadata.Fits image where
  valid := (frame_of_forEncode h).1
  declared := by
    obtain ⟨frame, interleave, -, -, -, rfl⟩ := of_forEncode h
    cases options.spiff with
    | true => exact .spiff _ .dotsPerInch _ rfl rfl rfl
    | false => exact .bare rfl rfl rfl
  samples := by
    rw [(frame_of_forEncode h).2]
    rfl

end Metadata

namespace SourceImage

section

variable (image : SourceImage) (options : EncodeOptions)

def depth : Nat :=
  (options.bits.getD (UInt8.ofNat image.mode.bits)).toNat

def interleave : Interleave :=
  if image.mode.components = 1 then .planar else options.interleave.getD .sample

end

variable {width height : UInt32} {mode : PixelMode} {pixels : PixelBuffer} {image : SourceImage}

/-- What is wrong with a buffer, in the order it is looked for. -/
theorem make_eq (width height : UInt32) (mode : PixelMode) (pixels : PixelBuffer) :
    make width height mode pixels =
      let image : SourceImage := ⟨width, height, mode, pixels⟩
      if UInt64.size ≤ image.frame.samples then .error (.geometry .sampleCountOverflow)
      else if pixels.length ≠ image.frame.samples then
        .error (.bufferSize image.frame.samples pixels.length)
      else .ok image := by
  simp only [make, FrameInfo.sampleCount?]
  generalize FrameInfo.samples _ = samples
  by_cases hlarge : UInt64.size ≤ samples
  · rw [if_pos hlarge, if_neg (Nat.not_lt.mpr hlarge)]
  · rw [if_neg hlarge, if_pos (Nat.lt_of_not_le hlarge)]

theorem make_eq_ok_iff :
    make width height mode pixels = .ok image ↔
      image = ⟨width, height, mode, pixels⟩ ∧ image.frame.samples < UInt64.size ∧
        image.pixels.length = image.frame.samples := by
  rw [make_eq]
  simp only
  by_cases hlarge : UInt64.size ≤ FrameInfo.samples (frame ⟨width, height, mode, pixels⟩)
  · rw [if_pos hlarge]
    constructor
    · intro h
      cases h
    · rintro ⟨rfl, hlt, -⟩
      exact absurd hlt (Nat.not_lt.mpr hlarge)
  · rw [if_neg hlarge]
    by_cases hlength : pixels.length ≠ FrameInfo.samples (frame ⟨width, height, mode, pixels⟩)
    · rw [if_pos hlength]
      constructor
      · intro h
        cases h
      · rintro ⟨rfl, -, hequal⟩
        exact absurd hequal hlength
    · rw [if_neg hlength]
      constructor
      · intro h
        cases h
        exact ⟨rfl, Nat.lt_of_not_le hlarge, Decidable.not_not.mp hlength⟩
      · rintro ⟨rfl, -, -⟩
        rfl

theorem of_make (h : make width height mode pixels = .ok image) :
    image = ⟨width, height, mode, pixels⟩ ∧ image.pixels.length = image.frame.samples := by
  obtain ⟨himage, -, hlength⟩ := make_eq_ok_iff.mp h
  exact ⟨himage, hlength⟩

theorem make_of_length (hcount : width.toNat * height.toNat * mode.components < UInt64.size)
    (hlength : pixels.length = width.toNat * height.toNat * mode.components) :
    make width height mode pixels = .ok ⟨width, height, mode, pixels⟩ :=
  make_eq_ok_iff.mpr ⟨rfl, hcount, hlength⟩

theorem error_of_make {error : Error} (h : make width height mode pixels = .error error) :
    error = .geometry .sampleCountOverflow ∨
      ∃ expected, error = .bufferSize expected pixels.length := by
  rw [make_eq] at h
  simp only at h
  split at h
  · cases h
    exact .inl rfl
  · split at h
    · cases h
      exact .inr ⟨_, rfl⟩
    · cases h

theorem bits_eq {options : EncodeOptions} {metadata : Metadata}
    (h : Metadata.forEncode image.width image.height image.mode options = .ok metadata) :
    metadata.bits.toNat = image.depth options :=
  Int.ofNat.inj (congrArg FrameInfo.bits (Metadata.frame_of_forEncode h).2)

/-- The samples handed to a codec are those of the image at their new width, in the order of the
scan. -/
theorem of_prepare {options : EncodeOptions} {metadata : Metadata} {source : List UInt8}
    (h : image.prepare options = .ok (metadata, source)) :
    Metadata.forEncode image.width image.height image.mode options = .ok metadata ∧
      ∃ scan, (image.pixels.withBits metadata.bits.toNat).toScan metadata.components.toNat
        metadata.interleave = .ok scan ∧ scan.toBytes = source := by
  obtain ⟨found, hmetadata, h⟩ := bind_eq_ok_iff.mp h
  obtain ⟨scan, hscan, h⟩ := bind_eq_ok_iff.mp h
  cases h
  exact ⟨hmetadata, scan, hscan, rfl⟩

theorem prepare_of_toScan {options : EncodeOptions} {metadata : Metadata} {scan : PixelBuffer}
    (hmetadata : Metadata.forEncode image.width image.height image.mode options = .ok metadata)
    (hscan : (image.pixels.withBits metadata.bits.toNat).toScan metadata.components.toNat
      metadata.interleave = .ok scan) :
    image.prepare options = .ok (metadata, scan.toBytes) :=
  bind_eq_ok_iff.mpr ⟨metadata, hmetadata, bind_eq_ok_iff.mpr ⟨scan, hscan, rfl⟩⟩

def scanBytes (image : SourceImage) (bits : Nat) (mode : Interleave) : List UInt8 :=
  ((image.pixels.withBits bits).scanOrder image.mode.components mode).toBytes

theorem toScan_withBits (hlength : image.pixels.length = image.frame.samples) (bits : Nat)
    (order : Interleave) :
    (image.pixels.withBits bits).toScan image.mode.components order =
      .ok ((image.pixels.withBits bits).scanOrder image.mode.components order) := by
  have hone_or_three := image.mode.components_eq
  have hne : image.mode.components ≠ 0 := by omega
  apply PixelBuffer.toScan_eq hne
  rw [PixelBuffer.length_withBits, hlength]
  exact Nat.dvd_mul_left _ _

theorem prepare_of_make {options : EncodeOptions} (h : make width height mode pixels = .ok image) :
    image.prepare options =
      (Metadata.forEncode image.width image.height image.mode options).map fun metadata =>
        (metadata,
          image.scanBytes metadata.bits.toNat (options.interleave.getD .sample)) := by
  obtain ⟨-, hlength⟩ := of_make h
  unfold prepare
  cases hmetadata : Metadata.forEncode image.width image.height image.mode options with
  | error error => rfl
  | ok metadata =>
      have hcomponents := Metadata.components_of_forEncode hmetadata
      have hinterleave := Metadata.interleave_of_forEncode hmetadata
      have hscan := toScan_withBits hlength metadata.bits.toNat metadata.interleave
      have horder : (image.pixels.withBits metadata.bits.toNat).scanOrder image.mode.components
          metadata.interleave = (image.pixels.withBits metadata.bits.toNat).scanOrder
          image.mode.components (options.interleave.getD .sample) := by
        by_cases hseveral : 1 < image.mode.components
        · rw [hinterleave, if_pos hseveral]
        · have hone_or_three := image.mode.components_eq
          have hone : image.mode.components = 1 := by omega
          rw [hone, PixelBuffer.scanOrder_one, PixelBuffer.scanOrder_one]
      simp only [bind, Except.bind, hcomponents, hscan, horder]
      rfl

end SourceImage

end JpegLs
