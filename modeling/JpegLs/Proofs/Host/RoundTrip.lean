import JpegLs.Proofs.Host.Reader
import JpegLs.Proofs.Host.Writer
import JpegLs.Proofs.Loopback.Outcome
import JpegLs.Proofs.Loopback.RoundTrip

namespace JpegLs.Host

variable {σ : Type}

namespace Reader

variable {reader : Reader}

theorem load_apply (hlimit : reader.totalBytes ≤ addressLimit) (codec : Codec σ)
    (world : World σ) :
    reader.load codec world =
      ((reader.samples codec reader.totalBytes world).1.map fun pixels =>
        ⟨reader.metadata.width, reader.metadata.height, reader.color, pixels.toBytes⟩,
      (reader.samples codec reader.totalBytes world).2) := by
  rw [load, if_neg (Nat.not_lt.mpr hlimit)]
  change (reader.samples codec reader.totalBytes >>= _) world = _
  rw [run_bind]
  rcases reader.samples codec reader.totalBytes world with ⟨error | pixels, left⟩
  · rfl
  · rfl

/-- A host reads into a buffer of zeros, as large as announced, and takes its picture from it. -/
theorem load_eq_readInto (hlimit : reader.totalBytes ≤ addressLimit) (codec : Codec σ)
    (world : World σ) :
    ∃ result filled left,
      reader.readInto codec (List.replicate reader.totalBytes 0) world =
        (.ok (result, filled), left) ∧
      reader.load codec world =
        (result.map fun _ =>
          ⟨reader.metadata.width, reader.metadata.height, reader.color, filled⟩, left) := by
  have hlength : (List.replicate reader.totalBytes (0 : UInt8)).length = reader.totalBytes :=
    List.length_replicate
  have hload := load_apply hlimit codec world
  rw [samples_of_length rfl] at hload
  rcases hdecode : decode codec reader.data world with ⟨error | decoded, left⟩
  · rw [hdecode] at hload
    exact ⟨_, _, _, readInto_of_error hlength hdecode, hload⟩
  · rw [hdecode] at hload
    have hsound := sound_of_decode hdecode
    by_cases hagrees : reader.Agrees decoded
    · simp only [checked_of_agrees hagrees] at hload
      exact ⟨_, _, _, readInto_of_agrees hlength hlimit hdecode hagrees, hload⟩
    · simp only [checked_of_not_agrees hsound hagrees] at hload
      exact ⟨_, _, _, readInto_of_not_agrees hlength hdecode hagrees, hload⟩

theorem load_of_agrees {codec : Codec σ} {decoded : DecodedImage} {world left : World σ}
    (hlimit : reader.totalBytes ≤ addressLimit)
    (hdecode : decode codec reader.data world = (.ok decoded, left))
    (hagrees : reader.Agrees decoded) :
    reader.load codec world =
      (.ok ⟨reader.metadata.width, reader.metadata.height, reader.color,
        decoded.pixels.toBytes⟩, left) := by
  obtain ⟨result, filled, left', hread, hload⟩ := load_eq_readInto hlimit codec world
  rw [readInto_of_agrees List.length_replicate hlimit hdecode hagrees] at hread
  cases hread
  exact hload

theorem totalBytes_le_of_small (hsmall : Loopback.Small reader.metadata.frame) :
    reader.totalBytes ≤ addressLimit := by
  have hpixel : reader.bytesPerPixel ≤ 6 := by
    rw [bytesPerPixel]
    cases reader.mode <;> decide
  have hpixels : reader.metadata.width.toNat * reader.metadata.height.toNat ≤ 65535 * 65535 :=
    Nat.mul_le_mul hsmall.width_le hsmall.height_le
  calc reader.totalBytes
      ≤ reader.metadata.width.toNat * reader.metadata.height.toNat * reader.bytesPerPixel :=
        Nat.min_le_left _ _
    _ ≤ 65535 * 65535 * 6 := Nat.mul_le_mul hpixels hpixel
    _ ≤ addressLimit := by decide

end Reader

theorem load_stream {reader : Loopback.Config} (hreader : reader.failAt = none)
    {metadata : Metadata} {samples : List UInt8} (hvalid : metadata.frame.Valid)
    (hsmall : Loopback.Small metadata.frame) (hdeclared : metadata.Declared)
    (hlength : samples.length = Loopback.imageSize metadata.frame) {mode : PixelMode}
    (hmode : metadata.mode = .ok mode) (record : Loopback.Record) (warnings : List Warning) :
    ∃ left, load (Loopback.codec reader) (Loopback.stream metadata samples) ⟨record, warnings⟩ =
      (.ok ⟨metadata.width, metadata.height, .ofMode mode,
        ((PixelBuffer.ofBytes samples (.ofBits metadata.bits.toNat)).pixelOrder
          metadata.components.toNat metadata.interleave).toBytes⟩, ⟨left, warnings⟩) := by
  -- The container does not tell the order of the scan, which no host asks for.
  let announced : Metadata := { metadata with interleave := .planar }
  let opened : Reader := ⟨Loopback.stream metadata samples, announced, mode⟩
  have hmade : Reader.make (Loopback.stream metadata samples) = .ok opened := by
    have hcontainer := Loopback.metadata_stream hvalid hsmall hdeclared samples
    have hannounced : announced.mode = .ok mode := hmode
    simp only [Reader.make, hcontainer]
    rw [hannounced]
  have hlimit : opened.totalBytes ≤ addressLimit := Reader.totalBytes_le_of_small hsmall
  obtain ⟨left, hdecode⟩ :=
    Loopback.decode_stream hreader hvalid hsmall hdeclared hlength record warnings
  refine ⟨left, ?_⟩
  rw [load, hmade, run_bind, Task.liftExcept_apply]
  exact Reader.load_of_agrees hlimit hdecode ⟨rfl, rfl, hmode⟩

/-- A picture with the bytes of its pixels, of a color JPEG-LS can store and of sides a frame
segment can tell. -/
structure Picture.Holds (picture : Picture) (mode : PixelMode) : Prop where
  color : picture.color = .ofMode mode
  length : picture.bytes.length =
    picture.width.toNat * picture.height.toNat * mode.components * mode.width.bytes
  width : 1 ≤ picture.width.toNat ∧ picture.width.toNat ≤ 65535
  height : 1 ≤ picture.height.toNat ∧ picture.height.toNat ≤ 65535

def Picture.atDepth (picture : Picture) (mode : PixelMode) (bits : Nat) : Picture :=
  { picture with
    color := .samples (if mode.components = 1 then .l else .rgb) (.ofWidth (.ofBits bits))
    bytes := ((PixelBuffer.ofBytes picture.bytes mode.width).withBits bits).toBytes }

theorem Picture.Holds.atDepth_bits {picture : Picture} {mode : PixelMode}
    (hpicture : picture.Holds mode) : picture.atDepth mode mode.bits = picture := by
  have hwidth : SampleWidth.ofBits mode.bits = mode.width := SampleWidth.ofBits_bits mode.width
  have hwhole : mode.width.bytes ∣ picture.bytes.length := by
    rw [hpicture.length]
    exact Nat.dvd_mul_left _ _
  obtain ⟨width, height, color, bytes⟩ := picture
  obtain rfl : color = .ofMode mode := hpicture.color
  rw [atDepth, PixelBuffer.withBits_of_width (by rw [PixelBuffer.width_ofBytes, hwidth]),
    PixelBuffer.toBytes_ofBytes hwhole, hwidth]
  rfl

namespace Picture

variable {picture : Picture} {mode : PixelMode} {options : EncodeOptions}

def source (picture : Picture) (mode : PixelMode) : SourceImage :=
  ⟨picture.width, picture.height, mode, .ofBytes picture.bytes mode.width⟩

theorem Holds.samples_le (hpicture : picture.Holds mode) :
    picture.width.toNat * picture.height.toNat * mode.components ≤ 65535 * 65535 * 3 := by
  have hcomponents : mode.components ≤ 3 := by
    have hone_or_three := mode.components_eq
    omega
  exact Nat.mul_le_mul (Nat.mul_le_mul hpicture.width.2 hpicture.height.2) hcomponents

theorem Holds.make (hpicture : picture.Holds mode) :
    SourceImage.make picture.width picture.height mode (.ofBytes picture.bytes mode.width) =
      .ok (picture.source mode) := by
  have hsamples := hpicture.samples_le
  have hpositive : 0 < mode.width.bytes := by
    cases mode.width with
    | eight => decide
    | sixteen => decide
  refine SourceImage.make_of_length (Nat.lt_of_le_of_lt hsamples (by decide)) ?_
  rw [PixelBuffer.length_ofBytes, hpicture.length, Nat.mul_div_cancel _ hpositive]

theorem Holds.prepare (hpicture : picture.Holds mode) {metadata : Metadata}
    (hmetadata : Metadata.forEncode picture.width picture.height mode options = .ok metadata) :
    (picture.source mode).prepare options =
      .ok (metadata, (picture.source mode).source options metadata) :=
  SourceImage.prepare_source hpicture.make hmetadata

theorem Holds.exists_metadata (hpicture : picture.Holds mode)
    (hdepth : 2 ≤ (picture.source mode).depth options ∧ (picture.source mode).depth options ≤ 16) :
    ∃ metadata,
      Metadata.forEncode picture.width picture.height mode options = .ok metadata ∧
        Loopback.frameFault? metadata.frame = none := by
  have hzero : ¬(picture.width = 0 ∨ picture.height = 0) := by
    have hwidth := hpicture.width
    have hheight := hpicture.height
    rintro (hnone | hnone)
    · rw [hnone] at hwidth
      exact absurd hwidth.1 (by decide)
    · rw [hnone] at hheight
      exact absurd hheight.1 (by decide)
  obtain ⟨metadata, hmetadata⟩ := Loopback.exists_forEncode
    (⟨by omega, hdepth.2⟩ : 1 ≤ (picture.source mode).depth options ∧ _) hzero hpicture.make
  obtain ⟨hvalid, hframe⟩ := Metadata.frame_of_forEncode hmetadata
  refine ⟨metadata, hmetadata, ?_⟩
  have hwide : ¬65535 < picture.width := by
    rw [UInt32.lt_iff_toNat_lt]
    exact Nat.not_lt.mpr hpicture.width.2
  have htall : ¬65535 < picture.height := by
    rw [UInt32.lt_iff_toNat_lt]
    exact Nat.not_lt.mpr hpicture.height.2
  have hbits : ¬((picture.source mode).depth options : Int) = 1 := by omega
  rw [Loopback.frameFault?_of_valid hvalid, hframe]
  exact (if_neg hwide).trans ((if_neg htall).trans (if_neg hbits))

end Picture

variable {picture : Picture} {mode : PixelMode} {options : EncodeOptions}
  {writer reader : Loopback.Config}

theorem save_stream (hwriter : writer.failAt = none) (hreport : writer.overReport = 0)
    (hpicture : picture.Holds mode) {metadata : Metadata}
    (hmetadata : Metadata.forEncode picture.width picture.height mode options = .ok metadata)
    (hfault : Loopback.frameFault? metadata.frame = none)
    (record : Loopback.Record) (warnings : List Warning) :
    ∃ left, save (Loopback.codec writer) options picture ⟨record, warnings⟩ =
      (.ok (Loopback.stream metadata ((picture.source mode).source options metadata)),
        ⟨left, warnings⟩) := by
  obtain ⟨left, hencode⟩ := Loopback.encode_ok hwriter hreport hpicture.make hmetadata
    (hpicture.prepare hmetadata) hfault record warnings
  refine ⟨left, ?_⟩
  rw [save, write_apply (Color.mode?_eq_some_iff.mpr hpicture.color), hpicture.make]
  simp only [HostTask.writing, Task.adapt_apply, hencode]
  rfl

theorem Picture.Holds.decoded_eq (hpicture : picture.Holds mode) {metadata : Metadata}
    (hmetadata : Metadata.forEncode picture.width picture.height mode options = .ok metadata)
    {found : PixelMode} (hfound : metadata.mode = .ok found) :
    (⟨metadata.width, metadata.height, .ofMode found,
      ((PixelBuffer.ofBytes ((picture.source mode).source options metadata)
        (.ofBits metadata.bits.toNat)).pixelOrder metadata.components.toNat
          metadata.interleave).toBytes⟩ : Picture) =
      picture.atDepth mode ((picture.source mode).depth options) := by
  have hframe := (Metadata.frame_of_forEncode hmetadata).2
  have hwidth : metadata.width = picture.width := congrArg FrameInfo.width hframe
  have hheight : metadata.height = picture.height := congrArg FrameInfo.height hframe
  have hbits : metadata.bits.toNat = (picture.source mode).depth options :=
    SourceImage.bits_eq hmetadata
  obtain ⟨-, hcomponents, hdeep⟩ := PixelMode.ofComponents_eq_ok_iff.mp hfound
  rw [Metadata.components_of_forEncode hmetadata] at hcomponents
  rw [hbits] at hdeep
  have hpixels := Loopback.pixelOrder_source (hpicture.prepare hmetadata)
  rw [hpixels, hwidth, hheight, hbits, Color.ofMode, hcomponents, hdeep]
  rfl

/-- A picture that is saved without compression is loaded again as it was, with its samples at the
depth they were saved with. -/
theorem load_save (hwriter : writer.failAt = none) (hreport : writer.overReport = 0)
    (hreader : reader.failAt = none) (hpicture : picture.Holds mode)
    (hdepth : 2 ≤ (picture.source mode).depth options ∧ (picture.source mode).depth options ≤ 16) :
    ∃ stream,
      (∀ record warnings, ∃ left,
        save (Loopback.codec writer) options picture ⟨record, warnings⟩ =
          (.ok stream, ⟨left, warnings⟩)) ∧
      (∀ record warnings, ∃ left,
        load (Loopback.codec reader) stream ⟨record, warnings⟩ =
          (.ok (picture.atDepth mode ((picture.source mode).depth options)),
            ⟨left, warnings⟩)) ∧
      (options.bits = none →
        picture.atDepth mode ((picture.source mode).depth options) = picture) := by
  obtain ⟨metadata, hmetadata, hfault⟩ := hpicture.exists_metadata hdepth
  have hfits : metadata.Fits (picture.source mode) := Metadata.fits_of_forEncode hmetadata
  obtain ⟨found, hfound⟩ := hfits.valid.exists_mode
  refine ⟨_, save_stream hwriter hreport hpicture hmetadata hfault, ?_, ?_⟩
  · intro record warnings
    rw [← hpicture.decoded_eq hmetadata hfound]
    exact load_stream hreader hfits.valid (Loopback.small_of_frameFault? hfault) hfits.declared
      (Loopback.length_source hpicture.make (hpicture.prepare hmetadata)) hfound record warnings
  · intro hnone
    have hown : (picture.source mode).depth options = mode.bits := by
      rw [SourceImage.depth, hnone]
      cases mode <;> rfl
    rw [hown]
    exact hpicture.atDepth_bits

theorem load_save_narrowed :
    let picture : Picture := ⟨1, 1, .samples .l .sixteen, [0x34, 0x12]⟩
    let options : EncodeOptions := { bits := some 8 }
    picture.Holds .l16 ∧ ∃ stream,
      (∀ record warnings, ∃ left,
        save (Loopback.codec {}) options picture ⟨record, warnings⟩ =
          (.ok stream, ⟨left, warnings⟩)) ∧
      ∀ record warnings, ∃ left,
        load (Loopback.codec {}) stream ⟨record, warnings⟩ =
          (.ok ⟨1, 1, .samples .l .eight, [0x34]⟩, ⟨left, warnings⟩) := by
  intro picture options
  have hpicture : picture.Holds .l16 := ⟨rfl, rfl, by decide, by decide⟩
  have hdepth : 2 ≤ (picture.source .l16).depth options ∧
      (picture.source .l16).depth options ≤ 16 := by decide
  obtain ⟨stream, hsave, hload, -⟩ :=
    @load_save picture .l16 options {} {} rfl rfl rfl hpicture hdepth
  have hloaded : picture.atDepth .l16 ((picture.source .l16).depth options) =
      ⟨1, 1, .samples .l .eight, [0x34]⟩ := by decide
  rw [hloaded] at hload
  exact ⟨hpicture, stream, hsave, hload⟩

end JpegLs.Host
