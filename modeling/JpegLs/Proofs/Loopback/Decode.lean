import JpegLs.Proofs.Loopback.Answers
import JpegLs.Proofs.Loopback.Calls
import JpegLs.Proofs.Loopback.Stream
import JpegLs.Proofs.Session.DecodeReference

namespace JpegLs

namespace Loopback

variable {config : Config} {source : List UInt8} {container metadata : Metadata}
  {stored : StoredFrame}

namespace StoredFrame

def samples (stored : StoredFrame) (source : List UInt8) : List UInt8 :=
  (source.drop stored.offset).take (imageSize stored.frame)

def image (stored : StoredFrame) (container : Metadata) (source : List UInt8) : DecodedImage where
  metadata := { Metadata.plain stored.frame stored.interleave with
    colorSpace := container.colorSpace
    units := container.units
    verticalResolution := container.verticalResolution }
  pixels := (PixelBuffer.ofBytes (stored.samples source)
    (.ofBits stored.frame.bits.toNat)).pixelOrder stored.frame.components.toNat stored.interleave

def mismatch (stored : StoredFrame) (container : Metadata) : List Warning :=
  if container.frame = stored.frame then [] else [.frameMismatch container.frame stored.frame]

def Within (stored : StoredFrame) (source : List UInt8) : Prop :=
  stored.offset + imageSize stored.frame ≤ source.length

theorem Within.length_samples (hwithin : stored.Within source) :
    (stored.samples source).length = imageSize stored.frame := by
  rw [Within] at hwithin
  rw [samples, List.length_take, List.length_drop]
  omega

end StoredFrame

variable {samples : List UInt8}

theorem whole_samples {frame : FrameInfo} (hlength : samples.length = imageSize frame) :
    (if frame.bits ≤ 8 then samples.length else samples.length / 2) = frame.samples := by
  rw [hlength, imageSize]
  by_cases hbits : frame.bits ≤ 8
  · have hwidth : SampleWidth.ofBits frame.bits.toNat = .eight := if_pos (by omega)
    rw [if_pos hbits, hwidth, SampleWidth.bytes, Nat.mul_one]
  · have hwidth : SampleWidth.ofBits frame.bits.toNat = .sixteen := if_neg (by omega)
    rw [if_neg hbits, hwidth, SampleWidth.bytes, Nat.mul_div_cancel _ (by decide)]

theorem decoded_stored (hwithin : stored.Within source) (container : Metadata)
    (made : List Event) (record : Record) :
    DecodeOutcome.decoded container stored.frame stored.interleave
        (Patch.apply ⟨0, stored.samples source⟩ (List.replicate (imageSize stored.frame) 0))
        made record =
      { answer := .ok (stored.image container source)
        state := record
        events := made ++ [.released]
        warnings := stored.mismatch container } := by
  have hlength := hwithin.length_samples
  have hfilled : Patch.apply ⟨0, stored.samples source⟩
      (List.replicate (imageSize stored.frame) 0) = stored.samples source := by
    rw [← hlength]
    simp [Patch.apply]
  have hwhole := whole_samples hlength
  rw [FrameInfo.samples] at hwhole
  simp only [hfilled, DecodeOutcome.decoded, hwhole, StoredFrame.mismatch]
  simp [StoredFrame.image, Metadata.plain]

theorem decode_found (hconfig : config.failAt = none)
    (hcontainer : Container.metadata source = .ok container)
    (hfound : findFrame source = .ok stored) (hframe : stored.frame.Valid)
    (hwithin : stored.Within source) (record : Record) (warnings : List Warning) :
    ∃ left, decode (codec config) source ⟨record, warnings⟩ =
      (.ok (stored.image container source),
        ⟨left, warnings ++ stored.mismatch container⟩) := by
  let opened : Decoder := { source := some source }
  let found : Decoder := { opened with stored := some stored }
  obtain ⟨atCreate, hcreate⟩ := createDecoder_ok hconfig record
  obtain ⟨atSource, hsource⟩ := setSource_ok hconfig {} source atCreate
  obtain ⟨atRead, hread⟩ := readHeader_ok hconfig opened rfl hfound atSource
  obtain ⟨atFrame, hinfo⟩ := frameInfo_ok hconfig found rfl atRead
  obtain ⟨atMode, hmode⟩ := interleave_ok hconfig found rfl atFrame
  obtain ⟨atSize, hsize⟩ := destinationSize_ok hconfig found rfl atMode
  obtain ⟨atDecode, hdecode⟩ := decodeInto_ok hconfig found rfl rfl hwithin atSize
  have hwhole := decode_of_ok hcontainer hcreate hsource hread hinfo hmode
    (Metadata.ofFrame_of_valid hframe _) hsize hdecode warnings
  rw [← StoredFrame.samples, decoded_stored hwithin] at hwhole
  exact ⟨_, hwhole⟩

/-- How a decoding can end: the container is refused, a call fails, the frame that has been found
cannot be represented, or the samples behind it are read. -/
inductive Decoding (source : List UInt8) (outcome : DecodeOutcome Record) : Prop
  | refused (error : Error) (hcontainer : Container.metadata source = .error error)
      (hanswer : outcome.answer = .error error) (hwarnings : outcome.warnings = [])
  | failed (status : Status) (hanswer : outcome.answer = .error (.codec status.fault))
      (hwarnings : outcome.warnings = status.warnings)
  | unfit (stored : StoredFrame) (error : Error) (hfound : findFrame source = .ok stored)
      (hframe : Metadata.ofFrame stored.frame stored.interleave = .error error)
      (hanswer : outcome.answer = .error error) (hwarnings : outcome.warnings = [])
  | decoded (container : Metadata) (stored : StoredFrame)
      (hcontainer : Container.metadata source = .ok container)
      (hfound : findFrame source = .ok stored) (hframe : stored.frame.Valid)
      (hwithin : stored.Within source)
      (hanswer : outcome.answer = .ok (stored.image container source))
      (hwarnings : outcome.warnings = stored.mismatch container)

theorem decoding (config : Config) (source : List UInt8) (record : Record) :
    Decoding source (decodeReference (codec config) source record) := by
  rw [decodeReference]
  cases hcontainer : Container.metadata source with
  | error error => exact .refused error hcontainer rfl rfl
  | ok container =>
  simp only
  rcases hcreate : (codec config).createDecoder record with ⟨status | created, atCreate⟩
  · exact .failed status rfl rfl
  obtain rfl := of_createDecoder hcreate
  simp only
  rcases hsource : (codec config).setSource {} source atCreate with ⟨status | opened, atSource⟩
  · exact .failed status rfl rfl
  obtain rfl := of_setSource hsource
  simp only
  rcases hread : (codec config).readHeader { source := some source } atSource with
    ⟨status | found, atRead⟩
  · exact .failed status rfl rfl
  obtain ⟨stored, hfound, rfl⟩ := of_readHeader rfl hread
  simp only
  rcases hinfo : (codec config).frameInfo { source := some source, stored := some stored } atRead
    with ⟨status | frame, atFrame⟩
  · exact .failed status rfl rfl
  obtain rfl := of_frameInfo rfl hinfo
  simp only
  rcases hmode : (codec config).interleave { source := some source, stored := some stored } atFrame
    with ⟨status | interleave, atMode⟩
  · exact .failed status rfl rfl
  obtain rfl := of_interleave rfl hmode
  simp only
  rcases hframe : Metadata.ofFrame stored.frame stored.interleave with error | metadata
  · exact .unfit stored error hfound hframe rfl rfl
  simp only
  rcases hsize : (codec config).destinationSize { source := some source, stored := some stored }
    atMode with ⟨status | size, atSize⟩
  · exact .failed status rfl rfl
  obtain rfl := of_destinationSize rfl hsize
  simp only
  rcases hdecode : (codec config).decodeInto { source := some source, stored := some stored }
    (imageSize stored.frame) atSize with ⟨status | bytes, atDecode⟩
  · exact .failed status rfl rfl
  obtain ⟨hwithin, rfl⟩ := of_decodeInto rfl rfl hdecode
  simp only
  rw [← StoredFrame.samples, decoded_stored hwithin]
  exact .decoded container stored hcontainer hfound (Metadata.valid_of_ofFrame hframe).1 hwithin
    rfl rfl

theorem Decoding.of_ok {outcome : DecodeOutcome Record} {decoded : DecodedImage}
    (hends : Decoding source outcome) (hdecoded : outcome.answer = .ok decoded) :
    ∃ container stored, Container.metadata source = .ok container ∧
      findFrame source = .ok stored ∧ stored.frame.Valid ∧ stored.Within source ∧
      decoded = stored.image container source ∧ outcome.warnings = stored.mismatch container := by
  cases hends with
  | refused error hcontainer hanswer hwarnings => rw [hanswer] at hdecoded; cases hdecoded
  | failed status hanswer hwarnings => rw [hanswer] at hdecoded; cases hdecoded
  | unfit stored error hfound hframe hanswer hwarnings => rw [hanswer] at hdecoded; cases hdecoded
  | decoded container stored hcontainer hfound hframe hwithin hanswer hwarnings =>
      have himage := Except.ok.inj (hdecoded.symm.trans hanswer)
      exact ⟨container, stored, hcontainer, hfound, hframe, hwithin, himage, hwarnings⟩

theorem length_stream (metadata : Metadata) (samples : List UInt8) :
    (stream metadata samples).length = samplesOffset metadata + samples.length := by
  simp only [stream, frameBytes, samplesOffset, List.length_append, List.length_cons,
    List.length_nil]
  omega

def storedFrame (metadata : Metadata) : StoredFrame :=
  ⟨metadata.frame, metadata.interleave, samplesOffset metadata⟩

theorem image_stream (hlength : samples.length = imageSize metadata.frame) (rest : List UInt8) :
    (storedFrame metadata).image { metadata with interleave := .planar }
        (stream metadata (samples ++ rest)) =
      { metadata
        pixels := (PixelBuffer.ofBytes samples (.ofBits metadata.bits.toNat)).pixelOrder
          metadata.components.toNat metadata.interleave } := by
  have hsamples : (storedFrame metadata).samples (stream metadata (samples ++ rest)) = samples := by
    rw [StoredFrame.samples, storedFrame, drop_samplesOffset, ← hlength, List.take_left]
  rw [StoredFrame.image, hsamples, storedFrame, Metadata.plain_frame]
  rfl

theorem decode_stream_append (hconfig : config.failAt = none) (hframe : metadata.frame.Valid)
    (hsmall : Small metadata.frame) (hdeclared : metadata.Declared)
    (hlength : samples.length = imageSize metadata.frame) (rest : List UInt8)
    (record : Record) (warnings : List Warning) :
    ∃ left, decode (codec config) (stream metadata (samples ++ rest)) ⟨record, warnings⟩ =
      (.ok {
        metadata
        pixels := (PixelBuffer.ofBytes samples (.ofBits metadata.bits.toNat)).pixelOrder
          metadata.components.toNat metadata.interleave }, ⟨left, warnings⟩) := by
  have hcontainer := metadata_stream hframe hsmall hdeclared (samples ++ rest)
  have hfound : findFrame (stream metadata (samples ++ rest)) = .ok (storedFrame metadata) :=
    findFrame_stream hframe hsmall (samples ++ rest)
  have hwithin : (storedFrame metadata).Within (stream metadata (samples ++ rest)) := by
    rw [StoredFrame.Within, length_stream, List.length_append, hlength]
    exact Nat.add_le_add_left (Nat.le_add_right _ _) _
  obtain ⟨left, hdecode⟩ :=
    decode_found hconfig hcontainer hfound hframe hwithin record warnings
  have hsame : (storedFrame metadata).mismatch { metadata with interleave := .planar } = [] :=
    if_pos rfl
  rw [image_stream hlength, hsame, List.append_nil] at hdecode
  exact ⟨left, hdecode⟩

theorem of_decode_stream (hframe : metadata.frame.Valid) (hsmall : Small metadata.frame)
    (hdeclared : metadata.Declared) (hlength : samples.length = imageSize metadata.frame)
    (rest : List UInt8) {world : World Record} {decoded : DecodedImage}
    (hdecoded : (decode (codec config) (stream metadata (samples ++ rest)) world).1 =
      .ok decoded) :
    decoded = {
      metadata
      pixels := (PixelBuffer.ofBytes samples (.ofBits metadata.bits.toNat)).pixelOrder
        metadata.components.toNat metadata.interleave } := by
  obtain ⟨record, warnings⟩ := world
  rw [decode_apply] at hdecoded
  obtain ⟨container, stored, hcontainer, hfound, -, -, rfl, -⟩ :=
    (decoding config (stream metadata (samples ++ rest)) record).of_ok hdecoded
  rw [metadata_stream hframe hsmall hdeclared] at hcontainer
  rw [findFrame_stream hframe hsmall] at hfound
  cases hcontainer
  cases hfound
  exact image_stream hlength rest

theorem decode_stream (hconfig : config.failAt = none) (hframe : metadata.frame.Valid)
    (hsmall : Small metadata.frame) (hdeclared : metadata.Declared)
    (hlength : samples.length = imageSize metadata.frame)
    (record : Record) (warnings : List Warning) :
    ∃ left, decode (codec config) (stream metadata samples) ⟨record, warnings⟩ =
      (.ok {
        metadata
        pixels := (PixelBuffer.ofBytes samples (.ofBits metadata.bits.toNat)).pixelOrder
          metadata.components.toNat metadata.interleave }, ⟨left, warnings⟩) := by
  have hdecode := decode_stream_append hconfig hframe hsmall hdeclared hlength [] record warnings
  rwa [List.append_nil] at hdecode

end Loopback

end JpegLs
