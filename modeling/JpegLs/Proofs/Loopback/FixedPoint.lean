import JpegLs.Proofs.Loopback.Accounts
import JpegLs.Proofs.Loopback.Failing
import JpegLs.Proofs.Loopback.RoundTrip

/-!
Encoding again what has been decoded.  The decoded metadata determine every option that has left a
trace in the stream, and samples that have been brought to a width keep it.
-/

namespace JpegLs

namespace Metadata

variable {width height : UInt32} {mode : PixelMode} {options : EncodeOptions}
  {metadata : Metadata}

def encodeOptions (metadata : Metadata) : EncodeOptions where
  bits := some metadata.bits
  interleave := some metadata.interleave
  spiff := metadata.colorSpace.isSome

theorem spiff_encodeOptions (h : forEncode width height mode options = .ok metadata) :
    metadata.encodeOptions.spiff = options.spiff := by
  obtain ⟨frame, interleave, -, -, -, rfl⟩ := of_forEncode h
  cases options.spiff with
  | true => rfl
  | false => rfl

theorem components_of_mode {again : PixelMode} (hagain : metadata.mode = .ok again) :
    again.components = metadata.components.toNat :=
  (PixelMode.ofComponents_eq_ok_iff.mp hagain).2.1

/-- Asked for as it is described, an image has the same metadata again.  Its mode tells the width
the samples have been encoded with, which need not be that of the image before. -/
theorem forEncode_encodeOptions (h : forEncode width height mode options = .ok metadata)
    {again : PixelMode} (hagain : metadata.mode = .ok again) :
    forEncode metadata.width metadata.height again metadata.encodeOptions = .ok metadata := by
  have hvalid := (frame_of_forEncode h).1
  have hcomponents := components_of_mode hagain
  have hsame : again.components = mode.components := hcomponents.trans (components_of_forEncode h)
  have hframe : metadata.frame = ⟨metadata.width, metadata.height,
      (metadata.encodeOptions.bits.getD (UInt8.ofNat again.bits)).toNat, again.components⟩ := by
    rw [hcomponents]
    rfl
  have hinterleave : metadata.interleave =
      if 1 < again.components then metadata.encodeOptions.interleave.getD .sample
      else .planar := by
    by_cases hseveral : 1 < again.components
    · rw [if_pos hseveral]
      rfl
    · rw [if_neg hseveral, interleave_of_forEncode h, if_neg (by omega)]
  rw [forEncode_of_valid hvalid hframe hinterleave, spiff_encodeOptions h, hsame, plain_frame]
  obtain ⟨frame, interleave, -, -, -, rfl⟩ := of_forEncode h
  cases options.spiff with
  | true => rfl
  | false => rfl

end Metadata

namespace SourceImage

variable {width height : UInt32} {mode again : PixelMode} {pixels : PixelBuffer}
  {image : SourceImage} {options : EncodeOptions} {metadata : Metadata} {source : List UInt8}

def described (metadata : Metadata) (again : PixelMode) (pixels : PixelBuffer) : SourceImage where
  width := metadata.width
  height := metadata.height
  mode := again
  pixels := pixels.withBits metadata.bits.toNat

theorem make_described (himage : make width height mode pixels = .ok image)
    (hmetadata : Metadata.forEncode width height mode options = .ok metadata)
    (hagain : metadata.mode = .ok again) :
    make metadata.width metadata.height again (pixels.withBits metadata.bits.toNat) =
      .ok (described metadata again pixels) := by
  obtain ⟨rfl, hlength⟩ := of_make himage
  have hcomponents := Metadata.components_of_mode hagain
  have hfits : metadata.Fits ⟨width, height, mode, pixels⟩ := Metadata.fits_of_forEncode hmetadata
  have hsamples : metadata.width.toNat * metadata.height.toNat * again.components =
      metadata.frame.samples := by
    rw [hcomponents]
    rfl
  apply make_of_length
  · rw [hsamples]
    exact hfits.valid.samples_lt
  · rw [hsamples, hfits.samples, PixelBuffer.length_withBits]
    exact hlength

theorem prepare_described (hprepare : image.prepare options = .ok (metadata, source))
    (hagain : metadata.mode = .ok again) :
    (described metadata again image.pixels).prepare metadata.encodeOptions =
      .ok (metadata, source) := by
  obtain ⟨hmetadata, scan, hscan, rfl⟩ := of_prepare hprepare
  have hwidth : SampleWidth.ofBits metadata.bits.toNat =
      (image.pixels.withBits metadata.bits.toNat).width :=
    (PixelBuffer.width_withBits image.pixels _).symm
  have hkept : (described metadata again image.pixels).pixels.withBits metadata.bits.toNat =
      image.pixels.withBits metadata.bits.toNat :=
    PixelBuffer.withBits_of_width hwidth
  have hdescribed : Metadata.forEncode (described metadata again image.pixels).width
      (described metadata again image.pixels).height
      (described metadata again image.pixels).mode metadata.encodeOptions = .ok metadata :=
    Metadata.forEncode_encodeOptions hmetadata hagain
  exact prepare_of_toScan hdescribed (hkept ▸ hscan)

end SourceImage

theorem encode_congr {σ : Type} {codec : Codec σ} {image image' : SourceImage}
    {options options' : EncodeOptions} (h : image.prepare options = image'.prepare options') :
    encode codec image options = encode codec image' options' := by
  rw [encode, encode, h]

namespace Loopback

variable {width height : UInt32} {mode : PixelMode} {pixels : PixelBuffer} {image : SourceImage}
  {options : EncodeOptions} {bytes : List UInt8} {writer : Config}

theorem encode_of_prepare {config : Config} {image' : SourceImage} {options' : EncodeOptions}
    (hprepare : image'.prepare options' = image.prepare options) {world : World Record}
    (hencode : (encode (codec config) image options world).1 = .ok bytes) (world' : World Record) :
    (encode (codec config) image' options' world').1 = .ok bytes := by
  rw [encode_congr hprepare, encode_answer_eq config image options world' world, hencode]

theorem stream_append (metadata : Metadata) (samples rest : List UInt8) :
    stream metadata samples ++ rest = stream metadata (samples ++ rest) := by
  simp only [stream, frameBytes, List.append_assoc]

theorem of_encode (himage : SourceImage.make width height mode pixels = .ok image)
    {world : World Record} (hencode : (encode (codec writer) image options world).1 = .ok bytes) :
    (encode (codec writer.reliable) image options world).1 = .ok bytes ∧
      ∃ metadata source, image.prepare options = .ok (metadata, source) ∧
        frameFault? metadata.frame = none ∧
        bytes = stream metadata (source ++ List.replicate writer.overReport 0) := by
  have hreliable : (encode (codec writer.reliable) image options world).1 = .ok bytes := by
    exact congrArg Prod.fst
      (refines_encode himage writer options world bytes _ (Prod.ext hencode rfl))
  refine ⟨hreliable, ?_⟩
  obtain ⟨metadata, source, hprepare, hfault, -, rfl⟩ :=
    (encode_eq_ok_iff_reported rfl himage world.codec world.warnings).mp hreliable
  exact ⟨metadata, source, hprepare, hfault, stream_append metadata source _⟩

/-- Decoded and encoded again, whatever an encoding has returned comes back as it was. -/
theorem encode_decoded (himage : SourceImage.make width height mode pixels = .ok image)
    {world : World Record} (hencode : (encode (codec writer) image options world).1 = .ok bytes) :
    (∀ reader : Config, reader.failAt = none → ∀ world, ∃ decoded,
      (decode (codec reader) bytes world).1 = .ok decoded) ∧
    ∀ (reader : Config) (world : World Record) (decoded : DecodedImage),
      (decode (codec reader) bytes world).1 = .ok decoded →
      ∃ mode again, decoded.metadata.mode = .ok mode ∧
        SourceImage.make decoded.metadata.width decoded.metadata.height mode decoded.pixels =
          .ok again ∧
        ∀ rewriter, rewriter = writer ∨ rewriter = writer.reliable → ∀ world,
          (encode (codec rewriter) again {
            bits := some decoded.metadata.bits
            interleave := some decoded.metadata.interleave
            spiff := decoded.metadata.colorSpace.isSome } world).1 = .ok bytes := by
  obtain ⟨hreliable, metadata, source, hprepare, hfault, rfl⟩ := of_encode himage hencode
  obtain ⟨hmetadata, -⟩ := SourceImage.of_prepare hprepare
  have hfits := Metadata.fits_of_forEncode hmetadata
  have hsmall := small_of_frameFault? hfault
  have hlength := length_source himage hprepare
  constructor
  · intro reader hreader world
    obtain ⟨left, hdecode⟩ := decode_stream_append hreader hfits.valid hsmall hfits.declared
      hlength (List.replicate writer.overReport 0) world.codec world.warnings
    exact ⟨_, congrArg Prod.fst hdecode⟩
  · intro reader world' decoded hdecoded
    have himageIs := of_decode_stream hfits.valid hsmall hfits.declared hlength _ hdecoded
    rw [pixelOrder_source hprepare] at himageIs
    subst himageIs
    obtain ⟨again, hagain⟩ : ∃ again, metadata.mode = .ok again := hfits.valid.exists_mode
    obtain ⟨rfl, -⟩ := SourceImage.of_make himage
    refine ⟨again, _, hagain, SourceImage.make_described himage hmetadata hagain, ?_⟩
    intro rewriter hrewriter world''
    have hsame := (SourceImage.prepare_described hprepare hagain).trans hprepare.symm
    rcases hrewriter with rfl | rfl
    · exact encode_of_prepare hsame hencode world''
    · exact encode_of_prepare hsame hreliable world''

theorem encode_decoded_narrowed :
    let pixels : PixelBuffer := .sixteen [0x1234, 5, 6, 7, 8, 0xFF09]
    let image : SourceImage := ⟨1, 2, .rgb16, pixels⟩
    let options : EncodeOptions := { bits := some 8, interleave := some .planar }
    let writer : Config := { overReport := 2 }
    let bytes : List UInt8 := [
      0xFF, 0xD8, 0xFF, 0xE8, 0, 32, 0x53, 0x50, 0x49, 0x46, 0x46, 0, 2, 0, 0, 3,
      0, 0, 0, 2, 0, 0, 0, 1, 10, 8, 6, 1, 0, 0, 0, 72, 0, 0, 0, 72,
      0xFF, 0xF7, 0, 17, 8, 0, 2, 0, 1, 3, 1, 0x11, 0, 2, 0x11, 0, 3, 0x11, 0,
      0, 0x34, 7, 5, 8, 6, 9, 0, 0]
    let decoded : DecodedImage :=
      ⟨⟨1, 2, 8, 3, .planar, some 10, some 1, some 72⟩, .eight [0x34, 5, 6, 7, 8, 9]⟩
    SourceImage.make 1 2 .rgb16 pixels = .ok image ∧
      (encode (codec writer) image options ⟨{}, []⟩).1 = .ok bytes ∧
      (decode (codec {}) bytes ⟨{}, []⟩).1 = .ok decoded ∧
      ∃ mode again, decoded.metadata.mode = .ok mode ∧
        SourceImage.make decoded.metadata.width decoded.metadata.height mode decoded.pixels =
          .ok again ∧
        (encode (codec writer) again {
          bits := some decoded.metadata.bits
          interleave := some decoded.metadata.interleave
          spiff := decoded.metadata.colorSpace.isSome } ⟨{}, []⟩).1 = .ok bytes := by
  intro pixels image options writer bytes decoded
  have himage : SourceImage.make 1 2 .rgb16 pixels = .ok image := rfl
  have hencode : (encode (codec writer) image options ⟨{}, []⟩).1 = .ok bytes := by
    decide +kernel
  have hdecode : (decode (codec {}) bytes ⟨{}, []⟩).1 = .ok decoded := by decide +kernel
  obtain ⟨mode, again, hmode, hagain, hwritten⟩ :=
    (encode_decoded himage hencode).2 {} ⟨{}, []⟩ decoded hdecode
  exact ⟨himage, hencode, hdecode, mode, again, hmode, hagain,
    hwritten writer (.inl rfl) ⟨{}, []⟩⟩

end Loopback

end JpegLs
