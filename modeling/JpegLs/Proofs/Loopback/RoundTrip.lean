import JpegLs.Proofs.Loopback.Decode
import JpegLs.Proofs.Loopback.Encode
import JpegLs.Proofs.Pixels.Buffer

namespace JpegLs

namespace Loopback

variable {width height : UInt32} {mode : PixelMode} {pixels : PixelBuffer} {image : SourceImage}
  {options : EncodeOptions} {metadata : Metadata} {source bytes : List UInt8}
  {writer reader : Config}

theorem pixelOrder_source (hprepare : image.prepare options = .ok (metadata, source)) :
    (PixelBuffer.ofBytes source (.ofBits metadata.bits.toNat)).pixelOrder
      metadata.components.toNat metadata.interleave =
        image.pixels.withBits metadata.bits.toNat := by
  obtain ⟨-, scan, hscan, rfl⟩ := SourceImage.of_prepare hprepare
  obtain ⟨hcomponents, hdvd, -⟩ := PixelBuffer.whole_of_onWholePixels hscan
  rw [← PixelBuffer.length_toScan hscan] at hdvd
  have hwidth : SampleWidth.ofBits metadata.bits.toNat = scan.width := by
    rw [PixelBuffer.width_toScan hscan, PixelBuffer.width_withBits]
  have hback := PixelBuffer.ofScan_toScan hscan
  rw [PixelBuffer.ofScan_eq hcomponents hdvd] at hback
  rw [hwidth, PixelBuffer.ofBytes_toBytes]
  exact Except.ok.inj hback

/-- What an encoding has made of an image is decoded to the image again, with its samples at the
depth it was encoded with. -/
theorem decode_encode (hwriter : writer.failAt = none) (hreport : writer.overReport = 0)
    (hreader : reader.failAt = none)
    (himage : SourceImage.make width height mode pixels = .ok image)
    {record : Record} {warnings : List Warning}
    (hencode : (encode (codec writer) image options ⟨record, warnings⟩).1 = .ok bytes) :
    ∃ metadata, Metadata.forEncode width height mode options = .ok metadata ∧
      Container.metadata bytes = .ok { metadata with interleave := .planar } ∧
      (∀ record warnings, ∃ left, decode (codec reader) bytes ⟨record, warnings⟩ =
        (.ok ⟨metadata, pixels.withBits metadata.bits.toNat⟩, ⟨left, warnings⟩)) ∧
      ((pixels.withBits metadata.bits.toNat).values = pixels.values ↔
        8 < metadata.bits.toNat ∨ ∀ value ∈ pixels.values, value < 256) := by
  obtain ⟨metadata, source, hprepare, hfault, rfl⟩ :=
    (encode_eq_ok_iff hwriter hreport himage record warnings).mp hencode
  obtain ⟨hmetadata, -⟩ := SourceImage.of_prepare hprepare
  have hfits := Metadata.fits_of_forEncode hmetadata
  have hsmall := small_of_frameFault? hfault
  have hlength := length_source himage hprepare
  have hpixels := pixelOrder_source hprepare
  obtain ⟨rfl, -⟩ := SourceImage.of_make himage
  refine ⟨metadata, hmetadata, metadata_stream hfits.valid hsmall hfits.declared source, ?_,
    PixelBuffer.values_withBits pixels metadata.bits.toNat⟩
  intro record warnings
  rw [← hpixels]
  exact decode_stream hreader hfits.valid hsmall hfits.declared hlength record warnings

theorem decode_encode_two_pixels :
    let image : SourceImage := ⟨2, 1, .rgb8, .eight [1, 2, 3, 4, 5, 6]⟩
    let options : EncodeOptions := { interleave := some .planar, spiff := false }
    let bytes := [0xFF, 0xD8, 0xFF, 0xF7, 0, 17, 8, 0, 1, 0, 2, 3, 1, 17, 0, 2, 17, 0, 3, 17, 0, 0,
      1, 4, 2, 5, 3, 6]
    SourceImage.make 2 1 .rgb8 (.eight [1, 2, 3, 4, 5, 6]) = .ok image ∧
      (encode (codec {}) image options ⟨{}, []⟩).1 = .ok bytes ∧
      ∃ metadata, Metadata.forEncode 2 1 .rgb8 options = .ok metadata ∧
        Container.metadata bytes = .ok { metadata with interleave := .planar } ∧
        (∀ record warnings, ∃ left, decode (codec {}) bytes ⟨record, warnings⟩ =
          (.ok ⟨metadata, PixelBuffer.withBits (.eight [1, 2, 3, 4, 5, 6]) metadata.bits.toNat⟩,
            ⟨left, warnings⟩)) ∧
        ((PixelBuffer.withBits (.eight [1, 2, 3, 4, 5, 6]) metadata.bits.toNat).values =
            (PixelBuffer.eight [1, 2, 3, 4, 5, 6]).values ↔
          8 < metadata.bits.toNat ∨
            ∀ value ∈ (PixelBuffer.eight [1, 2, 3, 4, 5, 6]).values, value < 256) := by
  intro image options bytes
  have himage : SourceImage.make 2 1 .rgb8 (.eight [1, 2, 3, 4, 5, 6]) = .ok image := rfl
  have hencode : (encode (codec {}) image options ⟨{}, []⟩).1 = .ok bytes := by decide +kernel
  exact ⟨himage, hencode, decode_encode rfl rfl rfl himage hencode⟩

end Loopback

end JpegLs
