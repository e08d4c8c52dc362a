import JpegLs.Proofs.Loopback.RoundTrip
import JpegLs.Proofs.Loopback.Trailing

/-!
A codec that reports more bytes than it has written.  It is believed as far as the estimate goes,
which leaves room behind every stream for as many bytes as its header form decides.
-/

namespace JpegLs.Loopback

variable {width height : UInt32} {mode : PixelMode} {pixels : PixelBuffer} {image : SourceImage}
  {options : EncodeOptions} {metadata : Metadata} {samples bytes : List UInt8}

def room (options : EncodeOptions) : Nat :=
  if options.spiff then 64 else 98

theorem length_lead
    (hmetadata : Metadata.forEncode width height mode options = .ok metadata) :
    (lead metadata).length + room options = Spiff.headerLength + slack := by
  have himplied := Metadata.impliedSpiff?_of_forEncode hmetadata
  by_cases hspiff : options.spiff
  · rw [if_pos hspiff] at himplied
    rw [lead, himplied, room, if_pos hspiff]
    rfl
  · rw [if_neg hspiff] at himplied
    rw [lead, himplied, room, if_neg hspiff]
    rfl

theorem estimate_eq (hmetadata : Metadata.forEncode width height mode options = .ok metadata)
    (hlength : samples.length = imageSize metadata.frame) :
    estimate metadata.frame = (stream metadata samples).length + room options := by
  have hlead := length_lead hmetadata
  rw [length_stream, samplesOffset, hlength, estimate]
  omega

theorem stream_of_encode (himage : SourceImage.make width height mode pixels = .ok image)
    {world : World Record} (hencode : (encode (codec {}) image options world).1 = .ok bytes) :
    ∃ metadata, Metadata.forEncode image.width image.height image.mode options = .ok metadata ∧
      frameFault? metadata.frame = none ∧
      (image.source options metadata).length = imageSize metadata.frame ∧
      bytes = stream metadata (image.source options metadata) := by
  obtain ⟨metadata, source, hprepare, hfault, rfl⟩ :=
    (encode_eq_ok_iff rfl rfl himage world.codec world.warnings).mp hencode
  obtain ⟨hmetadata, -⟩ := SourceImage.of_prepare hprepare
  have hlength := length_source himage hprepare
  rw [SourceImage.prepare_source himage hmetadata] at hprepare
  cases hprepare
  exact ⟨metadata, hmetadata, hfault, hlength, rfl⟩

/-- A codec that reports `extra` bytes more than an honest one has stored is believed if the estimate
has room for them; they are zeros then, which make no difference to a decoding.  Otherwise the
encoding fails.  The encoder is given back either way. -/
theorem encode_over_reported (himage : SourceImage.make width height mode pixels = .ok image)
    {world : World Record} (hencode : (encode (codec {}) image options world).1 = .ok bytes)
    (extra : Nat) :
    (∃ metadata, Metadata.forEncode image.width image.height image.mode options = .ok metadata ∧
      (bytes.length + extra ≤ estimate metadata.frame ↔ extra ≤ room options)) ∧
    (∀ world : World Record,
      let run := encode (codec { overReport := extra }) image options world
      run.1 = (if extra ≤ room options then .ok (bytes ++ List.replicate extra 0)
          else .error (.codec .destinationBufferTooSmall)) ∧
        run.2.codec.created = world.codec.created + 1 ∧
        run.2.codec.destroyed = world.codec.destroyed + 1) ∧
    ∀ reader : Config, reader.failAt = none → ∀ world : World Record, ∃ decoded left,
      decode (codec reader) bytes world = (.ok decoded, left) ∧
        decode (codec reader) (bytes ++ List.replicate extra 0) world = (.ok decoded, left) := by
  obtain ⟨metadata, hmetadata, hfault, hlength, rfl⟩ := stream_of_encode himage hencode
  have hestimate := estimate_eq hmetadata hlength
  refine ⟨⟨metadata, hmetadata, ?_⟩, ?_, ?_⟩
  · rw [hestimate]
    exact Nat.add_le_add_iff_left
  · intro world run
    have hconfig : Config.failAt { overReport := extra } = none := rfl
    obtain ⟨left, hrun, hcreated, hdestroyed⟩ :=
      encode_reported hconfig himage hmetadata hfault world.codec world.warnings
    rw [hestimate] at hrun
    refine ⟨?_, ?_, ?_⟩
    · simp only [run, hrun]
      by_cases hroom : extra ≤ room options
      · rw [if_pos hroom, if_neg (by omega)]
      · rw [if_neg hroom, if_pos (by omega)]
    · simp only [run, hrun, hcreated]
    · simp only [run, hrun, hdestroyed]
  · intro reader hreader world
    have hfits := Metadata.fits_of_forEncode hmetadata
    obtain ⟨left, hdecode⟩ := decode_stream hreader hfits.valid (small_of_frameFault? hfault)
      hfits.declared hlength world.codec world.warnings
    exact ⟨_, _, hdecode, refines_decode reader _ _ _ _ _ hdecode⟩

theorem encode_over_reported_one_sample :
    let image : SourceImage := ⟨1, 1, .l8, .eight [7]⟩
    let options : EncodeOptions := { spiff := false }
    let bytes : List UInt8 := [0xFF, 0xD8, 0xFF, 0xF7, 0, 11, 8, 0, 1, 0, 1, 1, 1, 0x11, 0, 0, 7]
    let answer := fun extra =>
      (encode (codec { overReport := extra }) image options ⟨{}, []⟩).1
    SourceImage.make 1 1 .l8 (.eight [7]) = .ok image ∧
      (encode (codec {}) image options ⟨{}, []⟩).1 = .ok bytes ∧
      answer 98 = .ok (bytes ++ List.replicate 98 0) ∧
      answer 99 = .error (.codec .destinationBufferTooSmall) ∧
      ∃ decoded left, decode (codec {}) bytes ⟨{}, []⟩ = (.ok decoded, left) ∧
        decode (codec {}) (bytes ++ List.replicate 98 0) ⟨{}, []⟩ = (.ok decoded, left) := by
  intro image options bytes answer
  have himage : SourceImage.make 1 1 .l8 (.eight [7]) = .ok image := rfl
  have hencode : (encode (codec {}) image options ⟨{}, []⟩).1 = .ok bytes := by decide +kernel
  obtain ⟨-, hwithin, hdecode⟩ := encode_over_reported himage hencode 98
  obtain ⟨-, hbeyond, -⟩ := encode_over_reported himage hencode 99
  exact ⟨himage, hencode, (hwithin ⟨{}, []⟩).1, (hbeyond ⟨{}, []⟩).1, hdecode {} rfl ⟨{}, []⟩⟩

end JpegLs.Loopback
