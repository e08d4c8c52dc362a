import JpegLs.Host.Reader
import JpegLs.Proofs.Session.Decoded

namespace JpegLs

theorem DecodedImage.Sound.exists_mode {decoded : DecodedImage} (hsound : decoded.Sound) :
    ∃ mode, decoded.metadata.mode = .ok mode ∧
      mode.components = decoded.metadata.components.toNat ∧ mode.width = decoded.pixels.width := by
  obtain ⟨mode, hmode⟩ := hsound.valid.exists_mode
  obtain ⟨-, hcomponents, hwidth⟩ := PixelMode.ofComponents_eq_ok_iff.mp hmode
  exact ⟨mode, hmode, hcomponents, hwidth.trans hsound.width.symm⟩

namespace Host

variable {σ : Type}

theorem copyInto_of_length {pixels : PixelBuffer} {buffer : List UInt8}
    (hlength : pixels.toBytes.length = buffer.length) :
    copyInto pixels buffer = .ok pixels.toBytes := by
  cases pixels with
  | eight samples => exact if_pos hlength
  | sixteen samples =>
      have hsamples : samples.length ≤ buffer.length / 2 := by
        rw [← hlength, PixelBuffer.toBytes, length_packWords]
        omega
      have hdrop : buffer.drop (packWords samples).length = [] :=
        List.drop_of_length_le hlength.ge
      simp only [copyInto, List.take_of_length_le hsamples, hdrop, List.append_nil]
      rfl

namespace Reader

variable {reader : Reader} {decoded : DecodedImage}

structure Agrees (reader : Reader) (decoded : DecodedImage) : Prop where
  width : decoded.metadata.width = reader.metadata.width
  height : decoded.metadata.height = reader.metadata.height
  mode : decoded.metadata.mode = .ok reader.mode

theorem Agrees.pixels_width (hagrees : reader.Agrees decoded) (hsound : decoded.Sound) :
    decoded.pixels.width = reader.mode.width := by
  obtain ⟨mode, hmode, -, hwidth⟩ := hsound.exists_mode
  rw [hagrees.mode] at hmode
  cases hmode
  exact hwidth.symm

theorem totalBytes_of_le (hlimit : reader.totalBytes ≤ addressLimit) :
    reader.totalBytes =
      reader.metadata.width.toNat * reader.metadata.height.toNat * reader.bytesPerPixel := by
  -- What can be addressed is less than the number that stands for all greater ones.
  have hsaturated : addressLimit < UInt64.size - 1 := by decide
  unfold totalBytes at hlimit ⊢
  omega

theorem Agrees.length_toBytes (hagrees : reader.Agrees decoded) (hsound : decoded.Sound)
    (hlimit : reader.totalBytes ≤ addressLimit) :
    decoded.pixels.toBytes.length = reader.totalBytes := by
  obtain ⟨mode, hmode, hcomponents, -⟩ := hsound.exists_mode
  rw [hagrees.mode] at hmode
  cases hmode
  rw [PixelBuffer.length_toBytes, hsound.length, hagrees.pixels_width hsound,
    totalBytes_of_le hlimit, bytesPerPixel, ← hagrees.width, ← hagrees.height, hcomponents,
    ← Nat.mul_assoc]
  rfl

theorem checked_of_agrees (hagrees : reader.Agrees decoded) :
    reader.checked decoded = .ok decoded.pixels := by
  simp [checked, hagrees.width, hagrees.height, hagrees.mode]

theorem checked_of_not_agrees (hsound : decoded.Sound) (hagrees : ¬reader.Agrees decoded) :
    reader.checked decoded = .error .frameMismatch := by
  obtain ⟨mode, hmode, -⟩ := hsound.exists_mode
  unfold checked
  by_cases hsize : decoded.metadata.width ≠ reader.metadata.width ∨
      decoded.metadata.height ≠ reader.metadata.height
  · exact if_pos hsize
  · have hother : mode ≠ reader.mode := by
      rintro rfl
      simp only [not_or, not_not] at hsize
      exact hagrees ⟨hsize.1, hsize.2, hmode⟩
    rw [if_neg hsize, hmode]
    exact if_pos hother

variable {codec : Codec σ}

theorem samples_of_length {length : Nat} (hlength : length = reader.totalBytes)
    (world : World σ) :
    reader.samples codec length world =
      match decode codec reader.data world with
      | (.ok decoded, world) => (reader.checked decoded, world)
      | (.error error, world) => (.error (.ofReading error), world) := by
  rw [samples, if_neg (not_not_intro hlength), run_bind, HostTask.reading,
    Task.adapt_apply]
  rcases decode codec reader.data world with ⟨error | decoded, world'⟩
  · rfl
  · exact Task.liftExcept_apply (reader.checked decoded) world'

variable {buffer : List UInt8} {world world' : World σ}

theorem readInto_apply :
    reader.readInto codec buffer world =
      match reader.samples codec buffer.length world with
      | (.ok pixels, world) =>
          ((copyInto pixels buffer).map fun filled => (.ok (), filled), world)
      | (.error error, world) => (.ok (.error error, buffer), world) := by
  simp only [readInto, bind, StateT.bind, ExceptT.run]
  rcases reader.samples codec buffer.length world with ⟨error | pixels, world'⟩ <;> rfl

theorem readInto_of_misfit (hlength : buffer.length ≠ reader.totalBytes) :
    reader.readInto codec buffer world = (.ok (.error .dimensionMismatch, buffer), world) := by
  rw [readInto_apply, samples, if_pos hlength, Task.throw_apply]

theorem readInto_of_error (hlength : buffer.length = reader.totalBytes) {error : Error}
    (hdecode : decode codec reader.data world = (.error error, world')) :
    reader.readInto codec buffer world = (.ok (.error (.ofReading error), buffer), world') := by
  rw [readInto_apply, samples_of_length hlength, hdecode]

theorem readInto_of_not_agrees (hlength : buffer.length = reader.totalBytes)
    (hdecode : decode codec reader.data world = (.ok decoded, world'))
    (hagrees : ¬reader.Agrees decoded) :
    reader.readInto codec buffer world = (.ok (.error .frameMismatch, buffer), world') := by
  have hsound := sound_of_decode hdecode
  rw [readInto_apply, samples_of_length hlength, hdecode]
  simp only [checked_of_not_agrees hsound hagrees]

theorem readInto_of_agrees (hlength : buffer.length = reader.totalBytes)
    (hlimit : reader.totalBytes ≤ addressLimit)
    (hdecode : decode codec reader.data world = (.ok decoded, world'))
    (hagrees : reader.Agrees decoded) :
    reader.readInto codec buffer world = (.ok (.ok (), decoded.pixels.toBytes), world') := by
  have hbytes : decoded.pixels.toBytes.length = buffer.length :=
    (hagrees.length_toBytes (sound_of_decode hdecode) hlimit).trans hlength.symm
  rw [readInto_apply, samples_of_length hlength, hdecode]
  simp only [checked_of_agrees hagrees, copyInto_of_length hbytes]
  rfl

theorem data_of_make {data : List UInt8} (hreader : make data = .ok reader) :
    reader.data = data := by
  unfold make at hreader
  cases hmetadata : Container.metadata data with
  | error error =>
      rw [hmetadata] at hreader
      cases hreader
  | ok metadata =>
      cases hmode : metadata.mode with
      | error error =>
          simp only [hmetadata, hmode] at hreader
          cases hreader
      | ok mode =>
          simp only [hmetadata, hmode] at hreader
          cases hreader
          rfl

/-- A buffer of another size than announced is left alone without a call.  One of that size is
filled with the bytes of the decoded pixels, or left as it is when the decoding fails or finds
another frame; the copying always has as many bytes as it needs. -/
theorem readInto_fills {data buffer : List UInt8} (hreader : make data = .ok reader)
    (hbuffer : buffer.length ≤ addressLimit) (codec : Codec σ) (world : World σ) :
    let run := reader.readInto codec buffer world
    let decoding := decode codec data world
    (buffer.length ≠ reader.totalBytes →
      run = (.ok (.error .dimensionMismatch, buffer), world) ∧
        ImageError.dimensionMismatch.kind = .parameter) ∧
    (buffer.length = reader.totalBytes → run.2 = decoding.2 ∧
      (∀ error, decoding.1 = .error error →
        run.1 = .ok (.error (.ofReading error), buffer)) ∧
      ∀ decoded, decoding.1 = .ok decoded →
        (¬reader.Agrees decoded →
          run.1 = .ok (.error .frameMismatch, buffer) ∧
            ImageError.frameMismatch.kind = .decoding) ∧
        (reader.Agrees decoded →
          run.1 = .ok (.ok (), decoded.pixels.toBytes) ∧
            decoded.pixels.toBytes.length = buffer.length ∧
            reader.color = .samples (if reader.mode.components = 1 then .l else .rgb)
              (.ofWidth decoded.pixels.width))) := by
  obtain rfl := data_of_make hreader
  intro run decoding
  refine ⟨fun hlength => ⟨readInto_of_misfit hlength, rfl⟩, fun hlength => ?_⟩
  have hlimit : reader.totalBytes ≤ addressLimit := by rwa [← hlength]
  rcases hdecode : decode codec reader.data world with ⟨error | decoded, world'⟩
  · have hrun : run = (.ok (.error (.ofReading error), buffer), world') :=
      readInto_of_error hlength hdecode
    simp only [decoding, hdecode, hrun, true_and]
    refine ⟨?_, by simp⟩
    rintro error' ⟨⟩
    rfl
  · have hsound := sound_of_decode hdecode
    by_cases hagrees : reader.Agrees decoded
    · have hrun : run = (.ok (.ok (), decoded.pixels.toBytes), world') :=
        readInto_of_agrees hlength hlimit hdecode hagrees
      have hbytes := hagrees.length_toBytes hsound hlimit
      have hcolor : reader.color = .samples (if reader.mode.components = 1 then .l else .rgb)
          (.ofWidth decoded.pixels.width) := by
        rw [hagrees.pixels_width hsound]
        rfl
      simp only [decoding, hdecode, hrun, true_and]
      refine ⟨by simp, ?_⟩
      rintro decoded' ⟨⟩
      exact ⟨fun hnot => absurd hagrees hnot, fun _ => ⟨rfl, hbytes.trans hlength.symm, hcolor⟩⟩
    · have hrun : run = (.ok (.error .frameMismatch, buffer), world') :=
        readInto_of_not_agrees hlength hdecode hagrees
      simp only [decoding, hdecode, hrun, true_and]
      refine ⟨by simp, ?_⟩
      rintro decoded' ⟨⟩
      exact ⟨fun _ => rfl, fun hagrees' => absurd hagrees' hagrees⟩

theorem readInto_fills_two_bytes :
    let codec := Loopback.codec {}
    let data := Loopback.startOfImage ++ Loopback.frameBytes ⟨1, 1, 16, 1⟩ .planar [0x34, 0x12]
    let reader : Reader := ⟨data, .plain ⟨1, 1, 16, 1⟩ .planar, .l16⟩
    let decoded : DecodedImage := ⟨.plain ⟨1, 1, 16, 1⟩ .planar, .sixteen [0x1234]⟩
    let run := reader.readInto codec [0xAA, 0xAA] ⟨{}, []⟩
    make data = .ok reader ∧ run.1 = .ok (.ok (), decoded.pixels.toBytes) ∧
      decoded.pixels.toBytes = [0x34, 0x12] := by
  intro codec data reader decoded run
  have hmake : make data = .ok reader := by decide +kernel
  have hdecoded : (decode codec data ⟨{}, []⟩).1 = .ok decoded := by decide +kernel
  have hagrees : reader.Agrees decoded := ⟨rfl, rfl, rfl⟩
  obtain ⟨-, hfills⟩ := @readInto_fills _ reader data [0xAA, 0xAA] hmake (by decide) codec ⟨{}, []⟩
  obtain ⟨-, -, hread⟩ := hfills (by decide)
  exact ⟨hmake, ((hread decoded hdecoded).2 hagrees).1, by decide⟩

end Reader

end Host

end JpegLs
