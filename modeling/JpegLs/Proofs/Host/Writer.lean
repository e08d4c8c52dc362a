import JpegLs.Codec.Loopback
import JpegLs.Host.Writer
import JpegLs.Proofs.Pixels.Buffer
import JpegLs.Proofs.Session.Basic
import JpegLs.Proofs.Session.Prepare

namespace JpegLs.Host

variable {σ τ ε : Type} {color : Color} {mode : PixelMode} {width height : UInt32}
  {bytes : List UInt8}

theorem write_apply (hmode : color.mode? = some mode) (codec : Codec σ) (options : EncodeOptions)
    (world : World σ) :
    write codec options width height color bytes world =
      match SourceImage.make width height mode (.ofBytes bytes mode.width) with
      | .ok image => HostTask.writing (encode codec image options) world
      | .error error => (.error (.ofWriting error), world) := by
  have hpixel : pixelMode color = .ok mode := by rw [pixelMode, hmode]
  rw [write, hpixel, run_bind, Task.liftExcept_apply]
  simp only [HostTask.writing, Task.adapt_apply]
  rw [run_bind, Task.liftExcept_apply]
  cases SourceImage.make width height mode (.ofBytes bytes mode.width) with
  | error error => rfl
  | ok image => rfl

theorem writeTo_apply (sink : Sink τ ε) (codec : Codec σ) (options : EncodeOptions)
    (target : τ) (world : World σ) :
    writeTo sink codec options width height color bytes target world =
      match write codec options width height color bytes world with
      | (.ok stream, world) =>
          (((sink stream target).1.mapError .sink, (sink stream target).2), world)
      | (.error error, world) => ((.error (.image error), target), world) := by
  simp only [writeTo, bind, StateT.bind, ExceptT.run]
  rcases write codec options width height color bytes world with ⟨error | stream, left⟩
  · rfl
  · rfl

theorem kind_of_make_error {pixels : PixelBuffer} {error : Error}
    (hmake : SourceImage.make width height mode pixels = .error error) :
    (ImageError.ofWriting error).kind = .parameter := by
  rcases SourceImage.error_of_make hmake with rfl | ⟨expected, rfl⟩
  · rfl
  · rfl

/-- A buffer is refused unless it has the bytes of the image: there is no call, and the sink is left
as it was.  Samples of two bytes may have a byte behind them, which is dropped. -/
theorem write_measures (hmode : color.mode? = some mode) (sink : Sink τ ε) (codec : Codec σ)
    (options : EncodeOptions) (target : τ) (world : World σ) :
    let size := width.toNat * height.toNat * mode.components * mode.width.bytes
    let run := writeTo sink codec options width height color bytes target world
    (bytes.length ≠ size → ¬(mode.width = .sixteen ∧ bytes.length = size + 1) →
      ∃ error, run = ((.error (.image error), target), world) ∧ error.kind = .parameter) ∧
    (bytes.length = size ∨ (mode.width = .sixteen ∧ bytes.length = size + 1) →
      size < UInt64.size →
      run =
        match HostTask.writing (encode codec
          ⟨width, height, mode, .ofBytes (bytes.take size) mode.width⟩ options) world with
        | (.ok stream, world) =>
            (((sink stream target).1.mapError .sink, (sink stream target).2), world)
        | (.error error, world) => ((.error (.image error), target), world)) := by
  intro size run
  have hrun : run = writeTo sink codec options width height color bytes target world := rfl
  rw [writeTo_apply, write_apply hmode] at hrun
  constructor
  · intro hsize hodd
    cases hmake : SourceImage.make width height mode (.ofBytes bytes mode.width) with
    | error error =>
        rw [hmake] at hrun
        exact ⟨_, hrun, kind_of_make_error hmake⟩
    | ok image =>
        obtain ⟨rfl, hlength⟩ := SourceImage.of_make hmake
        rw [PixelBuffer.length_ofBytes] at hlength
        rcases SampleWidth.div_bytes_eq_iff.mp hlength with heven | hadded
        · exact absurd heven hsize
        · exact absurd hadded hodd
  · intro hsize hlimit
    have hcount : bytes.length / mode.width.bytes =
        width.toNat * height.toNat * mode.components :=
      SampleWidth.div_bytes_eq_iff.mpr hsize
    have hpositive : 1 ≤ mode.width.bytes := by
      cases mode.width <;> decide
    have hsamples : width.toNat * height.toNat * mode.components < UInt64.size :=
      Nat.lt_of_le_of_lt (Nat.le_mul_of_pos_right _ hpositive) hlimit
    have hlength : (PixelBuffer.ofBytes bytes mode.width).length =
        width.toNat * height.toNat * mode.components := by
      rw [PixelBuffer.length_ofBytes, hcount]
    rw [SourceImage.make_of_length hsamples hlength] at hrun
    rw [hrun, PixelBuffer.ofBytes_take hcount]

theorem write_measures_one_sample :
    let codec := Loopback.codec {}
    let sink : Sink (List (List UInt8)) Empty := fun stream taken => (.ok (), taken ++ [stream])
    let gray : Color := .samples .l .sixteen
    let world : World Loopback.Record := ⟨{}, []⟩
    let write := fun bytes => writeTo sink codec { spiff := false } 1 1 gray bytes [] world
    (∃ error, write [1, 2, 3, 4] = ((.error (.image error), []), world) ∧
        error.kind = .parameter) ∧
      (write [1, 2]).1 = (.ok (), [[
        0xFF, 0xD8, 0xFF, 0xF7, 0, 11, 16, 0, 1, 0, 1, 1, 1, 0x11, 0, 0, 1, 2]]) := by
  intro codec sink gray world write
  have hmode : gray.mode? = some .l16 := rfl
  constructor
  · exact (@write_measures _ _ _ gray .l16 1 1 [1, 2, 3, 4] hmode sink codec { spiff := false } []
      world).1 (by decide) (by decide)
  · have hwritten := (@write_measures _ _ _ gray .l16 1 1 [1, 2] hmode sink codec
      { spiff := false } [] world).2 (by decide) (by decide)
    refine (congrArg Prod.fst hwritten).trans ?_
    decide +kernel

/-- Three bytes for one sample of two are written as two. -/
theorem write_odd_byte :
    let codec := Loopback.codec {}
    let sink : Sink (List (List UInt8)) Empty := fun stream taken => (.ok (), taken ++ [stream])
    let gray : Color := .samples .l .sixteen
    let write := fun bytes => writeTo sink codec {} 1 1 gray bytes [] ⟨{}, []⟩
    gray.mode? = some .l16 ∧ [1, 2, 3].length ≠ 1 * 1 * 1 * PixelMode.l16.width.bytes ∧
      (write [1, 2, 3]).1.1 = .ok () ∧ (write [1, 2, 3]).1.2.length = 1 ∧
      (write [1, 2, 3]).1 = (write [1, 2]).1 ∧ (write [1, 2, 3]).2.codec.created = 1 := by
  decide +kernel

end JpegLs.Host
