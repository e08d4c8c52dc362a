import JpegLs.Proofs.Host.Writer
import JpegLs.Proofs.Session.EncodeReference

namespace JpegLs.Host

variable {σ τ ε : Type} {color : Color} {mode : PixelMode} {width height : UInt32}
  {bytes : List UInt8} {pixels : PixelBuffer} {image : SourceImage}

theorem write_of_unsupported (hmode : color.mode? = none) (codec : Codec σ)
    (options : EncodeOptions) (world : World σ) :
    write codec options width height color bytes world =
      (.error (.unsupportedColor color), world) := by
  have hpixel : pixelMode color = .error (.unsupportedColor color) := by rw [pixelMode, hmode]
  rw [write, hpixel, run_bind, Task.liftExcept_apply]

theorem exists_make_error
    (hcount : UInt64.size ≤ width.toNat * height.toNat * mode.components ∨
      pixels.length ≠ width.toNat * height.toNat * mode.components) :
    ∃ error, SourceImage.make width height mode pixels = .error error := by
  cases hmake : SourceImage.make width height mode pixels with
  | error error => exact ⟨error, rfl⟩
  | ok image =>
      obtain ⟨rfl, hlt, hlength⟩ := SourceImage.make_eq_ok_iff.mp hmake
      rcases hcount with hlarge | hother
      · exact absurd hlt (Nat.not_lt.mpr hlarge)
      · exact absurd hlength hother

theorem kind_of_trail {options : EncodeOptions} {error : Error} {events : List Event}
    (htrail : EncodeTrail image options (.error error) events) :
    (ImageError.ofWriting error).kind = .unsupported ∨
      (ImageError.ofWriting error).kind = .encoding := by
  rcases htrail.error_cases with ⟨components, bits, rfl⟩ | ⟨fault, rfl⟩ | ⟨fault, rfl⟩
  · exact .inl rfl
  · exact .inr rfl
  · exact .inr rfl

/-- A run that writes what an encoding has come to.  The sink is given the whole stream, once, or is
left as it was, and the encoder has been given back either way. -/
structure Writes (sink : Sink τ ε) (target : τ) (before : List Event)
    (encoded : Except Error (List UInt8) × World (Recorded σ))
    (run : (Except (WriteFault ε) Unit × τ) × World (Recorded σ)) : Prop where
  world : run.2 = encoded.2
  written : ∀ stream, encoded.1 = .ok stream →
    run.1 = ((sink stream target).1.mapError .sink, (sink stream target).2)
  refused : ∀ error, encoded.1 = .error error →
    ∃ failure, run.1 = (.error (.image failure), target) ∧
      (failure.kind = .unsupported ∨ failure.kind = .encoding)
  released : ∃ added, run.2.codec.2 = before ++ added ∧
    added.count .released = added.count .created

theorem writes_of_make (hmode : color.mode? = some mode)
    (himage : SourceImage.make width height mode (.ofBytes bytes mode.width) = .ok image)
    (sink : Sink τ ε) (codec : Codec σ) (options : EncodeOptions) (target : τ)
    (world : World (Recorded σ)) :
    Writes sink target world.codec.2 (encode codec.recorded image options world)
      (writeTo sink codec.recorded options width height color bytes target world) := by
  obtain ⟨added, hadded, htrail⟩ := encodeReference_leads codec image options world
  rw [← encode_eq himage] at hadded htrail
  rw [writeTo_apply, write_apply hmode, himage]
  simp only [HostTask.writing, Task.adapt_apply]
  rcases hencoded : encode codec.recorded image options world with ⟨error | stream, left⟩
  · rw [hencoded] at hadded htrail
    exact {
      world := rfl
      written := fun stream hstream => by cases hstream
      refused := fun found hfound => by
        cases hfound
        exact ⟨_, rfl, kind_of_trail htrail⟩
      released := ⟨added, hadded, htrail.released⟩ }
  · rw [hencoded] at hadded htrail
    exact {
      world := rfl
      written := fun found hfound => by
        cases hfound
        rfl
      refused := fun error herror => by cases herror
      released := ⟨added, hadded, htrail.released⟩ }

/-- Whatever the codec and the sink, a buffer of whole samples is written as the stream its encoding
returns, at once, or not at all.  No other color is written, nor a buffer that does not have the
samples of the image, and neither is the codec called for them. -/
theorem writeTo_atomic (sink : Sink τ ε) (codec : Codec σ) (options : EncodeOptions)
    (width height : UInt32) (color : Color) (bytes : List UInt8) (target : τ)
    (world : World (Recorded σ)) :
    let run := writeTo sink codec.recorded options width height color bytes target world
    ((∀ mode, color ≠ .ofMode mode) →
      ∃ error, run = ((.error (.image error), target), world) ∧ error.kind = .unsupported) ∧
    ∀ mode, color = .ofMode mode → mode.width.bytes ∣ bytes.length →
      ∃ pixels : PixelBuffer, pixels.width = mode.width ∧ pixels.toBytes = bytes ∧
        (UInt64.size ≤ width.toNat * height.toNat * mode.components ∨
            pixels.length ≠ width.toNat * height.toNat * mode.components →
          ∃ error, run = ((.error (.image error), target), world) ∧ error.kind = .parameter) ∧
        ∀ image, SourceImage.make width height mode pixels = .ok image →
          Writes sink target world.codec.2 (encode codec.recorded image options world) run := by
  intro run
  constructor
  · intro hcolor
    have hmode : color.mode? = none :=
      Option.eq_none_iff_forall_ne_some.mpr fun mode => mt Color.mode?_eq_some_iff.mp (hcolor mode)
    refine ⟨.unsupportedColor color, ?_, rfl⟩
    simp only [run, writeTo_apply, write_of_unsupported hmode]
  · intro mode hcolor hwhole
    have hmode : color.mode? = some mode := Color.mode?_eq_some_iff.mpr hcolor
    refine ⟨.ofBytes bytes mode.width, PixelBuffer.width_ofBytes bytes mode.width,
      PixelBuffer.toBytes_ofBytes hwhole, ?_, ?_⟩
    · intro hcount
      obtain ⟨error, hmake⟩ := exists_make_error hcount
      refine ⟨.ofWriting error, ?_, kind_of_make_error hmake⟩
      simp only [run, writeTo_apply, write_apply hmode, hmake]
    · intro image himage
      exact writes_of_make hmode himage sink codec options target world

theorem writeTo_atomic_one_sample :
    let codec := Loopback.codec {}
    let sink : Sink (List (List UInt8)) Empty := fun stream taken => (.ok (), taken ++ [stream])
    let world : World (Recorded Loopback.Record) := ⟨({}, []), []⟩
    let image : SourceImage := ⟨1, 1, .l16, .sixteen [0x0201]⟩
    let gray : Color := .samples .l .sixteen
    let write := fun height color bytes =>
      writeTo sink codec.recorded { spiff := false } 1 height color bytes [] world
    (write 1 gray [1, 2]).1 = (.ok (), [[
        0xFF, 0xD8, 0xFF, 0xF7, 0, 11, 16, 0, 1, 0, 1, 1, 1, 0x11, 0, 0, 1, 2]]) ∧
      Writes sink [] [] (encode codec.recorded image { spiff := false } world)
        (write 1 gray [1, 2]) ∧
      (∃ error, write 2 gray [1, 2] = ((.error (.image error), []), world) ∧
        error.kind = .parameter) ∧
      ∃ error, write 1 (.samples .rgba .eight) [1, 2, 3, 4] =
        ((.error (.image error), []), world) ∧ error.kind = .unsupported := by
  intro codec sink world image gray write
  have hwritten : (write 1 gray [1, 2]).1 = (.ok (), [[
      0xFF, 0xD8, 0xFF, 0xF7, 0, 11, 16, 0, 1, 0, 1, 1, 1, 0x11, 0, 0, 1, 2]]) := by
    decide +kernel
  obtain ⟨pixels, hwidth, hbytes, -, hwrites⟩ :=
    (writeTo_atomic sink codec { spiff := false } 1 1 gray [1, 2] [] world).2 .l16 rfl (by decide)
  obtain rfl : .sixteen [0x0201] = pixels := by
    rw [← PixelBuffer.ofBytes_toBytes pixels, hwidth, hbytes]
    rfl
  obtain ⟨others, hwidth, hbytes, hrefused, -⟩ :=
    (writeTo_atomic sink codec { spiff := false } 1 2 gray [1, 2] [] world).2 .l16 rfl (by decide)
  obtain rfl : .sixteen [0x0201] = others := by
    rw [← PixelBuffer.ofBytes_toBytes others, hwidth, hbytes]
    rfl
  have hcolor := (writeTo_atomic sink codec { spiff := false } 1 1 (.samples .rgba .eight)
    [1, 2, 3, 4] [] world).1 (by intro mode; cases mode <;> decide)
  exact ⟨hwritten, hwrites image rfl, hrefused (.inr (by decide)), hcolor⟩

end JpegLs.Host
