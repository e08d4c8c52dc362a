import JpegLs.Proofs.Command.Arguments
import JpegLs.Proofs.Command.RawInput
import JpegLs.Proofs.Host.RoundTrip
import JpegLs.Proofs.Native.Export

namespace JpegLs

open Host (ImageLibrary Picture)

theorem NativeLibrary.RunsAlike.of_ok {σ τ α : Type} {shared : τ → σ → Prop} {first : Task τ α}
    {second : Task σ α} (halike : RunsAlike shared first second) {world : World τ} {state : σ}
    (hshared : shared world.codec state) {value : α} {left' : World σ}
    (hsecond : second ⟨state, world.warnings⟩ = (.ok value, left')) :
    ∃ left, first world = (.ok value, left) := by
  obtain ⟨hanswer, -, -⟩ := halike world.codec state world.warnings hshared
  rw [hsecond] at hanswer
  exact ⟨_, Prod.ext hanswer rfl⟩

theorem Loopback.exportable_default : (Loopback.codec {}).Exportable :=
  exportable_codec ⟨by simp, by simp, by simp⟩

section

variable {picture : Picture} {mode : PixelMode} (hpicture : picture.Holds mode)

include hpicture

theorem Host.Picture.Holds.toBytes_withBits {bits : Nat} (hwidth : mode.width = .ofBits bits) :
    ((PixelBuffer.ofBytes picture.bytes mode.width).withBits bits).toBytes = picture.bytes := by
  have hwhole : mode.width.bytes ∣ picture.bytes.length := by
    rw [hpicture.length]
    exact Nat.dvd_mul_left _ _
  rw [PixelBuffer.withBits_of_width (by rw [PixelBuffer.width_ofBytes, hwidth]),
    PixelBuffer.toBytes_ofBytes hwhole]

theorem Host.Picture.Holds.exists_stream {options : EncodeOptions}
    (hdepth : 2 ≤ (picture.source mode).depth options ∧
      (picture.source mode).depth options ≤ 16) :
    ∃ stream,
      (∀ record warnings, ∃ left,
        encode (Loopback.codec {}) (picture.source mode) options ⟨record, warnings⟩ =
          (.ok stream, left)) ∧
      ∀ record warnings, ∃ decoded left,
        decode (Loopback.codec {}) stream ⟨record, warnings⟩ = (.ok decoded, left) ∧
        decoded.pixels =
          (PixelBuffer.ofBytes picture.bytes mode.width).withBits
            ((picture.source mode).depth options) := by
  have hplain : ({} : Loopback.Config).failAt = none := rfl
  obtain ⟨metadata, hmetadata, hfault⟩ := hpicture.exists_metadata hdepth
  have hprepare := hpicture.prepare hmetadata
  have hfits : metadata.Fits (picture.source mode) := Metadata.fits_of_forEncode hmetadata
  have hbits : metadata.bits.toNat = (picture.source mode).depth options :=
    Int.ofNat.inj (congrArg FrameInfo.bits (Metadata.frame_of_forEncode hmetadata).2)
  refine ⟨Loopback.stream metadata ((picture.source mode).source options metadata), ?_, ?_⟩
  · intro record warnings
    obtain ⟨left, hencode⟩ :=
      Loopback.encode_ok hplain rfl hpicture.make hmetadata hprepare hfault record warnings
    exact ⟨_, hencode⟩
  · intro record warnings
    obtain ⟨left, hdecode⟩ := Loopback.decode_stream hplain hfits.valid
      (Loopback.small_of_frameFault? hfault) hfits.declared
      (Loopback.length_source hpicture.make hprepare) record warnings
    refine ⟨_, _, hdecode, ?_⟩
    rw [← hbits]
    exact Loopback.pixelOrder_source hprepare

end

namespace Command

variable {τ : Type} {console : Console τ} {input output : String} {loader : Loader τ}
  {images : ImageLibrary} {config : LibraryConfig}

theorem act_of_decoded {library : NativeLibrary τ}
    (hload : NativeLibrary.load loader config = .ok library) {data : List UInt8}
    (hread : console.files.read input = .ok data) {decoded : DecodedImage} {world : World τ}
    (hdecode : decode library.codec data console.world = (.ok decoded, world))
    {files : FileStore} (hwrite : console.files.write output decoded.pixels.toBytes = .ok files) :
    ∃ text, (Request.decode input output .raw).act loader images config console =
      (.ok (), ⟨files, world, text⟩) := by
  simp only [Request.act, decodeFile, Action.withLibrary, hload, decodeRaw, run_bind,
    Action.readFile, Action.fromFiles, hread, Action.runTask, hdecode, Except.mapError,
    Action.writeFile, hwrite]
  exact ⟨_, rfl⟩

variable {bytes : List UInt8} {width height components depth : Nat} {mode : PixelMode}

def rawPicture (width height : Nat) (mode : PixelMode) (bytes : List UInt8) : Picture :=
  ⟨UInt32.ofNat width, UInt32.ofNat height, .ofMode mode, bytes⟩

theorem holds_rawPicture (hwidth : 1 ≤ width ∧ width ≤ 65535) (hheight : 1 ≤ height ∧ height ≤ 65535)
    (hmode : PixelMode.ofComponents components depth = .ok mode)
    (hlength : bytes.length = width * height * components * if depth ≤ 8 then 1 else 2) :
    (rawPicture width height mode bytes).Holds mode := by
  have hwide : (UInt32.ofNat width).toNat = width :=
    UInt32.toNat_ofNat_of_lt' (Nat.lt_of_le_of_lt hwidth.2 (by decide))
  have htall : (UInt32.ofNat height).toNat = height :=
    UInt32.toNat_ofNat_of_lt' (Nat.lt_of_le_of_lt hheight.2 (by decide))
  obtain ⟨-, rfl, hdeep⟩ := PixelMode.ofComponents_eq_ok_iff.mp hmode
  have hbytes : mode.width.bytes = if depth ≤ 8 then 1 else 2 := by
    rw [hdeep, SampleWidth.ofBits]
    split <;> rfl
  constructor
  · rfl
  · simp only [rawPicture, hwide, htall, hbytes, hlength]
  · simpa only [rawPicture, hwide] using hwidth
  · simpa only [rawPicture, htall] using hheight

theorem readRaw_rawPicture (hwidth : width ≤ 65535) (hheight : height ≤ 65535)
    (hread : console.files.read input = .ok bytes)
    (hmode : PixelMode.ofComponents components depth = .ok mode)
    (hlength : bytes.length = width * height * components * if depth ≤ 8 then 1 else 2) :
    readRaw input ⟨some width, some height, components, depth⟩ console =
      (.ok ((rawPicture width height mode bytes).source mode), console) := by
  have hsize := byteSize_rawFrame (Nat.lt_of_le_of_lt hwidth (by decide))
    (Nat.lt_of_le_of_lt hheight (by decide)) components depth
  have hcomponents : components ≤ 3 := by
    obtain ⟨-, rfl, -⟩ := PixelMode.ofComponents_eq_ok_iff.mp hmode
    have hone_or_three := mode.components_eq
    omega
  have hlimit : (rawFrame width height components depth).byteSize < UInt64.size := by
    rw [hsize]
    calc width * height * components * (if depth ≤ 8 then 1 else 2)
        ≤ 65535 * 65535 * 3 * 2 :=
          Nat.mul_le_mul (Nat.mul_le_mul (Nat.mul_le_mul hwidth hheight) hcomponents)
            (by split <;> decide)
      _ < UInt64.size := by decide
  exact readRaw_of_fitsIn hread hmode (.inl (hlength.trans hsize.symm)) hlimit

variable {library : NativeLibrary τ} {library? encodePath? decodePath? : Option String}
  {encodeArguments decodeArguments : List String} {stream : String}
  {interleave : Option Interleave} {spiff : Bool}

/-- A raw file of the size that its geometry says is encoded, and what has been written is decoded
to a raw file again, byte for byte the same, whatever the order of the scan and the container. -/
theorem decode_encode_raw (exports : library.Exports (Loopback.codec {}))
    (hencode : Invocation.parse? encodeArguments = some (.run encodePath?
      (.encode input stream ⟨some width, some height, components, depth⟩ none interleave spiff)))
    (hdecode : Invocation.parse? decodeArguments =
      some (.run decodePath? (.decode stream output .raw)))
    (hencoder : NativeLibrary.load loader ⟨encodePath? <|> library?⟩ = .ok library)
    (hdecoder : NativeLibrary.load loader ⟨decodePath? <|> library?⟩ = .ok library)
    (hraw : isRaw input = true) (hwidth : 1 ≤ width ∧ width ≤ 65535)
    (hheight : 1 ≤ height ∧ height ≤ 65535) (hcomponents : components = 1 ∨ components = 3)
    (hdepth : 2 ≤ depth ∧ depth ≤ 16) (hread : console.files.read input = .ok bytes)
    (hlength : bytes.length = width * height * components * if depth ≤ 8 then 1 else 2)
    (hstream : console.files.Writable stream) (houtput : console.files.Writable output)
    {record : Loopback.Record} (hshared : exports.shared console.world.codec record) :
    let encoded := run loader images library? encodeArguments console
    encoded.1.exit = 0 ∧
      ∀ (later : Console τ) record, later.files = encoded.2.files →
        exports.shared later.world.codec record →
        let decoded := run loader images library? decodeArguments later
        decoded.1.exit = 0 ∧ decoded.2.files.read output = .ok bytes := by
  intro encoded
  obtain ⟨mode, hmode⟩ := exists_mode_of_raw hcomponents ⟨by omega, hdepth.2⟩
  let picture := rawPicture width height mode bytes
  let options : EncodeOptions := { bits := some (UInt8.ofNat depth), interleave, spiff }
  have hpicture : picture.Holds mode := holds_rawPicture hwidth hheight hmode hlength
  have hdeep : (picture.source mode).depth options = depth := by
    simp only [SourceImage.depth, options, Option.getD_some, UInt8.toNat_ofNat']
    omega
  obtain ⟨stored, hencoded, hdecoded⟩ := hpicture.exists_stream (by rw [hdeep]; exact hdepth)
  have himage := readRaw_rawPicture hwidth.2 hheight.2 hread hmode hlength
  -- The first command leaves the stream of the picture.
  obtain ⟨left, hstored⟩ := hencoded record console.world.warnings
  obtain ⟨world, hrun⟩ :=
    (exports.runsAlike_encode Loopback.exportable_default _ _).of_ok hshared hstored
  obtain ⟨files, hwrite⟩ := hstream.exists_write stored
  obtain ⟨text, hact⟩ : ∃ text, (Request.encode input stream
      ⟨some width, some height, components, depth⟩ none interleave spiff).act loader
        images ⟨encodePath? <|> library?⟩ console = (.ok (), ⟨files, world, text⟩) := by
    refine act_of_readRaw_ok hraw hencoder himage ?_ hwrite
    exact hrun
  have hanswer : encoded = _ := run_of_ok hencode hact
  rw [hanswer]
  refine ⟨rfl, ?_⟩
  -- The second one finds it, and leaves its samples.
  intro later record' hfiles hshared' decoded
  obtain ⟨image, left', hloaded, hpixels⟩ := hdecoded record' later.world.warnings
  obtain ⟨world', hrun'⟩ :=
    (exports.runsAlike_decode Loopback.exportable_default _).of_ok hshared' hloaded
  have hfound : later.files.read stream = .ok stored := by
    rw [hfiles]
    exact FileStore.read_of_write hwrite
  have hwritable : later.files.Writable output := by
    rw [hfiles]
    exact houtput.of_write hwrite
  obtain ⟨files', hwrite'⟩ := hwritable.exists_write image.pixels.toBytes
  obtain ⟨text', hact'⟩ := act_of_decoded hdecoder hfound hrun' hwrite'
  have hanswer' : decoded = _ := run_of_ok hdecode hact'
  have hbytes : image.pixels.toBytes = bytes := by
    rw [hpixels, hdeep]
    exact hpicture.toBytes_withBits (PixelMode.ofComponents_eq_ok_iff.mp hmode).2.2
  rw [hanswer', ← hbytes]
  exact ⟨rfl, FileStore.read_of_write hwrite'⟩

theorem decode_encode_raw_one_pixel :
    let loader : Loader Loopback.Record := fun _ =>
      .ok (NativeLibrary.ofCodec (Loopback.codec {}))
    let console : Console Loopback.Record :=
      ⟨{ files := [(["a.raw"], [1, 2, 3, 4, 5, 6])] }, ⟨{}, []⟩, ""⟩
    let encodeArguments := ["encode", "-i", "a.raw", "-o", "o.jls", "-w", "1", "-H", "1", "-n", "3",
      "--bits", "12", "--interleave", "line", "--no-spiff"]
    let decodeArguments := ["decode", "-i", "o.jls", "-o", "b.raw", "-f", "raw"]
    let encoded := run loader Pnm.library none encodeArguments console
    let decoded := run loader Pnm.library none decodeArguments ⟨encoded.2.files, ⟨{}, []⟩, ""⟩
    encoded.1.exit = 0 ∧ decoded.1.exit = 0 ∧
      decoded.2.files.read "b.raw" = .ok [1, 2, 3, 4, 5, 6] := by
  intro loader console encodeArguments decodeArguments encoded decoded
  have hline : encodeArguments = encodeLine "a.raw" "o.jls" 1 1 3 12 (some .line) false := by
    decide +kernel
  have hencode : Invocation.parse? encodeArguments = some (.run none
      (.encode "a.raw" "o.jls" ⟨some 1, some 1, 3, 12⟩ none (some .line) false)) := by
    rw [hline]
    exact parse?_encodeLine (by decide +kernel) (by decide +kernel) (by decide) (by decide)
      (by decide) (by decide)
  have hdecode : Invocation.parse? decodeArguments =
      some (.run none (.decode "o.jls" "b.raw" .raw)) :=
    parse?_decodeLine (by decide +kernel) (by decide +kernel)
  have hstream : console.files.Writable "o.jls" :=
    ⟨_, FileStore.place_of_name (by decide +kernel) (by decide) List.not_mem_nil⟩
  have houtput : console.files.Writable "b.raw" :=
    ⟨_, FileStore.place_of_name (by decide +kernel) (by decide) List.not_mem_nil⟩
  let exports := NativeLibrary.exportsOfCodec (Loopback.codec {})
  have hload : NativeLibrary.load loader ⟨none <|> none⟩ =
      .ok (NativeLibrary.ofCodec (Loopback.codec {})) := rfl
  have hshared : exports.shared console.world.codec {} := rfl
  obtain ⟨hencoded, hlater⟩ := decode_encode_raw exports hencode hdecode hload hload isRaw_a_raw
    (by decide) (by decide) (by decide) (by decide) read_a_raw (by decide) hstream houtput hshared
  obtain ⟨hdecoded, hread⟩ := hlater ⟨encoded.2.files, ⟨{}, []⟩, ""⟩ {} rfl rfl
  exact ⟨hencoded, hdecoded, hread⟩

end Command

end JpegLs
