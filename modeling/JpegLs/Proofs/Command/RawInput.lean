import JpegLs.Proofs.Command.Output
import JpegLs.Proofs.Pixels.Buffer
import JpegLs.Proofs.Session.Decoded
import JpegLs.Proofs.Session.Prepare

namespace JpegLs

namespace FrameInfo

variable {frame : FrameInfo} {bytes : List UInt8}

theorem byteSize_eq (frame : FrameInfo) :
    frame.byteSize = frame.samples * (SampleWidth.ofBits frame.bits.toNat).bytes := by
  by_cases hbits : frame.bits ≤ 8
  · have hwidth : SampleWidth.ofBits frame.bits.toNat = .eight := if_pos (by omega)
    rw [byteSize, if_pos hbits, hwidth]
    rfl
  · have hwidth : SampleWidth.ofBits frame.bits.toNat = .sixteen := if_neg (by omega)
    rw [byteSize, if_neg hbits, hwidth]
    rfl

theorem samples_le_byteSize (frame : FrameInfo) : frame.samples ≤ frame.byteSize := by
  rw [byteSize_eq]
  apply Nat.le_mul_of_pos_right
  cases SampleWidth.ofBits frame.bits.toNat <;> decide

theorem toBytes_ofBytes_of_fitsIn (hfits : frame.FitsIn bytes.length) :
    (PixelBuffer.ofBytes bytes (.ofBits frame.bits.toNat)).toBytes =
      bytes.take frame.byteSize := by
  have hcount := (frame.length_ofBytes_iff bytes).mpr hfits
  rw [PixelBuffer.length_ofBytes] at hcount
  have hle : frame.byteSize ≤ bytes.length := by
    rcases hfits with hexact | ⟨-, hodd⟩ <;> omega
  have hwhole : (SampleWidth.ofBits frame.bits.toNat).bytes ∣ (bytes.take frame.byteSize).length := by
    rw [List.length_take_of_le hle, byteSize_eq]
    exact Nat.dvd_mul_left _ _
  rw [← PixelBuffer.ofBytes_take hcount, ← byteSize_eq]
  exact PixelBuffer.toBytes_ofBytes hwhole

end FrameInfo

namespace Command

open JpegLs.Command.Action

theorem natural?_lt {limit n : Nat} {text : String} (h : natural? limit text = some n) :
    n < limit := by
  simp only [natural?, Option.ite_none_right_eq_some] at h
  obtain ⟨-, ⟨hlimit, -⟩, hvalue⟩ := h
  cases hvalue
  exact hlimit

theorem lt_of_optional {limit n : Nat} {given : Given} {name : String}
    (h : optional given name (natural? limit) = some (some n)) : n < limit := by
  unfold optional at h
  cases htext : given.get? name with
  | none =>
      rw [htext] at h
      cases h
  | some text =>
      rw [htext] at h
      obtain ⟨found, hfound, hsome⟩ := Option.map_eq_some_iff.mp h
      cases hsome
      exact natural?_lt hfound

theorem exists_command_of_parse {path? : Option String} {arguments : List String}
    {request : Request} (h : Invocation.parse? arguments = some (.run path? request)) :
    ∃ name flags read given, command? name = some (flags, read) ∧ read given = some request := by
  simp only [Invocation.parse?, Option.bind_eq_bind, Option.bind_eq_some_iff] at h
  obtain ⟨⟨top, rest⟩, -, h⟩ := h
  split at h
  · cases h
  · obtain ⟨above, -, h⟩ := Option.bind_eq_some_iff.mp h
    cases rest with
    | nil => cases h
    | cons name rest =>
        obtain ⟨⟨flags, read⟩, hcommand, h⟩ := Option.bind_eq_some_iff.mp h
        obtain ⟨⟨given, rest⟩, -, h⟩ := Option.bind_eq_some_iff.mp h
        obtain ⟨-, h⟩ := Option.ite_none_right_eq_some.mp h
        obtain ⟨below, -, h⟩ := Option.bind_eq_some_iff.mp h
        obtain ⟨found, hread, h⟩ := Option.bind_eq_some_iff.mp h
        cases h
        exact ⟨name, flags, read, given, hcommand, hread⟩

structure RawGeometry.Bounded (raw : RawGeometry) : Prop where
  width : ∀ width, raw.width = some width → width < UInt32.size
  height : ∀ height, raw.height = some height → height < UInt32.size

variable {input output : String} {raw : RawGeometry} {bits : Option UInt8}
  {interleave : Option Interleave} {spiff : Bool} {given : Given}

theorem bounded_of_encodeRequest
    (h : encodeRequest given = some (.encode input output raw bits interleave spiff)) :
    raw.Bounded := by
  simp only [encodeRequest, Option.bind_eq_bind, Option.bind_eq_some_iff] at h
  obtain ⟨width, hwidth, height, hheight, components, -, depth, -, bits, -, interleave, -, input, -,
    output, -, h⟩ := h
  cases h
  constructor
  · rintro side rfl
    exact lt_of_optional hwidth
  · rintro side rfl
    exact lt_of_optional hheight

theorem encodeRequest_of_command {name : String} {flags : List Flag}
    {read : Given → Option Request} (hcommand : command? name = some (flags, read))
    (hread : read given = some (.encode input output raw bits interleave spiff)) :
    read = encodeRequest := by
  unfold command? at hcommand
  split at hcommand <;> cases hcommand
  · simp [decodeRequest, Option.bind_eq_some_iff] at hread
  · simp [decodeRequest, Option.bind_eq_some_iff] at hread
  · rfl
  · rfl
  · simp [infoRequest, Option.bind_eq_some_iff] at hread
  · simp [infoRequest, Option.bind_eq_some_iff] at hread

theorem bounded_of_parse {path? : Option String} {arguments : List String}
    (h : Invocation.parse? arguments =
      some (.run path? (.encode input output raw bits interleave spiff))) :
    raw.Bounded := by
  obtain ⟨name, flags, read, given, hcommand, hread⟩ := exists_command_of_parse h
  obtain rfl := encodeRequest_of_command hcommand hread
  exact bounded_of_encodeRequest hread

def rawFrame (width height components depth : Nat) : FrameInfo :=
  ⟨UInt32.ofNat width, UInt32.ofNat height, depth, components⟩

variable {σ : Type} {console : Console σ} {bytes : List UInt8} {width height components depth : Nat}
  {mode : PixelMode}

theorem byteSize_rawFrame (hwidth : width < UInt32.size) (hheight : height < UInt32.size)
    (components depth : Nat) :
    (rawFrame width height components depth).byteSize =
      width * height * components * if depth ≤ 8 then 1 else 2 := by
  have hdepth : ((depth : Int) ≤ 8) = (depth ≤ 8) := propext (by omega)
  simp only [FrameInfo.byteSize, rawFrame, UInt32.toNat_ofNat_of_lt' hwidth,
    UInt32.toNat_ofNat_of_lt' hheight, Int.toNat_natCast, hdepth]

theorem exists_mode_of_raw (hcomponents : components = 1 ∨ components = 3)
    (hdepth : 1 ≤ depth ∧ depth ≤ 16) :
    ∃ mode, PixelMode.ofComponents components depth = .ok mode :=
  @PixelMode.exists_ofComponents (rawFrame 0 0 components depth) (by simp only [rawFrame]; omega)
    (by simp only [rawFrame]; omega) (by simp only [rawFrame]; omega)

theorem readRaw_apply (hread : console.files.read input = .ok bytes)
    (hmode : PixelMode.ofComponents components depth = .ok mode) :
    readRaw input ⟨some width, some height, components, depth⟩ console =
      ((SourceImage.make (UInt32.ofNat width) (UInt32.ofNat height) mode
        (.ofBytes bytes mode.width)).mapError .stream, console) := by
  simp only [readRaw, run_bind, ofStream_apply, hmode, readFile_of_read hread, Except.mapError]

theorem length_raw_iff (hmode : PixelMode.ofComponents components depth = .ok mode) :
    (PixelBuffer.ofBytes bytes mode.width).length =
        (UInt32.ofNat width).toNat * (UInt32.ofNat height).toNat * mode.components ↔
      (rawFrame width height components depth).FitsIn bytes.length := by
  obtain ⟨-, rfl, hwidth⟩ := PixelMode.ofComponents_eq_ok_iff.mp hmode
  rw [← FrameInfo.length_ofBytes_iff, hwidth]
  rfl

theorem readRaw_of_fitsIn (hread : console.files.read input = .ok bytes)
    (hmode : PixelMode.ofComponents components depth = .ok mode)
    (hfits : (rawFrame width height components depth).FitsIn bytes.length)
    (hlimit : (rawFrame width height components depth).byteSize < UInt64.size) :
    readRaw input ⟨some width, some height, components, depth⟩ console =
      (.ok ⟨UInt32.ofNat width, UInt32.ofNat height, mode, .ofBytes bytes mode.width⟩,
        console) := by
  have hlength := (length_raw_iff hmode).mpr hfits
  obtain ⟨-, rfl, -⟩ := PixelMode.ofComponents_eq_ok_iff.mp hmode
  have hsamples : (UInt32.ofNat width).toNat * (UInt32.ofNat height).toNat * mode.components <
      UInt64.size := Nat.lt_of_le_of_lt (rawFrame width height _ depth).samples_le_byteSize hlimit
  rw [readRaw_apply hread hmode, SourceImage.make_of_length hsamples hlength]
  rfl

theorem readRaw_of_not_fitsIn (hread : console.files.read input = .ok bytes)
    (hmode : PixelMode.ofComponents components depth = .ok mode)
    (hfits : ¬(rawFrame width height components depth).FitsIn bytes.length) :
    ∃ fault, readRaw input ⟨some width, some height, components, depth⟩ console =
      (.error fault, console) := by
  rw [readRaw_apply hread hmode]
  cases hmake : SourceImage.make (UInt32.ofNat width) (UInt32.ofNat height) mode
      (.ofBytes bytes mode.width) with
  | error error => exact ⟨_, rfl⟩
  | ok image =>
      obtain ⟨rfl, hlength⟩ := SourceImage.of_make hmake
      exact absurd ((length_raw_iff hmode).mp hlength) hfits

variable {loader : Loader σ} {images : Host.ImageLibrary} {config : LibraryConfig}

theorem act_of_readRaw_error (hraw : isRaw input = true) {fault : Fault}
    (hfailed : readRaw input raw console = (.error fault, console)) :
    ∃ fault, (Request.encode input output raw bits interleave spiff).act loader images config
      console = (.error fault, console) := by
  simp only [Request.act, encodeFile, withLibrary, hraw, if_true, run_bind]
  cases NativeLibrary.load loader config with
  | error error => exact ⟨_, rfl⟩
  | ok library =>
      simp only [encodeRaw, run_bind, hfailed]
      exact ⟨_, rfl⟩

theorem act_of_readRaw_ok (hraw : isRaw input = true) {library : NativeLibrary σ}
    (hload : NativeLibrary.load loader config = .ok library) {image : SourceImage}
    (himage : readRaw input raw console = (.ok image, console)) {encoded : List UInt8}
    {world : World σ}
    (hencode : encode library.codec image
      { bits := bits <|> some (UInt8.ofNat raw.bits), interleave, spiff } console.world =
        (.ok encoded, world))
    {files : FileStore} (hwrite : console.files.write output encoded = .ok files) :
    ∃ text, (Request.encode input output raw bits interleave spiff).act loader images config
      console = (.ok (), ⟨files, world, text⟩) := by
  simp only [Request.act, encodeFile, withLibrary, hload, hraw, if_true, encodeRaw, run_bind,
    himage, runTask, hencode, Except.mapError, writeFile, hwrite]
  exact ⟨_, rfl⟩

variable {library? path? : Option String} {arguments : List String}

/-- A raw file of another size than its geometry says is refused, and nothing is written or asked
of the codec.  Above eight bits it may be longer by one byte; then it is read without this byte. -/
theorem encode_measures_raw
    (hparse : Invocation.parse? arguments = some (.run path?
      (.encode input output ⟨some width, some height, components, depth⟩ bits interleave spiff)))
    (hraw : isRaw input = true) (hcomponents : components = 1 ∨ components = 3)
    (hdepth : 1 ≤ depth ∧ depth ≤ 16) (hread : console.files.read input = .ok bytes) :
    let size := width * height * components * if depth ≤ 8 then 1 else 2
    let answer := run loader images library? arguments console
    (bytes.length ≠ size → ¬(8 < depth ∧ bytes.length = size + 1) →
      answer.1.exit = 1 ∧ answer.2 = console) ∧
    (bytes.length = size ∨ 8 < depth ∧ bytes.length = size + 1 → size < UInt64.size →
      ∃ image, readRaw input ⟨some width, some height, components, depth⟩ console =
          (.ok image, console) ∧
        image.width.toNat = width ∧ image.height.toNat = height ∧
        image.mode.components = components ∧ image.pixels.toBytes = bytes.take size) := by
  intro size answer
  have hbounded := bounded_of_parse hparse
  have hwidth := hbounded.width width rfl
  have hheight := hbounded.height height rfl
  obtain ⟨mode, hmode⟩ := exists_mode_of_raw hcomponents hdepth
  let frame := rawFrame width height components depth
  have hsize : frame.byteSize = size := byteSize_rawFrame hwidth hheight components depth
  have hfits : frame.FitsIn bytes.length ↔
      bytes.length = size ∨ 8 < depth ∧ bytes.length = size + 1 := by
    rw [FrameInfo.FitsIn, hsize]
    exact or_congr_right (and_congr_left fun _ => Int.ofNat_lt)
  constructor
  · intro hwrong hodd
    have hmisfit : ¬frame.FitsIn bytes.length := fun hfit => (hfits.mp hfit).elim hwrong hodd
    obtain ⟨fault, hfailed⟩ := readRaw_of_not_fitsIn hread hmode hmisfit
    obtain ⟨fault, hact⟩ := act_of_readRaw_error hraw hfailed
    have hanswer : answer = _ := run_of_parse hparse console
    rw [hanswer, hact]
    exact ⟨rfl, rfl⟩
  · intro hlength hlimit
    have hfit := hfits.mpr hlength
    rw [← hsize] at hlimit ⊢
    obtain ⟨-, hsame, hdeep⟩ := PixelMode.ofComponents_eq_ok_iff.mp hmode
    refine ⟨_, readRaw_of_fitsIn hread hmode hfit hlimit, UInt32.toNat_ofNat_of_lt' hwidth,
      UInt32.toNat_ofNat_of_lt' hheight, hsame, ?_⟩
    rw [hdeep]
    exact FrameInfo.toBytes_ofBytes_of_fitsIn hfit

theorem isRaw_a_raw : isRaw "a.raw" = true := by
  have hname : "a.raw".splitOn "/" = ["a.raw"] :=
    @splitOn_of_not_mem "a.raw" '/' (by decide +kernel)
  have hparts : "a.raw".splitOn "." = ["a", "raw"] :=
    (splitOn_singleton _ '.').trans (by decide +kernel)
  have hextension : extension? "a.raw" = some "raw" := by
    simp [extension?, fileName?, hname, hparts]
  rw [isRaw, hextension]
  decide +kernel

theorem read_a_raw {bytes : List UInt8} :
    FileStore.read { files := [(["a.raw"], bytes)] } "a.raw" = .ok bytes :=
  FileStore.read_of_place
    (FileStore.place_of_name (by decide +kernel) (by decide) List.not_mem_nil) rfl

theorem encode_measures_raw_one_byte :
    let loader : Loader Unit := fun _ => .error .notFound
    let console : Console Unit := ⟨{ files := [(["a.raw"], [1])] }, ⟨(), []⟩, ""⟩
    let arguments := ["encode", "-i", "a.raw", "-o", "o.jls", "-w", "1", "-H", "1", "--bits", "16"]
    let answer := run loader Pnm.library none arguments console
    answer.1.exit = 1 ∧ answer.2 = console := by
  intro loader console arguments answer
  have hparse : Invocation.parse? arguments = some (.run none
      (.encode "a.raw" "o.jls" ⟨some 1, some 1, 1, 16⟩ none none true)) := by
    decide +kernel
  obtain ⟨hrefused, -⟩ := @encode_measures_raw _ _ _ _ _ _ console _ _ _ _ _ loader Pnm.library none
    _ _ hparse isRaw_a_raw (by decide) (by decide) read_a_raw
  exact hrefused (by decide) (by decide)

/-- Three bytes for the same sample, of which the last one is lost without a word. -/
theorem encode_drops_odd_byte :
    let loader : Loader Loopback.Record := fun _ =>
      .ok (NativeLibrary.ofCodec (Loopback.codec {}))
    let files : FileStore := { files := [(["a.raw"], [1, 2, 3])] }
    let arguments := ["--charls-library", "./stub.so", "encode", "-i", "a.raw", "-o", "o.jls",
      "-w", "1", "-H", "1", "--bits", "16"]
    let answer := run loader Pnm.library none arguments ⟨files, ⟨{}, []⟩, ""⟩
    let header := Spiff.Header.standard 1 1 16 1 .grayscale .dotsPerInch 72 72
    answer.1.exit = 0 ∧ answer.1.error = "" ∧ answer.2.files.read "o.jls" =
      .ok (header.toBytes ++ Loopback.frameBytes ⟨1, 1, 16, 1⟩ .planar [1, 2]) := by
  intro loader files arguments answer header
  let console : Console Loopback.Record := ⟨files, ⟨{}, []⟩, ""⟩
  let raw : RawGeometry := ⟨some 1, some 1, 1, 16⟩
  let library := NativeLibrary.ofCodec (Loopback.codec {})
  let image : SourceImage := ⟨1, 1, .l16, .sixteen [0x0201]⟩
  let stream := header.toBytes ++ Loopback.frameBytes ⟨1, 1, 16, 1⟩ .planar [1, 2]
  have hparse : Invocation.parse? arguments =
      some (.run (some "./stub.so") (.encode "a.raw" "o.jls" raw none none true)) := by
    decide +kernel
  have hread : readRaw "a.raw" raw console = (.ok image, console) :=
    @readRaw_of_fitsIn _ _ console [1, 2, 3] 1 1 1 16 .l16 read_a_raw rfl (.inr (by decide))
      (by decide)
  have hencode : (encode library.codec image { bits := some 16 } console.world).1 = .ok stream := by
    decide +kernel
  have houtput : files.Writable "o.jls" :=
    ⟨_, FileStore.place_of_name (by decide +kernel) (by decide) List.not_mem_nil⟩
  obtain ⟨left, hwrite⟩ := houtput.exists_write stream
  obtain ⟨text, hact⟩ := @act_of_readRaw_ok "a.raw" "o.jls" raw none none true _ console loader
    Pnm.library ⟨some "./stub.so"⟩ isRaw_a_raw library rfl image hread stream _ (Prod.ext hencode rfl) _ hwrite
  have hanswer : answer = _ := run_of_ok hparse hact
  rw [hanswer]
  exact ⟨rfl, rfl, FileStore.read_of_write hwrite⟩

end Command

end JpegLs
