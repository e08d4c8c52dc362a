import JpegLs.Command.Arguments
import JpegLs.Command.FileStore
import JpegLs.Host.Open
import JpegLs.Host.Writer
import JpegLs.Native.Locate
import JpegLs.Text.Quoted

namespace JpegLs.Command

open Host (HostTask ImageError ImageLibrary Picture)

variable {σ α : Type}

structure Console (σ : Type) where
  files : FileStore
  world : World σ
  output : String := ""

inductive Fault where
  | os (fault : OsFault)
  | stream (error : Error)
  | image (error : ImageError)
  | rawGeometryMissing
deriving DecidableEq, Repr

def Fault.message : Fault → String
  | os fault => fault.message
  | stream error => error.message
  | image error => error.message
  | rawGeometryMissing => "raw input needs --width and --height"

abbrev Action (σ α : Type) := ExceptT Fault (StateM (Console σ)) α

namespace Action

def fromFiles (look : FileStore → Except OsFault α) : Action σ α := fun console =>
  ((look console.files).mapError .os, console)

def readFile (path : String) : Action σ (List UInt8) :=
  fromFiles (·.read path)

def writeFile (path : String) (bytes : List UInt8) : Action σ Unit := fun console =>
  match console.files.write path bytes with
  | .ok files => (.ok (), { console with files })
  | .error fault => (.error (.os fault), console)

def say (line : String) : Action σ Unit :=
  modify fun console => { console with output := console.output ++ line ++ "\n" }

def ofStream (result : Except Error α) : Action σ α :=
  liftM (result.mapError Fault.stream)

def ofImage (result : Except ImageError α) : Action σ α :=
  liftM (result.mapError Fault.image)

def runTask (task : Task σ α) : Action σ α := fun console =>
  let (result, world) := task console.world
  (result.mapError .stream, { console with world })

def runHost (task : HostTask σ α) : Action σ α := fun console =>
  let (result, world) := task console.world
  (result.mapError .image, { console with world })

def withLibrary (loader : Loader σ) (config : LibraryConfig)
    (use : NativeLibrary σ → Action σ α) : Action σ α :=
  match NativeLibrary.load loader config with
  | .ok library => use library
  | .error error => throw (.stream error)

end Action

open JpegLs.Command.Action

def decodeRaw (codec : Codec σ) (data : List UInt8) (output : String) :
    Action σ (UInt32 × UInt32 × Nat) := do
  let decoded ← runTask (decode codec data)
  writeFile output decoded.pixels.toBytes
  let metadata := decoded.metadata
  return (metadata.width, metadata.height, metadata.components.toNat)

def channelCount : Host.Color → Nat
  | .samples channels _ => channels.count
  | .a8 => 1
  | .bgr8 | .rgb32F => 3
  | _ => 4

/-- The output is created before the picture is written to it. -/
def decodeImage (images : ImageLibrary) (codec : Codec σ) (data : List UInt8)
    (output : String) : Action σ (UInt32 × UInt32 × Nat) := do
  let picture ← runHost (Host.openGuessed images codec data)
  let format ← ofImage (images.formatOf (extension? output))
  writeFile output []
  let (bytes, written) := images.write format picture
  writeFile output bytes
  ofImage written
  return (picture.width, picture.height, channelCount picture.color)

def decodeFile (loader : Loader σ) (images : ImageLibrary) (config : LibraryConfig)
    (input output : String) (format : OutputFormat) : Action σ Unit := do
  let data ← readFile input
  let (width, height, components) ← withLibrary loader config fun library =>
    match format with
    | .raw => decodeRaw library.codec data output
    | .image => decodeImage images library.codec data output
  say (s!"✓ Decoded {width}x{height} image ({components} components) to " ++
    Quoted.quote output)

def isRaw (path : String) : Bool :=
  (extension? path).any (·.toLower = "raw")

/-- Raw samples: bytes up to eight bits, two bytes above, of which an odd last one is dropped. -/
def readRaw (input : String) (raw : RawGeometry) : Action σ SourceImage := do
  match raw.width, raw.height with
  | some width, some height =>
      let mode ← ofStream (PixelMode.ofComponents raw.components raw.bits)
      let bytes ← readFile input
      ofStream (SourceImage.make (UInt32.ofNat width) (UInt32.ofNat height) mode
        (.ofBytes bytes mode.width))
  | _, _ => throw .rawGeometryMissing

def encodeRaw (codec : Codec σ) (input output : String) (raw : RawGeometry)
    (options : EncodeOptions) : Action σ (UInt32 × UInt32) := do
  let image ← readRaw input raw
  let options := { options with bits := options.bits <|> some (UInt8.ofNat raw.bits) }
  let encoded ← runTask (encode codec image options)
  writeFile output encoded
  return (image.width, image.height)

/-- The file is opened before its name is asked for the format; an empty extension counts as
none. -/
def openImage (images : ImageLibrary) (input : String) : Action σ Picture := do
  let _ ← fromFiles (·.openPlace input)
  let format ← ofImage (images.formatOf ((extension? input).filter (· ≠ "")))
  let data ← readFile input
  ofImage (images.read format data)

/-- The output is created before the picture is encoded. -/
def encodeImage (images : ImageLibrary) (codec : Codec σ) (input output : String)
    (options : EncodeOptions) : Action σ (UInt32 × UInt32) := do
  let picture ← openImage images input
  writeFile output []
  let encoded ← runHost (Host.save codec options picture)
  writeFile output encoded
  return (picture.width, picture.height)

def encodeFile (loader : Loader σ) (images : ImageLibrary) (config : LibraryConfig)
    (input output : String) (raw : RawGeometry) (options : EncodeOptions) : Action σ Unit := do
  let (width, height) ← withLibrary loader config fun library =>
    if isRaw input then encodeRaw library.codec input output raw options
    else encodeImage images library.codec input output options
  say (s!"✓ Encoded {width}x{height} image to " ++ Quoted.quote output ++
    s!" with CharLS ({config.name})")

def unitText : Spiff.ResolutionUnits → String
  | .aspectRatio => "aspect ratio"
  | .dotsPerInch => "dpi"
  | .dotsPerCentimeter => "dots/cm"

def spiffLines (header : Spiff.Header) : List String :=
  let space := match Spiff.ColorSpace.ofCode? header.colorSpace with
    | some space => space.name
    | none => s!"unknown ({header.colorSpace})"
  let resolution := match Spiff.ResolutionUnits.ofCode? header.units with
    | some units => [s!"Vertical resolution: {header.verticalResolution} {unitText units}"]
    | none => []
  [s!"Container: SPIFF {header.majorVersion}.{header.minorVersion}", s!"Color space: {space}"] ++
    resolution

def containerLines (data : List UInt8) : List String :=
  match Spiff.Header.ofBytes? data with
  | some header => spiffLines header
  | none => ["Container: JPEG-LS frame (no SPIFF header)"]

def showFile (input : String) : Action σ Unit := do
  let data ← readFile input
  say s!"File: {Quoted.quote input}"
  say s!"Size: {data.length} bytes"
  say ""
  let metadata ← ofStream (Container.metadata data)
  (containerLines data).forM say
  say s!"Dimensions: {metadata.width}x{metadata.height}"
  say s!"Bits per sample: {metadata.bits}"
  say s!"Components: {metadata.components}"
  let mode ← ofStream metadata.mode
  say s!"Pixel mode: {mode.name}"
  if metadata.colorSpace = some Spiff.ColorSpace.rgb.code ∧ metadata.components ≠ 3 then
    say s!"Warning: RGB color space declared for {metadata.components} components"

structure Outcome where
  exit : UInt32
  output : String
  error : String
deriving DecidableEq, Repr

def programName : String := "jplsimage"

def version : String := "0.1.0"

def usage : String :=
  s!"Usage: {programName} [OPTIONS] <COMMAND>\n"

def Request.act (loader : Loader σ) (images : ImageLibrary) (config : LibraryConfig) :
    Request → Action σ Unit
  | .decode input output format => decodeFile loader images config input output format
  | .encode input output raw bits interleave spiff =>
      encodeFile loader images config input output raw { bits, interleave, spiff }
  | .info input => showFile input

def run (loader : Loader σ) (images : ImageLibrary) (library? : Option String)
    (arguments : List String) (console : Console σ) : Outcome × Console σ :=
  match Invocation.parse? arguments with
  | none => ({ exit := 2, output := "", error := usage }, console)
  | some .version => ({ exit := 0, output := s!"{programName} {version}\n", error := "" }, console)
  | some (.run path? request) =>
      let fallback := LibraryConfig.ofEnvironment library?
      let config := match path? with
        | some path => fallback.withPath path
        | none => fallback
      match request.act loader images config console with
      | (.ok (), console) =>
          ({ exit := 0, output := console.output, error := "" }, console)
      | (.error fault, console) =>
          ({ exit := 1, output := console.output, error := s!"Error: {fault.message}\n" }, console)

end JpegLs.Command
