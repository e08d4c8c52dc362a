import JpegLs.Pixels.Scan
import JpegLs.Session.Basic

namespace JpegLs

structure SourceImage where
  width : UInt32
  height : UInt32
  mode : PixelMode
  pixels : PixelBuffer
deriving DecidableEq, Repr

namespace SourceImage

def frame (image : SourceImage) : FrameInfo where
  width := image.width
  height := image.height
  bits := image.mode.bits
  components := image.mode.components

/-- Accepts a buffer with exactly the samples of the image. -/
def make (width height : UInt32) (mode : PixelMode) (pixels : PixelBuffer) :
    Except Error SourceImage :=
  let image : SourceImage := { width, height, mode, pixels }
  match image.frame.sampleCount? with
  | none => .error (.geometry .sampleCountOverflow)
  | some expected =>
      if pixels.length ≠ expected then
        .error (.bufferSize expected pixels.length)
      else
        .ok image

end SourceImage

inductive EncodeState where
  | created
  | frameSet
  | interleaveSet
  | destinationSet
  | spiffWritten
  | encoded
  | closed
deriving DecidableEq, Repr

variable {σ : Type} (codec : Codec σ)

/-- A session with its destination, which is empty until there is one. -/
abbrev EncodeSession := Session codec.Encoder EncodeState (List UInt8)

namespace EncodeSession

abbrev Method (α : Type) := Session.Method σ codec.Encoder EncodeState (List UInt8) α

def kind : Session.Kind σ codec.Encoder EncodeState where
  release := codec.releaseEncoder
  closed := .closed

def start : Task σ (EncodeSession codec) :=
  Session.start .created [] codec.createEncoder

def setFrameInfo (frame : FrameInfo) : Method codec Unit :=
  Session.step (kind codec) [.created] .frameSet (.change (codec.setFrameInfo · frame))

def setInterleave (mode : Interleave) : Method codec Unit :=
  Session.step (kind codec) [.frameSet] .interleaveSet (.change (codec.setInterleave · mode))

def estimate : Method codec Nat := do
  let state := (← get).state
  Session.step (kind codec) [.frameSet, .interleaveSet] state (.query codec.estimatedSize)

/-- Lends the encoder a destination; the encoder is told only its length. -/
def setDestination (destination : List UInt8) : Method codec Unit := do
  Session.step (kind codec) [.frameSet, .interleaveSet] .destinationSet
    (.change (codec.setDestination · destination.length))
  modify fun session => { session with data := destination }

def writeSpiff (space : Spiff.ColorSpace) (units : Spiff.ResolutionUnits)
    (vertical horizontal : UInt32) : Method codec Unit :=
  Session.stepWith (kind codec) [.destinationSet] .spiffWritten
    (.store (codec.writeSpiff · space units vertical horizontal))

def encodeFrom (source : List UInt8) : Method codec Unit :=
  Session.stepWith (kind codec) [.destinationSet, .spiffWritten] .encoded
    (.store (codec.encodeFrom · source))

/-- The number of bytes written.  The encoder is given back. -/
def finish : Method codec Nat := do
  let written ← Session.step (kind codec) [.encoded] .closed (.query codec.bytesWritten)
  Session.close (kind codec)
  if (← get).data.length < written then
    throw (.codec .destinationBufferTooSmall)
  else
    return written

/-- Images of one component have no choice of scan order. -/
def arrange (metadata : Metadata) : Method codec Unit :=
  if 1 < metadata.components then setInterleave codec metadata.interleave else pure ()

def declareSpiff (metadata : Metadata) : Method codec Unit :=
  match metadata.impliedSpiff? with
  | none => pure ()
  | some header => do
      let space ← Spiff.ColorSpace.ofCode header.colorSpace
      let units ← Spiff.ResolutionUnits.ofCode header.units
      writeSpiff codec space units header.verticalResolution header.horizontal

end EncodeSession

def SourceImage.prepare (image : SourceImage) (options : EncodeOptions) :
    Except Error (Metadata × List UInt8) := do
  let metadata ← Metadata.forEncode image.width image.height image.mode options
  let samples := image.pixels.withBits metadata.bits.toNat
  let scan ← samples.toScan metadata.components.toNat metadata.interleave
  return (metadata, scan.toBytes)

/-- Encodes an image; the result holds exactly the bytes the codec wrote. -/
def encode (image : SourceImage) (options : EncodeOptions) : Task σ (List UInt8) := do
  let (metadata, source) ← image.prepare options
  let session ← EncodeSession.start codec
  session.use (EncodeSession.kind codec) do
    EncodeSession.setFrameInfo codec metadata.frame
    EncodeSession.arrange codec metadata
    let size ← EncodeSession.estimate codec
    EncodeSession.setDestination codec (List.replicate size 0)
    EncodeSession.declareSpiff codec metadata
    EncodeSession.encodeFrom codec source
    let written ← EncodeSession.finish codec
    return (← get).data.take written

end JpegLs
