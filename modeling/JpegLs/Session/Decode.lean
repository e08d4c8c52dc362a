import JpegLs.Container
import JpegLs.Pixels.Scan
import JpegLs.Session.Basic

namespace JpegLs

structure DecodedImage where
  metadata : Metadata
  pixels : PixelBuffer
deriving DecidableEq, Repr

inductive DecodeState where
  | created
  | sourceSet
  | headerRead
  | sizeQueried
  | decoded
  | closed
deriving DecidableEq, Repr

structure DecodeFindings where
  metadata? : Option Metadata := none
  size : Nat := 0
deriving DecidableEq, Repr

variable {σ : Type} (codec : Codec σ)

abbrev DecodeSession := Session codec.Decoder DecodeState DecodeFindings

namespace DecodeSession

abbrev Method (α : Type) := Session.Method σ codec.Decoder DecodeState DecodeFindings α

def kind : Session.Kind σ codec.Decoder DecodeState where
  release := codec.releaseDecoder
  closed := .closed

def start : Task σ (DecodeSession codec) :=
  Session.start .created {} codec.createDecoder

def setSource (source : List UInt8) : Method codec Unit :=
  Session.step (kind codec) [.created] .sourceSet (.change (codec.setSource · source))

/-- Reads the headers, and refuses a frame that no pixel mode can represent. -/
def readHeader : Method codec Metadata := do
  let (frame, interleave) ← Session.step (kind codec) [.sourceSet] .headerRead do
    Calls.change codec.readHeader
    return (← Calls.query codec.frameInfo, ← Calls.query codec.interleave)
  match Metadata.ofFrame frame interleave with
  | .ok metadata =>
      modify fun session => { session with data.metadata? := some metadata }
      return metadata
  | .error error =>
      Session.close (kind codec)
      throw error

def querySize : Method codec Nat := do
  let size ← Session.step (kind codec) [.headerRead] .sizeQueried (.query codec.destinationSize)
  modify fun session => { session with data.size := size }
  return size

def image (metadata : Metadata) (stored : List UInt8) : Except Error DecodedImage :=
  let buffer := PixelBuffer.ofBytes stored (.ofBits metadata.bits.toNat)
  match metadata.sampleCount? with
  | none => .error (.format .tooLarge)
  | some expected =>
      if buffer.length ≠ expected then
        .error (.bufferSize expected buffer.length)
      else
        (buffer.ofScan metadata.components.toNat metadata.interleave).map
          fun pixels => { metadata, pixels }

def finish : Method codec DecodedImage := do
  let findings := (← get).data
  let stored ← Session.step (kind codec) [.sizeQueried] .decoded
    (.query (codec.decodeInto · findings.size))
  Session.close (kind codec)
  match findings.metadata? with
  | none => throw (.codec .invalidOperation)
  | some metadata => image metadata (Patch.apply ⟨0, stored⟩ (List.replicate findings.size 0))

end DecodeSession

/-- Decodes a complete stream.  The codec sees only streams whose container is accepted; geometry
is what the codec reports, colors and resolution what the container declares. -/
def decode (source : List UInt8) : Task σ DecodedImage := do
  let container ← Container.metadata source
  let session ← DecodeSession.start codec
  let decoded ← session.use (DecodeSession.kind codec) do
    DecodeSession.setSource codec source
    let _ ← DecodeSession.readHeader codec
    let _ ← DecodeSession.querySize codec
    DecodeSession.finish codec
  if !container.sameGeometry decoded.metadata then
    Task.warn (.frameMismatch container.frame decoded.metadata.frame)
  return { decoded with metadata := { decoded.metadata with
    colorSpace := container.colorSpace
    units := container.units
    verticalResolution := container.verticalResolution } }

end JpegLs
