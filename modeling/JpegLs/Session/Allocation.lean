import JpegLs.Session.Decode
import JpegLs.Session.Encode

/-!
Buffers of a size the codec reports.  A size beyond any allocation stops a run where it stands;
what it holds is given back on the way out, so that the codec sees no call but a release.
-/

namespace JpegLs

/-- The size in bytes of the largest buffer there can be. -/
def largestBuffer : Nat := UInt64.size / 2 - 1

structure CapacityOverflow where
  size : Nat
deriving DecidableEq, Repr

def CapacityOverflow.message (_ : CapacityOverflow) : String := "capacity overflow"

/-- Why a run has no value to return: an error it returns instead, or a buffer beyond any. -/
inductive Stop where
  | error (error : Error)
  | overflow (fault : CapacityOverflow)
deriving DecidableEq, Repr

abbrev StoppableTask (σ α : Type) := ExceptT Stop (Run σ) α

def allocate (size : Nat) : Except Stop Unit :=
  if largestBuffer < size then .error (.overflow ⟨size⟩) else .ok ()

variable {σ : Type} (codec : Codec σ)

def decodeAllocating (source : List UInt8) : StoppableTask σ DecodedImage := do
  let container ← (Container.metadata source).mapError Stop.error
  let session ← (DecodeSession.start codec).adapt Stop.error
  let decoded ← session.use (DecodeSession.kind codec) do
    let size ← ExceptT.adapt Stop.error do
      DecodeSession.setSource codec source
      let _ ← DecodeSession.readHeader codec
      DecodeSession.querySize codec
    allocate size
    (DecodeSession.finish codec).adapt Stop.error
  ExceptT.adapt Stop.error do
    if !container.sameGeometry decoded.metadata then
      Task.warn (.frameMismatch container.frame decoded.metadata.frame)
    return { decoded with metadata := { decoded.metadata with
      colorSpace := container.colorSpace
      units := container.units
      verticalResolution := container.verticalResolution } }

def encodeAllocating (image : SourceImage) (options : EncodeOptions) :
    StoppableTask σ (List UInt8) := do
  let (metadata, source) ← (image.prepare options).mapError Stop.error
  let session ← (EncodeSession.start codec).adapt Stop.error
  session.use (EncodeSession.kind codec) do
    let size ← ExceptT.adapt Stop.error do
      EncodeSession.setFrameInfo codec metadata.frame
      EncodeSession.arrange codec metadata
      EncodeSession.estimate codec
    allocate size
    ExceptT.adapt Stop.error do
      EncodeSession.setDestination codec (List.replicate size 0)
      EncodeSession.declareSpiff codec metadata
      EncodeSession.encodeFrom codec source
      let written ← EncodeSession.finish codec
      return (← get).data.take written

end JpegLs
