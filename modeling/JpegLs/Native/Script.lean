import JpegLs.Native.Export

/-!
A native library with some of its answers replaced.  A replaced status keeps the function from
doing anything; a replaced out value makes it succeed.
-/

namespace JpegLs

inductive NativeFunction where
  | decoderSetSourceBuffer
  | decoderReadHeader
  | decoderGetFrameInfo
  | decoderGetInterleaveMode
  | decoderGetDestinationSize
  | decoderDecodeToBuffer
  | encoderSetFrameInfo
  | encoderSetInterleaveMode
  | encoderGetEstimatedDestinationSize
  | encoderSetDestinationBuffer
  | encoderWriteStandardSpiffHeader
  | encoderEncodeFromBuffer
  | encoderGetBytesWritten
deriving DecidableEq, Repr

structure NativeScript where
  status : NativeFunction → Option Int := fun _ => none
  nullDecoder : Bool := false
  nullEncoder : Bool := false
  frameInfo : Option FrameInfo := none
  interleaveMode : Option Int := none
  destinationSize : Option Nat := none
  estimatedSize : Option Nat := none
  bytesWritten : Option Nat := none
  decodeBytes : Option (List UInt8) := none

namespace NativeLibrary

variable {σ α : Type}

/-- The scripted answer of a function if there is one; `zero` stands in its out values when only
the status is scripted. -/
def replaced (status? : Option Int) (value? : Option α) (zero : α)
    (function : StateM σ (Int × α)) : StateM σ (Int × α) :=
  match status?, value? with
  | some code, _ => pure (code, zero)
  | none, some value => pure (0, value)
  | none, none => function

def scripted (script : NativeScript) (library : NativeLibrary σ) : NativeLibrary σ where
  Decoder := library.Decoder
  Encoder := library.Encoder
  decoderCreate := if script.nullDecoder then pure none else library.decoderCreate
  decoderDestroy := library.decoderDestroy
  decoderSetSourceBuffer decoder source :=
    replaced (script.status .decoderSetSourceBuffer) none decoder
      (library.decoderSetSourceBuffer decoder source)
  decoderReadHeader decoder :=
    replaced (script.status .decoderReadHeader) none decoder (library.decoderReadHeader decoder)
  decoderGetFrameInfo decoder :=
    replaced (script.status .decoderGetFrameInfo) script.frameInfo noFrame
      (library.decoderGetFrameInfo decoder)
  decoderGetInterleaveMode decoder :=
    replaced (script.status .decoderGetInterleaveMode) script.interleaveMode 0
      (library.decoderGetInterleaveMode decoder)
  decoderGetDestinationSize decoder stride :=
    replaced (script.status .decoderGetDestinationSize) script.destinationSize 0
      (library.decoderGetDestinationSize decoder stride)
  decoderDecodeToBuffer decoder length stride :=
    replaced (script.status .decoderDecodeToBuffer) script.decodeBytes []
      (library.decoderDecodeToBuffer decoder length stride)
  encoderCreate := if script.nullEncoder then pure none else library.encoderCreate
  encoderDestroy := library.encoderDestroy
  encoderSetFrameInfo encoder frame :=
    replaced (script.status .encoderSetFrameInfo) none encoder
      (library.encoderSetFrameInfo encoder frame)
  encoderSetInterleaveMode encoder code :=
    replaced (script.status .encoderSetInterleaveMode) none encoder
      (library.encoderSetInterleaveMode encoder code)
  encoderGetEstimatedDestinationSize encoder :=
    replaced (script.status .encoderGetEstimatedDestinationSize) script.estimatedSize 0
      (library.encoderGetEstimatedDestinationSize encoder)
  encoderSetDestinationBuffer encoder length :=
    replaced (script.status .encoderSetDestinationBuffer) none encoder
      (library.encoderSetDestinationBuffer encoder length)
  encoderWriteStandardSpiffHeader encoder space units vertical horizontal :=
    replaced (script.status .encoderWriteStandardSpiffHeader) none (encoder, [])
      (library.encoderWriteStandardSpiffHeader encoder space units vertical horizontal)
  encoderEncodeFromBuffer encoder source stride :=
    replaced (script.status .encoderEncodeFromBuffer) none (encoder, [])
      (library.encoderEncodeFromBuffer encoder source stride)
  encoderGetBytesWritten encoder :=
    replaced (script.status .encoderGetBytesWritten) script.bytesWritten 0
      (library.encoderGetBytesWritten encoder)

end NativeLibrary

end JpegLs
