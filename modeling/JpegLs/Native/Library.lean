import JpegLs.Codec.Basic

/-!
The functions of a native codec library, and the codec they make up.  Every function but the
creating and destroying ones returns a status; answers come in out values that hold zeros where
the function leaves them alone.
-/

namespace JpegLs

/-- A library over the state `σ` of its process.  A null handle is `none`. -/
structure NativeLibrary (σ : Type) where
  Decoder : Type
  Encoder : Type
  decoderCreate : StateM σ (Option Decoder)
  decoderDestroy : Decoder → StateM σ Unit
  decoderSetSourceBuffer : Decoder → List UInt8 → StateM σ (Int × Decoder)
  decoderReadHeader : Decoder → StateM σ (Int × Decoder)
  decoderGetFrameInfo : Decoder → StateM σ (Int × FrameInfo)
  decoderGetInterleaveMode : Decoder → StateM σ (Int × Int)
  decoderGetDestinationSize : Decoder → (stride : UInt32) → StateM σ (Int × Nat)
  decoderDecodeToBuffer : Decoder → (length : Nat) → (stride : UInt32) →
    StateM σ (Int × List UInt8)
  encoderCreate : StateM σ (Option Encoder)
  encoderDestroy : Encoder → StateM σ Unit
  encoderSetFrameInfo : Encoder → FrameInfo → StateM σ (Int × Encoder)
  encoderSetInterleaveMode : Encoder → Int → StateM σ (Int × Encoder)
  encoderGetEstimatedDestinationSize : Encoder → StateM σ (Int × Nat)
  encoderSetDestinationBuffer : Encoder → (length : Nat) → StateM σ (Int × Encoder)
  encoderWriteStandardSpiffHeader : Encoder → (space units : Int) →
    (vertical horizontal : UInt32) → StateM σ (Int × Encoder × List Patch)
  encoderEncodeFromBuffer : Encoder → List UInt8 → (stride : UInt32) →
    StateM σ (Int × Encoder × List Patch)
  encoderGetBytesWritten : Encoder → StateM σ (Int × Nat)

namespace NativeLibrary

variable {σ α : Type}

/-- Rows follow each other without padding. -/
def packedStride : UInt32 := 0

def checked (function : StateM σ (Int × α)) : Call σ α := fun state =>
  let ((code, value), state) := function state
  (if code = 0 then .ok value else .error ⟨code⟩, state)

def checkedStoring (function : StateM σ (Int × α × List Patch)) : StoringCall σ α := fun state =>
  let ((code, value, patches), state) := function state
  ((if code = 0 then .ok value else .error ⟨code⟩, patches), state)

/-- A null handle means that memory ran out. -/
def created (function : StateM σ (Option α)) : Call σ α := fun state =>
  let (handle?, state) := function state
  match handle? with
  | some handle => (.ok handle, state)
  | none => (.error CodecFault.notEnoughMemory.status, state)

def interleaveOfCode (code : Int) : Except Status Interleave :=
  match Interleave.ofCode? code with
  | some mode => .ok mode
  | none => .error CodecFault.invalidParameterInterleaveMode.status

def codec (library : NativeLibrary σ) : Codec σ where
  Decoder := library.Decoder
  Encoder := library.Encoder
  createDecoder := created library.decoderCreate
  setSource decoder source := checked (library.decoderSetSourceBuffer decoder source)
  readHeader decoder := checked (library.decoderReadHeader decoder)
  frameInfo decoder := checked (library.decoderGetFrameInfo decoder)
  interleave decoder := do
    interleaveOfCode (← checked (library.decoderGetInterleaveMode decoder))
  destinationSize decoder := checked (library.decoderGetDestinationSize decoder packedStride)
  decodeInto decoder size := checked (library.decoderDecodeToBuffer decoder size packedStride)
  releaseDecoder decoder state := (library.decoderDestroy decoder state).2
  createEncoder := created library.encoderCreate
  setFrameInfo encoder frame := checked (library.encoderSetFrameInfo encoder frame)
  setInterleave encoder mode := checked (library.encoderSetInterleaveMode encoder mode.code)
  estimatedSize encoder := checked (library.encoderGetEstimatedDestinationSize encoder)
  setDestination encoder length := checked (library.encoderSetDestinationBuffer encoder length)
  writeSpiff encoder space units vertical horizontal :=
    checkedStoring (library.encoderWriteStandardSpiffHeader encoder
      space.code.toNat units.code.toNat vertical horizontal)
  encodeFrom encoder source :=
    checkedStoring (library.encoderEncodeFromBuffer encoder source packedStride)
  bytesWritten encoder := checked (library.encoderGetBytesWritten encoder)
  releaseEncoder encoder state := (library.encoderDestroy encoder state).2

end NativeLibrary

end JpegLs
