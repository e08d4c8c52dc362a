import JpegLs.Native.Library

/-!
A codec offered as a native library: zero and the answer for a call that succeeds, the status and
zeros for one that fails, a null handle for a creation that fails, codes for enumerated values.
-/

namespace JpegLs.NativeLibrary

variable {σ α : Type}

def answered (zero : α) (op : Call σ α) : StateM σ (Int × α) := fun state =>
  match op state with
  | (.ok value, state) => ((0, value), state)
  | (.error status, state) => ((status.code, zero), state)

/-- What has been stored is told along with a status as well. -/
def answeredStoring (zero : α) (op : StoringCall σ α) : StateM σ (Int × α × List Patch) :=
  fun state =>
    match op state with
    | ((.ok value, patches), state) => ((0, value, patches), state)
    | ((.error status, patches), state) => ((status.code, zero, patches), state)

def handle? (op : Call σ α) : StateM σ (Option α) := fun state =>
  match op state with
  | (.ok handle, state) => (some handle, state)
  | (.error _, state) => (none, state)

def noFrame : FrameInfo := ⟨0, 0, 0, 0⟩

/-- Runs `op` on the value a code stands for; the code of no value is an invalid argument. -/
def decoded {β : Type} (fault : CodecFault) (value? : Option β) (op : β → Call σ α) :
    Call σ α :=
  match value? with
  | some value => op value
  | none => throw fault.status

def byte? (code : Int) : Option UInt8 :=
  if 0 ≤ code ∧ code < 256 then some (UInt8.ofNat code.toNat) else none

def ofCodec (codec : Codec σ) : NativeLibrary σ where
  Decoder := codec.Decoder
  Encoder := codec.Encoder
  decoderCreate := handle? codec.createDecoder
  decoderDestroy decoder state := ((), codec.releaseDecoder decoder state)
  decoderSetSourceBuffer decoder source := answered decoder (codec.setSource decoder source)
  decoderReadHeader decoder := answered decoder (codec.readHeader decoder)
  decoderGetFrameInfo decoder := answered noFrame (codec.frameInfo decoder)
  decoderGetInterleaveMode decoder :=
    answered 0 (Interleave.code <$> codec.interleave decoder)
  decoderGetDestinationSize decoder _ := answered 0 (codec.destinationSize decoder)
  decoderDecodeToBuffer decoder length _ := answered [] (codec.decodeInto decoder length)
  encoderCreate := handle? codec.createEncoder
  encoderDestroy encoder state := ((), codec.releaseEncoder encoder state)
  encoderSetFrameInfo encoder frame := answered encoder (codec.setFrameInfo encoder frame)
  encoderSetInterleaveMode encoder code :=
    answered encoder (decoded .invalidArgumentInterleaveMode (Interleave.ofCode? code)
      (codec.setInterleave encoder))
  encoderGetEstimatedDestinationSize encoder := answered 0 (codec.estimatedSize encoder)
  encoderSetDestinationBuffer encoder length :=
    answered encoder (codec.setDestination encoder length)
  encoderWriteStandardSpiffHeader encoder space units vertical horizontal :=
    answeredStoring encoder <|
      match (byte? space).bind Spiff.ColorSpace.ofCode?,
        (byte? units).bind Spiff.ResolutionUnits.ofCode? with
      | some space, some units => codec.writeSpiff encoder space units vertical horizontal
      | _, _ => Call.storing (throw CodecFault.invalidArgument.status)
  encoderEncodeFromBuffer encoder source _ :=
    answeredStoring encoder (codec.encodeFrom encoder source)
  encoderGetBytesWritten encoder := answered 0 (codec.bytesWritten encoder)

end JpegLs.NativeLibrary
