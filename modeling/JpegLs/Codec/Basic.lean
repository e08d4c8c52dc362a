import JpegLs.Metadata

/-!
What a codec offers to a session: decoders and encoders, each driven one call after another and
given back once.  The codec is open to any behavior: its calls share a state of its own choice,
and each of them may fail with any status.
-/

namespace JpegLs

abbrev Call (σ α : Type) := ExceptT Status (StateM σ) α

/-- Bytes an encoder stores in its destination, from `offset` on. -/
structure Patch where
  offset : Nat
  bytes : List UInt8
deriving DecidableEq, Repr

/-- What falls outside the buffer is lost; the buffer keeps its length. -/
def Patch.apply (patch : Patch) (buffer : List UInt8) : List UInt8 :=
  (buffer.take patch.offset ++ patch.bytes ++
    buffer.drop (patch.offset + patch.bytes.length)).take buffer.length

@[simp] theorem Patch.length_apply (patch : Patch) (buffer : List UInt8) :
    (patch.apply buffer).length = buffer.length := by
  simp only [Patch.apply, List.length_take, List.length_append, List.length_drop]
  omega

namespace Patch

def applyAll (patches : List Patch) (buffer : List UInt8) : List UInt8 :=
  patches.foldl (fun buffer patch => patch.apply buffer) buffer

@[simp] theorem applyAll_nil (buffer : List UInt8) : applyAll [] buffer = buffer := rfl

@[simp] theorem applyAll_cons (patch : Patch) (rest : List Patch) (buffer : List UInt8) :
    applyAll (patch :: rest) buffer = applyAll rest (patch.apply buffer) := rfl

@[simp] theorem length_applyAll (patches : List Patch) (buffer : List UInt8) :
    (applyAll patches buffer).length = buffer.length := by
  induction patches generalizing buffer with
  | nil => rfl
  | cons patch rest ih => rw [applyAll_cons, ih, length_apply]

end Patch

/-- A call that stores bytes in the destination of an encoder, where they stay if it fails. -/
abbrev StoringCall (σ α : Type) := StateM σ (Except Status α × List Patch)

def Call.storing {σ α : Type} (call : Call σ (Except Status α × List Patch)) :
    StoringCall σ α := fun state =>
  match call state with
  | (.ok stored, state) => (stored, state)
  | (.error status, state) => ((.error status, []), state)

def StoringCall.toCall {σ α : Type} (call : StoringCall σ α) : Call σ (α × List Patch) :=
  fun state =>
    match call state with
    | ((.ok value, patches), state) => (.ok (value, patches), state)
    | ((.error status, _), state) => (.error status, state)

structure Codec (σ : Type) where
  Decoder : Type
  Encoder : Type
  createDecoder : Call σ Decoder
  setSource : Decoder → List UInt8 → Call σ Decoder
  readHeader : Decoder → Call σ Decoder
  frameInfo : Decoder → Call σ FrameInfo
  interleave : Decoder → Call σ Interleave
  destinationSize : Decoder → Call σ Nat
  /-- The bytes it stores at the front of a zeroed destination of `size` bytes. -/
  decodeInto : Decoder → (size : Nat) → Call σ (List UInt8)
  releaseDecoder : Decoder → σ → σ
  createEncoder : Call σ Encoder
  setFrameInfo : Encoder → FrameInfo → Call σ Encoder
  setInterleave : Encoder → Interleave → Call σ Encoder
  estimatedSize : Encoder → Call σ Nat
  /-- Tells the length of the destination; what is stored there is told by later calls. -/
  setDestination : Encoder → (length : Nat) → Call σ Encoder
  writeSpiff : Encoder → Spiff.ColorSpace → Spiff.ResolutionUnits →
    (vertical horizontal : UInt32) → StoringCall σ Encoder
  encodeFrom : Encoder → List UInt8 → StoringCall σ Encoder
  bytesWritten : Encoder → Call σ Nat
  releaseEncoder : Encoder → σ → σ

end JpegLs
