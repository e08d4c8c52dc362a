import JpegLs.Codec.Basic

/-!
A codec without compression.  It stores samples as they are behind the same container a real
encoder writes, keeps a record of every call, and fails at one chosen step if asked to.
-/

namespace JpegLs.Loopback

inductive Step where
  | createDecoder
  | setSourceBuffer
  | readHeader
  | frameInfo
  | interleaveMode
  | destinationSize
  | decodeToBuffer
  | createEncoder
  | setFrameInfo
  | setInterleaveMode
  | estimatedDestinationSize
  | setDestinationBuffer
  | writeSpiffHeader
  | encodeFromBuffer
  | bytesWritten
deriving DecidableEq, Repr

structure Config where
  failAt : Option (Step × Status) := none
  /-- Added to every answer about bytes written. -/
  overReport : Nat := 0
deriving DecidableEq, Repr

structure Record where
  calls : List Step := []
  created : Nat := 0
  destroyed : Nat := 0
  encoderInput : List UInt8 := []
  encoderInterleave : Option Interleave := none
  estimatedSize : Nat := 0
deriving DecidableEq, Repr

structure StoredFrame where
  frame : FrameInfo
  interleave : Interleave
  offset : Nat
deriving DecidableEq, Repr

structure Decoder where
  source : Option (List UInt8) := none
  stored : Option StoredFrame := none
deriving DecidableEq, Repr

structure Encoder where
  frame : Option FrameInfo := none
  interleave : Interleave := .planar
  capacity : Option Nat := none
  position : Nat := 0
deriving DecidableEq, Repr

def startOfImage : List UInt8 := [0xFF, 0xD8]

def slack : Nat := 64

def imageSize (frame : FrameInfo) : Nat :=
  frame.samples * (SampleWidth.ofBits frame.bits.toNat).bytes

def frameSegment (frame : FrameInfo) : List UInt8 :=
  let components := UInt8.ofNat frame.components.toNat
  [0xFF, 0xF7] ++ bigEndian16 (UInt16.ofNat (8 + 3 * components.toNat)) ++
    [UInt8.ofNat frame.bits.toNat] ++
    bigEndian16 (UInt16.ofNat frame.height.toNat) ++
    bigEndian16 (UInt16.ofNat frame.width.toNat) ++
    [components] ++
    (List.range components.toNat).flatMap fun index => [UInt8.ofNat (index + 1), 0x11, 0]

/-- An encoded image behind whatever header stands first, in the pieces it is written in. -/
def frameSegments (frame : FrameInfo) (interleave : Interleave) (samples : List UInt8) :
    List (List UInt8) :=
  [frameSegment frame, [UInt8.ofNat interleave.code.toNat], samples]

def estimate (frame : FrameInfo) : Nat :=
  Spiff.headerLength + (frameSegment frame).length + 1 + imageSize frame + slack

/-- The frame segment comes behind a SPIFF header, or else right behind the start of image. -/
def segmentOffset? (source : List UInt8) : Option Nat :=
  if Spiff.magic <+: source then some Spiff.headerLength
  else if startOfImage <+: source then some startOfImage.length
  else none

def findFrame (source : List UInt8) : Except Status StoredFrame :=
  match segmentOffset? source with
  | none => .error CodecFault.startOfImageMarkerNotFound.status
  | some offset =>
      match source.drop offset with
      | 0xFF :: 0xF7 :: l1 :: l0 :: bits :: h1 :: h0 :: w1 :: w0 :: components :: _ =>
          let modeOffset := offset + 2 + (ofBigEndian16 l1 l0).toNat
          match source[modeOffset]?.bind fun code => Interleave.ofCode? code.toNat with
          | some interleave => .ok {
              frame := {
                bits := bits.toNat
                height := UInt32.ofNat (ofBigEndian16 h1 h0).toNat
                width := UInt32.ofNat (ofBigEndian16 w1 w0).toNat
                components := components.toNat }
              interleave
              offset := modeOffset + 1 }
          | none => .error CodecFault.invalidEncodedData.status
      | _ => .error CodecFault.startOfFrameMarkerNotFound.status

def enter (config : Config) (step : Step) : Call Record Unit := do
  modify fun record => { record with calls := record.calls ++ [step] }
  match config.failAt with
  | some (failing, status) => if failing = step then throw status
  | none => pure ()

def expect {α : Type} (fault : CodecFault) : Option α → Call Record α
  | some value => pure value
  | none => throw fault.status

def Decoder.readHeader (decoder : Decoder) : Call Record Decoder := do
  let source ← expect .invalidOperation decoder.source
  match findFrame source with
  | .ok stored => return { decoder with stored }
  | .error status => throw status

def Decoder.decode (decoder : Decoder) (size : Nat) : Call Record (List UInt8) := do
  let stored ← expect .invalidOperation decoder.stored
  let source ← expect .invalidOperation decoder.source
  let needed := imageSize stored.frame
  if size < needed then
    throw CodecFault.destinationBufferTooSmall.status
  else if source.length < stored.offset + needed then
    throw CodecFault.sourceBufferTooSmall.status
  else
    return (source.drop stored.offset).take needed

def frameFault? (frame : FrameInfo) : Option CodecFault :=
  if frame.width = 0 ∨ 65535 < frame.width then some .invalidArgumentWidth
  else if frame.height = 0 ∨ 65535 < frame.height then some .invalidArgumentHeight
  else if frame.bits < 2 ∨ 16 < frame.bits then some .invalidArgumentBitsPerSample
  else if frame.components < 1 ∨ 255 < frame.components then some .invalidArgumentComponentCount
  else none

def Encoder.write (encoder : Encoder) (bytes : List UInt8) : Except Status (Encoder × Patch) :=
  match encoder.capacity with
  | none => .error CodecFault.invalidOperation.status
  | some capacity =>
      if capacity < encoder.position + bytes.length then
        .error CodecFault.destinationBufferTooSmall.status
      else
        .ok ({ encoder with position := encoder.position + bytes.length },
          { offset := encoder.position, bytes })

/-- Stores segments one by one.  The first that does not fit ends it; those in front of it stay. -/
def Encoder.writeAll (encoder : Encoder) :
    List (List UInt8) → Except Status Encoder × List Patch
  | [] => (.ok encoder, [])
  | segment :: rest =>
      match encoder.write segment with
      | .error status => (.error status, [])
      | .ok (encoder, patch) =>
          let (result, patches) := encoder.writeAll rest
          (result, patch :: patches)

def Encoder.writeSpiff (encoder : Encoder) (space : Spiff.ColorSpace)
    (units : Spiff.ResolutionUnits) (vertical horizontal : UInt32) :
    Call Record (Except Status Encoder × List Patch) := do
  let frame ← expect .invalidOperation encoder.frame
  if encoder.position ≠ 0 then
    throw CodecFault.invalidOperation.status
  else
    return encoder.writeAll [(Spiff.Header.standard frame.width frame.height
      (UInt8.ofNat frame.bits.toNat) (UInt8.ofNat frame.components.toNat)
      space units vertical horizontal).toBytes]

def Encoder.encode (encoder : Encoder) (source : List UInt8) :
    Call Record (Except Status Encoder × List Patch) := do
  let frame ← expect .invalidOperation encoder.frame
  modify fun record => { record with encoderInput := source }
  if source.length ≠ imageSize frame then
    throw CodecFault.invalidArgument.status
  else
    let lead := if encoder.position = 0 then [startOfImage] else []
    return encoder.writeAll
      (lead ++ frameSegments frame encoder.interleave source)

def codec (config : Config) : Codec Record where
  Decoder := Decoder
  Encoder := Encoder
  createDecoder := do
    enter config .createDecoder
    modify fun record => { record with created := record.created + 1 }
    return {}
  setSource decoder source := do
    enter config .setSourceBuffer
    return { decoder with source }
  readHeader decoder := do
    enter config .readHeader
    decoder.readHeader
  frameInfo decoder := do
    enter config .frameInfo
    return (← expect .invalidOperation decoder.stored).frame
  interleave decoder := do
    enter config .interleaveMode
    return (← expect .invalidOperation decoder.stored).interleave
  destinationSize decoder := do
    enter config .destinationSize
    return imageSize (← expect .invalidOperation decoder.stored).frame
  decodeInto decoder size := do
    enter config .decodeToBuffer
    decoder.decode size
  releaseDecoder _ record := { record with destroyed := record.destroyed + 1 }
  createEncoder := do
    enter config .createEncoder
    modify fun record =>
      { record with created := record.created + 1, encoderInterleave := none }
    return {}
  setFrameInfo encoder frame := do
    enter config .setFrameInfo
    match frameFault? frame with
    | some fault => throw fault.status
    | none => return { encoder with frame }
  setInterleave encoder mode := do
    enter config .setInterleaveMode
    modify fun record => { record with encoderInterleave := some mode }
    return { encoder with interleave := mode }
  estimatedSize encoder := do
    enter config .estimatedDestinationSize
    let size := estimate (← expect .invalidOperation encoder.frame)
    modify fun record => { record with estimatedSize := size }
    return size
  setDestination encoder length := do
    enter config .setDestinationBuffer
    let _ ← expect .invalidOperation encoder.frame
    return { encoder with capacity := some length, position := 0 }
  writeSpiff encoder space units vertical horizontal := Call.storing do
    enter config .writeSpiffHeader
    encoder.writeSpiff space units vertical horizontal
  encodeFrom encoder source := Call.storing do
    enter config .encodeFromBuffer
    encoder.encode source
  bytesWritten encoder := do
    enter config .bytesWritten
    return encoder.position + config.overReport
  releaseEncoder _ record := { record with destroyed := record.destroyed + 1 }

end JpegLs.Loopback
