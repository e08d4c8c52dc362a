import JpegLs.Native.Library

namespace JpegLs

inductive NativeCall where
  | decoderCreate
  | decoderDestroy
  | decoderSetSourceBuffer (length : Nat)
  | decoderReadHeader
  | decoderGetFrameInfo
  | decoderGetInterleaveMode
  | decoderGetDestinationSize (stride : UInt32)
  | decoderDecodeToBuffer (length : Nat) (stride : UInt32)
  | encoderCreate
  | encoderDestroy
  | encoderSetFrameInfo (frame : FrameInfo)
  | encoderSetInterleaveMode (code : Int)
  | encoderGetEstimatedDestinationSize
  | encoderSetDestinationBuffer (length : Nat)
  | encoderWriteStandardSpiffHeader (space units : Int) (vertical horizontal : UInt32)
  | encoderEncodeFromBuffer (length : Nat) (stride : UInt32)
  | encoderGetBytesWritten
deriving DecidableEq, Repr

def NativeCall.line : NativeCall → String
  | decoderCreate => "decoder_create()"
  | decoderDestroy => "decoder_destroy()"
  | decoderSetSourceBuffer length => s!"decoder_set_source_buffer(len={length})"
  | decoderReadHeader => "decoder_read_header()"
  | decoderGetFrameInfo => "decoder_get_frame_info()"
  | decoderGetInterleaveMode => "decoder_get_interleave_mode()"
  | decoderGetDestinationSize stride => s!"decoder_get_destination_size(stride={stride})"
  | decoderDecodeToBuffer length stride =>
      s!"decoder_decode_to_buffer(len={length},stride={stride})"
  | encoderCreate => "encoder_create()"
  | encoderDestroy => "encoder_destroy()"
  | encoderSetFrameInfo frame =>
      s!"encoder_set_frame_info({frame.width},{frame.height},{frame.bits},{frame.components})"
  | encoderSetInterleaveMode code => s!"encoder_set_interleave_mode({code})"
  | encoderGetEstimatedDestinationSize => "encoder_get_estimated_destination_size()"
  | encoderSetDestinationBuffer length => s!"encoder_set_destination_buffer(len={length})"
  | encoderWriteStandardSpiffHeader space units vertical horizontal =>
      s!"encoder_write_standard_spiff_header({space},{units},{vertical},{horizontal})"
  | encoderEncodeFromBuffer length stride =>
      s!"encoder_encode_from_buffer(len={length},stride={stride})"
  | encoderGetBytesWritten => "encoder_get_bytes_written()"

namespace NativeLibrary

variable {σ α : Type}

def noted (call : NativeCall) (function : StateM σ α) : StateM (σ × List NativeCall) α :=
  fun (state, calls) =>
    let (answer, state) := function state
    (answer, state, calls ++ [call])

def traced (library : NativeLibrary σ) : NativeLibrary (σ × List NativeCall) where
  Decoder := library.Decoder
  Encoder := library.Encoder
  decoderCreate := noted .decoderCreate library.decoderCreate
  decoderDestroy decoder := noted .decoderDestroy (library.decoderDestroy decoder)
  decoderSetSourceBuffer decoder source :=
    noted (.decoderSetSourceBuffer source.length) (library.decoderSetSourceBuffer decoder source)
  decoderReadHeader decoder := noted .decoderReadHeader (library.decoderReadHeader decoder)
  decoderGetFrameInfo decoder := noted .decoderGetFrameInfo (library.decoderGetFrameInfo decoder)
  decoderGetInterleaveMode decoder :=
    noted .decoderGetInterleaveMode (library.decoderGetInterleaveMode decoder)
  decoderGetDestinationSize decoder stride :=
    noted (.decoderGetDestinationSize stride) (library.decoderGetDestinationSize decoder stride)
  decoderDecodeToBuffer decoder length stride :=
    noted (.decoderDecodeToBuffer length stride)
      (library.decoderDecodeToBuffer decoder length stride)
  encoderCreate := noted .encoderCreate library.encoderCreate
  encoderDestroy encoder := noted .encoderDestroy (library.encoderDestroy encoder)
  encoderSetFrameInfo encoder frame :=
    noted (.encoderSetFrameInfo frame) (library.encoderSetFrameInfo encoder frame)
  encoderSetInterleaveMode encoder code :=
    noted (.encoderSetInterleaveMode code) (library.encoderSetInterleaveMode encoder code)
  encoderGetEstimatedDestinationSize encoder :=
    noted .encoderGetEstimatedDestinationSize (library.encoderGetEstimatedDestinationSize encoder)
  encoderSetDestinationBuffer encoder length :=
    noted (.encoderSetDestinationBuffer length)
      (library.encoderSetDestinationBuffer encoder length)
  encoderWriteStandardSpiffHeader encoder space units vertical horizontal :=
    noted (.encoderWriteStandardSpiffHeader space units vertical horizontal)
      (library.encoderWriteStandardSpiffHeader encoder space units vertical horizontal)
  encoderEncodeFromBuffer encoder source stride :=
    noted (.encoderEncodeFromBuffer source.length stride)
      (library.encoderEncodeFromBuffer encoder source stride)
  encoderGetBytesWritten encoder :=
    noted .encoderGetBytesWritten (library.encoderGetBytesWritten encoder)

end NativeLibrary

end JpegLs
