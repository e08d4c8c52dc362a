import JpegLs.Session.Decode
import JpegLs.Session.Encode

namespace JpegLs

variable {σ : Type} (codec : Codec σ)

inductive DecodeCommand where
  | setSource (source : List UInt8)
  | readHeader
  | querySize
  | finish
deriving DecidableEq, Repr

inductive DecodeReply where
  | done
  | metadata (metadata : Metadata)
  | size (size : Nat)
  | image (image : DecodedImage)
deriving DecidableEq, Repr

def DecodeSession.perform : DecodeCommand → Method codec DecodeReply
  | .setSource source => (fun () => .done) <$> setSource codec source
  | .readHeader => .metadata <$> readHeader codec
  | .querySize => .size <$> querySize codec
  | .finish => .image <$> finish codec

inductive EncodeCommand where
  | setFrameInfo (frame : FrameInfo)
  | setInterleave (mode : Interleave)
  | estimate
  | setDestination (destination : List UInt8)
  | writeSpiff (space : Spiff.ColorSpace) (units : Spiff.ResolutionUnits)
      (vertical horizontal : UInt32)
  | encodeFrom (source : List UInt8)
  | finish
deriving DecidableEq, Repr

inductive EncodeReply where
  | done
  | size (size : Nat)
  | written (count : Nat)
deriving DecidableEq, Repr

def EncodeSession.perform : EncodeCommand → Method codec EncodeReply
  | .setFrameInfo frame => (fun () => .done) <$> setFrameInfo codec frame
  | .setInterleave mode => (fun () => .done) <$> setInterleave codec mode
  | .estimate => .size <$> estimate codec
  | .setDestination destination => (fun () => .done) <$> setDestination codec destination
  | .writeSpiff space units vertical horizontal =>
      (fun () => .done) <$> writeSpiff codec space units vertical horizontal
  | .encodeFrom source => (fun () => .done) <$> encodeFrom codec source
  | .finish => .written <$> finish codec

end JpegLs
