import JpegLs.Metadata

/-!
Recognizing a stream by its first bytes.  It starts with a SPIFF header, or directly with the
frame segment of the code stream; both tell the geometry of the image.
-/

namespace JpegLs.Container

def frameMagic : List UInt8 := [0xFF, 0xD8, 0xFF, 0xF7]

def isJpegLs (bytes : List UInt8) : Bool :=
  Spiff.magic <+: bytes ∨ frameMagic <+: bytes

def frame? (bytes : List UInt8) : Option FrameInfo :=
  if h : 12 ≤ bytes.length then
    have : 11 < bytes.length := h
    if frameMagic <+: bytes then
      some {
        bits := bytes[6].toNat
        height := UInt32.ofNat (ofBigEndian16 bytes[7] bytes[8]).toNat
        width := UInt32.ofNat (ofBigEndian16 bytes[9] bytes[10]).toNat
        components := bytes[11].toNat }
    else
      none
  else
    none

def rejection (bytes : List UInt8) : FormatFault :=
  if Spiff.magic <+: bytes then
    if bytes.length < Spiff.prefixLength then .truncatedSpiffHeader else .otherCompression
  else if frameMagic <+: bytes then
    .truncatedFrameSegment
  else
    .unrecognizedMagic

def metadata (bytes : List UInt8) : Except Error Metadata :=
  match Spiff.Header.ofBytes? bytes with
  | some header => Metadata.ofSpiff header
  | none =>
      match frame? bytes with
      | some frame => Metadata.ofFrame frame .planar
      | none => .error (.format (rejection bytes))

end JpegLs.Container
