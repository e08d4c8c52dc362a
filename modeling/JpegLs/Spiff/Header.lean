import JpegLs.Bytes
import JpegLs.Frame
import JpegLs.Spiff.Fields

/-!
The SPIFF header in front of a JPEG-LS stream: thirty-six bytes at fixed offsets.  A reader needs
the first thirty-two; the horizontal resolution lies past them.
-/

namespace JpegLs.Spiff

/-- Start of image, then an APP8 segment. -/
def magic : List UInt8 := [0xFF, 0xD8, 0xFF, 0xE8]

def identifier : List UInt8 := [0x53, 0x50, 0x49, 0x46, 0x46, 0x00]

/-- Number of bytes that decide whether a stream is accepted. -/
def prefixLength : Nat := 32

def headerLength : Nat := 36

structure Header where
  segmentLength : UInt16
  majorVersion : UInt8
  minorVersion : UInt8
  profile : UInt8
  components : UInt8
  height : UInt32
  width : UInt32
  colorSpace : UInt8
  bits : UInt8
  compression : UInt8
  units : UInt8
  verticalResolution : UInt32
  /-- Absent when the bytes read end before it. -/
  horizontalResolution : Option UInt32
deriving DecidableEq, Repr

namespace Header

def standard (width height : UInt32) (bits components : UInt8) (space : ColorSpace)
    (units : ResolutionUnits) (vertical horizontal : UInt32) : Header where
  segmentLength := 32
  majorVersion := 2
  minorVersion := 0
  profile := Profile.none.code
  components := components
  height := height
  width := width
  colorSpace := space.code
  bits := bits
  compression := Compression.jpegLs.code
  units := units.code
  verticalResolution := vertical
  horizontalResolution := some horizontal

/-- The vertical resolution stands in for a horizontal one that is absent. -/
def horizontal (header : Header) : UInt32 :=
  header.horizontalResolution.getD header.verticalResolution

def toBytes (header : Header) : List UInt8 :=
  magic ++ bigEndian16 header.segmentLength ++ identifier ++
    [header.majorVersion, header.minorVersion, header.profile, header.components] ++
    bigEndian32 header.height ++ bigEndian32 header.width ++
    [header.colorSpace, header.bits, header.compression, header.units] ++
    bigEndian32 header.verticalResolution ++ bigEndian32 header.horizontal

/-- Reads a header that declares JPEG-LS compression.  The identifier is not looked at. -/
def ofBytes? (bytes : List UInt8) : Option Header :=
  if h : prefixLength ≤ bytes.length then
    have : 31 < bytes.length := h
    if magic <+: bytes ∧ bytes[26] = Compression.jpegLs.code then
      some {
        segmentLength := ofBigEndian16 bytes[4] bytes[5]
        majorVersion := bytes[12]
        minorVersion := bytes[13]
        profile := bytes[14]
        components := bytes[15]
        height := ofBigEndian32 bytes[16] bytes[17] bytes[18] bytes[19]
        width := ofBigEndian32 bytes[20] bytes[21] bytes[22] bytes[23]
        colorSpace := bytes[24]
        bits := bytes[25]
        compression := bytes[26]
        units := bytes[27]
        verticalResolution := ofBigEndian32 bytes[28] bytes[29] bytes[30] bytes[31]
        horizontalResolution :=
          if _ : 36 ≤ bytes.length then
            some (ofBigEndian32 bytes[32] bytes[33] bytes[34] bytes[35])
          else
            none }
    else
      none
  else
    none

def frame (header : Header) : FrameInfo where
  width := header.width
  height := header.height
  bits := header.bits.toNat
  components := header.components.toNat

@[simp] theorem length_toBytes (header : Header) : header.toBytes.length = headerLength := rfl

end Header

end JpegLs.Spiff
