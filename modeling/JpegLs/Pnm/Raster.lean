import JpegLs.Pixels.Buffer
import JpegLs.Pnm.Header

namespace JpegLs.Pnm

open Host (Channels Color Depth Picture)

def bitDigits : (count : Nat) → List UInt8 → Except Fault (List UInt8)
  | 0, _ => .ok []
  | _ + 1, [] => .error .fewSamples
  | count + 1, byte :: rest =>
      if isBlank byte then bitDigits (count + 1) rest
      else if byte == 48 then (1 :: ·) <$> bitDigits count rest
      else if byte == 49 then (0 :: ·) <$> bitDigits count rest
      else .error (.unexpectedByte byte)

def decimal (read : Option Nat) : List UInt8 → Except Fault (Nat × List UInt8)
  | [] =>
      match read with
      | some n => .ok (n, [])
      | none => .error .fewSamples
  | byte :: rest =>
      if isBlank byte then
        match read with
        | some n => .ok (n, rest)
        | none => decimal none rest
      else
        match extend .sample UInt16.size read byte with
        | .ok n => decimal (some n) rest
        | .error fault => .error fault

def decimals (limit : Nat) : (count : Nat) → List UInt8 → Except Fault (List Nat)
  | 0, _ => .ok []
  | count + 1, bytes => do
      let (n, rest) ← decimal none bytes
      if n < limit then
        return n :: (← decimals limit count rest)
      else
        throw (.overflow .sample)

/-- The eight samples of a byte, the most significant bit first. -/
def unpackByte (byte : UInt8) : List UInt8 :=
  [7, 6, 5, 4, 3, 2, 1, 0].map fun bit => if byte.toNat.testBit bit then 0 else 1

def unpackRows (width : Nat) : (height : Nat) → List UInt8 → List UInt8
  | 0, _ => []
  | height + 1, bytes =>
      let rowLength := (width + 7) / 8
      ((bytes.take rowLength).flatMap unpackByte).take width ++
        unpackRows width height (bytes.drop rowLength)

/-- Exchanges the two bytes of every sample; an odd last byte is dropped. -/
def swapBytes (bytes : List UInt8) : List UInt8 :=
  (unpackWords bytes).flatMap bigEndian16

def takeExactly (count : Nat) (bytes : List UInt8) : Except Fault (List UInt8) :=
  if bytes.length < count then .error .shortRaster else .ok (bytes.take count)

/-- A sample of a map with another greatest value is stretched, in single precision. -/
def stretch (greatest maxval sample : Nat) : Float32 :=
  (Float32.ofNat sample * (Float32.ofNat greatest / Float32.ofNat maxval)).round

def stretched (maxval : Nat) : PixelBuffer → PixelBuffer
  | .eight samples =>
      if maxval = 255 then .eight samples
      else .eight (samples.map fun sample => (stretch 255 maxval sample.toNat).toUInt8)
  | .sixteen samples =>
      if maxval = 65535 then .sixteen samples
      else .sixteen (samples.map fun sample => (stretch 65535 maxval sample.toNat).toUInt16)

namespace Header

def bytesPerPixel (header : Header) : Nat :=
  header.channels.count * header.sampleWidth.bytes

def totalBytes (header : Header) : Nat :=
  header.width * header.height * header.bytesPerPixel

def sampleCount (header : Header) : Nat :=
  header.width * header.height * header.channels.count

def samples (header : Header) (raster : List UInt8) : Except Fault PixelBuffer :=
  match header.form, header.sampleWidth with
  | .bitDigits, _ => .eight <$> bitDigits header.sampleCount raster
  | .packedBits, _ => do
      let rows ← takeExactly ((header.width + 7) / 8 * header.height) raster
      return .eight (unpackRows header.width header.height rows)
  | .decimals, .eight => do
      return .eight ((← decimals UInt8.size header.sampleCount raster).map UInt8.ofNat)
  | .decimals, .sixteen => do
      return .sixteen ((← decimals UInt16.size header.sampleCount raster).map UInt16.ofNat)
  | .binary, .eight => .eight <$> takeExactly header.sampleCount raster
  | .binary, .sixteen => do
      let bytes ← takeExactly (2 * header.sampleCount) raster
      return .sixteen (unpackWords (swapBytes bytes))
  | .flags, _ => do
      let flags ← takeExactly header.sampleCount raster
      match flags.find? (1 < ·) with
      | some sample => throw (.outOfBounds sample)
      | none => return .eight flags

def picture (header : Header) (raster : List UInt8) : Except Fault Picture := do
  let samples ← header.samples raster
  return {
    width := UInt32.ofNat header.width
    height := UInt32.ofNat header.height
    color := .samples header.channels (.ofWidth header.sampleWidth)
    bytes := (stretched header.maxval samples).toBytes }

end Header

def tupleType : Channels → String
  | .l => "GRAYSCALE"
  | .la => "GRAYSCALE_ALPHA"
  | .rgb => "RGB"
  | .rgba => "RGB_ALPHA"

def headerText (width height : UInt32) (channels : Channels) (maxval : Nat) : String :=
  s!"P7\nWIDTH {width}\nHEIGHT {height}\nDEPTH {channels.count}\nMAXVAL {maxval}\n" ++
    s!"TUPLTYPE {tupleType channels}\nENDHDR\n"

def arbitraryMap (picture : Picture) : Except Fault (List UInt8) :=
  let header (channels : Channels) (maxval : Nat) : List UInt8 :=
    (headerText picture.width picture.height channels maxval).toUTF8.toList
  match picture.color with
  | .samples channels .eight => .ok (header channels 255 ++ picture.bytes)
  | .samples channels .sixteen => .ok (header channels 65535 ++ swapBytes picture.bytes)
  | color => .error (.unsupportedColor color)

end JpegLs.Pnm
