import JpegLs.Bytes
import JpegLs.Frame
import JpegLs.Pixels.Transpose

namespace JpegLs

inductive PixelBuffer where
  | eight (samples : List UInt8)
  | sixteen (samples : List UInt16)
deriving DecidableEq, Repr

namespace PixelBuffer

def length : PixelBuffer → Nat
  | eight samples => samples.length
  | sixteen samples => samples.length

def width : PixelBuffer → SampleWidth
  | eight _ => .eight
  | sixteen _ => .sixteen

def isEmpty (buffer : PixelBuffer) : Bool :=
  buffer.length = 0

def withWidth : PixelBuffer → SampleWidth → PixelBuffer
  | sixteen samples, .eight => eight (samples.map UInt16.toUInt8)
  | eight samples, .sixteen => sixteen (samples.map UInt8.toUInt16)
  | buffer, _ => buffer

def withBits (buffer : PixelBuffer) (bits : Nat) : PixelBuffer :=
  buffer.withWidth (.ofBits bits)

@[simp] theorem width_withWidth (buffer : PixelBuffer) (width : SampleWidth) :
    (buffer.withWidth width).width = width := by
  cases buffer <;> cases width <;> rfl

@[simp] theorem length_withWidth (buffer : PixelBuffer) (width : SampleWidth) :
    (buffer.withWidth width).length = buffer.length := by
  cases buffer <;> cases width <;> simp [withWidth, length]

def toBytes : PixelBuffer → List UInt8
  | eight samples => samples
  | sixteen samples => packWords samples

def ofBytes (bytes : List UInt8) : SampleWidth → PixelBuffer
  | .eight => eight bytes
  | .sixteen => sixteen (unpackWords bytes)

@[simp] theorem width_ofBytes (bytes : List UInt8) (width : SampleWidth) :
    (ofBytes bytes width).width = width := by
  cases width <;> rfl

@[simp] theorem length_toBytes (buffer : PixelBuffer) :
    buffer.toBytes.length = buffer.length * buffer.width.bytes := by
  cases buffer <;> simp [toBytes, length, width, SampleWidth.bytes]
  omega

@[simp] theorem length_ofBytes (bytes : List UInt8) (width : SampleWidth) :
    (ofBytes bytes width).length = bytes.length / width.bytes := by
  cases width <;> simp [ofBytes, length, SampleWidth.bytes]

def transposed : (buffer : PixelBuffer) → (rowLength : Nat) → rowLength ∣ buffer.length →
    PixelBuffer
  | eight samples, rowLength, h => eight (transpose samples rowLength h)
  | sixteen samples, rowLength, h => sixteen (transpose samples rowLength h)

def transposedChecked (buffer : PixelBuffer) (rowLength : Nat) :
    Except RaggedRows PixelBuffer :=
  match buffer with
  | eight samples => (transposeChecked samples rowLength).map eight
  | sixteen samples => (transposeChecked samples rowLength).map sixteen

@[simp] theorem length_transposed (buffer : PixelBuffer) (rowLength : Nat)
    (h : rowLength ∣ buffer.length) :
    (buffer.transposed rowLength h).length = buffer.length := by
  cases buffer <;> exact length_transpose _ _ _

@[simp] theorem width_transposed (buffer : PixelBuffer) (rowLength : Nat)
    (h : rowLength ∣ buffer.length) :
    (buffer.transposed rowLength h).width = buffer.width := by
  cases buffer <;> rfl

end PixelBuffer

end JpegLs
