import JpegLs.Interleave
import JpegLs.Pixels.Buffer

/-!
Pixel order against scan order.  Images keep the components of a pixel together; a codec set to
planar order reads and writes one plane after another, and reorders the samples itself for the
other two orders.
-/

namespace JpegLs.PixelBuffer

def Reordered (buffer : PixelBuffer) (components : Nat) (mode : Interleave) : Prop :=
  components ≠ 1 ∧ mode = .planar ∧ buffer.length ≠ 0

instance (buffer : PixelBuffer) (components : Nat) (mode : Interleave) :
    Decidable (buffer.Reordered components mode) :=
  inferInstanceAs (Decidable (_ ∧ _ ∧ _))

/-- The least number of samples that completes the last pixel. -/
def wholePixels (count components : Nat) : Nat :=
  (count + components - 1) / components * components

/-- Runs `arrange` on a buffer of whole pixels, and refuses any other. -/
def onWholePixels (buffer : PixelBuffer) (components : Nat)
    (arrange : components ∣ buffer.length → PixelBuffer) : Except Error PixelBuffer :=
  if components = 0 then
    .error (.geometry .zeroComponents)
  else if h : components ∣ buffer.length then
    .ok (arrange h)
  else
    .error (.bufferSize (wholePixels buffer.length components) buffer.length)

/-- Pixel order to the order a codec reads for `mode`. -/
def toScan (buffer : PixelBuffer) (components : Nat) (mode : Interleave) :
    Except Error PixelBuffer :=
  buffer.onWholePixels components fun h =>
    if buffer.Reordered components mode then buffer.transposed components h else buffer

/-- The order a codec wrote for `mode` to pixel order. -/
def ofScan (buffer : PixelBuffer) (components : Nat) (mode : Interleave) :
    Except Error PixelBuffer :=
  buffer.onWholePixels components fun h =>
    if buffer.Reordered components mode then
      buffer.transposed (buffer.length / components) (Nat.div_dvd_of_dvd h)
    else
      buffer

end JpegLs.PixelBuffer
