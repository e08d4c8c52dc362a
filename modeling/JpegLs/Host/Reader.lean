import JpegLs.Host.Error
import JpegLs.Session.Decode

namespace JpegLs.Host

abbrev HostTask (σ α : Type) := ExceptT ImageError (Run σ) α

variable {σ α : Type}

def HostTask.reading (task : Task σ α) : HostTask σ α :=
  task.adapt ImageError.ofReading

def HostTask.writing (task : Task σ α) : HostTask σ α :=
  task.adapt ImageError.ofWriting

/-- Bytes that were to be copied over as many others, of which there are more or less. -/
structure SliceMismatch where
  source : Nat
  destination : Nat
deriving DecidableEq, Repr

def SliceMismatch.message (fault : SliceMismatch) : String :=
  s!"source slice length ({fault.source}) does not match " ++
    s!"destination slice length ({fault.destination})"

/-- Samples of one byte are copied as a whole, samples of two bytes one by one for as long as
there are samples and room for them. -/
def copyInto (pixels : PixelBuffer) (buffer : List UInt8) :
    Except SliceMismatch (List UInt8) :=
  match pixels with
  | .eight samples =>
      if samples.length = buffer.length then .ok samples
      else .error ⟨samples.length, buffer.length⟩
  | .sixteen samples =>
      let stored := packWords (samples.take (buffer.length / 2))
      .ok (stored ++ buffer.drop stored.length)

structure Reader where
  data : List UInt8
  metadata : Metadata
  mode : PixelMode
deriving DecidableEq, Repr

namespace Reader

def make (data : List UInt8) : Except ImageError Reader :=
  match Container.metadata data with
  | .error error => .error (.ofReading error)
  | .ok metadata =>
      match metadata.mode with
      | .error error => .error (.ofReading error)
      | .ok mode => .ok { data, metadata, mode }

def color (reader : Reader) : Color :=
  .ofMode reader.mode

def bytesPerPixel (reader : Reader) : Nat :=
  reader.mode.components * reader.mode.width.bytes

/-- Size of the pixels in bytes; the greatest 64-bit number stands for all that are greater. -/
def totalBytes (reader : Reader) : Nat :=
  min (reader.metadata.width.toNat * reader.metadata.height.toNat * reader.bytesPerPixel)
    (UInt64.size - 1)

/-- The pixels of a decoded image, if it is the one the container has announced. -/
def checked (reader : Reader) (decoded : DecodedImage) : Except ImageError PixelBuffer :=
  if decoded.metadata.width ≠ reader.metadata.width ∨
      decoded.metadata.height ≠ reader.metadata.height then
    .error .frameMismatch
  else
    match decoded.metadata.mode with
    | .error error => .error (.ofReading error)
    | .ok mode => if mode ≠ reader.mode then .error .frameMismatch else .ok decoded.pixels

def samples (codec : Codec σ) (reader : Reader) (length : Nat) : HostTask σ PixelBuffer :=
  if length ≠ reader.totalBytes then
    throw .dimensionMismatch
  else do
    reader.checked (← HostTask.reading (decode codec reader.data))

/-- Fills a buffer with the pixels.  What stops the copying leaves no answer. -/
def readInto (codec : Codec σ) (reader : Reader) (buffer : List UInt8) :
    Run σ (Except SliceMismatch (Except ImageError Unit × List UInt8)) := do
  match ← (reader.samples codec buffer.length).run with
  | .ok pixels => return (copyInto pixels buffer).map fun filled => (.ok (), filled)
  | .error error => return .ok (.error error, buffer)

end Reader

def addressLimit : Nat := UInt64.size / 2 - 1

def Reader.load (codec : Codec σ) (reader : Reader) : HostTask σ Picture := do
  if addressLimit < reader.totalBytes then
    throw .memoryLimit
  let pixels ← reader.samples codec reader.totalBytes
  return {
    width := reader.metadata.width
    height := reader.metadata.height
    color := reader.color
    bytes := pixels.toBytes }

def load (codec : Codec σ) (data : List UInt8) : HostTask σ Picture := do
  let reader ← Reader.make data
  reader.load codec

end JpegLs.Host
