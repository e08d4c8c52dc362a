import JpegLs.Host.Reader

/-!
A host's own way to an image: the format is known by the first bytes or by the extension of a
file name.  JPEG-LS takes part once a codec is registered for it.
-/

namespace JpegLs.Host

variable {σ : Type}

def extension : String := "jls"

/-- Decoders by the extension they are registered for.  The first to come stays. -/
structure Registry where
  extensions : List String := []
deriving DecidableEq, Repr

def Registry.register (registry : Registry) : Bool × Registry :=
  if extension ∈ registry.extensions then (false, registry)
  else (true, { extensions := extension :: registry.extensions })

/-- What the host brings for the other formats.  Nothing is known of how it reads and writes
them. -/
structure ImageLibrary where
  Format : Type
  /-- By the extension of a file name, if it has one. -/
  formatOf : Option String → Except ImageError Format
  guess? : List UInt8 → Option Format
  read : Format → List UInt8 → Except ImageError Picture
  /-- What has gone into the file stays there when the writing fails. -/
  write : Format → Picture → List UInt8 × Except ImageError Unit
  allocationLimit : Nat

/-- Reads an image whose format its first bytes tell.  JPEG-LS is looked for first. -/
def openGuessed (images : ImageLibrary) (codec : Codec σ) (data : List UInt8) :
    HostTask σ Picture := do
  if Container.isJpegLs data then
    let reader ← Reader.make data
    if images.allocationLimit < reader.totalBytes then
      throw .memoryLimit
    reader.load codec
  else
    match images.guess? data with
    | some format => images.read format data
    | none => throw .unknownFormat

end JpegLs.Host
