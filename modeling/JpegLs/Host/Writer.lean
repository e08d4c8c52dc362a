import JpegLs.Host.Reader
import JpegLs.Session.Encode

namespace JpegLs.Host

variable {σ τ ε : Type}

def pixelMode (color : Color) : Except ImageError PixelMode :=
  match color.mode? with
  | some mode => .ok mode
  | none => .error (.unsupportedColor color)

/-- The stream of a buffer of pixels.  An odd last byte of two-byte samples is dropped. -/
def write (codec : Codec σ) (options : EncodeOptions) (width height : UInt32) (color : Color)
    (bytes : List UInt8) : HostTask σ (List UInt8) := do
  let mode ← pixelMode color
  HostTask.writing do
    let image ← SourceImage.make width height mode (.ofBytes bytes mode.width)
    encode codec image options

/-- Takes all bytes it is given, or fails with a fault of its own.  What either leaves in the sink is
for the sink to say. -/
abbrev Sink (τ ε : Type) := List UInt8 → τ → Except ε Unit × τ

inductive WriteFault (ε : Type) where
  | image (error : ImageError)
  | sink (fault : ε)
deriving DecidableEq, Repr

def WriteFault.kind : WriteFault ε → ErrorKind
  | image error => error.kind
  | sink _ => .io

/-- The sink is given the stream once it is whole. -/
def writeTo (sink : Sink τ ε) (codec : Codec σ) (options : EncodeOptions) (width height : UInt32)
    (color : Color) (bytes : List UInt8) (target : τ) :
    Run σ (Except (WriteFault ε) Unit × τ) := do
  match ← (write codec options width height color bytes).run with
  | .ok stream =>
      let (answer, target) := sink stream target
      return (answer.mapError .sink, target)
  | .error error => return (.error (.image error), target)

def save (codec : Codec σ) (options : EncodeOptions) (picture : Picture) :
    HostTask σ (List UInt8) :=
  write codec options picture.width picture.height picture.color picture.bytes

end JpegLs.Host
