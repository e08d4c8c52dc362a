import JpegLs.Error
import JpegLs.Host.Color

namespace JpegLs.Host

inductive ErrorKind where
  | decoding
  | encoding
  | parameter
  | limits
  | unsupported
  | io
deriving DecidableEq, Repr

inductive ImageError where
  | decoding (error : Error)
  | encoding (error : Error)
  /-- The code stream holds another frame than its container declares. -/
  | frameMismatch
  | dimensionMismatch
  | malformed (error : Error)
  | memoryLimit
  | unsupportedMode (error : Error)
  | unsupportedColor (color : Color)
  | library (error : Error)
  | unknownFormat
  /-- What the host finds wrong with a file of another format. -/
  | foreign (kind : ErrorKind) (message : String)
deriving DecidableEq, Repr

namespace ImageError

def kind : ImageError → ErrorKind
  | decoding _ | frameMismatch => .decoding
  | encoding _ => .encoding
  | dimensionMismatch | malformed _ => .parameter
  | memoryLimit => .limits
  | unsupportedMode _ | unsupportedColor _ | unknownFormat => .unsupported
  | library _ => .io
  | foreign kind _ => kind

def message : ImageError → String
  | decoding error => s!"Format error decoding `JPEG-LS`: {error.message}"
  | encoding error => s!"Format error encoding `JPEG-LS`:\n{error.message}"
  | frameMismatch =>
      "Format error decoding `JPEG-LS`: codestream frame does not match the container header"
  | dimensionMismatch => "The Image's dimensions are either too small or too large"
  | malformed error => s!"The parameter is malformed: {error.message}"
  | memoryLimit => "Memory limit exceeded"
  | unsupportedMode error =>
      s!"The decoder for `JPEG-LS` does not support the format features {error.message}"
  | unsupportedColor color =>
      s!"The encoder or decoder for `JPEG-LS` does not support the color type `{color.name}`"
  | library error => error.message
  | unknownFormat => "The image format could not be determined"
  | foreign _ message => message

def ofReading (error : Error) : ImageError :=
  match error with
  | .unsupportedMode .. => unsupportedMode error
  | .library .. => library error
  | .bufferSize .. => dimensionMismatch
  | .geometry _ => malformed error
  | .format _ | .codec _ => decoding error

def ofWriting (error : Error) : ImageError :=
  match error with
  | .format _ | .codec _ => encoding error
  | error => ofReading error

end ImageError

end JpegLs.Host
