import JpegLs.Host.Format
import JpegLs.Host.Open
import JpegLs.Pnm.Raster

namespace JpegLs.Pnm

open Host (ErrorKind ImageError ImageFormat ImageLibrary Picture)

def Fault.kind : Fault → ErrorKind
  | unsupportedColor _ | oversized .. | unknownTuple _ => .unsupported
  | unexpectedEnd | shortRaster => .io
  | _ => .decoding

def Fault.message : Fault → String
  | fault@(oversized ..) | fault@(unknownTuple _) =>
      s!"The decoder for Pnm does not support the format features {fault.text}"
  | fault@(unsupportedColor _) | fault@unexpectedEnd | fault@shortRaster => fault.text
  | fault => s!"Format error decoding Pnm: {fault.text}"

def Fault.error (fault : Fault) : ImageError :=
  .foreign fault.kind fault.message

def allocationLimit : Nat := 512 * 1024 * 1024

def readPortableMap (data : List UInt8) : Except ImageError Picture :=
  match readHeader data with
  | .error fault => .error fault.error
  | .ok (header, raster) =>
      if allocationLimit < header.totalBytes then
        .error .memoryLimit
      else
        (header.picture raster).mapError Fault.error

def formatOf : Option String → Except ImageError ImageFormat
  | none => .error .unknownFormat
  | some extension =>
      match ImageFormat.ofExtension? extension with
      | some format => .ok format
      | none =>
          .error (.foreign .unsupported
            s!"The file extension `.{Quoted.quote extension}` was not recognized as an image format")

/-- There is no decoder for PNG here: the signature is checked, and no more. -/
def refusePng (data : List UInt8) : ImageError :=
  let signature : List UInt8 := [0x89, 0x50, 0x4E, 0x47, 0x0D, 0x0A, 0x1A, 0x0A]
  let truncated := .foreign .io "unexpected end of file"
  let otherwise := .foreign .decoding "Format error decoding Png: Invalid PNG signature."
  if data.length < 4 then truncated
  else if data.take 4 ≠ signature.take 4 then otherwise
  else if data.length < 8 then truncated
  else if data.take 8 ≠ signature then otherwise
  else .foreign .unsupported "The image format Png is not supported"

def read (format : ImageFormat) (data : List UInt8) : Except ImageError Picture :=
  match format with
  | .pnm => readPortableMap data
  | .png => .error (refusePng data)
  | format => .error (.foreign .unsupported s!"The image format {format.name} is not supported")

def write (format : ImageFormat) (picture : Picture) : List UInt8 × Except ImageError Unit :=
  match format with
  | .pnm =>
      match arbitraryMap picture with
      | .ok bytes => (bytes, .ok ())
      | .error fault => ([], .error fault.error)
  | format =>
      ([], .error (.foreign .unsupported s!"The image format `{format.name}` is not supported"))

/-- Knows the usual formats by name; what it reads and writes are portable maps. -/
def library : ImageLibrary where
  Format := ImageFormat
  formatOf := formatOf
  guess? := ImageFormat.guess?
  read := read
  write := write
  allocationLimit := allocationLimit

end JpegLs.Pnm
