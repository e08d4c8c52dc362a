import JpegLs.Status

namespace JpegLs

inductive FormatFault where
  | unrecognizedMagic
  | truncatedSpiffHeader
  | otherCompression
  | truncatedFrameSegment
  | zeroDimension
  | tooLarge
  | unknownProfile
  | unknownColorSpace
  | unknownCompression
  | unknownResolutionUnits
  | other (text : String)
deriving DecidableEq, Repr

def FormatFault.text : FormatFault → String
  | unrecognizedMagic => "unrecognized magic number"
  | truncatedSpiffHeader => "truncated SPIFF header"
  | otherCompression => "SPIFF compression type is not JPEG-LS"
  | truncatedFrameSegment => "truncated start of frame segment"
  | zeroDimension => "zero image dimension"
  | tooLarge => "image too large"
  | unknownProfile => "unknown SPIFF profile"
  | unknownColorSpace => "unknown SPIFF color space"
  | unknownCompression => "unknown SPIFF compression type"
  | unknownResolutionUnits => "unknown SPIFF resolution units"
  | other text => text

inductive GeometryFault where
  | sampleCountOverflow
  | zeroComponents
  | other (text : String)
deriving DecidableEq, Repr

def GeometryFault.text : GeometryFault → String
  | sampleCountOverflow => "sample count overflows usize"
  | zeroComponents => "zero component count"
  | other text => text

inductive Error where
  | format (fault : FormatFault)
  | unsupportedMode (components bits : Nat)
  | codec (fault : CodecFault)
  | library (name reason : String)
  /-- A buffer holds `actual` samples where its image has `expected`. -/
  | bufferSize (expected actual : Nat)
  | geometry (fault : GeometryFault)
deriving DecidableEq, Repr

def Error.message : Error → String
  | format fault => s!"Not a JPEG-LS file: {fault.text}"
  | unsupportedMode components bits =>
      s!"Mode not supported (number of components: {components}, bits per sample: {bits})"
  | codec fault => s!"Codec error: {fault.text}"
  | library name reason => s!"Couldn't load the CharLS library `{name}`: {reason}"
  | bufferSize expected actual => s!"Pixel buffer holds {actual} samples, expected {expected}"
  | geometry fault => s!"Invalid image geometry: {fault.text}"

end JpegLs
