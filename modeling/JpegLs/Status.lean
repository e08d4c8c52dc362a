namespace JpegLs

inductive CodecFault where
  | invalidArgument
  | parameterValueNotSupported
  | destinationBufferTooSmall
  | sourceBufferTooSmall
  | invalidEncodedData
  | tooMuchEncodedData
  | invalidOperation
  | bitDepthForTransformNotSupported
  | colorTransformNotSupported
  | encodingNotSupported
  | unknownJpegMarkerFound
  | jpegMarkerStartByteNotFound
  | notEnoughMemory
  | unexpectedFailure
  | startOfImageMarkerNotFound
  | startOfFrameMarkerNotFound
  | invalidMarkerSegmentSize
  | duplicateStartOfImageMarker
  | duplicateStartOfFrameMarker
  | duplicateComponentIdInSofSegment
  | unexpectedEndOfImageMarker
  | invalidJpeglsPresetParameterType
  | jpeglsPresetExtendedParameterTypeNotSupported
  | missingEndOfSpiffDirectory
  | invalidArgumentWidth
  | invalidArgumentHeight
  | invalidArgumentComponentCount
  | invalidArgumentBitsPerSample
  | invalidArgumentInterleaveMode
  | invalidArgumentNearLossless
  | invalidArgumentPcParameters
  | invalidArgumentSpiffEntrySize
  | invalidArgumentColorTransformation
  | invalidParameterWidth
  | invalidParameterHeight
  | invalidParameterComponentCount
  | invalidParameterBitsPerSample
  | invalidParameterInterleaveMode
deriving DecidableEq, Repr

namespace CodecFault

def code : CodecFault → Int
  | invalidArgument => 1
  | parameterValueNotSupported => 2
  | destinationBufferTooSmall => 3
  | sourceBufferTooSmall => 4
  | invalidEncodedData => 5
  | tooMuchEncodedData => 6
  | invalidOperation => 7
  | bitDepthForTransformNotSupported => 8
  | colorTransformNotSupported => 9
  | encodingNotSupported => 10
  | unknownJpegMarkerFound => 11
  | jpegMarkerStartByteNotFound => 12
  | notEnoughMemory => 13
  | unexpectedFailure => 14
  | startOfImageMarkerNotFound => 15
  | startOfFrameMarkerNotFound => 16
  | invalidMarkerSegmentSize => 17
  | duplicateStartOfImageMarker => 18
  | duplicateStartOfFrameMarker => 19
  | duplicateComponentIdInSofSegment => 20
  | unexpectedEndOfImageMarker => 21
  | invalidJpeglsPresetParameterType => 22
  | jpeglsPresetExtendedParameterTypeNotSupported => 23
  | missingEndOfSpiffDirectory => 24
  | invalidArgumentWidth => 100
  | invalidArgumentHeight => 101
  | invalidArgumentComponentCount => 102
  | invalidArgumentBitsPerSample => 103
  | invalidArgumentInterleaveMode => 104
  | invalidArgumentNearLossless => 105
  | invalidArgumentPcParameters => 106
  | invalidArgumentSpiffEntrySize => 110
  | invalidArgumentColorTransformation => 111
  | invalidParameterWidth => 200
  | invalidParameterHeight => 201
  | invalidParameterComponentCount => 202
  | invalidParameterBitsPerSample => 203
  | invalidParameterInterleaveMode => 204

def ofCode? : Int → Option CodecFault
  | 1 => some invalidArgument
  | 2 => some parameterValueNotSupported
  | 3 => some destinationBufferTooSmall
  | 4 => some sourceBufferTooSmall
  | 5 => some invalidEncodedData
  | 6 => some tooMuchEncodedData
  | 7 => some invalidOperation
  | 8 => some bitDepthForTransformNotSupported
  | 9 => some colorTransformNotSupported
  | 10 => some encodingNotSupported
  | 11 => some unknownJpegMarkerFound
  | 12 => some jpegMarkerStartByteNotFound
  | 13 => some notEnoughMemory
  | 14 => some unexpectedFailure
  | 15 => some startOfImageMarkerNotFound
  | 16 => some startOfFrameMarkerNotFound
  | 17 => some invalidMarkerSegmentSize
  | 18 => some duplicateStartOfImageMarker
  | 19 => some duplicateStartOfFrameMarker
  | 20 => some duplicateComponentIdInSofSegment
  | 21 => some unexpectedEndOfImageMarker
  | 22 => some invalidJpeglsPresetParameterType
  | 23 => some jpeglsPresetExtendedParameterTypeNotSupported
  | 24 => some missingEndOfSpiffDirectory
  | 100 => some invalidArgumentWidth
  | 101 => some invalidArgumentHeight
  | 102 => some invalidArgumentComponentCount
  | 103 => some invalidArgumentBitsPerSample
  | 104 => some invalidArgumentInterleaveMode
  | 105 => some invalidArgumentNearLossless
  | 106 => some invalidArgumentPcParameters
  | 110 => some invalidArgumentSpiffEntrySize
  | 111 => some invalidArgumentColorTransformation
  | 200 => some invalidParameterWidth
  | 201 => some invalidParameterHeight
  | 202 => some invalidParameterComponentCount
  | 203 => some invalidParameterBitsPerSample
  | 204 => some invalidParameterInterleaveMode
  | _ => none

@[simp] theorem ofCode?_code (fault : CodecFault) : ofCode? fault.code = some fault := by
  cases fault <;> rfl

theorem code_ne_zero (fault : CodecFault) : fault.code ≠ 0 := by
  cases fault <;> decide

def text : CodecFault → String
  | invalidArgument => "Invalid argument"
  | parameterValueNotSupported => "Parameter value not supported"
  | destinationBufferTooSmall => "Destination buffer too small"
  | sourceBufferTooSmall => "Source buffer too small"
  | invalidEncodedData => "Invalid encoded data"
  | tooMuchEncodedData => "Too much encoded data"
  | invalidOperation => "Invalid operation"
  | bitDepthForTransformNotSupported => "Bit depth for transform not supported"
  | colorTransformNotSupported => "Color transform not supported"
  | encodingNotSupported => "Encoding not supported"
  | unknownJpegMarkerFound => "Unknown JPEG marker found"
  | jpegMarkerStartByteNotFound => "JPEG marker start byte not found"
  | notEnoughMemory => "Not enough memory"
  | unexpectedFailure => "Unexpected failure"
  | startOfImageMarkerNotFound => "Start of image marker not found"
  | startOfFrameMarkerNotFound => "Start of frame marker not found"
  | invalidMarkerSegmentSize => "Invalid marker segment size"
  | duplicateStartOfImageMarker => "Duplicate start of image marker"
  | duplicateStartOfFrameMarker => "Duplicate start of frame marker"
  | duplicateComponentIdInSofSegment => "Duplicate component ID in SOF segment"
  | unexpectedEndOfImageMarker => "Unexpected end of image marker"
  | invalidJpeglsPresetParameterType => "Invalid JPEG-LS preset parameter type"
  | jpeglsPresetExtendedParameterTypeNotSupported =>
      "JPEG-LS preset extended parameter type not supported"
  | missingEndOfSpiffDirectory => "Missing end of SPIFF directory"
  | invalidArgumentWidth => "Invalid argument width"
  | invalidArgumentHeight => "Invalid argument height"
  | invalidArgumentComponentCount => "Invalid argument component count"
  | invalidArgumentBitsPerSample => "Invalid argument bits per sample"
  | invalidArgumentInterleaveMode => "Invalid argument interleave mode"
  | invalidArgumentNearLossless => "Invalid argument near lossless"
  | invalidArgumentPcParameters => "Invalid argument JPEG-LS PC parameters"
  | invalidArgumentSpiffEntrySize => "Invalid argument SPIFF entry size"
  | invalidArgumentColorTransformation => "Invalid argument color transformation"
  | invalidParameterWidth => "Invalid parameter width"
  | invalidParameterHeight => "Invalid parameter height"
  | invalidParameterComponentCount => "Invalid parameter component count"
  | invalidParameterBitsPerSample => "Invalid parameter bits per sample"
  | invalidParameterInterleaveMode => "Invalid parameter interleave mode"

end CodecFault

/-- The raw number a codec call ended with; zero is success. -/
structure Status where
  code : Int
deriving DecidableEq, Repr

def CodecFault.status (fault : CodecFault) : Status := ⟨fault.code⟩

namespace Status

/-- A number outside the published set counts as an unexpected failure. -/
def fault (status : Status) : CodecFault :=
  (CodecFault.ofCode? status.code).getD .unexpectedFailure

def isUnknown (status : Status) : Bool :=
  (CodecFault.ofCode? status.code).isNone

@[simp] theorem fault_status (f : CodecFault) : f.status.fault = f := by
  simp [fault, CodecFault.status]

@[simp] theorem isUnknown_status (f : CodecFault) : f.status.isUnknown = false := by
  simp [isUnknown, CodecFault.status]

end Status

end JpegLs
