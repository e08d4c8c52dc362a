import JpegLs.Error

namespace JpegLs.Spiff

inductive Profile where
  | none
  | continuousToneBase
  | continuousToneProgressive
  | biLevelFacsimile
  | continuousToneFacsimile
deriving DecidableEq, Repr

namespace Profile

def code : Profile → UInt8
  | none => 0
  | continuousToneBase => 1
  | continuousToneProgressive => 2
  | biLevelFacsimile => 3
  | continuousToneFacsimile => 4

def ofCode? : UInt8 → Option Profile
  | 0 => some none
  | 1 => some continuousToneBase
  | 2 => some continuousToneProgressive
  | 3 => some biLevelFacsimile
  | 4 => some continuousToneFacsimile
  | _ => Option.none

def ofCode (code : UInt8) : Except Error Profile :=
  match ofCode? code with
  | some profile => .ok profile
  | Option.none => .error (.format .unknownProfile)

def name : Profile → String
  | none => "None"
  | continuousToneBase => "ContinuousToneBase"
  | continuousToneProgressive => "ContinuousToneProgressive"
  | biLevelFacsimile => "BiLevelFacsimile"
  | continuousToneFacsimile => "ContinuousToneFacsimile"

@[simp] theorem ofCode?_code (profile : Profile) : ofCode? profile.code = some profile := by
  cases profile <;> rfl

end Profile

inductive ColorSpace where
  | biLevelBlack
  | yCbCrItuBt709Video
  | none
  | yCbCrItuBt6011Rgb
  | yCbCrItuBt6011Video
  | grayscale
  | photoYcc
  | rgb
  | cmy
  | cmyk
  | ycck
  | cieLab
  | biLevelWhite
deriving DecidableEq, Repr

namespace ColorSpace

def code : ColorSpace → UInt8
  | biLevelBlack => 0
  | yCbCrItuBt709Video => 1
  | none => 2
  | yCbCrItuBt6011Rgb => 3
  | yCbCrItuBt6011Video => 4
  | grayscale => 8
  | photoYcc => 9
  | rgb => 10
  | cmy => 11
  | cmyk => 12
  | ycck => 13
  | cieLab => 14
  | biLevelWhite => 15

def ofCode? : UInt8 → Option ColorSpace
  | 0 => some biLevelBlack
  | 1 => some yCbCrItuBt709Video
  | 2 => some none
  | 3 => some yCbCrItuBt6011Rgb
  | 4 => some yCbCrItuBt6011Video
  | 8 => some grayscale
  | 9 => some photoYcc
  | 10 => some rgb
  | 11 => some cmy
  | 12 => some cmyk
  | 13 => some ycck
  | 14 => some cieLab
  | 15 => some biLevelWhite
  | _ => Option.none

def ofCode (code : UInt8) : Except Error ColorSpace :=
  match ofCode? code with
  | some space => .ok space
  | Option.none => .error (.format .unknownColorSpace)

/-- What a standard header declares for an image of so many components. -/
def ofComponents : Nat → ColorSpace
  | 1 => grayscale
  | 3 => rgb
  | 4 => cmyk
  | _ => none

def name : ColorSpace → String
  | biLevelBlack => "BiLevelBlack"
  | yCbCrItuBt709Video => "YCbCrItuBt709Video"
  | none => "None"
  | yCbCrItuBt6011Rgb => "YCbCrItuBt6011Rgb"
  | yCbCrItuBt6011Video => "YCbCrItuBt6011Video"
  | grayscale => "Grayscale"
  | photoYcc => "PhotoYcc"
  | rgb => "Rgb"
  | cmy => "Cmy"
  | cmyk => "Cmyk"
  | ycck => "Ycck"
  | cieLab => "CieLab"
  | biLevelWhite => "BiLevelWhite"

@[simp] theorem ofCode?_code (space : ColorSpace) : ofCode? space.code = some space := by
  cases space <;> rfl

end ColorSpace

inductive Compression where
  | uncompressed
  | modifiedHuffman
  | modifiedRead
  | modifiedModifiedRead
  | jbig
  | jpeg
  | jpegLs
deriving DecidableEq, Repr

namespace Compression

def code : Compression → UInt8
  | uncompressed => 0
  | modifiedHuffman => 1
  | modifiedRead => 2
  | modifiedModifiedRead => 3
  | jbig => 4
  | jpeg => 5
  | jpegLs => 6

def ofCode? : UInt8 → Option Compression
  | 0 => some uncompressed
  | 1 => some modifiedHuffman
  | 2 => some modifiedRead
  | 3 => some modifiedModifiedRead
  | 4 => some jbig
  | 5 => some jpeg
  | 6 => some jpegLs
  | _ => none

def ofCode (code : UInt8) : Except Error Compression :=
  match ofCode? code with
  | some compression => .ok compression
  | none => .error (.format .unknownCompression)

def name : Compression → String
  | uncompressed => "Uncompressed"
  | modifiedHuffman => "ModifiedHuffman"
  | modifiedRead => "ModifiedRead"
  | modifiedModifiedRead => "ModifiedModifiedRead"
  | jbig => "Jbig"
  | jpeg => "Jpeg"
  | jpegLs => "JpegLs"

@[simp] theorem ofCode?_code (compression : Compression) :
    ofCode? compression.code = some compression := by
  cases compression <;> rfl

end Compression

inductive ResolutionUnits where
  | aspectRatio
  | dotsPerInch
  | dotsPerCentimeter
deriving DecidableEq, Repr

namespace ResolutionUnits

def code : ResolutionUnits → UInt8
  | aspectRatio => 0
  | dotsPerInch => 1
  | dotsPerCentimeter => 2

def ofCode? : UInt8 → Option ResolutionUnits
  | 0 => some aspectRatio
  | 1 => some dotsPerInch
  | 2 => some dotsPerCentimeter
  | _ => none

def ofCode (code : UInt8) : Except Error ResolutionUnits :=
  match ofCode? code with
  | some units => .ok units
  | none => .error (.format .unknownResolutionUnits)

def name : ResolutionUnits → String
  | aspectRatio => "AspectRatio"
  | dotsPerInch => "DotsPerInch"
  | dotsPerCentimeter => "DotsPerCentimeter"

@[simp] theorem ofCode?_code (units : ResolutionUnits) : ofCode? units.code = some units := by
  cases units <;> rfl

end ResolutionUnits

end JpegLs.Spiff
