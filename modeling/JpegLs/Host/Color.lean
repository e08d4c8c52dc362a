import JpegLs.Frame

namespace JpegLs.Host

inductive Channels where
  | l
  | la
  | rgb
  | rgba
deriving DecidableEq, Repr

namespace Channels

def count : Channels → Nat
  | l => 1
  | la => 2
  | rgb => 3
  | rgba => 4

def name : Channels → String
  | l => "L"
  | la => "La"
  | rgb => "Rgb"
  | rgba => "Rgba"

end Channels

inductive Depth where
  | one
  | two
  | four
  | eight
  | sixteen
deriving DecidableEq, Repr

def Depth.bits : Depth → Nat
  | one => 1
  | two => 2
  | four => 4
  | eight => 8
  | sixteen => 16

def Depth.ofWidth : SampleWidth → Depth
  | .eight => .eight
  | .sixteen => .sixteen

inductive Color where
  | samples (channels : Channels) (depth : Depth)
  | a8
  | bgr8
  | bgra8
  | rgb32F
  | rgba32F
  | cmyk8
  | cmyk16
  | unknown (code : UInt8)
deriving DecidableEq, Repr

namespace Color

def name : Color → String
  | samples channels depth => s!"{channels.name}{depth.bits}"
  | a8 => "A8"
  | bgr8 => "Bgr8"
  | bgra8 => "Bgra8"
  | rgb32F => "Rgb32F"
  | rgba32F => "Rgba32F"
  | cmyk8 => "Cmyk8"
  | cmyk16 => "Cmyk16"
  | unknown code => s!"Unknown({code})"

def known : List Color :=
  ([Channels.l, .la, .rgb, .rgba].flatMap fun channels =>
    [Depth.one, .two, .four, .eight, .sixteen].map (samples channels)) ++
    [a8, bgr8, bgra8, rgb32F, rgba32F, cmyk8, cmyk16]

def ofMode (mode : PixelMode) : Color :=
  samples (if mode.components = 1 then .l else .rgb) (.ofWidth mode.width)

def mode? : Color → Option PixelMode
  | samples .l .eight => some .l8
  | samples .rgb .eight => some .rgb8
  | samples .l .sixteen => some .l16
  | samples .rgb .sixteen => some .rgb16
  | _ => none

theorem mode?_eq_some_iff {color : Color} {mode : PixelMode} :
    color.mode? = some mode ↔ color = ofMode mode := by
  constructor
  · intro h
    unfold mode? at h
    split at h <;> cases h <;> rfl
  · rintro rfl
    cases mode <;> rfl

end Color

/-- An image as the host holds it: packed rows of pixels, samples of two bytes with the least
significant first. -/
structure Picture where
  width : UInt32
  height : UInt32
  color : Color
  bytes : List UInt8
deriving DecidableEq, Repr

end JpegLs.Host
