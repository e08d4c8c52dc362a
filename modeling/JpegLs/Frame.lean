import JpegLs.Error

namespace JpegLs

inductive SampleWidth where
  | eight
  | sixteen
deriving DecidableEq, Repr

namespace SampleWidth

def ofBits (bits : Nat) : SampleWidth :=
  if bits ≤ 8 then eight else sixteen

def bits : SampleWidth → Nat
  | eight => 8
  | sixteen => 16

def bytes : SampleWidth → Nat
  | eight => 1
  | sixteen => 2

@[simp] theorem ofBits_bits (width : SampleWidth) : ofBits width.bits = width := by
  cases width <;> rfl

end SampleWidth

inductive PixelMode where
  | l8
  | rgb8
  | l16
  | rgb16
deriving DecidableEq, Repr

namespace PixelMode

def components : PixelMode → Nat
  | l8 | l16 => 1
  | rgb8 | rgb16 => 3

def width : PixelMode → SampleWidth
  | l8 | rgb8 => .eight
  | l16 | rgb16 => .sixteen

/-- The bit depth of an image in this mode unless the caller asks for another. -/
def bits (mode : PixelMode) : Nat :=
  mode.width.bits

def name : PixelMode → String
  | l8 => "L8"
  | rgb8 => "Rgb8"
  | l16 => "L16"
  | rgb16 => "Rgb16"

def of? (components : Nat) (width : SampleWidth) : Option PixelMode :=
  match components, width with
  | 1, .eight => some l8
  | 3, .eight => some rgb8
  | 1, .sixteen => some l16
  | 3, .sixteen => some rgb16
  | _, _ => none

def ofComponents (components bits : Nat) : Except Error PixelMode :=
  if 1 ≤ bits ∧ bits ≤ 16 then
    match of? components (.ofBits bits) with
    | some mode => .ok mode
    | none => .error (.unsupportedMode components bits)
  else
    .error (.unsupportedMode components bits)

theorem of?_eq_some_iff {components : Nat} {width : SampleWidth} {mode : PixelMode} :
    of? components width = some mode ↔ mode.components = components ∧ mode.width = width := by
  constructor
  · intro h
    unfold of? at h
    split at h <;> cases h <;> exact ⟨rfl, rfl⟩
  · rintro ⟨rfl, rfl⟩
    cases mode <;> rfl

end PixelMode

structure FrameInfo where
  width : UInt32
  height : UInt32
  bits : Int
  components : Int
deriving DecidableEq, Repr

namespace FrameInfo

def samples (frame : FrameInfo) : Nat :=
  frame.width.toNat * frame.height.toNat * frame.components.toNat

/-- Absent when the count does not fit a 64-bit size. -/
def sampleCount? (frame : FrameInfo) : Option Nat :=
  if frame.samples < UInt64.size then some frame.samples else none

def text (frame : FrameInfo) : String :=
  s!"FrameInfo \x7b width: {frame.width}, height: {frame.height}, " ++
    s!"bits_per_sample: {frame.bits}, component_count: {frame.components} \x7d"

theorem sampleCount?_eq_some_iff {frame : FrameInfo} {n : Nat} :
    frame.sampleCount? = some n ↔ frame.samples = n ∧ n < UInt64.size := by
  unfold sampleCount?
  split <;> simp_all <;> omega

end FrameInfo

end JpegLs
