import JpegLs.Interleave
import JpegLs.Spiff.Header

namespace JpegLs

structure Metadata where
  width : UInt32
  height : UInt32
  bits : UInt8
  components : UInt8
  /-- A container says nothing about it, so metadata read from one has planar order. -/
  interleave : Interleave
  colorSpace : Option UInt8
  units : Option UInt8
  verticalResolution : Option UInt32
deriving DecidableEq, Repr

structure EncodeOptions where
  bits : Option UInt8 := none
  /-- Sample order when absent; images of one component have no choice. -/
  interleave : Option Interleave := none
  spiff : Bool := true
deriving DecidableEq, Repr

namespace Metadata

def frame (metadata : Metadata) : FrameInfo where
  width := metadata.width
  height := metadata.height
  bits := metadata.bits.toNat
  components := metadata.components.toNat

def mode (metadata : Metadata) : Except Error PixelMode :=
  PixelMode.ofComponents metadata.components.toNat metadata.bits.toNat

def sampleCount? (metadata : Metadata) : Option Nat :=
  metadata.frame.sampleCount?

def sameGeometry (first second : Metadata) : Bool :=
  first.frame = second.frame

def plain (frame : FrameInfo) (interleave : Interleave) : Metadata where
  width := frame.width
  height := frame.height
  bits := UInt8.ofNat frame.bits.toNat
  components := UInt8.ofNat frame.components.toNat
  interleave := interleave
  colorSpace := none
  units := none
  verticalResolution := none

/-- The metadata of a frame that a pixel mode can represent and a buffer can hold. -/
def ofFrame (frame : FrameInfo) (interleave : Interleave) : Except Error Metadata :=
  match PixelMode.ofComponents frame.components.toNat frame.bits.toNat with
  | .error fault => .error fault
  | .ok _ =>
      if frame.width = 0 ∨ frame.height = 0 then
        .error (.format .zeroDimension)
      else if frame.sampleCount?.isNone then
        .error (.format .tooLarge)
      else
        .ok (plain frame interleave)

def withSpiff (metadata : Metadata) (header : Spiff.Header) : Metadata :=
  { metadata with
    colorSpace := some header.colorSpace
    units := some header.units
    verticalResolution := some header.verticalResolution }

def ofSpiff (header : Spiff.Header) : Except Error Metadata :=
  (ofFrame header.frame .planar).map (withSpiff · header)

/-- What a standard SPIFF header of this image declares, if one can be written. -/
def declaredSpiff? (metadata : Metadata) :
    Option (Spiff.ColorSpace × Spiff.ResolutionUnits × UInt32) := do
  let space ← Spiff.ColorSpace.ofCode? (← metadata.colorSpace)
  let units ← Spiff.ResolutionUnits.ofCode? (← metadata.units)
  let resolution ← metadata.verticalResolution
  return (space, units, resolution)

def impliedSpiff? (metadata : Metadata) : Option Spiff.Header :=
  metadata.declaredSpiff?.map fun (space, units, resolution) =>
    .standard metadata.width metadata.height metadata.bits metadata.components
      space units resolution resolution

def defaultResolution : UInt32 := 72

def forEncode (width height : UInt32) (mode : PixelMode) (options : EncodeOptions) :
    Except Error Metadata :=
  let frame : FrameInfo := {
    width, height
    bits := (options.bits.getD (UInt8.ofNat mode.bits)).toNat
    components := mode.components }
  let interleave :=
    if 1 < mode.components then options.interleave.getD .sample else .planar
  (ofFrame frame interleave).map fun metadata =>
    if options.spiff then
      { metadata with
        colorSpace := some (Spiff.ColorSpace.ofComponents mode.components).code
        units := some Spiff.ResolutionUnits.dotsPerInch.code
        verticalResolution := some defaultResolution }
    else
      metadata

end Metadata

end JpegLs
