import JpegLs.Host.Color
import JpegLs.Text.Decimal
import JpegLs.Text.Quoted
import JpegLs.Text.Utf8

namespace JpegLs.Pnm

inductive Line where
  | height
  | width
  | depth
  | maxval
deriving DecidableEq, Repr

def Line.name : Line → String
  | height => "HEIGHT"
  | width => "WIDTH"
  | depth => "DEPTH"
  | maxval => "MAXVAL"

inductive Place where
  | preamble
  | sample
deriving DecidableEq, Repr

def Place.name : Place → String
  | preamble => "number in preamble"
  | sample => "sample"

inductive Fault where
  | magic (first second : UInt8)
  | invalidDigit (place : Place)
  | overflow (place : Place)
  | nonAsciiByte (byte : UInt8)
  | unexpectedEnd
  | noNewline (byte : UInt8)
  | headerEnd
  | notUtf8 (fault : Utf8.Fault)
  | nonAsciiLine
  | unparsable (line : Line) (text : String) (fault : Decimal.Fault)
  | duplicateLine (line : Line)
  | unknownLine (name : String)
  | missingLine (height width depth maxval : Option Nat)
  | maxvalZero
  | maxvalTooBig (maxval : Nat)
  | tupleDepth (tuple : String) (depth : Nat)
  | tupleDepthOrMaxval (tuple : String) (depth maxval : Nat)
  | missingTuple
  | unknownTuple (tuple : String)
  | oversized (width height : Nat)
  | shortRaster
  | fewSamples
  | unexpectedByte (byte : UInt8)
  | outOfBounds (sample : UInt8)
  | unsupportedColor (color : Host.Color)
deriving DecidableEq, Repr

def hexByte (byte : UInt8) : String :=
  let digits := (Quoted.hexDigits byte.toNat).toUpper
  "0x" ++ (if byte < 16 then "0" ++ digits else digits)

def optionText : Option Nat → String
  | some n => s!"Some({n})"
  | none => "None"

def Fault.text : Fault → String
  | magic first second =>
      s!"Expected magic constant for PNM: P1..P7, got [{hexByte first}, {hexByte second}]"
  | invalidDigit place => s!"Non-ASCII-digit character when parsing number in {place.name}"
  | overflow place => s!"Overflow when parsing integer in {place.name}"
  | nonAsciiByte byte => s!"Non-ASCII character {hexByte byte} in header"
  | unexpectedEnd => "unexpected end of file"
  | noNewline byte => s!"Expected newline after P7 magic, got {hexByte byte}"
  | headerEnd => "Unexpected end of PNM header"
  | notUtf8 fault => fault.text
  | nonAsciiLine => "Non-ASCII line in PAM header"
  | unparsable line text fault =>
      s!"Error parsing {Quoted.quote text} as {line.name}: {fault.text}"
  | duplicateLine line => s!"Duplicate {line.name} line"
  | unknownLine name => s!"Unknown header line with identifier {Quoted.quote name}"
  | missingLine height width depth maxval =>
      s!"Missing header line: have height={optionText height}, width={optionText width}, " ++
        s!"depth={optionText depth}, maxval={optionText maxval}"
  | maxvalZero => "Image MAXVAL is zero"
  | maxvalTooBig maxval => s!"Image MAXVAL exceeds 65535: {maxval}"
  | tupleDepth tuple depth => s!"Invalid depth ({depth}) for tuple type {tuple}"
  | tupleDepthOrMaxval tuple depth maxval =>
      s!"Invalid depth ({depth}) or maxval ({maxval}) for tuple type {tuple}"
  | missingTuple => "Tuple type not recognized"
  | unknownTuple tuple => s!"Tuple type {Quoted.quote tuple}"
  | oversized width height => s!"Image dimensions ({width}x{height}) are too large"
  | shortRaster => "failed to fill whole buffer"
  | fewSamples => "Not enough data was provided to the Decoder to decode the image"
  | unexpectedByte byte => s!"Unexpected character {hexByte byte} within sample raster"
  | outOfBounds sample => s!"Sample value {sample} outside of bounds"
  | unsupportedColor color =>
      s!"The encoder or decoder for Pnm does not support the color type `{color.name}`"

end JpegLs.Pnm
