import JpegLs.Pnm.Fault

/-!
Headers of portable maps.  A bit map (P1, P4), a gray map (P2, P5) or a color map (P3, P6) starts
with numbers between blanks and comments, an arbitrary map (P7) with lines that each name a value.
-/

namespace JpegLs.Pnm

open Host (Channels)

inductive Form where
  | bitDigits
  /-- Rows of bits, each filled up to whole bytes, a one for black. -/
  | packedBits
  | decimals
  | binary
  | flags
deriving DecidableEq, Repr

structure Header where
  width : Nat
  height : Nat
  maxval : Nat
  channels : Channels
  sampleWidth : SampleWidth
  form : Form
deriving DecidableEq, Repr

def isBlank (byte : UInt8) : Bool :=
  (9 ≤ byte && byte ≤ 13) || byte == 32

def digitChar (byte : UInt8) : Char :=
  Char.ofNat byte.toNat

def extend (place : Place) (limit : Nat) (read : Option Nat) (byte : UInt8) : Except Fault Nat :=
  match Decimal.append limit (read.getD 0) (digitChar byte) with
  | .ok n => .ok n
  | .error .tooLarge => .error (.overflow place)
  | .error _ => .error (.invalidDigit place)

/-- The next number, and what follows the one blank behind it.  A comment lasts to the end of its
line and counts for nothing, so it does not end a number. -/
def number (inComment : Bool) (read : Option Nat) : List UInt8 → Except Fault (Nat × List UInt8)
  | [] =>
      match read with
      | some n => .ok (n, [])
      | none => .error .unexpectedEnd
  | byte :: rest =>
      if inComment then
        number (byte != 10 && byte != 13) read rest
      else if byte == 35 then
        number true read rest
      else if isBlank byte then
        match read with
        | some n => .ok (n, rest)
        | none => number false none rest
      else if 128 ≤ byte then
        .error (.nonAsciiByte byte)
      else
        match extend .preamble UInt32.size read byte with
        | .ok n => number false (some n) rest
        | .error fault => .error fault

def sampleWidth (maxval : Nat) : Except Fault SampleWidth :=
  if maxval = 0 then .error .maxvalZero
  else if maxval ≤ 0xFF then .ok .eight
  else if maxval ≤ 0xFFFF then .ok .sixteen
  else .error (.maxvalTooBig maxval)

def readBitMap (form : Form) (bytes : List UInt8) : Except Fault (Header × List UInt8) := do
  let (width, bytes) ← number false none bytes
  let (height, raster) ← number false none bytes
  return ({ width, height, maxval := 1, channels := .l, sampleWidth := .eight, form }, raster)

def readMap (channels : Channels) (form : Form) (bytes : List UInt8) :
    Except Fault (Header × List UInt8) := do
  let (width, bytes) ← number false none bytes
  let (height, bytes) ← number false none bytes
  let (maxval, raster) ← number false none bytes
  let sampleWidth ← sampleWidth maxval
  return ({ width, height, maxval, channels, sampleWidth, form }, raster)

def isBlankChar (c : Char) : Bool :=
  (9 ≤ c.toNat && c.toNat ≤ 13) || c == ' '

def trim (text : List Char) : List Char :=
  ((text.dropWhile isBlankChar).reverse.dropWhile isBlankChar).reverse

structure Lines where
  height : Option Nat := none
  width : Option Nat := none
  depth : Option Nat := none
  maxval : Option Nat := none
  tuple : Option String := none

namespace Lines

def get (lines : Lines) : Line → Option Nat
  | .height => lines.height
  | .width => lines.width
  | .depth => lines.depth
  | .maxval => lines.maxval

def set (lines : Lines) (line : Line) (n : Nat) : Lines :=
  match line with
  | .height => { lines with height := some n }
  | .width => { lines with width := some n }
  | .depth => { lines with depth := some n }
  | .maxval => { lines with maxval := some n }

def read (lines : Lines) (line : Line) (value : List Char) : Except Fault Lines :=
  match lines.get line, Decimal.parse UInt32.size (trim value) with
  | some _, _ => .error (.duplicateLine line)
  | none, .ok n => .ok (lines.set line n)
  | none, .error fault => .error (.unparsable line (String.ofList value) fault)

/-- Tuple types on several lines are one text with blanks between. -/
def readTuple (lines : Lines) (value : List Char) : Lines :=
  let value := String.ofList (trim value)
  { lines with tuple := some (match lines.tuple with
    | some before => before ++ " " ++ value
    | none => value) }

/-- How the samples of a map with a tuple type are stored.  A gray map of depth zero is read as one
of two-byte samples. -/
def namedLayout (depth maxval : Nat) (tuple : String) :
    Except Fault (Channels × SampleWidth × Form) :=
  let flags (channels : Channels) : Except Fault (Channels × SampleWidth × Form) :=
    if depth = channels.count ∧ maxval = 1 then .ok (channels, .eight, .flags)
    else .error (.tupleDepthOrMaxval tuple depth maxval)
  let wide (channels : Channels) : Except Fault (Channels × SampleWidth × Form) :=
    if depth = channels.count ∧ maxval ≤ 0xFF then .ok (channels, .eight, .binary)
    else if depth = channels.count ∧ maxval ≤ 0xFFFF then .ok (channels, .sixteen, .binary)
    else .error (.tupleDepth tuple depth)
  match tuple with
  | "BLACKANDWHITE" => flags .l
  | "BLACKANDWHITE_ALPHA" => flags .la
  | "GRAYSCALE" =>
      if depth = 1 ∧ maxval ≤ 0xFF then .ok (.l, .eight, .binary)
      else if depth ≤ 1 ∧ maxval ≤ 0xFFFF then .ok (.l, .sixteen, .binary)
      else .error (.tupleDepthOrMaxval tuple depth maxval)
  | "GRAYSCALE_ALPHA" => wide .la
  | "RGB" => wide .rgb
  | "RGB_ALPHA" => wide .rgba
  | _ => .error (.unknownTuple tuple)

/-- Without a tuple type the depth alone tells the channels, and samples are bytes. -/
def unnamedLayout (depth : Nat) : Except Fault (Channels × SampleWidth × Form) :=
  match [Channels.l, .la, .rgb, .rgba].find? (·.count = depth) with
  | some channels => .ok (channels, .eight, .binary)
  | none => .error .missingTuple

def header (lines : Lines) : Except Fault Header :=
  match lines.height, lines.width, lines.depth, lines.maxval with
  | some height, some width, some depth, some maxval => do
      if maxval = 0 then throw .maxvalZero
      let (channels, sampleWidth, form) ← match lines.tuple with
        | some tuple => namedLayout depth maxval tuple
        | none => unnamedLayout depth
      return { width, height, maxval, channels, sampleWidth, form }
  | height, width, depth, maxval => .error (.missingLine height width depth maxval)

end Lines

def takeLine (bytes : List UInt8) : List UInt8 × List UInt8 :=
  (bytes.takeWhile (· != 10), (bytes.dropWhile (· != 10)).drop 1)

theorem length_takeLine_lt {bytes : List UInt8} (h : (takeLine bytes).1 ≠ []) :
    (takeLine bytes).2.length < bytes.length := by
  have hline := List.length_pos_iff.mpr h
  have hall := congrArg List.length (List.takeWhile_append_dropWhile (p := (· != 10)) (l := bytes))
  simp only [takeLine, List.length_append, List.length_drop] at hline hall ⊢
  omega

/-- Reads lines up to the one that ends the header.  A comment is a whole line, and text like any
other; an empty line is taken for the end of the map. -/
def readLines (lines : Lines) (bytes : List UInt8) : Except Fault (Lines × List UInt8) :=
  if hend : (takeLine bytes).1 = [] then
    .error .headerEnd
  else
    have := length_takeLine_lt hend
    let line := (takeLine bytes).1
    let rest := (takeLine bytes).2
    match Utf8.fault? line with
    | some fault => .error (.notUtf8 fault)
    | none =>
        if line.head? == some 35 then
          readLines lines rest
        else if line.any (128 ≤ ·) then
          .error .nonAsciiLine
        else
          let text := line.map digitChar
          let name := String.ofList (text.takeWhile (!isBlankChar ·))
          let value := text.dropWhile (!isBlankChar ·)
          let next (lines : Except Fault Lines) : Except Fault (Lines × List UInt8) :=
            match lines with
            | .ok lines => readLines lines rest
            | .error fault => .error fault
          match name with
          | "ENDHDR" => .ok (lines, rest)
          | "HEIGHT" => next (lines.read .height value)
          | "WIDTH" => next (lines.read .width value)
          | "DEPTH" => next (lines.read .depth value)
          | "MAXVAL" => next (lines.read .maxval value)
          | "TUPLTYPE" => next (.ok (lines.readTuple value))
          | name => .error (.unknownLine name)
termination_by bytes.length

def readArbitraryMap (bytes : List UInt8) : Except Fault (Header × List UInt8) :=
  match bytes with
  | [] => .error .unexpectedEnd
  | 10 :: bytes => do
      let (lines, raster) ← readLines {} bytes
      return (← lines.header, raster)
  | byte :: _ => .error (.noNewline byte)

def readHeader (bytes : List UInt8) : Except Fault (Header × List UInt8) := do
  let (header, raster) ← match bytes with
    | 80 :: 49 :: rest => readBitMap .bitDigits rest
    | 80 :: 50 :: rest => readMap .l .decimals rest
    | 80 :: 51 :: rest => readMap .rgb .decimals rest
    | 80 :: 52 :: rest => readBitMap .packedBits rest
    | 80 :: 53 :: rest => readMap .l .binary rest
    | 80 :: 54 :: rest => readMap .rgb .binary rest
    | 80 :: 55 :: rest => readArbitraryMap rest
    | first :: second :: _ => throw (.magic first second)
    | _ => throw .shortRaster
  if UInt64.size ≤ header.width * header.height *
      (header.channels.count * header.sampleWidth.bytes) then
    throw (.oversized header.width header.height)
  return (header, raster)

end JpegLs.Pnm
