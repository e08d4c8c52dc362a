import JpegLs.Interleave

/-!
The arguments of the command line.  An option has a long name and perhaps a letter; its value
follows an equals sign, follows the letter, or is the next argument.  No option is given twice.
-/

namespace JpegLs.Command

structure Flag where
  long : String
  letter : Option Char
  takesValue : Bool
deriving DecidableEq, Repr

/-- The options given so far, by their long names.  One that takes no value has an empty one. -/
abbrev Given := List (String × String)

namespace Given

def get? (given : Given) (name : String) : Option String :=
  (given.find? (·.1 = name)).map (·.2)

def add? (given : Given) (name value : String) : Option Given :=
  if (given.get? name).isSome then none else some ((name, value) :: given)

end Given

inductive Token where
  | word (text : String)
  | given (flag : Flag) (value : String)
  | waiting (flag : Flag)
  | endOfOptions
  | unknown
deriving DecidableEq, Repr

def splitEquals (text : List Char) : List Char × Option (List Char) :=
  match text.dropWhile (· ≠ '=') with
  | [] => (text, none)
  | _ :: value => (text.takeWhile (· ≠ '='), some value)

def longToken (flags : List Flag) (text : List Char) : Token :=
  let (name, value?) := splitEquals text
  match flags.find? (·.long = String.ofList name), value? with
  | none, _ => .unknown
  | some flag, some value =>
      if flag.takesValue then .given flag (String.ofList value) else .unknown
  | some flag, none => if flag.takesValue then .waiting flag else .given flag ""

def letterToken (flags : List Flag) (letter : Char) (rest : List Char) : Token :=
  match flags.find? (·.letter = some letter) with
  | none => .unknown
  | some flag =>
      if flag.takesValue then
        match rest with
        | [] => .waiting flag
        | '=' :: value => .given flag (String.ofList value)
        | value => .given flag (String.ofList value)
      else
        .given flag ""

def Token.of (flags : List Flag) (argument : String) : Token :=
  match argument.toList with
  | ['-', '-'] => .endOfOptions
  | '-' :: '-' :: text => longToken flags text
  | ['-'] => .word argument
  | '-' :: letter :: rest => letterToken flags letter rest
  | _ => .word argument

def isValue (argument : String) : Bool :=
  argument = "-" || argument.toList.head? ≠ some '-'

/-- Takes options up to the first argument that is none; `none` stands for arguments that cannot
be understood.  The option named `stop` ends the reading at once. -/
def takeOptions (flags : List Flag) (stop : String) (given : Given) :
    List String → Option (Given × List String)
  | [] => some (given, [])
  | argument :: rest =>
      match Token.of flags argument with
      | .word _ => some (given, argument :: rest)
      | .unknown => none
      | .endOfOptions => if rest.isEmpty then some (given, []) else none
      | .given flag value =>
          if flag.long = stop then some ([(stop, value)], [])
          else (given.add? flag.long value).bind fun given => takeOptions flags stop given rest
      | .waiting flag =>
          match rest with
          | [] => none
          | value :: rest =>
              if isValue value then
                (given.add? flag.long value).bind fun given => takeOptions flags stop given rest
              else
                none

inductive OutputFormat where
  | raw
  | image
deriving DecidableEq, Repr

structure RawGeometry where
  width : Option Nat
  height : Option Nat
  components : Nat
  bits : Nat
deriving DecidableEq, Repr

inductive Request where
  | decode (input output : String) (format : OutputFormat)
  | encode (input output : String) (raw : RawGeometry) (bitsPerComponent : Option UInt8)
      (interleave : Option Interleave) (spiff : Bool)
  | info (input : String)
deriving DecidableEq, Repr

inductive Invocation where
  | version
  | run (library : Option String) (request : Request)
deriving DecidableEq, Repr

def libraryFlag : Flag := ⟨"charls-library", none, true⟩

def topFlags : List Flag := [libraryFlag, ⟨"version", some 'V', false⟩]

def infoFlags : List Flag := [libraryFlag, ⟨"input", some 'i', true⟩]

def decodeFlags : List Flag :=
  infoFlags ++ [⟨"output", some 'o', true⟩, ⟨"format", some 'f', true⟩]

def encodeFlags : List Flag :=
  infoFlags ++ [⟨"output", some 'o', true⟩, ⟨"width", some 'w', true⟩,
    ⟨"height", some 'H', true⟩, ⟨"components", some 'n', true⟩, ⟨"bits", none, true⟩,
    ⟨"bits-per-component", none, true⟩, ⟨"interleave", none, true⟩, ⟨"no-spiff", none, false⟩]

/-- Decimal digits behind an optional sign, for a number in `[0, limit)`. -/
def natural? (limit : Nat) (text : String) : Option Nat :=
  let (negative, digits) := match text.toList with
    | '+' :: digits => (false, digits)
    | '-' :: digits => (true, digits)
    | digits => (false, digits)
  if !digits.isEmpty && digits.all Char.isDigit then
    let n := digits.foldl (fun n c => n * 10 + (c.toNat - 48)) 0
    if n < limit ∧ (negative = true → n = 0) then some n else none
  else
    none

def path? (text : String) : Option String :=
  if text = "" then none else some text

def format? : String → Option OutputFormat
  | "raw" => some .raw
  | "image" => some .image
  | _ => none

def required {α : Type} (given : Given) (name : String) (read : String → Option α) : Option α :=
  (given.get? name).bind read

def optional {α : Type} (given : Given) (name : String) (read : String → Option α) :
    Option (Option α) :=
  match given.get? name with
  | none => some none
  | some text => (read text).map some

def defaulted {α : Type} (given : Given) (name : String) (read : String → Option α)
    (value : α) : Option α :=
  (optional given name read).map (·.getD value)

def decodeRequest (given : Given) : Option Request := do
  return .decode (← required given "input" path?) (← required given "output" path?)
    (← defaulted given "format" format? .raw)

def encodeRequest (given : Given) : Option Request := do
  let raw : RawGeometry := {
    width := ← optional given "width" (natural? UInt32.size)
    height := ← optional given "height" (natural? UInt32.size)
    components := ← defaulted given "components" (natural? UInt32.size) 1
    bits := ← defaulted given "bits" (natural? UInt32.size) 8 }
  let bitsPerComponent ← optional given "bits-per-component" (natural? 256)
  let interleave ← optional given "interleave" Interleave.ofSpelling?
  return .encode (← required given "input" path?) (← required given "output" path?) raw
    (bitsPerComponent.map UInt8.ofNat) interleave (given.get? "no-spiff").isNone

def infoRequest (given : Given) : Option Request := do
  return .info (← required given "input" path?)

def command? : String → Option (List Flag × (Given → Option Request))
  | "decode" | "d" => some (decodeFlags, decodeRequest)
  | "encode" | "e" => some (encodeFlags, encodeRequest)
  | "info" | "i" => some (infoFlags, infoRequest)
  | _ => none

/-- What a command line asks for.  The library may be named before or behind the command; the
name behind it counts. -/
def Invocation.parse? (arguments : List String) : Option Invocation := do
  let (top, rest) ← takeOptions topFlags "version" [] arguments
  if (top.get? "version").isSome then
    return .version
  let above ← optional top libraryFlag.long path?
  match rest with
  | [] => none
  | name :: rest =>
      let (flags, request) ← command? name
      let (given, rest) ← takeOptions flags "" [] rest
      if rest.isEmpty then
        let below ← optional given libraryFlag.long path?
        return .run (below <|> above) (← request given)
      else
        none

end JpegLs.Command
