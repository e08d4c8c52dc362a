import JpegLs.Error

namespace JpegLs

inductive Interleave where
  /-- One plane per component. -/
  | planar
  /-- One line of each component in turn. -/
  | line
  /-- One sample of each component in turn. -/
  | sample
deriving DecidableEq, Repr

namespace Interleave

def code : Interleave → Int
  | planar => 0
  | line => 1
  | sample => 2

def ofCode? : Int → Option Interleave
  | 0 => some planar
  | 1 => some line
  | 2 => some sample
  | _ => none

def spelling : Interleave → String
  | planar => "none"
  | line => "line"
  | sample => "sample"

def ofSpelling? : String → Option Interleave
  | "none" => some planar
  | "line" => some line
  | "sample" => some sample
  | _ => none

def ofCode (code : Int) : Except Error Interleave :=
  match ofCode? code with
  | some mode => .ok mode
  | none => .error (.codec .invalidParameterInterleaveMode)

def parse (text : String) : Except Error Interleave :=
  match ofSpelling? text with
  | some mode => .ok mode
  | none => .error (.codec .invalidArgumentInterleaveMode)

@[simp] theorem ofCode?_code (mode : Interleave) : ofCode? mode.code = some mode := by
  cases mode <;> rfl

@[simp] theorem ofSpelling?_spelling (mode : Interleave) :
    ofSpelling? mode.spelling = some mode := by
  cases mode <;> rfl

end Interleave

end JpegLs
