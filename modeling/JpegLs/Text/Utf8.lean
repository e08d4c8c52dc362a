namespace JpegLs.Utf8

/-- Where text stops being UTF-8.  The bytes from `index` on start like a character; `length` of
them can belong to none, or the text ends before the character does. -/
structure Fault where
  index : Nat
  length : Option Nat
deriving DecidableEq, Repr

def Fault.text (fault : Fault) : String :=
  match fault.length with
  | some length => s!"invalid utf-8 sequence of {length} bytes from index {fault.index}"
  | none => s!"incomplete utf-8 byte sequence from index {fault.index}"

abbrev Range := UInt8 × UInt8

def tail : Range := (0x80, 0xBF)

/-- What the bytes behind the first byte of a character may be.  The narrower ranges leave out long
forms, surrogates and numbers above the last character. -/
def tails? (first : UInt8) : Option (List Range) :=
  if first ≤ 0x7F then some []
  else if 0xC2 ≤ first ∧ first ≤ 0xDF then some [tail]
  else if first = 0xE0 then some [(0xA0, 0xBF), tail]
  else if first = 0xED then some [(0x80, 0x9F), tail]
  else if 0xE1 ≤ first ∧ first ≤ 0xEF then some [tail, tail]
  else if first = 0xF0 then some [(0x90, 0xBF), tail, tail]
  else if 0xF1 ≤ first ∧ first ≤ 0xF3 then some [tail, tail, tail]
  else if first = 0xF4 then some [(0x80, 0x8F), tail, tail]
  else none

/-- The first fault of text of which `index` bytes stand before the character at hand, which needs
`needed` more bytes behind the `read` ones. -/
def faultWithin (index read : Nat) : (needed : List Range) → List UInt8 → Option Fault
  | [], [] => none
  | [], first :: rest =>
      match tails? first with
      | some needed => faultWithin (index + read) 1 needed rest
      | none => some ⟨index + read, some 1⟩
  | _ :: _, [] => some ⟨index, none⟩
  | (least, greatest) :: needed, byte :: rest =>
      if least ≤ byte ∧ byte ≤ greatest then faultWithin index (read + 1) needed rest
      else some ⟨index, some read⟩

def fault? (bytes : List UInt8) : Option Fault :=
  faultWithin 0 0 [] bytes

end JpegLs.Utf8
