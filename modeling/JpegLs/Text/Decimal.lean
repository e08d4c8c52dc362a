namespace JpegLs.Decimal

inductive Fault where
  | empty
  | notDigit
  | tooLarge
deriving DecidableEq, Repr

def Fault.text : Fault → String
  | empty => "cannot parse integer from empty string"
  | notDigit => "invalid digit found in string"
  | tooLarge => "number too large to fit in target type"

def append (limit n : Nat) (digit : Char) : Except Fault Nat :=
  if digit.isDigit then
    let n := n * 10 + (digit.toNat - 48)
    if n < limit then .ok n else .error .tooLarge
  else
    .error .notDigit

/-- A number with a plus sign or none.  A sign alone is taken for a digit. -/
def parse (limit : Nat) (text : List Char) : Except Fault Nat :=
  let digits := match text with
    | '+' :: first :: rest => first :: rest
    | digits => digits
  if digits.isEmpty then .error .empty else digits.foldlM (append limit) 0

end JpegLs.Decimal
