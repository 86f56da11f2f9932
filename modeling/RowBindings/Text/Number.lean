/-!
# Decimal numbers

`decimal` and `signedDecimal` write a number in as few digits as it takes. `readInt64` reads an
optional sign and decimal digits as a signed number of 64 bits. It goes from left to right and
stops at the first fault, so of a bad digit and an overflow the one further left is reported.
`spellsNumber` recognizes the numbers with a fraction and an exponent.
-/

namespace RowBindings.Text

def decimal (n : Nat) : String :=
  String.ofList (Nat.toDigits 10 n)

/-- The decimal digits of a number, after a minus sign if it is negative. -/
def signedDecimal (n : Int) : String :=
  if n < 0 then "-" ++ decimal n.natAbs else decimal n.natAbs

/-- Why a text is not a number in range. -/
inductive NumberFault
  | empty
  | invalidDigit
  | tooLarge
  | tooSmall
  deriving DecidableEq, Repr

def NumberFault.message : NumberFault → String
  | .empty => "cannot parse integer from empty string"
  | .invalidDigit => "invalid digit found in string"
  | .tooLarge => "number too large to fit in target type"
  | .tooSmall => "number too small to fit in target type"

def int64Min : Int := -0x8000000000000000

def int64Max : Int := 0x7FFFFFFFFFFFFFFF

def digitValue? (c : Char) : Option Nat :=
  if c.isDigit then some (c.toNat - '0'.toNat) else none

/-- Whether a number counts up or down from zero. -/
inductive Sign
  | plus
  | minus
  deriving DecidableEq, Repr

/-- The number with one more digit at its end. -/
def Sign.push (sign : Sign) (value : Int) (digit : Nat) : Int :=
  match sign with
  | .plus => value * 10 + digit
  | .minus => value * 10 - digit

/-- Read the digits that follow those of `value`. -/
def readDigits (sign : Sign) (value : Int) : List Char → Except NumberFault Int
  | [] => .ok value
  | c :: rest =>
    match digitValue? c with
    | none => .error .invalidDigit
    | some digit =>
      if int64Max < sign.push value digit then .error .tooLarge
      else if sign.push value digit < int64Min then .error .tooSmall
      else readDigits sign (sign.push value digit) rest

/-- Read a whole text as a number. A sign must be followed by a digit. -/
def readInt64 : List Char → Except NumberFault Int
  | [] => .error .empty
  | ['+'] => .error .invalidDigit
  | ['-'] => .error .invalidDigit
  | '+' :: digits => readDigits .plus 0 digits
  | '-' :: digits => readDigits .minus 0 digits
  | digits => readDigits .plus 0 digits

/-- The text without a sign at its start. -/
def dropSign : List Char → List Char
  | '+' :: rest => rest
  | '-' :: rest => rest
  | s => s

/-- Whether a text is empty or an exponent. -/
def isExponent : List Char → Bool
  | [] => true
  | c :: rest => c.toLower == 'e' && dropSign rest != [] && (dropSign rest).all Char.isDigit

/-- Whether a text is digits, with a point among them or not, and perhaps an exponent. -/
def isFraction (s : List Char) : Bool :=
  let whole := s.takeWhile Char.isDigit
  match s.dropWhile Char.isDigit with
  | '.' :: rest =>
    (whole != [] || rest.takeWhile Char.isDigit != []) && isExponent (rest.dropWhile Char.isDigit)
  | rest => whole != [] && isExponent rest

/-- Whether a text is a number with an optional sign; infinity and the number that is none have
names. -/
def spellsNumber (s : List Char) : Bool :=
  isFraction (dropSign s) ||
    ["inf", "infinity", "nan"].contains (String.ofList ((dropSign s).map Char.toLower))

end RowBindings.Text
