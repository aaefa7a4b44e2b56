import Footprint.Binary64.Arithmetic
import Footprint.Text.Blank
import Footprint.Text.Digit
import Footprint.Text.Quoted

/-! Reading numbers from text: blanks around, a sign, digits of any script with single underscores
between them, and for doubles a fraction, an exponent, or the names of the special values. -/
namespace Footprint.Decimal

open Text

/-- The longest run of digits, single underscores between two of them left out, and the rest. -/
def digitRun (afterDigit : Bool) : List Char → List Nat × List Char
  | [] => ([], [])
  | c :: rest =>
    match digitValue? c with
    | some d =>
      let run := digitRun true rest
      (d :: run.1, run.2)
    | none =>
      if c = '_' ∧ afterDigit ∧ (rest.head?.bind digitValue?).isSome then digitRun false rest
      else ([], c :: rest)

def ofDigits (digits : List Nat) : Nat := digits.foldl (fun n d => 10 * n + d) 0

/-- Whether the text starts with a minus, and the text after the sign. -/
def splitSign : List Char → Bool × List Char
  | '+' :: rest => (false, rest)
  | '-' :: rest => (true, rest)
  | text => (false, text)

def digitLimit : Nat := 4300

inductive IntegerTextError where
  | notAnInteger (text : String)
  | tooManyDigits (count : Nat)
  /-- Of an integer that is to be written. -/
  | tooLongToWrite
  deriving DecidableEq, Repr

def tooManyDigitsMessage (count : Nat) : String :=
  s!"Exceeds the limit ({digitLimit} digits) for integer string conversion: value has " ++
    s!"{count} digits; use sys.set_int_max_str_digits() to increase the limit"

def tooLongMessage : String :=
  s!"Exceeds the limit ({digitLimit} digits) for integer string conversion; use " ++
    "sys.set_int_max_str_digits() to increase the limit"

def shownLimit : Nat := 200

def IntegerTextError.message : IntegerTextError → String
  | .notAnInteger text =>
    "invalid literal for int() with base 10: " ++ String.ofList ((quoted text).toList.take shownLimit)
  | .tooManyDigits count => tooManyDigitsMessage count
  | .tooLongToWrite => tooLongMessage

/-- Blanks that may stand around a number: the information separators may not. -/
def isMargin (c : Char) : Bool := isBlank c && !('\x1c' ≤ c && c ≤ '\x1f')

/-- An integer with its sign. The number of digits is judged before what follows them, except that
a stray underscore spoils the digits themselves. -/
def readInteger (text : String) : Except IntegerTextError Int :=
  let (negative, body) := splitSign (stripBy isMargin text).toList
  let (digits, rest) := digitRun false body
  if digits.isEmpty || rest.head? = some '_' then .error (.notAnInteger text)
  else if digitLimit < digits.length then .error (.tooManyDigits digits.length)
  else if rest.isEmpty then .ok (if negative then -(ofDigits digits : Int) else ofDigits digits)
  else .error (.notAnInteger text)

/-- The exponent written after the significand; no text is exponent zero. -/
def readExponent : List Char → Option Int
  | [] => some 0
  | mark :: rest =>
    if mark = 'e' ∨ mark = 'E' then
      let (negative, body) := splitSign rest
      match digitRun false body with
      | (d :: ds, []) =>
        let magnitude := ofDigits (d :: ds)
        some (if negative then -(magnitude : Int) else magnitude)
      | _ => none
    else none

/-- An unsigned decimal with at least one digit before or after the point. -/
def readUnsigned (negative : Bool) (text : List Char) : Option Binary64 :=
  let (whole, rest) := digitRun false text
  let (fraction, rest) :=
    match rest with
    | '.' :: rest => digitRun false rest
    | rest => ([], rest)
  if whole.isEmpty && fraction.isEmpty then none
  else
    (readExponent rest).map fun exponent =>
      Binary64.ofDecimal negative (ofDigits (whole ++ fraction)) (exponent - fraction.length)

def specialValue? (negative : Bool) (text : List Char) : Option Binary64 :=
  let name := String.ofList (text.map Char.toLower)
  if name = "inf" ∨ name = "infinity" then some (.infinite negative)
  else if name = "nan" then some .nan
  else none

def readDouble (text : String) : Option Binary64 :=
  let (negative, body) := splitSign (stripBy isMargin text).toList
  (specialValue? negative body).or (readUnsigned negative body)

example : readDouble " 1_0.0_1 " = some 10.01 ∧ readDouble "1_" = none ∧ readDouble "." = none ∧
    readDouble "-1e400" = some (.infinite true) ∧ readDouble "１２.５" = some 12.5 := by decide +kernel

end Footprint.Decimal
