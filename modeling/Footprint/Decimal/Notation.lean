import Footprint.Decimal.Shortest

/-! The written form of a number. A double is written with its shortest digits, positionally while
the exponent of its leading digit lies in `-4 … 15` and with an exponent of at least two digits
outside; a whole number keeps a zero after the point. With a fixed number of places the exact value
is rounded, a tie to the even digit. -/
namespace Footprint.Decimal

def zeros (n : Nat) : String := String.ofList (List.replicate n '0')

def padded (width n : Nat) : String :=
  let digits := toString n
  zeros (width - digits.length) ++ digits

/-- The digits with the point after the first `whole` of them; zeros fill what is missing. -/
def positional (digits : List Char) (whole : Int) : String :=
  if whole ≤ 0 then "0." ++ zeros (-whole).toNat ++ String.ofList digits
  else
    let before := digits.take whole.toNat
    let after := digits.drop whole.toNat
    String.ofList before ++ zeros (whole.toNat - before.length) ++ "." ++
      (if after.isEmpty then "0" else String.ofList after)

def scientific (digits : List Char) (leading : Int) : String :=
  let mantissa :=
    match digits with
    | first :: second :: rest => String.ofList (first :: '.' :: second :: rest)
    | _ => String.ofList digits
  mantissa ++ (if leading < 0 then "e-" else "e+") ++ padded 2 leading.natAbs

def Digits.text (x : Digits) : String :=
  let digits := (toString x.digits).toList
  let leading := x.exponent + digits.length - 1
  if -4 ≤ leading ∧ leading < 16 then positional digits (leading + 1) else scientific digits leading

def withPlaces (places n : Nat) : String :=
  let whole := toString (n / Nat.pow 10 places)
  if places = 0 then whole else whole ++ "." ++ padded places (n % Nat.pow 10 places)

end Footprint.Decimal

namespace Footprint.Binary64

def sign (negative : Bool) : String := if negative then "-" else ""

def text : Binary64 → String
  | .nan => "nan"
  | .infinite negative => sign negative ++ "inf"
  | .finite negative significand power _ =>
    sign negative ++
      if significand = 0 then "0.0" else (Decimal.shortest significand power).text

/-- The exact value rounded to a number of places, ties to the even digit. -/
def fixed (places : Nat) : Binary64 → String
  | .nan => "nan"
  | .infinite negative => sign negative ++ "inf"
  | .finite negative significand power _ =>
    sign negative ++ Decimal.withPlaces places
      (nearestEven ((significand <<< power) * Nat.pow 10 places) unitsPerOne)

instance : ToString Binary64 := ⟨text⟩

example : text 0.1 = "0.1" ∧ text 1e16 = "1e+16" ∧ text 1e22 = "1e+22" ∧ text 123456789.125 = "123456789.125"
    ∧ text 0.00001 = "1e-05" ∧ text 1e15 = "1000000000000000.0" ∧ text (zero true) = "-0.0" := by
  decide +kernel

example : fixed 1 0.25 = "0.2" ∧ fixed 3 2.0005 = "2.001" ∧ fixed 0 2.5 = "2" := by decide +kernel

end Footprint.Binary64
