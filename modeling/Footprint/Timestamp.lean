import Footprint.Decimal.Notation

/-! Points in time as ISO 8601 writes them: a date, a time of day to the microsecond, and the offset
from universal time when it is known. -/
namespace Footprint

structure Timestamp where
  year : Nat
  month : Nat
  day : Nat
  hour : Nat := 0
  minute : Nat := 0
  second : Nat := 0
  microsecond : Nat := 0
  /-- In seconds. -/
  offset : Option Int := none
  deriving DecidableEq, Repr

namespace Timestamp

open Decimal

/-! ### Writing -/

def offsetText (offset : Int) : String :=
  let total := offset.natAbs
  (if offset < 0 then "-" else "+") ++ padded 2 (total / 3600) ++ ":" ++ padded 2 (total / 60 % 60) ++
    (if total % 60 = 0 then "" else ":" ++ padded 2 (total % 60))

def text (t : Timestamp) : String :=
  padded 4 t.year ++ "-" ++ padded 2 t.month ++ "-" ++ padded 2 t.day ++ "T" ++
    padded 2 t.hour ++ ":" ++ padded 2 t.minute ++ ":" ++ padded 2 t.second ++
    (if t.microsecond = 0 then "" else "." ++ padded 6 t.microsecond) ++
    (t.offset.map offsetText).getD ""

/-! ### Reading -/

def isLeapYear (year : Nat) : Bool := year % 4 == 0 && (year % 100 != 0 || year % 400 == 0)

def daysInMonth (year month : Nat) : Nat :=
  if month = 2 then (if isLeapYear year then 29 else 28)
  else if month = 4 ∨ month = 6 ∨ month = 9 ∨ month = 11 then 30
  else 31

def isValidDate (year month day : Nat) : Bool :=
  1 ≤ year && 1 ≤ month && month ≤ 12 && 1 ≤ day && day ≤ daysInMonth year month

def digits? (count : Nat) (text : List Char) : Option (Nat × List Char) :=
  let front := text.take count
  if front.length = count ∧ front.all Char.isDigit then
    some (front.foldl (fun n c => 10 * n + (c.toNat - 48)) 0, text.drop count)
  else none

def dropMark? (mark : Char) : List Char → Option (List Char)
  | c :: rest => if c = mark then some rest else none
  | [] => none

def date? (text : List Char) : Option ((Nat × Nat × Nat) × List Char) := do
  let (year, rest) ← digits? 4 text
  let hyphens := rest.head? == some '-'
  let (month, rest) ← digits? 2 (if hyphens then rest.drop 1 else rest)
  let rest ← if hyphens then dropMark? '-' rest else some rest
  let (day, rest) ← digits? 2 rest
  if isValidDate year month day then some ((year, month, day), rest) else none

/-- Up to three pairs of digits, with colons between them or without any; what is not there is zero. -/
def clock? (text : List Char) : Option ((Nat × Nat × Nat) × List Char) := do
  let (hour, rest) ← digits? 2 text
  if rest.isEmpty then return ((hour, 0, 0), [])
  let colons := rest.head? == some ':'
  let (minute, rest) ← digits? 2 (if colons then rest.drop 1 else rest)
  if rest.isEmpty then return ((hour, minute, 0), [])
  let (second, rest) ← digits? 2 (if colons then (dropMark? ':' rest).getD [] else rest)
  return ((hour, minute, second), rest)

/-- The microseconds of a fraction; digits after the sixth are dropped. -/
def fraction? : List Char → Option Nat
  | [] => some 0
  | mark :: fraction =>
    if (mark = '.' ∨ mark = ',') ∧ fraction ≠ [] ∧ fraction.all Char.isDigit then
      (digits? 6 ((fraction ++ List.replicate 6 '0').take 6)).map Prod.fst
    else none

def isZoneMark (c : Char) : Bool := c == '+' || c == '-' || c == 'Z'

def offset? : List Char → Option (Option Int)
  | [] => some none
  | ['Z'] => some (some 0)
  | sign :: rest =>
    if sign = '+' ∨ sign = '-' then
      match clock? rest with
      | some ((hours, minutes, seconds), []) =>
        let total : Int := hours * 3600 + minutes * 60 + seconds
        if hours < 24 ∧ minutes < 60 ∧ seconds < 60 then some (some (if sign = '-' then -total else total))
        else none
      | _ => none
    else none

def withTime? (date : Nat × Nat × Nat) (text : List Char) : Option Timestamp := do
  let (time, zone) := text.span fun c => !isZoneMark c
  let ((hour, minute, second), fraction) ← clock? time
  let microsecond ← fraction? fraction
  let offset ← offset? zone
  if hour < 24 ∧ minute < 60 ∧ second < 60 then
    some { year := date.1, month := date.2.1, day := date.2.2, hour, minute, second, microsecond, offset }
  else none

/-- The time that an ISO text tells: a date alone, or with a time behind a mark of any kind. -/
def ofIso? (iso : String) : Option Timestamp := do
  let (date, rest) ← date? iso.toList
  match rest with
  | [] => some { year := date.1, month := date.2.1, day := date.2.2 }
  | _ :: time => withTime? date time

example : (ofIso? "1999-12-31T00:00:00.5+14:00").map text = some "1999-12-31T00:00:00.500000+14:00" := by
  decide +kernel

example : (ofIso? "2025-07-04T01:02:03").map text = some "2025-07-04T01:02:03" ∧
    ofIso? "2025-02-29T00:00" = none := by decide +kernel

end Timestamp
end Footprint
