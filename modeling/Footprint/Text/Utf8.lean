/-! Reading bytes as UTF-8. Every longest front of a sequence that goes on wrongly is read as one
replacement character, and so is every byte that cannot start one. -/
namespace Footprint.Text.Utf8

/-- A sequence that is not complete: how many bytes it still needs, its value so far, and the bounds
of the next byte. -/
structure Open where
  needed : Nat
  value : Nat
  low : Nat
  high : Nat

def replacement : Char := '\ufffd'

/-- What a byte starts: a character or a longer sequence; `none` when nothing starts with it. -/
def start? (byte : Nat) : Option (Char ⊕ Open) :=
  if byte < 0x80 then some (.inl (Char.ofNat byte))
  else if byte < 0xC2 then none
  else if byte < 0xE0 then some (.inr ⟨1, byte - 0xC0, 0x80, 0xBF⟩)
  else if byte < 0xF0 then
    some (.inr ⟨2, byte - 0xE0, if byte = 0xE0 then 0xA0 else 0x80, if byte = 0xED then 0x9F else 0xBF⟩)
  else if byte < 0xF5 then
    some (.inr ⟨3, byte - 0xF0, if byte = 0xF0 then 0x90 else 0x80, if byte = 0xF4 then 0x8F else 0xBF⟩)
  else none

/-- The characters of some bytes behind a sequence that may be open. -/
def decodeFrom : Option Open → List Nat → List Char
  | none, [] => []
  | some _, [] => [replacement]
  | sequence, byte :: rest =>
    let begin (rest' : Option Open → List Char) : List Char :=
      match start? byte with
      | none => replacement :: rest' none
      | some (.inl c) => c :: rest' none
      | some (.inr opened) => rest' (some opened)
    match sequence with
    | none => begin fun s => decodeFrom s rest
    | some s =>
      if s.low ≤ byte ∧ byte ≤ s.high then
        let value := s.value * 64 + (byte - 0x80)
        if s.needed = 1 then Char.ofNat value :: decodeFrom none rest
        else decodeFrom (some ⟨s.needed - 1, value, 0x80, 0xBF⟩) rest
      else replacement :: begin fun s => decodeFrom s rest

def decode (bytes : List UInt8) : String := String.ofList (decodeFrom none (bytes.map UInt8.toNat))

example : decode [0x61, 0xFF, 0x62] = "a\ufffdb" ∧ decode [0xE2, 0xE2, 0x82, 0xAC] = "\ufffd€" ∧
    decode [0xF0, 0x80, 0x80, 0x80] = "\ufffd\ufffd\ufffd\ufffd" ∧
    decode [0xF0, 0x9F, 0x98, 0x80] = "😀" := by decide +kernel

end Footprint.Text.Utf8
