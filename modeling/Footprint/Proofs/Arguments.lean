import Footprint.Arguments
import Footprint.Proofs.Decimal.Reading
import Footprint.Proofs.Outcome
import Footprint.Proofs.Report.Writing

/-! The number of executions that arguments ask for. It is read from a text of so many digits at most, so
it can be written again. -/
namespace Footprint

open Decimal in
theorem Decimal.short_of_readInteger {text : String} {n : Int} (h : readInteger text = .ok n) : Json.Short n := by
  unfold readInteger at h
  generalize splitSign (Text.stripBy isMargin text).toList = signed at h
  dsimp only at h
  have small := ofDigits_lt _ (digitRun_lt false signed.2)
  generalize (digitRun false signed.2).1 = digits at h small
  split at h
  · cases h
  split at h
  · cases h
  next few =>
    split at h
    · obtain rfl := Except.ok.inj h
      rw [Json.short_iff]
      generalize digitLimit = limit at few ⊢
      have bound : ofDigits digits < Nat.pow 10 limit :=
        small.trans_le (Nat.pow_le_pow_right (by decide) (not_lt.mp few))
      have magnitude (negative : Bool) :
          (if negative then -(ofDigits digits : Int) else ofDigits digits).natAbs = ofDigits digits := by
        cases negative <;> simp
      rwa [magnitude]
    · cases h

namespace Options

variable {o p : Options}

theorem short_set (short : Json.Short o.executionsPerDay) {s : Switch} {value : String}
    (h : o.set s value = .ok p) : Json.Short p.executionsPerDay := by
  cases s with
  | executionsPerDay =>
    obtain ⟨n, read, h⟩ := exists_of_bind_eq_ok h
    obtain rfl := Except.ok.inj h
    unfold integer at read
    split at read
    · next found =>
      obtain rfl := Except.ok.inj read
      exact Decimal.short_of_readInteger found
    · cases read
  | hour | jobs =>
    obtain ⟨n, -, h⟩ := exists_of_bind_eq_ok h
    obtain rfl := Except.ok.inj h
    exact short
  | outputFormat =>
    rw [set] at h
    split at h
    · obtain rfl := Except.ok.inj h
      exact short
    split at h
    · obtain rfl := Except.ok.inj h
      exact short
    · cases h
  | _ =>
    obtain rfl := Except.ok.inj h
    exact short

theorem short_apply (short : Json.Short o.executionsPerDay) {settings : List (Switch × String)}
    (h : Reading.apply o settings = .ok p) : Json.Short p.executionsPerDay := by
  induction settings generalizing o with
  | nil =>
    obtain rfl := Except.ok.inj h
    exact short
  | cons setting rest ih =>
    rw [Reading.apply] at h
    split at h
    · obtain rfl := Except.ok.inj h
      exact short
    · obtain ⟨next, taken, h⟩ := exists_of_bind_eq_ok h
      exact ih (short_set short taken) h

theorem short_read {r s : Reading} (short : Json.Short r.options.executionsPerDay)
    {arguments : List Argument} (h : r.read arguments = .ok s) :
    Json.Short s.options.executionsPerDay := by
  have settled {q r : Reading} (same : q.options = r.options) (short : Json.Short r.options.executionsPerDay)
      {settings : List (Switch × String)} {options : Options}
      (h : Reading.apply q.options settings = .ok options) : Json.Short options.executionsPerDay :=
    short_apply (same ▸ short) h
  -- What is unknown is noted beside the options.
  fun_induction Reading.read r arguments
  case case1 =>
    obtain rfl := Except.ok.inj h
    exact short
  case case2 ih => exact ih short h
  case case3 ih => exact ih short h
  case case4 ih => exact ih short h
  case case5 ih => exact ih short h
  case case6 ih => exact ih short h
  case case7 ih => exact ih short h
  case case8 ih => exact ih short h
  case case11 applied _ =>
    obtain rfl := Except.ok.inj h
    exact settled (by grind [Reading.reject]) short applied
  case case12 applied _ ih =>
    refine ih ?_ h
    exact settled (by grind [Reading.reject]) short applied
  case case14 applied _ =>
    obtain rfl := Except.ok.inj h
    exact settled (by grind [Reading.reject]) short applied
  case case15 applied _ ih =>
    refine ih ?_ h
    exact settled (by grind [Reading.reject]) short applied
  -- The other cases are errors.
  all_goals cases h

theorem short_ofArguments {settings : Settings} {arguments : List String}
    (h : ofArguments settings arguments = .ok o) : Json.Short o.executionsPerDay := by
  obtain ⟨classified, -, h⟩ := exists_of_bind_eq_ok h
  obtain ⟨r, read, h⟩ := exists_of_bind_eq_ok h
  have default : Json.Short Projection.defaultExecutionsPerDay :=
    Json.short_of_le_two_pow (k := 7) (by decide) (by decide)
  have short := short_read (r := { options := ofSettings settings }) default read
  split at h
  · obtain rfl := Except.ok.inj h
    exact short
  split at h
  · obtain rfl := Except.ok.inj h
    exact short
  · cases h

end Options
end Footprint
