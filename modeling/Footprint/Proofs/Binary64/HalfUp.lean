import Footprint.Binary64.HalfUp
import Footprint.Proofs.Binary64.Arithmetic
import Footprint.Proofs.Outcome

/-! Rounding to decimal places keeps the order of numbers, and a number between two that can be rounded
can be rounded itself. So a bound that is a fixed point of the rounding holds of the rounded number. -/
namespace Footprint.Binary64

def decimalScale (places : Nat) : Nat := 10 ^ places

theorem decimalScale_pos (places : Nat) : 0 < decimalScale places := Nat.pow_pos (by omega)

def decimalFactor (places : Nat) : Binary64 := ofInt (decimalScale places)

def scaledUp (x : Binary64) (places : Nat) : Binary64 := x * decimalFactor places + 0.5

theorem decimalFactor_pos {places : Nat} (finite : (decimalFactor places).isFinite = true) :
    0 < (decimalFactor places).units := by
  have one : 0 < (ofInt 1).rank := by decide +kernel
  have scale : (1 : Int) ≤ decimalScale places := Int.ofNat_le.mpr (decimalScale_pos places)
  have order := rank_le_of_le (ofRatio_le_ofRatio scale Nat.one_pos)
  rw [← rank_of_isFinite finite]
  exact one.trans_le order

theorem roundHalfUp_eq_ok_iff {x a : Binary64} {places : Nat} :
    x.roundHalfUp places = .ok a ↔
      (decimalFactor places).isFinite = true ∧ a.isFinite = true ∧
        ∃ floor, (x.scaledUp places).floor? = .ok floor ∧ ofRatio floor (decimalScale places) = a := by
  have pos := decimalScale_pos places
  constructor
  · intro h
    obtain ⟨factor, factorOk, rest⟩ := exists_of_bind_eq_ok h
    obtain ⟨rfl, finite⟩ := isFinite_of_refuseInfinite (rank_ofInt _).2 factorOk
    obtain ⟨floor, floorOk, ratioOk⟩ := exists_of_bind_eq_ok rest
    have ratio := (ofRatio?_eq floor pos).symm.trans ratioOk
    obtain ⟨rfl, back⟩ := isFinite_of_refuseInfinite (rank_ofRatio floor pos).2 ratio
    exact ⟨finite, back, floor, floorOk, rfl⟩
  · rintro ⟨finite, back, floor, floorOk, rfl⟩
    have ratioOk := (ofRatio?_eq floor pos).trans (refuseInfinite_of_isFinite _ back)
    change ((decimalFactor places).refuseInfinite .integerTooLarge >>= fun factor =>
      (x * factor + 0.5).floor? >>= fun floor => ofRatio? floor (decimalScale places)) = _
    rw [refuseInfinite_of_isFinite _ finite]
    change ((x.scaledUp places).floor? >>= fun floor => ofRatio? floor (decimalScale places)) = _
    rw [floorOk]
    exact ratioOk

theorem scaledUp_le_scaledUp {x y : Binary64} {places : Nat} (h : x ≤ y)
    (finite : (decimalFactor places).isFinite = true) : x.scaledUp places ≤ y.scaledUp places := by
  have scaled := mul_le_mul_right h finite (decimalFactor_pos finite)
  have half : (0.5 : Binary64).isFinite = true := by decide +kernel
  exact add_le_add scaled (le_refl' (ne_nan_of_isFinite half))
    (add_ne_nan_of_isFinite (ne_nan_of_le scaled).1 half)
    (add_ne_nan_of_isFinite (ne_nan_of_le scaled).2 half)

theorem roundHalfUp_le_roundHalfUp {x y a b : Binary64} {places : Nat} (h : x ≤ y)
    (hx : x.roundHalfUp places = .ok a) (hy : y.roundHalfUp places = .ok b) : a ≤ b := by
  obtain ⟨finite, -, floorX, floorXOk, rfl⟩ := roundHalfUp_eq_ok_iff.mp hx
  obtain ⟨-, -, floorY, floorYOk, rfl⟩ := roundHalfUp_eq_ok_iff.mp hy
  have floors := floor?_le_floor? (scaledUp_le_scaledUp h finite) floorXOk floorYOk
  exact ofRatio_le_ofRatio floors (decimalScale_pos places)

theorem exists_roundHalfUp {lo x hi a b : Binary64} {places : Nat} (low : lo ≤ x) (high : x ≤ hi)
    (hlo : lo.roundHalfUp places = .ok a) (hhi : hi.roundHalfUp places = .ok b) :
    ∃ c, x.roundHalfUp places = .ok c ∧ a ≤ c ∧ c ≤ b := by
  obtain ⟨finite, leftFinite, floorLo, floorLoOk, rfl⟩ := roundHalfUp_eq_ok_iff.mp hlo
  obtain ⟨-, rightFinite, floorHi, floorHiOk, rfl⟩ := roundHalfUp_eq_ok_iff.mp hhi
  have below := scaledUp_le_scaledUp low finite
  have above := scaledUp_le_scaledUp high finite
  have middle := isFinite_of_le_of_le (floor?_eq_ok_iff.mp floorLoOk).1
    (floor?_eq_ok_iff.mp floorHiOk).1 below above
  have floorOk := floor?_eq_ok_iff.mpr ⟨middle, rfl⟩
  have left := ofRatio_le_ofRatio (floor?_le_floor? below floorLoOk floorOk) (decimalScale_pos places)
  have right := ofRatio_le_ofRatio (floor?_le_floor? above floorOk floorHiOk) (decimalScale_pos places)
  have back := isFinite_of_le_of_le leftFinite rightFinite left right
  exact ⟨_, roundHalfUp_eq_ok_iff.mpr ⟨finite, back, _, floorOk, rfl⟩, left, right⟩

theorem between_of_roundHalfUp {lo x hi a : Binary64} {places : Nat} (low : lo ≤ x) (high : x ≤ hi)
    (hlo : lo.roundHalfUp places = .ok lo) (hhi : hi.roundHalfUp places = .ok hi)
    (h : x.roundHalfUp places = .ok a) : lo ≤ a ∧ a ≤ hi :=
  ⟨roundHalfUp_le_roundHalfUp low hlo h, roundHalfUp_le_roundHalfUp high h hhi⟩

end Footprint.Binary64
