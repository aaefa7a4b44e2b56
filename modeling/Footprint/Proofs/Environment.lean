import Footprint.Environment
import Footprint.Proofs.Outcome

/-! Which entries of the tables are meant. A key is looked up in the form in which keys are compared, so two
values mean the same entry when they have the same form, and also when neither is a key. -/
namespace Footprint

open Binary64

namespace EnvironmentTables

variable {tables : EnvironmentTables} {c d : Conditions} {x y : Json}

/-- Two values that mean the same of some keys: they are alike without case and blanks around, or neither
is one of the keys. -/
def Alike (keys : List String) (x y : Json) : Prop :=
  normalize x = normalize y ∨ (normalize x ∉ keys ∧ normalize y ∉ keys)

theorem lookup_eq_none_iff_not_mem {α : Type} {entries : List (String × α)} {key : String} :
    entries.lookup key = none ↔ key ∉ entries.map Prod.fst := by
  constructor
  · intro absent listed
    obtain ⟨entry, member, rfl⟩ := List.mem_map.mp listed
    simpa using List.lookup_eq_none_iff.mp absent entry member
  · intro unlisted
    refine List.lookup_eq_none_iff.mpr fun entry member => ?_
    rw [bne_iff_ne]
    rintro rfl
    exact unlisted (List.mem_map_of_mem member)

theorem mem_of_lookup_eq_some {α : Type} {entries : List (String × α)} {key : String} {e : α}
    (found : entries.lookup key = some e) : (key, e) ∈ entries := by
  obtain ⟨before, after, rfl, -⟩ := List.lookup_eq_some_iff.mp found
  simp

theorem mem_map_snd_of_lookup {α : Type} {entries : List (String × α)} {key : String} {e : α}
    (found : entries.lookup key = some e) : e ∈ entries.map Prod.snd :=
  List.mem_map_of_mem (mem_of_lookup_eq_some found)

theorem lookup_congr_of_alike {α : Type} {entries : List (String × α)}
    (h : Alike (entries.map Prod.fst) x y) : entries.lookup (normalize x) = entries.lookup (normalize y) := by
  rcases h with same | ⟨left, right⟩
  · rw [same]
  · rw [lookup_eq_none_iff_not_mem.mpr left, lookup_eq_none_iff_not_mem.mpr right]

structure SameConditions (tables : EnvironmentTables) (c d : Conditions) : Prop where
  region : tables.resolveRegion c.region = tables.resolveRegion d.region
  hardware : tables.resolveHardware c.hardware = tables.resolveHardware d.hardware
  hour : c.hour = d.hour

theorem sameConditions_of_alike (region : Alike (tables.regions.map Prod.fst) c.region d.region)
    (hardware : Alike (tables.hardware.map Prod.fst) c.hardware d.hardware) (hour : c.hour = d.hour) :
    tables.SameConditions c d where
  region := by simp only [resolveRegion, region?, lookup_congr_of_alike region]
  hardware := by simp only [resolveHardware, hardware?, lookup_congr_of_alike hardware]
  hour := hour

theorem SameConditions.resolve (same : tables.SameConditions c d) : tables.resolve c = tables.resolve d := by
  rw [EnvironmentTables.resolve, EnvironmentTables.resolve, same.region, same.hardware]

theorem SameConditions.gridIntensity (same : tables.SameConditions c d) (clock : Int) :
    tables.gridIntensity clock c = tables.gridIntensity clock d := by
  rw [EnvironmentTables.gridIntensity, EnvironmentTables.gridIntensity, same.region, same.hour]

theorem resolve_eq_ok_iff {e : Environment} :
    tables.resolve c = .ok e ↔
      tables.resolveRegion c.region = .ok e.region ∧ tables.resolveHardware c.hardware = .ok e.hardware := by
  constructor
  · intro h
    obtain ⟨region, regionOk, h⟩ := exists_of_bind_eq_ok h
    obtain ⟨hardware, hardwareOk, h⟩ := exists_of_bind_eq_ok h
    obtain rfl := Except.ok.inj h
    exact ⟨regionOk, hardwareOk⟩
  · intro ⟨regionOk, hardwareOk⟩
    exact bind_eq_ok_of regionOk (bind_eq_ok_of hardwareOk rfl)

/-! ### The grid of a region -/

def ScaledAt (region : Region) (hour intensity : Int) : Prop :=
  ∃ baseline, ofInt? region.intensity = .ok baseline ∧
    (baseline * if isNightHour hour then nightFactor else dayFactor).roundToInteger = .ok intensity

theorem scaledAt_of_intensityAt {region : Region} {hour intensity : Int}
    (h : intensityAt region hour = .ok intensity) : ScaledAt region hour intensity := by
  obtain ⟨baseline, converted, scaled⟩ := exists_of_bind_eq_ok h
  exact ⟨baseline, converted, scaled⟩

theorem scaledAt_of_gridIntensity {clock intensity : Int} {e : Environment}
    (resolved : tables.resolve c = .ok e) (h : tables.gridIntensity clock c = .ok intensity) :
    ∃ hour, hourOf clock c.hour = .ok hour ∧ ScaledAt e.region hour intensity := by
  obtain ⟨region, regionOk, h⟩ := exists_of_bind_eq_ok h
  obtain ⟨hour, hourOk, h⟩ := exists_of_bind_eq_ok h
  have same : region = e.region := Except.ok.inj (regionOk.symm.trans (resolve_eq_ok_iff.mp resolved).1)
  exact ⟨hour, hourOk, scaledAt_of_intensityAt (same ▸ ofArithmetic_eq_ok_iff.mp h)⟩

/-! ### The built-in tables -/

theorem resolveRegion_of_unknown (h : normalize x ∉ builtIn.regions.map Prod.fst) :
    builtIn.resolveRegion x = builtIn.resolveRegion (.string "europe") := by
  have unknown : builtIn.region? (normalize x) = none := lookup_eq_none_iff_not_mem.mpr h
  have named : builtIn.region? (normalize (.string "europe")) = builtIn.region? builtIn.defaultRegion := by
    decide +kernel
  have listed : (builtIn.region? builtIn.defaultRegion).isSome = true := by decide +kernel
  simp only [resolveRegion, unknown, named, Option.none_or, Option.or_of_isSome listed]

theorem resolveHardware_of_unknown (h : normalize x ∉ builtIn.hardware.map Prod.fst) :
    builtIn.resolveHardware x = builtIn.resolveHardware (.string "laptop") := by
  have unknown : builtIn.hardware? (normalize x) = none := lookup_eq_none_iff_not_mem.mpr h
  have named : builtIn.hardware? (normalize (.string "laptop")) =
      builtIn.hardware? builtIn.defaultHardware := by decide +kernel
  have listed : (builtIn.hardware? builtIn.defaultHardware).isSome = true := by decide +kernel
  simp only [resolveHardware, unknown, named, Option.none_or, Option.or_of_isSome listed]

end EnvironmentTables
end Footprint
