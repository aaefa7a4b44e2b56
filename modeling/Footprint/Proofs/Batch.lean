import Footprint.Batch
import Footprint.Proofs.Outcome

/-! Where the measurements of several files come from: each is the measurement of one of the files, and
there is no more than one for a file. -/
namespace Footprint.Batch

variable {α : Type}

theorem fill_eq_ok {slots filled : List (Option α)} {tasks : List (Nat × Outcome α)}
    (h : fill slots tasks = .ok filled) :
    filled.length = slots.length ∧
      ∀ a, some a ∈ filled → some a ∈ slots ∨ ∃ slot, (slot, .ok a) ∈ tasks := by
  induction tasks generalizing slots with
  | nil =>
    obtain rfl := Except.ok.inj h
    exact ⟨rfl, fun a ha => .inl ha⟩
  | cons task rest ih =>
    obtain ⟨slot, outcome⟩ := task
    obtain ⟨b, rfl, h⟩ := exists_of_bind_eq_ok h
    obtain ⟨length, source⟩ := ih h
    refine ⟨length.trans List.length_set, fun a ha => ?_⟩
    rcases source a ha with inSlots | ⟨other, inRest⟩
    · rcases List.mem_or_eq_of_mem_set inSlots with old | new
      · exact .inl old
      · obtain rfl := Option.some.inj new
        exact .inr ⟨slot, List.mem_cons_self⟩
    · exact .inr ⟨other, List.mem_cons_of_mem _ inRest⟩

theorem measureInOrder_eq_ok {meter : Meter} {clock : Int} {c : Conditions} {units : List SourceUnit}
    {order : List Nat} {ms : List Measurement}
    (h : (measureInOrder meter clock c units order).outcome = .ok ms) :
    ms.length ≤ units.length ∧
      ∀ m ∈ ms, ∃ u ∈ units, (meter.inWorker.measure clock (atOneHour clock c) u).outcome = .ok m := by
  obtain ⟨filled, fillOk, rfl⟩ := exists_of_map_eq_ok h
  obtain ⟨length, source⟩ := fill_eq_ok fillOk
  rw [List.length_replicate] at length
  refine ⟨length ▸ List.length_filterMap_le id filled, fun m hm => ?_⟩
  have inFilled : some m ∈ filled := by simpa using hm
  rcases source m inFilled with blank | ⟨slot, inTasks⟩
  · cases List.eq_of_mem_replicate blank
  · obtain ⟨task, inCompleted, same⟩ := List.mem_map.mp inTasks
    obtain ⟨i, -, found⟩ := List.mem_filterMap.mp inCompleted
    obtain ⟨u, atPlace, rfl⟩ := Option.map_eq_some_iff.mp found
    exact ⟨u, List.mem_of_getElem? atPlace, (Prod.mk.inj same).2⟩

end Footprint.Batch
