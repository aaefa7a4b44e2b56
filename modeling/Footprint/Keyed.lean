import Footprint.Event

/-! Values by key, each key once, in the order in which the keys came. -/
namespace Footprint

abbrev Keyed (α : Type) := List (Key × α)

namespace Keyed

variable {α : Type}

def get? (entries : Keyed α) (key : Key) : Option α := entries.lookup key

/-- Sets the value of a key; a key already there keeps its place. -/
def insert (key : Key) (value : α) : Keyed α → Keyed α
  | [] => [(key, value)]
  | (k, v) :: rest => if k = key then (key, value) :: rest else (k, v) :: insert key value rest

def erase (key : Key) (entries : Keyed α) : Keyed α := entries.filter fun e => e.1 ≠ key

theorem get?_nil (key : Key) : get? ([] : Keyed α) key = none := rfl

theorem get?_cons (k key : Key) (v : α) (rest : Keyed α) :
    get? ((k, v) :: rest) key = if key = k then some v else get? rest key := by
  by_cases h : key = k
  · simp [get?, h]
  · have : (key == k) = false := by simpa using h
    simp [get?, List.lookup_cons, h, this]

theorem get?_insert (key other : Key) (value : α) (entries : Keyed α) :
    get? (insert key value entries) other =
      if other = key then some value else get? entries other := by
  induction entries with
  | nil => simp [insert, get?_cons]
  | cons e rest ih =>
    obtain ⟨k, v⟩ := e
    by_cases h : k = key
    · subst h
      simp only [insert, if_true, get?_cons]
      split <;> rfl
    · by_cases hk : other = k
      · subst hk
        simp [insert, h, get?_cons]
      · simp [insert, h, get?_cons, hk, ih]

theorem get?_erase (key other : Key) (entries : Keyed α) :
    get? (erase key entries) other = if other = key then none else get? entries other := by
  induction entries with
  | nil => simp [erase, get?_nil]
  | cons e rest ih =>
    obtain ⟨k, v⟩ := e
    unfold erase at ih ⊢
    by_cases h : k = key
    · by_cases ho : other = key
      · simp_all [List.filter]
      · have : other ≠ k := fun e => ho (e.trans h)
        simp_all [List.filter, get?_cons]
    · by_cases ho : other = k
      · simp_all [List.filter, get?_cons]
      · simp_all [List.filter, get?_cons]

end Keyed
end Footprint
