import Mathlib.Data.List.Basic

/-! What holds at every point of a history, given what went before it. -/

set_option autoImplicit false

namespace WeatherRelay

variable {α : Type}

/-- A relation between every item of a list and the items before it. -/
def Throughout (relation : List α → α → Prop) (history : List α) : Prop :=
  ∀ before item after, history = before ++ item :: after → relation before item

theorem throughout_nil (relation : List α → α → Prop) : Throughout relation [] := by
  intro before item after same
  simp at same

theorem throughout_concat {relation : List α → α → Prop} {history : List α} {last : α} :
    Throughout relation (history ++ [last]) ↔
      Throughout relation history ∧ relation history last := by
  constructor
  · intro whole
    refine ⟨fun before item after same => ?_, whole history last [] rfl⟩
    exact whole before item (after ++ [last]) (by simp [same])
  · rintro ⟨earlier, here⟩ before item after same
    rcases after.eq_nil_or_concat' with rfl | ⟨rest, other, rfl⟩
    · obtain ⟨left, right⟩ := List.append_inj' same rfl
      exact left ▸ (List.cons.inj right).1 ▸ here
    · rw [← List.cons_append, ← List.append_assoc] at same
      exact earlier before item rest (List.append_inj' same rfl).1

end WeatherRelay
