/-! # Outcomes of computations that may fail -/

namespace AbiProbe

theorem bind_eq_ok_iff {ε α β : Type} {first : Except ε α} {next : α → Except ε β} {answer : β} :
    first >>= next = .ok answer ↔ ∃ middle, first = .ok middle ∧ next middle = .ok answer := by
  cases first with
  | error error => exact ⟨nofun, nofun⟩
  | ok middle =>
      constructor
      · intro answered
        exact ⟨middle, rfl, answered⟩
      · rintro ⟨_, ⟨⟩, answered⟩
        exact answered

end AbiProbe
