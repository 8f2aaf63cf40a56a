import Agenda.Fault
import Mathlib

/-!
Outcomes that can be failures: where a sequence of steps succeeds, each of its steps does.
-/

namespace Agenda

variable {α β : Type}

theorem ok_of_bind {step : Except Fault α} {next : α → Except Fault β} {b : β}
    (h : step >>= next = .ok b) : ∃ a, step = .ok a ∧ next a = .ok b := by
  cases step with
  | error fault => cases h
  | ok a => exact ⟨a, rfl, h⟩

theorem ok_of_map {step : Except Fault α} {f : α → β} {b : β} (h : f <$> step = .ok b) :
    ∃ a, step = .ok a ∧ f a = b := by
  cases step with
  | error fault => cases h
  | ok a => exact ⟨a, rfl, Except.ok.inj h⟩

theorem map_eq_error_iff {step : Except Fault α} {f : α → β} {fault : Fault} :
    f <$> step = .error fault ↔ step = .error fault := by
  cases step with
  | error cause =>
      change Except.error cause = _ ↔ _
      rw [Except.error.injEq, Except.error.injEq]
  | ok a => exact iff_of_false nofun nofun

end Agenda
