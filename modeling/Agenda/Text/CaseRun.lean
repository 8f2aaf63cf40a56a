import Agenda.Text.Basic

/-!
Tables of case mappings. Neighbouring code points mostly move by the same distance, so a table
lists runs of them.
-/

namespace Agenda.Text

/-- The code points `first`, `first + step`, …, `last`, of which `first` maps to `target` and
each other one lies as far behind its image. -/
structure CaseRun where
  first : Nat
  last : Nat
  step : Nat
  target : Nat

namespace CaseRun

/-- The image of a code point under ascending runs; one that lies in no run maps to itself. -/
def mapped : List CaseRun → Nat → Nat
  | [], n => n
  | run :: rest, n =>
    if n < run.first then n
    else if n ≤ run.last then
      if (n - run.first) % run.step = 0 then run.target + (n - run.first) else n
    else mapped rest n

end CaseRun

end Agenda.Text
