import Agenda.Clock.LocalTime

/-!
Anchors: the "now" that a phrase or a date window is relative to.
-/

namespace Agenda.Clock

open Calendar

/-- What "now" is taken to be. -/
inductive Anchor where
  | present
  /-- A count of seconds from the start of 1970. -/
  | counted (seconds : Number.Count)
  /-- A local time of a place that is some microseconds ahead of universal time. -/
  | elsewhere (t : LocalTime) (microsAhead : Int)
  | localTime (t : LocalTime)

/-- A clock on the wall: the zone that it is set to and the count of seconds that it has come
to. -/
structure WallClock where
  zone : Zone
  seconds : Number.Count

/-- The instant of a local time of a place that is some microseconds ahead of universal time. -/
def LocalTime.instantAhead (t : LocalTime) (microsAhead : Int) : Instant :=
  ⟨1000000 * t.reading + t.micro - microsAhead⟩

/-- The second of universal time of a local time that is some microseconds ahead of it, without
the fraction. The count of seconds is first brought to 53 binary digits. -/
def LocalTime.secondAhead (t : LocalTime) (microsAhead : Int) : Int :=
  Number.truncate (Number.nearest (mkRat (t.instantAhead microsAhead).micros 1000000))

namespace Zone

/-- The local time of a second of universal time, on its first pass. -/
def firstPass (z : Zone) (u : Int) (micro : Nat) : Except Fault LocalTime :=
  LocalTime.ofReading (z.wall u) micro false

end Zone

namespace WallClock

def resolve (clock : WallClock) : Anchor → Except Fault LocalTime
  | .present => do clock.zone.toLocal (← Instant.ofCount clock.seconds)
  | .counted seconds => do clock.zone.toLocal (← Instant.ofCount seconds)
  | .elsewhere t microsAhead => do
    let instant := t.instantAhead microsAhead
    let universal ← LocalTime.ofReading instant.seconds instant.fraction false
    clock.zone.firstPass universal.reading universal.micro
  | .localTime t => .ok t

end WallClock

end Agenda.Clock
