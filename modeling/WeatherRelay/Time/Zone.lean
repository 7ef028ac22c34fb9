import WeatherRelay.Time.Instant

/-! Time zones with at most one change of the offset, and the start of a local day. -/

set_option autoImplicit false

namespace WeatherRelay

/-- Local time is `before` seconds ahead of universal time until second `change`, and `after`
seconds ahead from then on. -/
structure Zone where
  before : Int
  change : Int
  after : Int
  deriving DecidableEq, Repr

namespace Zone

def fixed (offset : Int) : Zone := ⟨offset, 0, offset⟩

def offsetAt (zone : Zone) (instant : Instant) : Int :=
  if instant.seconds < zone.change then zone.before else zone.after

def localDay (zone : Zone) (instant : Instant) : Int := (instant.seconds + zone.offsetAt instant) / 86400

/-- The instants at which local clocks show a second, earliest first. There are two where clocks
were set back over it and none where they were set forward over it. -/
def instantsAt (zone : Zone) (localSeconds : Int) : List Instant :=
  let early := localSeconds - zone.before
  let late := localSeconds - zone.after
  (if early < zone.change then (Instant.ofParts? early 0).toList else []) ++
    (if zone.change ≤ late then (Instant.ofParts? late 0).toList else [])

/-- The start of the local day that holds `now`, or `now` itself where clocks skip midnight. -/
def localMidnight (zone : Zone) (now : Instant) : Instant :=
  ((zone.instantsAt (zone.localDay now * 86400)).head?).getD now

/-- A second behind `early`, and no later than `late`, at which the offset is no longer the one at
`early`, by halving the time between them. -/
def changeWithin (offsetAt : Int → Int) (early late : Int) : Nat → Int
  | 0 => late
  | halvings + 1 =>
    if late - early ≤ 1 then late
    else
      let middle := (early + late) / 2
      if offsetAt middle = offsetAt early then changeWithin offsetAt middle late halvings
      else changeWithin offsetAt early middle halvings

/-- The zone as it is in the two days before a second, by its offsets. Two days hold less than
`2 ^ 18` seconds. -/
def ofOffsets (offsetAt : Int → Int) (now : Int) : Zone :=
  let start := now - 2 * 86400
  ⟨offsetAt start, changeWithin offsetAt start now 18, offsetAt now⟩

end Zone

end WeatherRelay
