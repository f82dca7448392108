/-! Power state of the built-in display. Only its real flips are reported. -/

namespace CallProximity

def defaultDisplay : UInt32 := 0

structure DisplayTracker where
  isOn : Bool := true
deriving DecidableEq

namespace DisplayTracker

/-- The new state, when the built-in display flipped. -/
def notify (tracker : DisplayTracker) (display : UInt32) (isOn : Bool) :
    Option Bool × DisplayTracker :=
  if display ≠ defaultDisplay ∨ isOn = tracker.isOn then (none, tracker)
  else (some isOn, { tracker with isOn })

end DisplayTracker

end CallProximity
