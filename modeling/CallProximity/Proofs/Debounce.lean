import CallProximity.Proofs.DisabledTracking

/-! A tracker reports an orientation when a run of samples has spoken for it alone during its debounce time. -/

namespace CallProximity

inductive TrackerOperation where
  | enable (enabled : Bool)
  | sample (x y z : Float) (now : Nat)

def TrackerOperation.switch? : TrackerOperation → Option Bool
  | .enable enabled => some enabled
  | .sample _ _ _ _ => none

structure TrackerTurn where
  tracker : OrientationTracker
  operation : TrackerOperation

namespace TrackerTurn

def after (turn : TrackerTurn) : OrientationTracker :=
  match turn.operation with
  | .enable enabled => turn.tracker.enable enabled
  | .sample x y z now => (turn.tracker.sample x y z now).2

def report? (turn : TrackerTurn) : Option Orientation :=
  match turn.operation with
  | .enable _ => none
  | .sample x y z now => (turn.tracker.sample x y z now).1

def disables (turn : TrackerTurn) : Bool :=
  match turn.operation with
  | .enable enabled => !enabled
  | .sample _ _ _ _ => false

/-- What a sample speaks for, where the tracker is enabled. -/
def heard? (turn : TrackerTurn) : Option Orientation :=
  match turn.operation with
  | .enable _ => none
  | .sample x y z _ => if turn.tracker.enabled then turn.tracker.config.candidate? x y z else none

/-- Ends a run of samples of this candidate: a disable, a report, and a sample that speaks for the other candidate
or for the current orientation. -/
def breaks (candidate : Orientation) (turn : TrackerTurn) : Bool :=
  turn.disables || turn.report?.isSome || turn.heard?.any fun heard => heard ≠ candidate || heard = turn.tracker.current

end TrackerTurn

namespace OrientationTracker

variable {tracker : OrientationTracker} {candidate : Orientation} {x y z : Float} {now : Nat}

def after (tracker : OrientationTracker) (operations : List TrackerOperation) : OrientationTracker :=
  operations.foldl (fun tracker operation => (TrackerTurn.mk tracker operation).after) tracker

def turns (tracker : OrientationTracker) : List TrackerOperation → List TrackerTurn
  | [] => []
  | operation :: rest => ⟨tracker, operation⟩ :: (TrackerTurn.mk tracker operation).after.turns rest

theorem after_concat (first : List TrackerOperation) (last : TrackerOperation) :
    tracker.after (first ++ [last]) = (TrackerTurn.mk (tracker.after first) last).after :=
  List.foldl_append

end OrientationTracker

namespace TrackerTurn

end TrackerTurn

namespace OrientationTracker

variable {tracker : OrientationTracker} (operations : List TrackerOperation)

end OrientationTracker

end CallProximity
