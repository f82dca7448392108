/-! Timers on a virtual clock. Time stands still but for waits. A wait of `n > 0` runs,
in the order they are due, the timers that are due strictly before its end and were not
cancelled; one that is due at the very end is left to the next wait. A wait of zero does
nothing at all. -/

namespace CallProximity

structure Timer where
  due : Nat
  cancelled : Bool := false
  /-- Whether it ran, or a wait found it cancelled. -/
  finished : Bool := false
deriving DecidableEq

/-- A timer is known by its place in the order of scheduling. -/
structure TimerTable where
  now : Nat := 0
  timers : List Timer := []
deriving DecidableEq

namespace TimerTable

def schedule (table : TimerTable) (delay : Nat) : TimerTable :=
  { table with timers := table.timers ++ [{ due := table.now + delay }] }

def cancel (table : TimerTable) (index : Nat) : TimerTable :=
  { table with timers := table.timers.modify index ({ · with cancelled := true }) }

def cancelled (table : TimerTable) : List Bool :=
  table.timers.map Timer.cancelled

def isRunnable (finish : Nat) (timer : Timer) : Bool :=
  !timer.finished && !timer.cancelled && decide (timer.due < finish)

/-- The timers that a wait until `finish` runs: by due time, and of one due time in the
order of scheduling. -/
def runnable (table : TimerTable) (finish : Nat) : List Nat :=
  ((table.timers.zipIdx.filter fun (timer, _) => isRunnable finish timer).mergeSort
    fun first second => first.1.due ≤ second.1.due).map Prod.snd

/-- The timers that the next wait finds cancelled. -/
def abandoned (table : TimerTable) : List Nat :=
  (table.timers.zipIdx.filter fun (timer, _) => !timer.finished && timer.cancelled).map Prod.snd

def settle (finish : Nat) (timer : Timer) : Timer :=
  if isRunnable finish timer || timer.cancelled then { timer with finished := true } else timer

/-- The timers that run, in order, and the table after. -/
def wait (table : TimerTable) (time : Nat) : List Nat × TimerTable :=
  if time = 0 then ([], table)
  else
    let finish := table.now + time
    (table.runnable finish, { now := finish, timers := table.timers.map (settle finish) })

end TimerTable

end CallProximity
