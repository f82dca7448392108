import CallProximity.Preferences.Store
import CallProximity.Session.Step
import CallProximity.Timer

/-! A bench for sessions: devices that refuse their first requests as told, preferences
that can turn unreadable, and timers that are fired by hand or by a virtual clock. -/

namespace CallProximity

structure BenchLock where
  held : Bool := false
  failAcquire : Nat := 0
  failRelease : Nat := 0

structure BenchSetup where
  /-- Of the sensor, if there is one. -/
  maxRange : Option Float32 := some 5
  config : ClassifierConfig := {}
  wakeLock : Option BenchLock := some {}
  /-- How many accepts are refused, if calls can be controlled. -/
  telephony : Option Nat := some 0
  failRoute : Nat := 0
  screenOn : Bool := true
  store : PreferenceStore := {}
  unreadable : List String := []
  /-- Whether timers run on the clock; else they wait to be fired. -/
  clocked : Bool := false

/-- What the devices remember. -/
structure BenchWorld where
  lock : BenchLock
  failAccept : Nat
  failRoute : Nat
  screenOn : Bool
  store : PreferenceStore
  unreadable : List String
  subscribed : Bool := false
  everSubscribed : Bool := false
  timers : TimerTable := {}

namespace BenchWorld

def source (world : BenchWorld) : PreferenceSource :=
  world.store.sourceWithout world.unreadable "disk gone"

def acquire : Attempt BenchWorld := fun world =>
  match world.lock.failAcquire with
  | 0 => (.ok (), { world with lock := { world.lock with held := true } })
  | left + 1 =>
      (.error (.wakeLock "denied"), { world with lock := { world.lock with failAcquire := left } })

def release : Attempt BenchWorld := fun world =>
  match world.lock.failRelease with
  | 0 => (.ok (), { world with lock := { world.lock with held := false } })
  | left + 1 =>
      (.error (.wakeLock "stuck"), { world with lock := { world.lock with failRelease := left } })

def setRoute : Attempt BenchWorld := fun world =>
  match world.failRoute with
  | 0 => (.ok (), world)
  | left + 1 => (.error (.audioRoute "no device"), { world with failRoute := left })

def accept : Attempt BenchWorld := fun world =>
  match world.failAccept with
  | 0 => (.ok (), world)
  | left + 1 => (.error (.telephony "modem busy"), { world with failAccept := left })

end BenchWorld

namespace BenchSetup

def world (setup : BenchSetup) : BenchWorld where
  lock := setup.wakeLock.getD {}
  failAccept := setup.telephony.getD 0
  failRoute := setup.failRoute
  screenOn := setup.screenOn
  store := setup.store
  unreadable := setup.unreadable

/-- Generations count from one, timers from zero. -/
def platform (setup : BenchSetup) : Platform BenchWorld where
  wakeLock := setup.wakeLock.map fun _ =>
    { isHeld := fun world => world.lock.held
      acquire := BenchWorld.acquire
      release := fun _ => BenchWorld.release }
  setRoute _ := BenchWorld.setRoute
  telephony := setup.telephony.map fun _ => BenchWorld.accept
  isScreenOn := BenchWorld.screenOn
  sensor := setup.maxRange.map fun maxRange =>
    { maxRange
      subscribe := ({ · with subscribed := true, everSubscribed := true })
      unsubscribe := ({ · with subscribed := false }) }
  enableOrientation _ world := world
  preferences := BenchWorld.source
  schedule _ delay world := { world with timers := world.timers.schedule delay.toNat }
  cancel generation world := { world with timers := world.timers.cancel (generation - 1) }

end BenchSetup

inductive BenchStep where
  | event (event : Event)
  /-- A distance from the sensor, lost unless it is subscribed. -/
  | emit (distance : Float32)
  /-- A distance that was under way when the subscription ended. -/
  | emitLate (distance : Float32)
  | drop
  | fire (index : Nat)
  | wait (time : Nat)
  | setScreen (isOn : Bool)
  | setBool (key : String) (value : Bool)
  | setInt (key : String) (value : Int64)
  | remove (key : String)
  | replaceStore (store : PreferenceStore)
  | setUnreadable (keys : List String)

inductive BenchRecord where
  | request (request : Request)
  | dropped
  | noSession
  | nothingToFire
deriving DecidableEq

structure Bench where
  engine : Engine BenchWorld
  isOpen : Bool := true

namespace Bench

def start (setup : BenchSetup) : Bench :=
  ⟨.start setup.platform setup.config setup.world, true⟩

def world (bench : Bench) : BenchWorld :=
  bench.engine.world

def changeWorld (bench : Bench) (change : BenchWorld → BenchWorld) : Bench :=
  { bench with engine := { bench.engine with world := change bench.engine.world } }

/-- Callbacks of a dropped session do nothing. -/
def deliver (setup : BenchSetup) (bench : Bench) (event : Event) : Bench :=
  if bench.isOpen then { bench with engine := bench.engine.step setup.platform event } else bench

def changeStore (bench : Bench) (change : PreferenceStore → PreferenceStore) : Bench :=
  bench.changeWorld fun world => { world with store := change world.store }

def finishTimer (bench : Bench) (index : Nat) : Bench :=
  bench.changeWorld fun world =>
    { world with
      timers := { world.timers with
        timers := world.timers.timers.modify index ({ · with finished := true }) } }

def fire (setup : BenchSetup) (bench : Bench) (index : Nat) : Bench × List BenchRecord :=
  match bench.world.timers.timers[index]? with
  | some timer =>
      if setup.clocked || timer.finished then (bench, [.nothingToFire])
      else ((bench.finishTimer index).deliver setup (.timer (index + 1)), [])
  | none => (bench, [.nothingToFire])

/-- Timers that were cancelled since the last wait say so before others run. -/
def wait (setup : BenchSetup) (bench : Bench) (time : Nat) : Bench :=
  if setup.clocked && time ≠ 0 then
    let notes := bench.world.timers.abandoned.map fun _ =>
      (⟨.trace, "timer cancelled", []⟩ : LogRecord)
    let (run, timers) := bench.world.timers.wait time
    let bench := { bench with engine := bench.engine.addNotes notes }
    let bench := bench.changeWorld ({ · with timers })
    run.foldl (fun bench index => bench.deliver setup (.timer (index + 1))) bench
  else bench

/-- The bench after a step, and records of what the step could not do. -/
def advance (setup : BenchSetup) (bench : Bench) : BenchStep → Bench × List BenchRecord
  | .event event => if bench.isOpen then (bench.deliver setup event, []) else (bench, [.noSession])
  | .emit distance =>
      if bench.world.subscribed then (bench.deliver setup (.distance distance), [])
      else (bench, [.dropped])
  | .emitLate distance =>
      if bench.world.everSubscribed then (bench.deliver setup (.distance distance), [])
      else (bench, [.dropped])
  | .drop => ({ bench.deliver setup .tearDown with isOpen := false }, [])
  | .fire index => bench.fire setup index
  | .wait time => (bench.wait setup time, [])
  | .setScreen isOn => (bench.changeWorld ({ · with screenOn := isOn }), [])
  | .setBool key value => (bench.changeStore (·.setBool key value), [])
  | .setInt key value => (bench.changeStore (·.setInt key value), [])
  | .remove key => (bench.changeStore (·.remove key), [])
  | .replaceStore store => (bench.changeStore fun _ => store, [])
  | .setUnreadable keys => (bench.changeWorld ({ · with unreadable := keys }), [])

/-- The bench after a step, and the requests the step led to or could not. -/
def perform (setup : BenchSetup) (bench : Bench) (step : BenchStep) : Bench × List BenchRecord :=
  let (after, records) := bench.advance setup step
  let requests := after.engine.requests.drop bench.engine.requests.length
  (after, records ++ requests.map .request)

end Bench

end CallProximity
