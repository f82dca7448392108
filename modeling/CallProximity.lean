import CallProximity.Main
import CallProximity.Session.Bench
import CallProximity.Proofs.Requests
import CallProximity.Proofs.Account
import CallProximity.Proofs.Operations
import CallProximity.Proofs.Reactions
import CallProximity.Proofs.Handlers
import CallProximity.Proofs.Step
import CallProximity.Proofs.Coherence
import CallProximity.Proofs.TearDown
import CallProximity.Proofs.Subscription
import CallProximity.Proofs.Lock
import CallProximity.Proofs.LockSafety
import CallProximity.Proofs.LockAgreement
import CallProximity.Proofs.LockEngagement
import CallProximity.Proofs.SpeakerRoute
import CallProximity.Proofs.Supersession
import CallProximity.Proofs.AutoAnswer
import CallProximity.Proofs.LockRequests
import CallProximity.Proofs.StaleActivation
import CallProximity.Proofs.Orientation
import CallProximity.Proofs.SimulatedRun
import CallProximity.Proofs.OrientationAgreement
import CallProximity.Proofs.DisabledTracking
import CallProximity.Proofs.Refusals
import CallProximity.Proofs.OncePerEvent
import CallProximity.Proofs.SettledLock
import CallProximity.Proofs.IndependentSignals
import CallProximity.Proofs.AnswerRequests
import CallProximity.Proofs.RepeatedEvents
import CallProximity.Proofs.FreshReadings
import CallProximity.Proofs.NoSensor
import CallProximity.Proofs.PendingTimer
import CallProximity.Proofs.RouteSettling
import CallProximity.Proofs.SimulatedTimers
import CallProximity.Proofs.DueSwitch
import CallProximity.Proofs.SplitWait
import CallProximity.Proofs.ReadingHistory
import CallProximity.Proofs.Debounce
import CallProximity.Proofs.CallEdges
import CallProximity.Proofs.PreferenceLoading
import CallProximity.Proofs.PreferenceRoundTrip
import CallProximity.Proofs.ScriptForms
import CallProximity.Proofs.TimerHistory
import CallProximity.Proofs.Widening
import CallProximity.Proofs.JsonMaps
import CallProximity.Proofs.RecordDecoding
import CallProximity.Proofs.ScenarioDecoding
import CallProximity.Proofs.JsonWriting
import CallProximity.Proofs.EncodingRoundTrip
