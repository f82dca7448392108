import CallProximity.Json.Decoding

/-! Why the proximity sensor is subscribed. The hardware has one subscription, kept
while any reason holds: the first reason subscribes, the last one gone unsubscribes. -/

namespace CallProximity

inductive SubscriptionReason where
  /-- Audio follows the sensor during a call. -/
  | offhook
  /-- A call rings and may be answered at the ear. -/
  | ringing
deriving DecidableEq

instance : Labelled SubscriptionReason where
  values := [.offhook, .ringing]
  label
    | .offhook => "offhook"
    | .ringing => "ringing"

/-- The reason as one log field. -/
def SubscriptionReason.describe : SubscriptionReason → String
  | .offhook => "Offhook"
  | .ringing => "Ringing"

inductive SubscriptionChange where
  | unchanged
  | subscribe
  | unsubscribe
deriving DecidableEq

structure SubscriptionReasons where
  offhook : Bool := false
  ringing : Bool := false
deriving DecidableEq

namespace SubscriptionReasons

def isEmpty (reasons : SubscriptionReasons) : Bool :=
  !reasons.offhook && !reasons.ringing

def contains (reasons : SubscriptionReasons) : SubscriptionReason → Bool
  | .offhook => reasons.offhook
  | .ringing => reasons.ringing

def toList (reasons : SubscriptionReasons) : List SubscriptionReason :=
  Labelled.values.filter reasons.contains

def put (reasons : SubscriptionReasons) (reason : SubscriptionReason) (active : Bool) :
    SubscriptionReasons :=
  match reason with
  | .offhook => { reasons with offhook := active }
  | .ringing => { reasons with ringing := active }

def changeTo (before after : SubscriptionReasons) : SubscriptionChange :=
  match before.isEmpty, after.isEmpty with
  | true, false => .subscribe
  | false, true => .unsubscribe
  | _, _ => .unchanged

def set (reasons : SubscriptionReasons) (reason : SubscriptionReason) (active : Bool) :
    SubscriptionChange × SubscriptionReasons :=
  (reasons.changeTo (reasons.put reason active), reasons.put reason active)

def clear (reasons : SubscriptionReasons) : SubscriptionChange × SubscriptionReasons :=
  (reasons.changeTo {}, {})

end SubscriptionReasons

end CallProximity
