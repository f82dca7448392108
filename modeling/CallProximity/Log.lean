/-! Log records: a level, a message and named fields. -/

namespace CallProximity

inductive LogLevel where
  | trace
  | debug
  | info
  | warn
deriving DecidableEq

structure LogRecord where
  level : LogLevel
  message : String
  fields : List (String × String) := []
deriving DecidableEq

end CallProximity
