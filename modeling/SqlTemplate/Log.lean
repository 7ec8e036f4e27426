/-!
# The log

Operations report what they did as records of a level and a message. Operations without effects name
their records in a function of their own; those with effects write them to the session.
-/

namespace SqlTemplate

/-- How much a record matters. -/
inductive LogLevel where
  | trace
  | debug
  | warn
  | error
  deriving DecidableEq, Repr

/-- One line of the log. -/
structure LogRecord where
  level : LogLevel
  message : String
  deriving DecidableEq

end SqlTemplate
