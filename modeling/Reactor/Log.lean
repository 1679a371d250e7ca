/-!
# Log records

What a program says about itself, and the one line that each record comes to.
-/

namespace Reactor

inductive LogLevel where
  | trace
  | debug
  | error
  deriving DecidableEq

namespace LogLevel

def text : LogLevel -> String
  | trace => "TRACE"
  | debug => "DEBUG"
  | error => "ERROR"

end LogLevel

/-- What a program says about itself: a message and some named values. -/
structure LogRecord where
  level : LogLevel
  message : String
  fields : List (String × String)
  deriving DecidableEq

namespace LogRecord

def line (record : LogRecord) : String :=
  "#" ++ record.level.text ++ " " ++ record.message ++
    String.join (record.fields.map fun field =>
      " " ++ field.1 ++ "=" ++ field.2)

end LogRecord

end Reactor
