set_option autoImplicit false

/-! # Levels

How important a line of the log is. -/

namespace LocalPlay.Logging

/-- How important a line is. -/
inductive Level where
  | error
  | warn
  | info
  | debug
  | trace
deriving DecidableEq, Repr

namespace Level

def name : Level → String
  | error => "error"
  | warn => "warn"
  | info => "info"
  | debug => "debug"
  | trace => "trace"

end Level

end LocalPlay.Logging
