namespace LogSieve

inductive Paint where
  | error
  | warning
  | info
  | other
  | extras
deriving DecidableEq

namespace Paint

-- Attributes as terminals take them: bold red, bold yellow, bold green, and bright black.
def code : Paint → String
  | .error => "1;31"
  | .warning => "1;33"
  | .info => "1;32"
  | .other => "90"
  | .extras => "90"

def apply (paint : Paint) (text : List Char) : List Char :=
  if text = [] then []
  else '\x1b' :: '[' :: (paint.code.toList ++ 'm' :: text ++ "\x1b[0m".toList)

end Paint

end LogSieve
