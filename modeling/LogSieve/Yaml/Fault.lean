import LogSieve.Text.Quoted
import LogSieve.Yaml.Datum

namespace LogSieve.Yaml

-- A scalar whose type promises what its text does not keep, or one that cannot be shown.
inductive BadScalar where
  | codePoint
  | integer (base : Nat) (text : List Char)
  | decimal (text : List Char)
  | tooLong (digits : Nat)
  | unshowable
  | year (number : Nat)
  | month
  | day
  | hour
  | minute
  | second
  | offset (minutes : Int)
  | boolean
  | timestamp
  | empty
deriving DecidableEq

def BadScalar.message? : BadScalar → Option String
  | .codePoint => some "chr() arg not in range(0x110000)"
  | .integer base text =>
    some ("invalid literal for int() with base " ++ toString base ++ ": " ++
      String.ofList ((Quoted.text text).take 200))
  | .decimal text =>
    some ("could not convert string to float: " ++ String.ofList (Quoted.text text))
  | .tooLong digits =>
    some ("Exceeds the limit (4300 digits) for integer string conversion: value has " ++
      toString digits ++ " digits; use sys.set_int_max_str_digits() to increase the limit")
  | .unshowable =>
    some ("Exceeds the limit (4300 digits) for integer string conversion; " ++
      "use sys.set_int_max_str_digits() to increase the limit")
  | .year number => some ("year " ++ toString number ++ " is out of range")
  | .month => some "month must be in 1..12"
  | .day => some "day is out of range for month"
  | .hour => some "hour must be in 0..23"
  | .minute => some "minute must be in 0..59"
  | .second => some "second must be in 0..59"
  | .offset minutes =>
    some ("offset must be a timedelta strictly between -timedelta(hours=24) and " ++
      "timedelta(hours=24), not " ++ String.ofList (Datum.spanDisplay minutes) ++ ".")
  | _ => none

inductive Fault where
  | malformed
  | scalar (bad : BadScalar)
deriving DecidableEq

end LogSieve.Yaml
