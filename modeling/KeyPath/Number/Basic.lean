import KeyPath.Number.Binary64
import KeyPath.Text.Numeral
/-!
# Numbers of documents

A document holds integers and floating point numbers. An integer outside 64 bits signed is
rounded to a floating point number when it becomes a value.
-/

namespace KeyPath

inductive Number where
  | integer (n : Int)
  | float (x : Binary64)
  deriving DecidableEq, Inhabited

end KeyPath
