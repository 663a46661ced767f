import KeyPath.Key.Text
import KeyPath.Number.Text
import KeyPath.Value.Basic
/-!
# The inspect form of values

Strings are quoted, symbols follow a colon, arrays stand in brackets and hashes in braces with an
arrow between key and value. An object shows only the name of its type.
-/

namespace KeyPath.Value

open Text

mutual

def inspectChars : Value → List Char
  | nil => ['n', 'i', 'l']
  | bool true => ['t', 'r', 'u', 'e']
  | bool false => ['f', 'a', 'l', 's', 'e']
  | int i => Numeral.writeInt i.toInt
  | float x => FloatFormat.inspect.write x
  | str text => Quoted.encode text.toList
  | sym name => ':' :: name.toList
  | array items => '[' :: inspectItems items ++ [']']
  | hash entries => '\x7b' :: inspectEntries entries ++ ['\x7d']
  | wrapped _ content => '#' :: '<' :: content.typeName.toList ++ ['>']
  | custom object => '#' :: '<' :: object.typeName.toList ++ ['>']

/-- The items of an array, with a comma and a space between neighbours. -/
def inspectItems : List Value → List Char
  | [] => []
  | [item] => item.inspectChars
  | item :: rest => item.inspectChars ++ ',' :: ' ' :: inspectItems rest

/-- The entries of a hash, with a comma and a space between neighbours. -/
def inspectEntries : List (Key × Value) → List Char
  | [] => []
  | [(key, value)] => key.inspectChars ++ '=' :: '>' :: value.inspectChars
  | (key, value) :: rest =>
    key.inspectChars ++ '=' :: '>' :: value.inspectChars ++ ',' :: ' ' :: inspectEntries rest

end

def inspect (value : Value) : String := String.ofList value.inspectChars

end KeyPath.Value
