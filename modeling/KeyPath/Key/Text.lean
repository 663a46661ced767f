import KeyPath.Key.Basic
import KeyPath.Text.Numeral
import KeyPath.Text.Quoted
/-!
# Keys as text

`Key.inspect` writes a key; `Key.parse` reads the text of a key as typed by a user. A typed key
is a literal name, a symbol after a colon, a string between quotes (its inside taken as it
stands), an integer of 64 bits, and in every other case a string.
-/

namespace KeyPath.Key

open Text

/-- The characters between a leading and a closing quote. -/
def unquote? : List Char → Option (List Char)
  | '"' :: rest => if rest.getLast? = some '"' then some rest.dropLast else none
  | _ => none

/-- The key that a typed text denotes. -/
def ofChars (text : List Char) : Key :=
  match text with
  | ['n', 'i', 'l'] => nil
  | ['t', 'r', 'u', 'e'] => bool true
  | ['f', 'a', 'l', 's', 'e'] => bool false
  | ':' :: c :: name => sym (String.ofList (c :: name))
  | text =>
    match unquote? text with
    | some inner => str (String.ofList inner)
    | none =>
      match (Numeral.integer? text).bind Numeral.toInt64? with
      | some i => int i
      | none => str (String.ofList text)

def parse (text : String) : Key := ofChars text.toList

def inspectChars : Key → List Char
  | nil => ['n', 'i', 'l']
  | bool true => ['t', 'r', 'u', 'e']
  | bool false => ['f', 'a', 'l', 's', 'e']
  | int i => Numeral.writeInt i.toInt
  | str text => Quoted.encode text.toList
  | sym name => ':' :: name.toList

def inspect (key : Key) : String := String.ofList key.inspectChars

/-- Written keys with a comma and a space between neighbours. -/
def pathChars : List Key → List Char
  | [] => []
  | [key] => key.inspectChars
  | key :: rest => key.inspectChars ++ ',' :: ' ' :: pathChars rest

def describePath (keys : List Key) : String := String.ofList (pathChars keys)

/-- The member name under which JSON output writes a key: strings and symbols bare, any other
key in its written form. -/
def memberName : Key → String
  | str text => text
  | sym name => name
  | key => key.inspect

end KeyPath.Key
