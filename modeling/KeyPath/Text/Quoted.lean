import KeyPath.Text.Printable
/-!
# Quoted text

Text is written between double quotes. A quote, a backslash and the usual blanks have a short
escape; any other unprintable character is written by its code point in lower-case hexadecimal.
-/

namespace KeyPath.Text.Quoted

/-- The written form of one character inside the quotes. -/
def escape (c : Char) : List Char :=
  match c with
  | '\x00' => ['\\', '0']
  | '\t' => ['\\', 't']
  | '\n' => ['\\', 'n']
  | '\r' => ['\\', 'r']
  | '"' => ['\\', '"']
  | '\\' => ['\\', '\\']
  | c =>
    if isPrintable c then [c]
    else ['\\', 'u', '\x7b'] ++ Nat.toDigits 16 c.toNat ++ ['\x7d']

/-- Text between quotes, each character escaped as needed. -/
def encode (text : List Char) : List Char :=
  '"' :: text.flatMap escape ++ ['"']

end KeyPath.Text.Quoted
