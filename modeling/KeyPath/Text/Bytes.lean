/-!
# Bytes of text
-/

namespace KeyPath.Text

def byteCount (text : List Char) : Nat := text.foldl (fun count c => count + c.utf8Size) 0

def asciiBytes (text : List Char) : List UInt8 := text.map fun c => UInt8.ofNat c.toNat

end KeyPath.Text
