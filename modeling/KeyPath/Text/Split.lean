/-!
# Cutting text into parts
-/

namespace KeyPath.Text

/-- The parts of a text between the occurrences of a separator. -/
def splitAt (separator : Char) : List Char → List (List Char)
  | [] => [[]]
  | c :: rest =>
    match splitAt separator rest with
    | [] => [[c]]
    | part :: parts => if c = separator then [] :: part :: parts else (c :: part) :: parts

end KeyPath.Text
