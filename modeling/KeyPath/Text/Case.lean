/-!
# Names up to case

ASCII letters may be compared without regard to case; all other characters compare as they are.
-/

namespace KeyPath.Text

/-- Whether two names are the same, if wanted without regard to the case of ASCII letters. -/
def sameName (ignoreCase : Bool) (a b : String) : Bool :=
  if ignoreCase then a.toList.map Char.toLower == b.toList.map Char.toLower else a == b

end KeyPath.Text
