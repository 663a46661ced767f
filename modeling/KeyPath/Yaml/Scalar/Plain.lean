import KeyPath.Yaml.Scalar.Gap
/-!
# Plain scalars

A plain scalar is a run of words without quotes. It ends before a comment, before a colon that
a gap follows, before the mark of a document, and where the indentation falls back; inside
brackets also before a bracket or a comma.
-/

namespace KeyPath.Yaml

/-- What a scalar reads as, and where it stops. -/
structure Scanned where
  text : List Char
  cursor : Cursor
  endsLine : Bool

namespace Plain

/-- The characters that structure collections inside brackets. -/
def isFlowIndicator (c : Char) : Bool :=
  c == ',' || c == '[' || c == ']' || c == '\x7b' || c == '\x7d'

/-- The length of the word at hand. Inside brackets a colon in front of an indicator is an
error. -/
def wordLength? (inFlow : Bool) : List Char → Option Nat
  | [] => some 0
  | c :: rest =>
    if isBlank c || isBreak c then some 0
    else if inFlow && c == ':' && rest.head?.any (fun d => isFlowIndicator d || d == '?') then none
    else if (c == ':' && atGap rest) || (inFlow && isFlowIndicator c) then some 0
    else (wordLength? inFlow rest).map (· + 1)

/-- Read words, each after the gap before it, at most a given number. Outside brackets the scalar
ends where a line begins before the column `indent`. -/
def readWords (inFlow : Bool) (indent : Nat) : Nat → Gap → Cursor → Option Scanned
  | 0, gap, cursor => some ⟨[], cursor, gap.isLines⟩
  | bound + 1, gap, cursor =>
    if cursor.atDocumentMarker || cursor.rest.head? == some '#' then
      some ⟨[], cursor, gap.isLines⟩
    else do
      let length ← wordLength? inFlow cursor.rest
      if length = 0 then some ⟨[], cursor, gap.isLines⟩
      else
        let text := gap.text ++ cursor.rest.take length
        let cursor := cursor.skip length
        let (gap, cursor) ← Gap.extend indent cursor.size (.blanks []) cursor
        if !inFlow && cursor.column < indent then some ⟨text, cursor, gap.isLines⟩
        else
          let more ← readWords inFlow indent bound gap cursor
          some { more with text := text ++ more.text }

def read (inFlow : Bool) (indent : Nat) (cursor : Cursor) : Option Scanned :=
  readWords inFlow indent (cursor.size + 1) (.blanks []) cursor

end Plain

end KeyPath.Yaml
