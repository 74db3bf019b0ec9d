import CockpitHud.Text.Blank
import CockpitHud.Text.Pieces

namespace CockpitHud.Settings

inductive Line where
  | blank
  | comment
  | header (name : List Char)
  | entry (key value : List Char)
  deriving DecidableEq

namespace Line

def readHeader : List Char → Option (Line × List Char)
  | '[' :: rest =>
    match rest.dropWhile (· ≠ ']') with
    | _ :: after => some (.header (Text.trim (rest.takeWhile (· ≠ ']'))), after)
    | [] => none
  | _ => none

/-- A semicolon or a number sign, and all that follows. -/
def readComment : List Char → Option (Line × List Char)
  | c :: _ => if c = ';' ∨ c = '#' then some (.comment, []) else none
  | [] => none

/-- A key before the first equals sign and a value behind it. -/
def readEntry (text : List Char) : Option (Line × List Char) :=
  match text.takeWhile (· ≠ '='), text.dropWhile (· ≠ '=') with
  | [], _ => none
  | _, [] => none
  | key, _ :: value => some (.entry (Text.trim key) (Text.trim value), [])

/-- The line that a raw line holds: a header, a comment or an entry, tried in this order. The first
that fits must use the whole line. -/
def read? (raw : List Char) : Option Line :=
  match Text.trim raw with
  | [] => some .blank
  | text =>
    match (readHeader text).or ((readComment text).or (readEntry text)) with
    | some (line, []) => some line
    | _ => none

end Line

end CockpitHud.Settings
