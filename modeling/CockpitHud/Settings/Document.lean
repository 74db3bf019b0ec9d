import CockpitHud.Settings.Line
import CockpitHud.Text.LowerCase

namespace CockpitHud.Settings

structure Section where
  name : List Char
  /-- Keys in small letters with their values, the newest first. -/
  entries : List (List Char × List Char) := []
  deriving DecidableEq

namespace Section

def add (part : Section) (key value : List Char) : Section :=
  { part with entries := (Text.lower key, value) :: part.entries }

/-- The value last given to a key. -/
def value? (part : Section) (key : List Char) : Option (List Char) :=
  part.entries.lookup (Text.lower key)

/-- Names are compared with the case of A to Z put aside. -/
def hasName (part : Section) (name : List Char) : Bool :=
  Text.lowerAscii part.name == Text.lowerAscii name

end Section

namespace Document

def addLine (sections : List Section) : Line → List Section
  | .blank => sections
  | .comment => sections
  | .header name => { name := name } :: sections
  | .entry key value =>
    match sections with
    | [] => []
    | current :: others => current.add key value :: others

/-- The sections of a text in order. One bad line anywhere spoils the whole text, and entries before
the first header are dropped. -/
def read? (text : List Char) : Option (List Section) :=
  ((Text.lines text).mapM Line.read?).map fun found => (found.foldl addLine []).reverse

end Document

end CockpitHud.Settings
