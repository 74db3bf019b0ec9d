namespace CockpitHud.Text

def startsWith (text needle : List Char) : Bool :=
  needle.isPrefixOf text

def contains : List Char → List Char → Bool
  | [], needle => needle.isEmpty
  | c :: rest, needle => startsWith (c :: rest) needle || contains rest needle

end CockpitHud.Text
