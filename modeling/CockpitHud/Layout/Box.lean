namespace CockpitHud.Layout

inductive Rule where
  | top
  | mid
  | separator
  | bottom

def fill (n : Nat) (c : Char) : List Char :=
  List.replicate n c

/-- A rule over the whole width, and never without its corners. The separator has a join in the
middle; an odd dash goes to its right half. -/
def Rule.draw (width : Nat) : Rule → List Char
  | .top => '╔' :: fill (width - 2) '═' ++ ['╗']
  | .mid => '╠' :: fill (width - 2) '═' ++ ['╣']
  | .separator =>
    let dashes := width - 3
    '╟' :: fill (dashes / 2) '─' ++ '┬' :: fill (dashes / 2 + dashes % 2) '─' ++ ['╢']
  | .bottom => '╚' :: fill (width - 2) '═' ++ ['╝']

/-- A side that is a space is drawn on the left only. -/
def rightSide (side : Char) : List Char :=
  if side = ' ' then [] else [side]

/-- The text in the middle between the sides, cut to fit. An odd space goes to the right. -/
def center (text : List Char) (width : Nat) (side : Char) : List Char :=
  let inner := width - 2
  let shown := text.take inner
  let spare := inner - shown.length
  side :: fill (spare / 2) ' ' ++ shown ++ fill (spare - spare / 2) ' ' ++ rightSide side

def left (text : List Char) (width : Nat) (side : Char) : List Char :=
  let inner := width - 2
  let shown := text.take inner
  side :: shown ++ fill (inner - shown.length) ' ' ++ rightSide side

def padRight (text : List Char) (width : Nat) : List Char :=
  text ++ fill (width - text.length) ' '

def padLeft (text : List Char) (width : Nat) : List Char :=
  fill (width - text.length) ' ' ++ text

def padBoth (text : List Char) (width : Nat) : List Char :=
  let spare := width - text.length
  fill (spare / 2) ' ' ++ text ++ fill (spare - spare / 2) ' '

end CockpitHud.Layout
