import CockpitHud.Text.CaseTable

namespace CockpitHud.Text

def isIgnorable (c : Char) : Bool :=
  let n := c.toNat
  if n < 0x80 then n == 0x27 || n == 0x2E || n == 0x3A || n == 0x5E || n == 0x60
  else inRanges ignorableRanges n

def isCased (c : Char) : Bool :=
  if c.toNat < 0x80 then c.isAlpha else inRanges casedRanges c.toNat

/-- The small form of one character alone. Only the dotted capital I has one of two characters. -/
def lowerChar (c : Char) : List Char :=
  let n := c.toNat
  if n < 0x80 then [c.toLower]
  else if n = 0x130 then ['i', '\u0307']
  else
    match caseRuns.find? (·.covers n) with
    | some run => [Char.ofNat (run.target + (n - run.first))]
    | none => [c]

def wordGoesOn : List Char → Bool
  | [] => false
  | c :: rest => if isIgnorable c then wordGoesOn rest else isCased c

def lowerSigma (inWord : Bool) (rest : List Char) : Char :=
  if inWord && !wordGoesOn rest then 'ς' else 'σ'

/-- The small form of a text, a capital sigma at the end of a word in its final form; `inWord` says
whether the last character before it that counts is a letter with case. -/
def lowerFrom (inWord : Bool) : List Char → List Char
  | [] => []
  | c :: rest =>
    (if c = 'Σ' then [lowerSigma inWord rest] else lowerChar c) ++
      lowerFrom (if isIgnorable c then inWord else isCased c) rest

def lower (text : List Char) : List Char :=
  lowerFrom false text

/-- The small form as far as the letters A to Z go. -/
def lowerAscii (text : List Char) : List Char :=
  text.map Char.toLower

end CockpitHud.Text
