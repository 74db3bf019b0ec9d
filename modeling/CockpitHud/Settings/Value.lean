import CockpitHud.Decimal.Plain
import CockpitHud.Decimal.Reader
import CockpitHud.Settings.Basic
import CockpitHud.Text.Blank
import CockpitHud.Text.Pieces

namespace CockpitHud.Settings.Value

/-- Names between commas, trimmed, the empty ones left out. -/
def readNames (text : List Char) : List String :=
  (((Text.pieces ',' text).map Text.trim).filter (· ≠ [])).map String.ofList

def writeNames (names : List String) : List Char :=
  Text.join ',' (names.map String.toList)

def readBool? (text : List Char) : Option Bool :=
  let word := String.ofList (Text.lower text)
  if word ∈ ["true", "yes", "on", "1"] then some true
  else if word ∈ ["false", "no", "off", "0"] then some false
  else none

def writeBool (value : Bool) : List Char :=
  if value then "true".toList else "false".toList

def addDigit? (value : Nat) (digit : Char) : Option Nat :=
  let next := 10 * value + (digit.toNat - 0x30)
  if next ≤ 255 then some next else none

def readPart? (text : List Char) : Option (UInt8 × List Char) :=
  match text.takeWhile Char.isDigit with
  | [] => none
  | digits =>
    (digits.foldlM addDigit? 0).map fun value =>
      (UInt8.ofNat value, text.dropWhile Char.isDigit)

def skipSpaces (text : List Char) : List Char :=
  text.dropWhile fun c => c == ' ' || c == '\t'

/-- A comma with spaces and tabs around it, and what follows. -/
def readComma? (text : List Char) : Option (List Char) :=
  match skipSpaces text with
  | ',' :: rest => some (skipSpaces rest)
  | _ => none

/-- Three parts with commas between them, and nothing else but blanks at the ends. -/
def readColor? (text : List Char) : Option Color :=
  match readPart? (Text.trim text) with
  | none => none
  | some (red, afterRed) =>
    match (readComma? afterRed).bind readPart? with
    | none => none
    | some (green, afterGreen) =>
      match (readComma? afterGreen).bind readPart? with
      | some (blue, []) => some ⟨red, green, blue⟩
      | _ => none

end CockpitHud.Settings.Value
