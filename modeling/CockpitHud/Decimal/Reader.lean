import CockpitHud.Decimal.Nearest
import CockpitHud.Text.LowerCase

namespace CockpitHud.Decimal

structure Numeral where
  coefficient : Nat
  exponent : Int

def digitsValue (digits : List Char) : Nat :=
  Nat.ofDigitChars 10 digits 0

def leadingDigits (text : List Char) : List Char :=
  text.takeWhile Char.isDigit

def afterDigits (text : List Char) : List Char :=
  text.dropWhile Char.isDigit

def readWholeNumber (text : List Char) : Option Nat :=
  if text ≠ [] ∧ text.all Char.isDigit then some (digitsValue text) else none

/-- The exponent behind the digits: nothing, or a mark, an optional sign and digits. -/
def readExponent : List Char → Option Int
  | [] => some 0
  | c :: rest =>
    if c = 'e' ∨ c = 'E' then
      match rest with
      | '-' :: digits => (readWholeNumber digits).map fun n => -(n : Int)
      | '+' :: digits => (readWholeNumber digits).map fun n => (n : Int)
      | digits => (readWholeNumber digits).map fun n => (n : Int)
    else none

def splitFraction : List Char → List Char × List Char
  | '.' :: rest => (leadingDigits rest, afterDigits rest)
  | text => ([], text)

def readNumeral (text : List Char) : Option Numeral :=
  let front := leadingDigits text
  let (fraction, rest) := splitFraction (afterDigits text)
  if front ++ fraction = [] then none
  else (readExponent rest).map fun exponent =>
    ⟨digitsValue (front ++ fraction), exponent - fraction.length⟩

def Numeral.magnitude (numeral : Numeral) : Nat :=
  nearestScaled numeral.coefficient numeral.exponent

def readMagnitude (text : List Char) : Option Nat :=
  let word := Text.lowerAscii text
  if word = "inf".toList ∨ word = "infinity".toList then some infinity
  else if word = "nan".toList then some notANumber
  else (readNumeral text).map Numeral.magnitude

/-- An optional sign, then `inf`, `infinity` or `nan` in any case, or digits with an optional point
and an optional exponent. The whole text must be used. -/
def read : List Char → Option Float
  | '-' :: rest => (readMagnitude rest).map fun magnitude => Parts.toFloat ⟨true, magnitude⟩
  | '+' :: rest => (readMagnitude rest).map fun magnitude => Parts.toFloat ⟨false, magnitude⟩
  | text => (readMagnitude text).map fun magnitude => Parts.toFloat ⟨false, magnitude⟩

end CockpitHud.Decimal
