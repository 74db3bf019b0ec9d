import CockpitHud.Decimal.Reader

namespace CockpitHud.Record

abbrev Reader := StateT (List Char) Option

def isBlank (c : Char) : Bool :=
  c == ' ' || c == '\t' || c == '\n' || c == '\r'

inductive Gap where
  | outside
  | lineComment
  /-- Inside a block comment, with the number of those around it. -/
  | blockComment (depth : Nat)

/-- What follows the blanks and the comments. Block comments nest and must be closed. -/
def afterBlanks : Gap → List Char → Option (List Char)
  | .outside, '/' :: '/' :: rest => afterBlanks .lineComment rest
  | .outside, '/' :: '*' :: rest => afterBlanks (.blockComment 0) rest
  | .outside, c :: rest =>
    if isBlank c then afterBlanks .outside rest
    else if c = '/' then none
    else some (c :: rest)
  | .outside, [] => some []
  | .lineComment, c :: rest =>
    if c = '\n' then afterBlanks .outside rest else afterBlanks .lineComment rest
  | .lineComment, [] => some []
  | .blockComment depth, '/' :: '*' :: rest => afterBlanks (.blockComment (depth + 1)) rest
  | .blockComment 0, '*' :: '/' :: rest => afterBlanks .outside rest
  | .blockComment (depth + 1), '*' :: '/' :: rest => afterBlanks (.blockComment depth) rest
  | .blockComment depth, _ :: rest => afterBlanks (.blockComment depth) rest
  | .blockComment _, [] => none

namespace Reader

def skipBlanks : Reader Unit := fun text =>
  (afterBlanks .outside text).map fun rest => ((), rest)

def peek : Reader (Option Char) := fun text => some (text.head?, text)

def rest : Reader (List Char) := fun text => some (text, text)

def skip (n : Nat) : Reader Unit := fun text => some ((), text.drop n)

def take? (word : List Char) : Reader Bool := fun text =>
  if word.isPrefixOf text then some (true, text.drop word.length) else some (false, text)

def expect (word : List Char) : Reader Unit := do
  unless ← take? word do failure

def run (fits : Char → Bool) : Reader (List Char) := fun text =>
  some (text.takeWhile fits, text.dropWhile fits)

end Reader

def isNameStart (c : Char) : Bool :=
  c.isAlpha || c == '_'

def isNameChar (c : Char) : Bool :=
  c.isAlphanum || c == '_'

def isRawNameChar (c : Char) : Bool :=
  isNameChar c || c == '.' || c == '+' || c == '-'

def startsWithWord (word text : List Char) : Bool :=
  word.isPrefixOf text && !((text.drop word.length).head?.any isNameChar)

namespace Reader

def takeWord? (word : List Char) : Reader Bool := fun text =>
  if startsWithWord word text then some (true, text.drop word.length) else some (false, text)

/-- A plain name, not run on by the characters of a raw one. -/
def plainName : Reader String := do
  let name ← run isNameChar
  if (← peek).any isRawNameChar then failure
  return String.ofList name

/-- A name. Behind `r#` it is raw; `r` before a quote starts a text. -/
def name : Reader String := do
  match ← rest with
  | 'r' :: '"' :: _ => failure
  | 'r' :: '#' :: c :: _ =>
    if isRawNameChar c then
      skip 2
      return String.ofList (← run isRawNameChar)
    else failure
  | ['r'] => failure
  | c :: _ => if isNameStart c then plainName else failure
  | [] => failure

end Reader

def digit? (c : Char) : Option Nat :=
  if c.isDigit then some (c.toNat - 0x30)
  else if 'a' ≤ c ∧ c ≤ 'f' then some (c.toNat - 0x61 + 10)
  else if 'A' ≤ c ∧ c ≤ 'F' then some (c.toNat - 0x41 + 10)
  else none

def isIntegerChar (c : Char) : Bool :=
  (digit? c).isSome || c == '_'

def isFloatChar (c : Char) : Bool :=
  c.isDigit || c == '.' || c == 'E' || c == 'e' || c == '+' || c == '-' || c == '_'

/-- One more digit, of those that the base has; underscores count for nothing. -/
def addDigit? (base value : Nat) (c : Char) : Option Nat :=
  if c = '_' then some value
  else
    (digit? c).bind fun digit => if digit < base then some (base * value + digit) else none

def digitsValue? (base : Nat) (digits : List Char) : Option Nat :=
  digits.foldlM (addDigit? base) 0

namespace Reader

def base : Reader Nat := do
  if ← take? "0x".toList then return 16
  if ← take? "0b".toList then return 2
  if ← take? "0o".toList then return 8
  return 10

def natural : Reader Nat := do
  let base ← base
  match ← run isIntegerChar with
  | [] => failure
  | '_' :: _ => failure
  | digits => digitsValue? base digits

def unsigned : Reader UInt64 := do
  let value ← natural
  if value < UInt64.size then return UInt64.ofNat value else failure

def namedFloats : List (List Char) :=
  ["inf", "+inf", "-inf", "NaN", "+NaN", "-NaN"].map String.toList

def decimal : Reader Float := do
  let unread ← rest
  match namedFloats.find? fun name => startsWithWord name unread with
  | some name =>
    skip name.length
    Decimal.read name
  | none =>
    let digits ← run isFloatChar
    if digits.contains '_' then failure
    Decimal.read digits

def flag : Reader Bool := do
  if ← take? "true".toList then return true
  expect "false".toList
  return false

end Reader

def simpleEscape? (c : Char) : Option Char :=
  [('\'', '\''), ('"', '"'), ('\\', '\\'), ('n', '\n'), ('r', '\r'), ('t', '\t'),
    ('0', '\x00')].lookup c

inductive QuoteState where
  | plain
  /-- Behind a backslash. -/
  | escape
  /-- Two digits of a code, of which `left` are to come. -/
  | byte (left value : Nat)
  /-- Before the brace of a code. -/
  | brace
  /-- One to six digits of a code and a closing brace. -/
  | code (digits value : Nat)

def quoted (quote : Char) : QuoteState → List Char → Option (List Char × List Char)
  | _, [] => none
  | .plain, c :: rest =>
    if c = '\\' then quoted quote .escape rest
    else if c = quote then some ([], rest)
    else (quoted quote .plain rest).map fun (text, after) => (c :: text, after)
  | .escape, c :: rest =>
    if c = 'x' then quoted quote (.byte 2 0) rest
    else if c = 'u' then quoted quote .brace rest
    else
      (simpleEscape? c).bind fun escaped =>
        (quoted quote .plain rest).map fun (text, after) => (escaped :: text, after)
  | .byte left value, c :: rest =>
    (digit? c).bind fun digit =>
      if left = 1 then
        (quoted quote .plain rest).map fun (text, after) =>
          (Char.ofNat (16 * value + digit) :: text, after)
      else quoted quote (.byte (left - 1) (16 * value + digit)) rest
  | .brace, c :: rest => if c = '\x7b' then quoted quote (.code 0 0) rest else none
  | .code digits value, c :: rest =>
    if c = '\x7d' then
      if digits = 0 ∨ ¬ value.isValidChar then none
      else
        (quoted quote .plain rest).map fun (text, after) => (Char.ofNat value :: text, after)
    else if digits = 6 then none
    else (digit? c).bind fun digit => quoted quote (.code (digits + 1) (16 * value + digit)) rest

/-- A raw text up to a quote with `hashes` number signs behind it, and what follows. -/
def rawQuoted (hashes : Nat) : List Char → Option (List Char × List Char)
  | [] => none
  | c :: rest =>
    if c = '"' ∧ rest.take hashes = List.replicate hashes '#' then some ([], rest.drop hashes)
    else (rawQuoted hashes rest).map fun (text, after) => (c :: text, after)

namespace Reader

def text : Reader String := do
  if ← take? ['"'] then
    let found ← (quoted '"' .plain : Reader (List Char))
    return String.ofList found
  expect ['r']
  let hashes ← run (· == '#')
  expect ['"']
  let found ← (rawQuoted hashes.length : Reader (List Char))
  return String.ofList found

def character : Reader Char := do
  expect ['\'']
  match ← (quoted '\'' .plain : Reader (List Char)) with
  | [c] => return c
  | _ => failure

end Reader

end CockpitHud.Record
