import CockpitHud.Record.Lexeme
import CockpitHud.Record.Value

namespace CockpitHud.Record.Reader

def comma? : Reader Bool := do
  skipBlanks
  if ← take? [','] then
    skipBlanks
    return true
  else return false

/-- Elements up to the closing character, which stays. Each takes at least one character, so `limit`
need not be greater than the text is long. -/
def itemsWithin {α : Type} (close : Char) (item : Reader α) : Nat → Reader (List α)
  | 0 => failure
  | limit + 1 => do
    skipBlanks
    match ← peek with
    | none => failure
    | some c =>
      if c = close then return []
      let first ← item
      if ← comma? then return first :: (← itemsWithin close item limit)
      if (← peek) = some close then return [first]
      failure

def items {α : Type} (close : Char) (item : Reader α) : Reader (List α) := do
  let found ← itemsWithin close item ((← rest).length + 1)
  expect [close]
  return found

def fieldName : Reader String := do
  let found ← name
  skipBlanks
  expect [':']
  skipBlanks
  return found

/-- Whether the fields that start here have no names. -/
def isPositional : Reader Bool := do
  match name (← rest) with
  | none => return true
  | some (_, after) => return !((afterBlanks .outside after).any (·.head? = some ':'))

def skipNumber : Reader Unit := do
  let unread ← rest
  let digits := match unread with
    | c :: after => if c = '+' ∨ c = '-' then after else unread
    | [] => []
  if (digits.takeWhile isIntegerChar).length < (digits.takeWhile isFloatChar).length then
    let _ ← decimal
  else
    skip (unread.length - digits.length)
    let _ ← natural

/-- The values in a record or a list whose shape is not known. -/
def skipBody (skipValue : Reader Unit) : Reader Unit := do
  skipBlanks
  if ← isPositional then
    let _ ← items ')' skipValue
  else
    let _ ← items ')' do
      let _ ← fieldName
      skipValue

/-- Any value, nested no deeper than `depth`. -/
def skipValue : Nat → Reader Unit
  | 0 => failure
  | depth + 1 => do
    for word in ["true", "false", "None", "inf", "+inf", "-inf", "NaN", "+NaN", "-NaN"] do
      if ← takeWord? word.toList then return
    if ← takeWord? "Some".toList then
      skipBlanks
      expect ['(']
      skipBlanks
      skipValue depth
      let _ ← comma?
      expect [')']
      return
    if let some (_, after) := name (← rest) then
      set after
      skipBlanks
      if ← take? ['('] then skipBody (skipValue depth)
      return
    match ← peek with
    | some '(' =>
      skip 1
      skipBody (skipValue depth)
    | some '[' =>
      skip 1
      let _ ← items ']' (skipValue depth)
    | some '\x7b' =>
      skip 1
      let _ ← items '\x7d' do
        skipValue depth
        skipBlanks
        expect [':']
        skipBlanks
        skipValue depth
    | some '"' => let _ ← text
    | some 'r' => let _ ← text
    | some '\'' => let _ ← character
    | some '.' => let _ ← decimal
    | _ => skipNumber

def depthLimit : Nat := 128

/-- Takes the name of a record, which may be left out but not be another. -/
def recordName (expected : String) : Reader Unit := do
  match name (← rest) with
  | none => return
  | some (found, after) =>
    if found = expected then
      set after
      skipBlanks
    else failure

def distinct (found : List (String × Value)) : Reader (List (String × Value)) :=
  if (found.map Prod.fst).Nodup then return found else failure

mutual

def value : Shape → Reader Value
  | .unsigned => return .unsigned (← unsigned)
  | .decimal => return .decimal (← decimal)
  | .flag => return .flag (← flag)
  | .text => return .text (← text)
  | .word choices => do
    let found ← name
    if found ∈ choices then return .text found else failure
  | .optional shape => do
    if ← takeWord? "None".toList then return .absent
    expect "Some".toList
    skipBlanks
    expect ['(']
    skipBlanks
    let found ← value shape
    let _ ← comma?
    expect [')']
    return .present found
  | .list shape => do
    expect ['[']
    return .list (← items ']' (value shape))
  | .pair first second => do
    expect ['(']
    skipBlanks
    let a ← value first
    unless ← comma? do failure
    let b ← value second
    let _ ← comma?
    let _ ← comma?
    expect [')']
    return .list [a, b]
  | .record name fields => do
    recordName name
    expect ['(']
    let found ← items ')' do
      let key ← fieldName
      field fields key
    return .record (← distinct (found.filterMap id))

def field : Fields → String → Reader (Option (String × Value))
  | .nil, _ => do
    skipValue depthLimit
    return none
  | .cons name shape rest, key =>
    if key = name then return some (name, ← value shape) else field rest key

end

def document (shape : Shape) (text : String) : Option Value :=
  let whole : Reader Value := do
    skipBlanks
    let found ← value shape
    skipBlanks
    if (← rest).isEmpty then return found else failure
  (whole text.toList).map Prod.fst

end CockpitHud.Record.Reader
