import CockpitHud.Proofs.Layout.Box
import Mathlib.Data.Nat.PSub

namespace CockpitHud.Layout

variable {shown : List Char}

/-- The longest part of a text from its start on that has no more than so many characters. -/
structure IsLongestStart (text : List Char) (most : Nat) (shown : List Char) : Prop where
  start : shown <+: text
  fits : shown.length ≤ most
  longest : ∀ other, other <+: text → other.length ≤ most → other <+: shown

theorem isLongestStart_take (text : List Char) (most : Nat) :
    IsLongestStart text most (text.take most) where
  start := List.take_prefix most text
  fits := List.length_take_le most text
  longest _ hstart hfits := List.prefix_take_iff.mpr ⟨hstart, hfits⟩

def byteCount : List Char → Nat
  | [] => 0
  | c :: rest => c.utf8Size + byteCount rest

def startBytes : List Char → List Nat
  | [] => []
  | c :: rest => 0 :: (startBytes rest).map (c.utf8Size + ·)

/-- The text before a byte. There is none if the byte is within a character or behind the text. -/
def before? : List Char → Nat → Option (List Char)
  | _, 0 => some []
  | [], _ + 1 => none
  | c :: rest, byte + 1 => do
    let shown ← before? rest (← (byte + 1).psub c.utf8Size)
    return c :: shown

/-- The text before the byte at which its first character too many starts. -/
def cutAt? (text : List Char) (most : Nat) : Option (List Char) :=
  match (startBytes text)[most]? with
  | some byte => before? text byte
  | none => some text

theorem getElem?_startBytes (text : List Char) (place : Nat) :
    (startBytes text)[place]? =
      if place < text.length then some (byteCount (text.take place)) else none := by
  induction text generalizing place with
  | nil => rfl
  | cons c rest ih =>
    cases place with
    | zero => simp [startBytes, byteCount]
    | succ place =>
      simp only [startBytes, List.getElem?_cons_succ, List.getElem?_map, ih, List.length_cons,
        Nat.add_lt_add_iff_right]
      split <;> simp [byteCount]

theorem before?_cons {c : Char} {rest : List Char} {byte : Nat}
    (h : before? rest byte = some shown) :
    before? (c :: rest) (c.utf8Size + byte) = some (c :: shown) := by
  have hsplit : (c.utf8Size + byte).psub c.utf8Size = some byte :=
    Nat.psub_eq_some.mpr (Nat.add_comm byte _)
  -- every character takes a byte, so this byte is not the first
  obtain ⟨more, hmore⟩ : ∃ more, c.utf8Size + byte = more + 1 :=
    Nat.exists_eq_add_one.mpr (Nat.add_pos_left c.utf8Size_pos byte)
  rw [hmore] at hsplit ⊢
  simp [before?, hsplit, h]

/-- A character starts at the end of each part of a text from its start on. -/
theorem before?_byteCount (text : List Char) (most : Nat) :
    before? text (byteCount (text.take most)) = some (text.take most) := by
  induction text generalizing most with
  | nil => simp [byteCount, before?]
  | cons c rest ih =>
    cases most with
    | zero => simp [byteCount, before?]
    | succ most => simpa [byteCount] using before?_cons (ih most)

/-- The first character takes two bytes. -/
example : before? ['Δ', 'V'] 1 = none := by decide

/-- The cut is always between two characters: there is a text before that byte, and it is the start
of so many characters. -/
theorem cutAt?_eq (text : List Char) (most : Nat) : cutAt? text most = some (text.take most) := by
  rw [cutAt?, getElem?_startBytes]
  split
  · rename_i byte hbyte
    split at hbyte
    · rw [← Option.some.inj hbyte, before?_byteCount]
    · contradiction
  · rename_i hnone
    split at hnone
    · contradiction
    · rename_i hlength
      rw [List.take_of_length_le (Nat.le_of_not_lt hlength)]

/-- A line that shows as much of a text as fits in between its sides, and nothing but spaces around
it. Those before the text are told from all the spare ones. -/
structure Encloses (text : List Char) (width : Nat) (side : Char) (indent : Nat → Nat)
    (line : List Char) : Prop where
  length : line.length = if side = ' ' then max width 2 - 1 else max width 2
  made : ∃ before shown behind,
    line = side :: List.replicate before ' ' ++ shown ++ List.replicate behind ' ' ++
      (if side = ' ' then [] else [side]) ∧
    IsLongestStart text (max width 2 - 2) shown ∧
    before + shown.length + behind = max width 2 - 2 ∧
    before = indent (before + behind)

/-- The text in the middle between the sides, told with checked steps. A width below that of the
sides leaves no room for the text. -/
def center? (text : List Char) (width : Nat) (side : Char) : Option (List Char) := do
  let inner := width - 2
  let shown ← cutAt? text inner
  let spare ← inner.psub shown.length
  let before := spare / 2
  let behind ← spare.psub before
  return side :: fill before ' ' ++ shown ++ fill behind ' ' ++ rightSide side

def left? (text : List Char) (width : Nat) (side : Char) : Option (List Char) := do
  let inner := width - 2
  let shown ← cutAt? text inner
  let behind ← inner.psub shown.length
  return side :: shown ++ fill behind ' ' ++ rightSide side

theorem psub_length_take (text : List Char) (inner : Nat) :
    inner.psub (text.take inner).length = some (inner - (text.take inner).length) :=
  Nat.psub_eq_sub (List.length_take_le inner text)

/-- Drawing a centered text never takes more from a width than there is. -/
theorem center?_eq (text : List Char) (width : Nat) (side : Char) :
    center? text width side = some (center text width side) := by
  have hhalf : ∀ spare : Nat, spare.psub (spare / 2) = some (spare - spare / 2) :=
    fun spare => Nat.psub_eq_sub (Nat.div_le_self spare 2)
  simp only [center?, cutAt?_eq, psub_length_take, hhalf, Option.bind_eq_bind, Option.bind_some]
  rfl

/-- Nor does drawing a text at the left side. -/
theorem left?_eq (text : List Char) (width : Nat) (side : Char) :
    left? text width side = some (left text width side) := by
  simp only [left?, cutAt?_eq, psub_length_take, Option.bind_eq_bind, Option.bind_some]
  rfl

theorem inner_eq (width : Nat) : max width 2 - 2 = width - 2 := by
  omega

theorem center_encloses (text : List Char) (width : Nat) (side : Char) :
    Encloses text width side (· / 2) (center text width side) where
  length := length_center text width side
  made := by
    have hfits := List.length_take_le (width - 2) text
    let spare := width - 2 - (text.take (width - 2)).length
    rw [inner_eq]
    refine ⟨spare / 2, text.take (width - 2), spare - spare / 2, rfl, isLongestStart_take text _,
      ?_, ?_⟩
    · omega
    · omega

theorem left_encloses (text : List Char) (width : Nat) (side : Char) :
    Encloses text width side (fun _ => 0) (left text width side) where
  length := length_left text width side
  made := by
    have hfits := List.length_take_le (width - 2) text
    rw [inner_eq]
    refine ⟨0, text.take (width - 2), width - 2 - (text.take (width - 2)).length, rfl,
      isLongestStart_take text _, ?_, rfl⟩
    omega

/-- Rules and lines between sides are as wide as they should be at every width, and no step on the
way to them fails. The two halves of a separator differ by one dash at most, which is on the right.
Between the sides stands as much of the text as fits, in the middle with an odd space on the right,
or at the left side. -/
theorem exact_widths (text : List Char) (width : Nat) (side : Char) :
    (∀ rule : Rule, (rule.draw width).length =
        match rule with
        | .top | .mid | .bottom => max width 2
        | .separator => max width 3) ∧
      (∃ low high, Rule.separator.draw width =
          '╟' :: List.replicate low '─' ++ '┬' :: List.replicate high '─' ++ ['╢'] ∧
        (high = low ∨ high = low + 1)) ∧
      center? text width side = some (center text width side) ∧
      Encloses text width side (· / 2) (center text width side) ∧
      left? text width side = some (left text width side) ∧
      Encloses text width side (fun _ => 0) (left text width side) := by
  refine ⟨?_, ?_, center?_eq text width side, center_encloses text width side,
    left?_eq text width side, left_encloses text width side⟩
  · intro rule
    rw [rule.length_draw]
    cases rule <;> rfl
  · let dashes := width - 3
    refine ⟨dashes / 2, dashes / 2 + dashes % 2, rfl, ?_⟩
    omega

end CockpitHud.Layout
