import CockpitHud.Proofs.Settings.RoundTrip

namespace CockpitHud.Settings

namespace Value

variable {text digits rest comma : List Char} {part : UInt8} {color : Color}

/-- Digits that write a part of a color, with any number of zeros before it. -/
structure WritesPart (digits : List Char) (part : UInt8) : Prop where
  ne_nil : digits ≠ []
  isDigit : ∀ c ∈ digits, c.isDigit = true
  value : Nat.ofDigitChars 10 digits 0 = part.toNat

def IsGap (text : List Char) : Prop :=
  ∀ c ∈ text, c = ' ' ∨ c = '\t'

inductive IsComma : List Char → Prop
  | intro {before behind : List Char} (hbefore : IsGap before) (hbehind : IsGap behind) :
      IsComma (before ++ ',' :: behind)

/-- A color in writing. -/
inductive WritesColor : List Char → Color → Prop
  | intro {red first green second blue : List Char} {color : Color}
      (hred : WritesPart red color.red) (hfirst : IsComma first)
      (hgreen : WritesPart green color.green) (hsecond : IsComma second)
      (hblue : WritesPart blue color.blue) :
      WritesColor (red ++ first ++ green ++ second ++ blue) color

/-- A part is read up to its last digit. -/
theorem readPart?_eq_some_iff :
    readPart? text = some (part, rest) ↔
      (∀ c, rest.head? = some c → c.isDigit = false) ∧
        ∃ digits, WritesPart digits part ∧ text = digits ++ rest := by
  constructor
  · intro h
    have hdigits : ∀ c ∈ text.takeWhile Char.isDigit, c.isDigit = true :=
      fun c hc => List.mem_takeWhile_imp hc
    have hrest : ∀ c, (text.dropWhile Char.isDigit).head? = some c → c.isDigit = false := by
      intro c hc
      have hhead := List.head?_dropWhile_not Char.isDigit text
      rw [hc] at hhead
      simpa using hhead
    have hne : text.takeWhile Char.isDigit ≠ [] := by
      intro hnil
      rw [readPart?, hnil] at h
      contradiction
    have hread := readPart?_append hdigits hne hrest
    rw [List.takeWhile_append_dropWhile, h] at hread
    split at hread
    · rename_i hle
      obtain ⟨rfl, rfl⟩ := Prod.mk.inj (Option.some.inj hread)
      refine ⟨hrest, _, ⟨hne, hdigits, ?_⟩, List.takeWhile_append_dropWhile.symm⟩
      exact (UInt8.toNat_ofNat_of_lt' (Nat.lt_succ_of_le hle)).symm
    · contradiction
  · rintro ⟨hrest, digits, hpart, rfl⟩
    rw [readPart?_append hpart.isDigit hpart.ne_nil hrest]
    have hvalue : Decimal.digitsValue digits = part.toNat := hpart.value
    rw [hvalue, if_pos (Nat.le_of_lt_succ part.toNat_lt), UInt8.ofNat_toNat]

def StartsBare (text : List Char) : Prop :=
  ∀ c, text.head? = some c → c ≠ ' ' ∧ c ≠ '\t'

theorem skipSpaces_append {gap : List Char} (hgap : IsGap gap) (hrest : StartsBare rest) :
    skipSpaces (gap ++ rest) = rest := by
  rw [skipSpaces, List.dropWhile_append_of_pos (by simpa [IsGap] using hgap)]
  cases rest with
  | nil => rfl
  | cons c others => exact List.dropWhile_cons_of_neg (by simpa using hrest c rfl)

theorem exists_gap_append_skipSpaces (text : List Char) :
    ∃ gap, IsGap gap ∧ gap ++ skipSpaces text = text ∧ StartsBare (skipSpaces text) := by
  refine ⟨_, fun c hc => ?_, List.takeWhile_append_dropWhile, fun c hc => ?_⟩
  · simpa using List.mem_takeWhile_imp hc
  · have hhead := List.head?_dropWhile_not (fun c => c == ' ' || c == '\t') text
    rw [← skipSpaces, hc] at hhead
    simpa using hhead

/-- A comma is read with all the spaces and tabs behind it. -/
theorem readComma?_eq_some_iff :
    readComma? text = some rest ↔
      StartsBare rest ∧ ∃ comma, IsComma comma ∧ text = comma ++ rest := by
  constructor
  · intro h
    obtain ⟨before, hbefore, htext, _⟩ := exists_gap_append_skipSpaces text
    rw [readComma?] at h
    split at h
    · rename_i more hmore
      obtain ⟨behind, hbehind, hrest, hbare⟩ := exists_gap_append_skipSpaces more
      obtain rfl : skipSpaces more = rest := Option.some.inj h
      refine ⟨hbare, _, .intro hbefore hbehind, ?_⟩
      rw [List.append_assoc, List.cons_append, hrest, ← hmore, htext]
    · contradiction
  · rintro ⟨hbare, _, @⟨before, behind, hbefore, hbehind⟩, rfl⟩
    have hcomma : StartsBare (',' :: (behind ++ rest)) := by
      rintro c hc
      cases hc
      decide
    rw [List.append_assoc, List.cons_append, readComma?, skipSpaces_append hbefore hcomma]
    simp only [skipSpaces_append hbehind hbare]

theorem readColor?_eq_some_iff_readings :
    readColor? text = some color ↔ ∃ afterRed beforeGreen afterGreen beforeBlue,
      readPart? (Text.trim text) = some (color.red, afterRed) ∧
      readComma? afterRed = some beforeGreen ∧
      readPart? beforeGreen = some (color.green, afterGreen) ∧
      readComma? afterGreen = some beforeBlue ∧
      readPart? beforeBlue = some (color.blue, []) := by
  constructor
  · intro h
    unfold readColor? at h
    split at h
    · contradiction
    · rename_i red afterRed hred
      split at h
      · contradiction
      · rename_i green afterGreen hgreen
        split at h
        · rename_i blue hblue
          cases h
          obtain ⟨beforeGreen, hfirst, hgreen⟩ := Option.bind_eq_some_iff.mp hgreen
          obtain ⟨beforeBlue, hsecond, hblue⟩ := Option.bind_eq_some_iff.mp hblue
          exact ⟨_, _, _, _, hred, hfirst, hgreen, hsecond, hblue⟩
        · contradiction
  · rintro ⟨_, _, _, _, hred, hfirst, hgreen, hsecond, hblue⟩
    rw [readColor?, hred]
    simp only [hfirst, Option.bind_some, hgreen, hsecond, hblue]

theorem IsComma.head?_append (h : IsComma comma) (rest : List Char) :
    ∀ c, (comma ++ rest).head? = some c → c.isDigit = false := by
  cases h with
  | @intro before behind hbefore hbehind =>
    intro c hc
    cases before with
    | nil =>
      cases hc
      rfl
    | cons first others =>
      cases hc
      rcases hbefore c List.mem_cons_self with rfl | rfl <;> rfl

theorem WritesPart.startsBare (h : WritesPart digits part) (rest : List Char) :
    StartsBare (digits ++ rest) := by
  intro c hc
  rw [List.head?_append_of_ne_nil _ h.ne_nil] at hc
  have hdigit := h.isDigit c (List.mem_of_head? hc)
  constructor <;> (rintro rfl; contradiction)

/-- A color is read from the texts that write it, and from no others. -/
theorem readColor?_eq_some_iff :
    readColor? text = some color ↔ WritesColor (Text.trim text) color := by
  rw [readColor?_eq_some_iff_readings]
  constructor
  · rintro ⟨_, _, _, _, hreadRed, hreadFirst, hreadGreen, hreadSecond, hreadBlue⟩
    obtain ⟨_, red, hred, htext⟩ := readPart?_eq_some_iff.mp hreadRed
    obtain ⟨_, first, hfirst, rfl⟩ := readComma?_eq_some_iff.mp hreadFirst
    obtain ⟨_, green, hgreen, rfl⟩ := readPart?_eq_some_iff.mp hreadGreen
    obtain ⟨_, second, hsecond, rfl⟩ := readComma?_eq_some_iff.mp hreadSecond
    obtain ⟨_, blue, hblue, rfl⟩ := readPart?_eq_some_iff.mp hreadBlue
    have hwritten := WritesColor.intro hred hfirst hgreen hsecond hblue
    rw [htext]
    simpa using hwritten
  · generalize Text.trim text = trimmed
    rintro @⟨red, first, green, second, blue, _, hred, hfirst, hgreen, hsecond, hblue⟩
    refine ⟨first ++ (green ++ (second ++ blue)), green ++ (second ++ blue), second ++ blue, blue,
      ?_, ?_, ?_, ?_, ?_⟩
    · exact readPart?_eq_some_iff.mpr ⟨hfirst.head?_append _, red, hred, by simp⟩
    · exact readComma?_eq_some_iff.mpr ⟨hgreen.startsBare _, first, hfirst, rfl⟩
    · exact readPart?_eq_some_iff.mpr ⟨hsecond.head?_append _, green, hgreen, rfl⟩
    · have hbare := hblue.startsBare []
      rw [List.append_nil] at hbare
      exact readComma?_eq_some_iff.mpr ⟨hbare, second, hsecond, rfl⟩
    · exact readPart?_eq_some_iff.mpr ⟨nofun, blue, hblue, (List.append_nil blue).symm⟩

theorem readColor?_eq_none_iff :
    readColor? text = none ↔ ∀ color, ¬WritesColor (Text.trim text) color := by
  simp only [← readColor?_eq_some_iff, Option.eq_none_iff_forall_ne_some]

end Value

/-- Of a section with all keys only the color can be the reason to write the text anew. -/
theorem isStale_of_all_keys {document : String} {sections : List Section} {part : Section}
    (hread : Document.read? document.toList = some sections)
    (hours : sections.find? (·.hasName sectionName.toList) = some part)
    (hkeys : ∀ key, (part.values key).isSome = true) :
    (read document).isStale = badColor part.values := by
  have hmisses : missesKey part.values = false := by
    simpa [missesKey] using fun key _ => Option.isSome_iff_ne_none.mp (hkeys key)
  simp only [read, hread, hours, hmisses, Bool.or_false]

/-- The colors that are read are the trimmed texts of three parts in decimal, each of digits with a
value up to 255, with two commas between them among spaces and tabs; any other text is none. Every
color reads back as it is written. And where all keys of our section are given, the settings are to
be written anew if the text under the color's key is not of this language, and only then. -/
theorem color_language (text : List Char) :
    (∀ color, Value.readColor? text = some color ↔ Value.WritesColor (Text.trim text) color) ∧
      (Value.readColor? text = none ↔ ∀ color, ¬Value.WritesColor (Text.trim text) color) ∧
      (∀ color : Color, Value.readColor? color.text = some color) ∧
      ∀ document sections part, Document.read? document.toList = some sections →
        sections.find? (·.hasName sectionName.toList) = some part →
        (∀ key, (part.values key).isSome = true) → part.values .color = some text →
        ((read document).isStale = true ↔ ∀ color, ¬Value.WritesColor (Text.trim text) color) := by
  refine ⟨fun color => Value.readColor?_eq_some_iff, Value.readColor?_eq_none_iff,
    Value.readColor?_text, ?_⟩
  intro document sections part hread hours hkeys hcolor
  rw [isStale_of_all_keys hread hours hkeys, badColor, hcolor, ← Value.readColor?_eq_none_iff]
  simp

/-- Zeros before a part do not count and a value past the greatest does, which spoils a text that
has all keys. -/
theorem color_language_overflow :
    let document := "[deltav]\nGroups=\nHudPositionX=\nHudPositionY=\nLcdFont=\nLcdHudSize=\n" ++
      "ShowBorders=\nShowHeaderAndSettings=\nlcdcolor = 007 ,\t2,0256"
    let text := "007 ,\t2,0256".toList
    ∃ part, Document.read? document.toList = some [part] ∧
      (∀ key, (part.values key).isSome = true) ∧ part.values .color = some text ∧
      (read document).isStale = true ∧ (∀ color, ¬Value.WritesColor (Text.trim text) color) ∧
      Value.WritesColor (Text.trim "\u00a0007 ,\t2,0255\n".toList) ⟨7, 2, 255⟩ := by
  intro document text
  let part : Section := ⟨"deltav".toList, [("lcdcolor", "007 ,\t2,0256"),
    ("showheaderandsettings", ""), ("showborders", ""), ("lcdhudsize", ""), ("lcdfont", ""),
    ("hudpositiony", ""), ("hudpositionx", ""), ("groups", "")].map fun entry =>
      (entry.1.toList, entry.2.toList)⟩
  have hread : Document.read? document.toList = some [part] := by decide +kernel
  have hours : [part].find? (·.hasName sectionName.toList) = some part := by decide +kernel
  have hkeys : ∀ key, (part.values key).isSome = true := by
    intro key
    cases key <;> decide +kernel
  have hcolor : part.values .color = some text := by decide +kernel
  obtain ⟨_, hnone, _, hstale⟩ := color_language text
  have hbad := hnone.mp (by decide +kernel)
  have hgood := (color_language "\u00a0007 ,\t2,0255\n".toList).1 ⟨7, 2, 255⟩
  exact ⟨part, hread, hkeys, hcolor, (hstale _ _ part hread hours hkeys hcolor).mpr hbad, hbad,
    hgood.mp (by decide +kernel)⟩

end CockpitHud.Settings
