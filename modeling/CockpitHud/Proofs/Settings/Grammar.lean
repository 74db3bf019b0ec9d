import CockpitHud.Proofs.Settings.Document
import CockpitHud.Proofs.Settings.Line
import CockpitHud.Proofs.Text.Pieces
import CockpitHud.Settings.Reader
import Mathlib.Data.List.ReduceOption

namespace CockpitHud.Settings

namespace Grammar

def before (sign : Char) (text : List Char) : List Char :=
  text.take (text.idxOf sign)

def behind (sign : Char) (text : List Char) : List Char :=
  text.drop (text.idxOf sign + 1)

def withoutReturn (line : List Char) : List Char :=
  if line.getLast? = some '\r' then line.dropLast else line

def trimmedLines (text : List Char) : List (List Char) :=
  (text.splitOn '\n').map fun line => Text.trim (withoutReturn line)

/-- What a trimmed line is, unless it is malformed. A bracket that is closed again is closed at the
end of the line. -/
def lineOf? : List Char → Option Line
  | [] => some .blank
  | first :: rest =>
    if first = '[' ∧ ']' ∈ rest then
      if rest.idxOf ']' + 1 = rest.length then some (.header (Text.trim (before ']' rest)))
      else none
    else if first = ';' ∨ first = '#' then some .comment
    else if first ≠ '=' ∧ '=' ∈ rest then
      some (.entry (Text.trim (before '=' (first :: rest)))
        (Text.trim (behind '=' (first :: rest))))
    else none

def isOurs : Line → Bool
  | .header name => Text.lowerAscii name == Text.lowerAscii sectionName.toList
  | _ => false

/-- The lines between the first header of ours and the next header. -/
def ourLines (found : List Line) : List Line :=
  (found.dropWhile (!isOurs ·)).tail.takeWhile (!·.isHeader)

def valueFor? (key : Key) : Line → Option (List Char)
  | .entry name value =>
    if Text.lower name = Text.lower key.name.toList then some value else none
  | _ => none

def lastValues (found : List Line) : Values :=
  fun key => (found.filterMap (valueFor? key)).getLast?

def names (text : List Char) : List String :=
  (((text.splitOn ',').map Text.trim).filter (· ≠ [])).map String.ofList

/-- A value as it is read, and what stands for it where it is absent or unreadable. -/
def field {α : Type} (value : Option (List Char)) (read? : List Char → Option α) (missing : α) :
    α :=
  (value.bind read?).getD missing

def readingOf (values : Values) : Reading where
  settings :=
    let missing : Settings := {}
    { groupNames := field (values .groups) (fun text => some (names text)) missing.groupNames
      anchorX := field (values .positionX) Decimal.read missing.anchorX
      anchorY := field (values .positionY) Decimal.read missing.anchorY
      showHeader := field (values .header) Value.readBool? missing.showHeader
      showBorders := field (values .borders) Value.readBool? missing.showBorders
      color := field (values .color) Value.readColor? missing.color
      font := field (values .font) (fun text => some (String.ofList text)) missing.font
      scale := field (values .size) (fun text => some (String.ofList text)) missing.scale }
  isStale := decide ((∃ key ∈ Key.all, values key = none) ∨
    ∃ text ∈ values .color, Value.readColor? text = none)

/-- What a text says by the grammar. -/
def reading (text : List Char) : Reading :=
  let found := (trimmedLines text).map lineOf?
  if text.all Text.isBlank || found.contains none || !found.reduceOption.any isOurs then ⟨{}, true⟩
  else readingOf (lastValues (ourLines found.reduceOption))

theorem takeWhile_ne (sign : Char) (text : List Char) :
    text.takeWhile (· ≠ sign) = before sign text := by
  simp [List.takeWhile_eq_take_findIdx_not, before, List.idxOf, Bool.beq_eq_decide_eq]

theorem dropWhile_ne (sign : Char) (text : List Char) :
    text.dropWhile (· ≠ sign) = if sign ∈ text then sign :: behind sign text else [] := by
  have hdrop : text.dropWhile (· ≠ sign) = text.drop (text.idxOf sign) := by
    simp [List.dropWhile_eq_drop_findIdx_not, List.idxOf, Bool.beq_eq_decide_eq]
  rw [hdrop]
  split
  · rename_i hmem
    have hindex := List.idxOf_lt_length_iff.mpr hmem
    rw [List.drop_eq_getElem_cons hindex, List.getElem_idxOf, behind]
  · rename_i hmem
    rw [List.idxOf_eq_length_iff.mpr hmem, List.drop_length]

theorem behind_eq_nil_iff {sign : Char} {text : List Char} (h : sign ∈ text) :
    behind sign text = [] ↔ text.idxOf sign + 1 = text.length := by
  have hindex := List.idxOf_lt_length_iff.mpr h
  rw [behind, List.drop_eq_nil_iff]
  omega

end Grammar

namespace Line

theorem readHeader_eq (rest : List Char) :
    readHeader ('[' :: rest) = if ']' ∈ rest then
      some (.header (Text.trim (Grammar.before ']' rest)), Grammar.behind ']' rest) else none := by
  rw [readHeader, Grammar.dropWhile_ne, Grammar.takeWhile_ne]
  by_cases hclosed : ']' ∈ rest
  · simp [hclosed]
  · simp [hclosed]

theorem readHeader_of_ne {first : Char} (h : first ≠ '[') (rest : List Char) :
    readHeader (first :: rest) = none := by
  unfold readHeader
  split
  · rename_i heq
    exact absurd (List.cons.inj heq).1 h
  · rfl

theorem readEntry_eq (first : Char) (rest : List Char) :
    readEntry (first :: rest) = if first ≠ '=' ∧ '=' ∈ rest then
      some (.entry (Text.trim (Grammar.before '=' (first :: rest)))
        (Text.trim (Grammar.behind '=' (first :: rest))), []) else none := by
  rw [readEntry, Grammar.dropWhile_ne, Grammar.takeWhile_ne]
  by_cases hfirst : first = '='
  · simp [hfirst, Grammar.before]
  · have hsign : '=' ∈ first :: rest ↔ '=' ∈ rest := by simp [Ne.symm hfirst]
    have hbefore : Grammar.before '=' (first :: rest) =
        first :: rest.take (rest.idxOf '=') := by
      simp [Grammar.before, hfirst]
    rw [hbefore]
    by_cases hrest : '=' ∈ rest
    · simp [hfirst, hsign, hrest]
    · simp [hfirst, hsign, hrest]

/-- A raw line is read as the grammar reads it trimmed. -/
theorem read?_eq_lineOf? (raw : List Char) : read? raw = Grammar.lineOf? (Text.trim raw) := by
  unfold read?
  cases Text.trim raw with
  | nil => rfl
  | cons first rest =>
    by_cases hheader : first = '[' ∧ ']' ∈ rest
    · obtain ⟨rfl, hclosed⟩ := hheader
      have hend := Grammar.behind_eq_nil_iff hclosed
      simp only [readHeader_eq, Grammar.lineOf?, hclosed, and_self, if_true, Option.some_or]
      cases hbehind : Grammar.behind ']' rest with
      | nil => simp [hend.mp hbehind]
      | cons next others =>
        have hnot : rest.idxOf ']' + 1 ≠ rest.length := by
          intro hlast
          rw [hend.mpr hlast] at hbehind
          contradiction
        simp [hnot]
    · have hnone : readHeader (first :: rest) = none := by
        by_cases hfirst : first = '['
        · subst hfirst
          rw [readHeader_eq, if_neg fun hclosed => hheader ⟨rfl, hclosed⟩]
        · exact readHeader_of_ne hfirst rest
      simp only [hnone, Option.none_or, Grammar.lineOf?, if_neg hheader]
      by_cases hcomment : first = ';' ∨ first = '#'
      · simp [readComment, hcomment]
      · by_cases hentry : first ≠ '=' ∧ '=' ∈ rest
        · simp [readComment, hcomment, readEntry_eq, hentry]
        · simp [readComment, hcomment, readEntry_eq, hentry]

/-- A bracket that is never closed may stand in a key. -/
example : read? "[a = b".toList = some (.entry "[a".toList "b".toList) := by decide

end Line

theorem trim_withoutReturn (line : List Char) :
    Text.trim (Grammar.withoutReturn line) = Text.trim line := by
  unfold Grammar.withoutReturn
  split
  · rename_i hlast
    obtain ⟨front, rfl⟩ := List.getLast?_eq_some_iff.mp hlast
    rw [List.dropLast_concat, Text.trim_append_blank (by decide)]
  · rfl

theorem map_read?_lines (text : List Char) :
    (Text.lines text).map Line.read? = (Grammar.trimmedLines text).map Grammar.lineOf? := by
  rw [Text.lines, Text.pieces_eq_splitOn, Grammar.trimmedLines, List.map_map]
  apply List.map_congr_left
  intro line _
  simp [Line.read?_eq_lineOf?, trim_withoutReturn]

/-- A text is spoiled by any malformed line, and otherwise holds what its lines add up to. -/
theorem Document.read?_eq (text : List Char) :
    Document.read? text =
      if none ∈ (Grammar.trimmedLines text).map Grammar.lineOf? then none
      else some (sections ((Grammar.trimmedLines text).map Grammar.lineOf?).reduceOption) := by
  have hfound : (Text.lines text).filterMap Line.read? =
      ((Grammar.trimmedLines text).map Grammar.lineOf?).reduceOption := by
    rw [← map_read?_lines, List.reduceOption, List.filterMap_map]
    rfl
  rw [Document.read?, mapM_eq, map_read?_lines, hfound]
  split <;> rfl

/-- All lines of a text of blanks are blank. -/
theorem lineOf?_of_all_blank {text : List Char} (h : ∀ c ∈ text, Text.isBlank c = true) :
    ∀ line ∈ (Grammar.trimmedLines text).map Grammar.lineOf?, line = some .blank := by
  rw [← map_read?_lines]
  intro line hline
  obtain ⟨raw, hraw, rfl⟩ := List.mem_map.mp hline
  have hblank : ∀ c ∈ raw, Text.isBlank c = true :=
    fun c hc => h c (Text.mem_of_mem_pieces hraw hc).1
  rw [Line.read?, Text.trim_of_all_blank hblank]

theorem hasName_eq (part : Section) :
    part.hasName sectionName.toList = Grammar.isOurs (.header part.name) :=
  rfl

theorem ourLines_cons_of_not_ours {line : Line} (h : Grammar.isOurs line = false)
    (found : List Line) : Grammar.ourLines (line :: found) = Grammar.ourLines found := by
  simp [Grammar.ourLines, h]

/-- The first section of ours holds the entries among our lines, the newest first. -/
theorem find?_sections (found : List Line) :
    ((Document.sections found).find? (·.hasName sectionName.toList)).map Section.entries =
      if ∀ line ∈ found, Grammar.isOurs line = false then none
      else some ((Grammar.ourLines found).filterMap Line.entry?).reverse := by
  induction found with
  | nil => rfl
  | cons line rest ih =>
    cases hours : Grammar.isOurs line with
    | false =>
      rw [ourLines_cons_of_not_ours hours]
      simp only [List.forall_mem_cons, hours, true_and]
      rw [← ih]
      cases line with
      | header name =>
        rw [Document.sections_header, List.find?_cons_of_neg (by simp [hasName_eq, hours])]
      | _ => rfl
    | true =>
      cases line with
      | header name =>
        rw [Document.sections_header, List.find?_cons_of_pos (by exact hours)]
        simp [Grammar.ourLines, hours]
      | _ => contradiction

/-- Of the entries for a key, the newest is the last that a line gives. -/
theorem lookup_entries (key : Key) (found : List Line) :
    (found.filterMap Line.entry?).reverse.lookup (Text.lower key.name.toList) =
      Grammar.lastValues found key := by
  induction found using List.reverseRecOn with
  | nil => rfl
  | append_singleton rest line ih =>
    rw [Grammar.lastValues] at ih ⊢
    rw [List.filterMap_append, List.reverse_append, List.filterMap_append]
    cases line with
    | entry name value =>
      by_cases hkey : Text.lower name = Text.lower key.name.toList
      · simp [Line.entry?, Grammar.valueFor?, hkey]
      · have hne : (Text.lower key.name.toList == Text.lower name) = false :=
          beq_false_of_ne (Ne.symm hkey)
        simp [Line.entry?, Grammar.valueFor?, hkey, List.lookup_cons, hne, ih]
    | _ =>
      rw [List.filterMap_cons_none rfl, List.filterMap_cons_none rfl]
      simpa using ih

/-- A color that cannot be read and a missing key are what makes a text stale. -/
theorem isStale_eq (values : Values) :
    (badColor values || missesKey values) = (Grammar.readingOf values).isStale := by
  rw [Bool.eq_iff_iff, Bool.or_comm]
  simp [badColor, missesKey, Grammar.readingOf, Option.any_eq_true]

theorem readGroups_eq (values : Values) :
    readGroups values = Grammar.field (values .groups) (fun text => some (Grammar.names text))
      ({} : Settings).groupNames := by
  unfold readGroups
  cases values .groups with
  | none => rfl
  | some text =>
    change Value.readNames text = Grammar.names text
    rw [Value.readNames, Text.pieces_eq_splitOn, Grammar.names]

theorem readText_eq (value : Option (List Char)) (missing : String) :
    readText value missing =
      Grammar.field value (fun text => some (String.ofList text)) missing := by
  cases value <;> rfl

theorem ofValues_eq (values : Values) : ofValues values = (Grammar.readingOf values).settings := by
  simp only [ofValues, Grammar.readingOf, readGroups_eq, readText_eq]
  rfl

/-- What is read of a section depends on its entries alone. -/
theorem reading_section {part : Section} {found : List Line}
    (h : part.entries = (found.filterMap Line.entry?).reverse) :
    (⟨ofValues part.values, badColor part.values || missesKey part.values⟩ : Reading) =
      Grammar.readingOf (Grammar.lastValues found) := by
  have hvalues : part.values = Grammar.lastValues found := by
    funext key
    rw [Section.values, Section.value?, h, lookup_entries]
  rw [hvalues, ofValues_eq, isStale_eq]

theorem read_of_lines (text : String) (found : List (Option Line))
    (h : found = (Grammar.trimmedLines text.toList).map Grammar.lineOf?) :
    read text =
      if none ∈ found ∨ ∀ line ∈ found.reduceOption, Grammar.isOurs line = false then ⟨{}, true⟩
      else Grammar.readingOf (Grammar.lastValues (Grammar.ourLines found.reduceOption)) := by
  rw [read, Document.read?_eq, ← h]
  by_cases hbad : none ∈ found
  · simp only [hbad, if_true, true_or]
    rfl
  · have hsection := find?_sections found.reduceOption
    simp only [hbad, if_false, false_or]
    split at hsection
    · rename_i hours
      rw [Option.map_eq_none_iff] at hsection
      simp only [hsection, if_pos hours]
      rfl
    · rename_i hours
      obtain ⟨part, hpart, hentries⟩ := Option.map_eq_some_iff.mp hsection
      simp only [hpart, if_neg hours]
      exact reading_section hentries

/-- Settings are read as the grammar gives them. -/
theorem read_eq_grammar (text : String) : read text = Grammar.reading text.toList := by
  rw [read_of_lines text _ rfl, Grammar.reading]
  apply if_congr _ rfl rfl
  simp only [Bool.or_eq_true, List.all_eq_true, List.contains_iff_mem, Bool.not_eq_true',
    List.any_eq_false, Bool.not_eq_true, or_assoc]
  constructor
  · exact Or.inr
  · rintro (hblank | h)
    · right
      intro line hline
      have hfound := lineOf?_of_all_blank hblank _ (List.reduceOption_mem_iff.mp hline)
      rw [Option.some.inj hfound]
      rfl
    · exact h

end CockpitHud.Settings
