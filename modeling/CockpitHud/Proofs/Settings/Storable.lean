import CockpitHud.Proofs.Settings.Document
import CockpitHud.Proofs.Settings.Line
import CockpitHud.Proofs.Text.Pieces
import CockpitHud.Proofs.Text.Trim
import CockpitHud.Settings.Reader

namespace CockpitHud.Settings

/-- A text that can stand behind a key. -/
def IsValue (text : List Char) : Prop :=
  Text.trim text = text ∧ '\n' ∉ text

/-- A text that can stand in the list of names. -/
def IsName (name : List Char) : Prop :=
  IsValue name ∧ name ≠ [] ∧ ',' ∉ name

structure Storable (settings : Settings) : Prop where
  names : ∀ name ∈ settings.groupNames, IsName name.toList
  font : IsValue settings.font.toList
  scale : IsValue settings.scale.toList

instance (text : List Char) : Decidable (IsValue text) :=
  inferInstanceAs (Decidable (_ ∧ _))

instance (name : List Char) : Decidable (IsName name) :=
  inferInstanceAs (Decidable (_ ∧ _))

theorem storable_iff (settings : Settings) :
    settings.Storable ↔ (∀ name ∈ settings.groupNames, IsName name.toList) ∧
      IsValue settings.font.toList ∧ IsValue settings.scale.toList :=
  ⟨fun h => ⟨h.names, h.font, h.scale⟩, fun h => ⟨h.1, h.2.1, h.2.2⟩⟩

instance (settings : Settings) : Decidable settings.Storable :=
  decidable_of_iff' _ (storable_iff settings)

theorem default_storable : ({} : Settings).Storable := by decide

theorem isValue_trim {text : List Char} (h : '\n' ∉ text) : IsValue (Text.trim text) :=
  ⟨Text.trim_trim text, fun hc => h (Text.trim_subset hc)⟩

/-- The values that lines give are trimmed and without line feeds. -/
theorem Line.isValue_of_read {raw key value : List Char} (hraw : '\n' ∉ raw)
    (h : Line.read? raw = some (.entry key value)) : IsValue value := by
  obtain ⟨front, back, _, _, htext, _, _, _, rfl⟩ := Line.read?_eq_entry_iff.mp h
  apply isValue_trim
  intro hc
  apply hraw
  apply Text.trim_subset
  rw [htext]
  exact List.mem_append_right _ (List.mem_cons_of_mem _ hc)

def ValuesStand (sections : List Section) : Prop :=
  ∀ part ∈ sections, ∀ entry ∈ part.entries, IsValue entry.2

theorem addLine_valuesStand {sections : List Section} {line : Line} (h : ValuesStand sections)
    (hline : ∀ key value, line = .entry key value → IsValue value) :
    ValuesStand (Document.addLine sections line) := by
  cases line with
  | blank => exact h
  | comment => exact h
  | header name =>
    intro part hpart entry hentry
    rcases List.mem_cons.mp hpart with rfl | hpart
    · contradiction
    · exact h part hpart entry hentry
  | entry key value =>
    cases sections with
    | nil => exact h
    | cons current others =>
      intro part hpart entry hentry
      rcases List.mem_cons.mp hpart with rfl | hpart
      · rcases List.mem_cons.mp hentry with rfl | hentry
        · exact hline key value rfl
        · exact h current List.mem_cons_self entry hentry
      · exact h part (List.mem_cons_of_mem _ hpart) entry hentry

theorem foldl_valuesStand (found : List Line) (sections : List Section)
    (h : ValuesStand sections)
    (hfound : ∀ key value, .entry key value ∈ found → IsValue value) :
    ValuesStand (found.foldl Document.addLine sections) := by
  induction found generalizing sections with
  | nil => exact h
  | cons line rest ih =>
    apply ih
    · apply addLine_valuesStand h
      rintro key value rfl
      exact hfound key value List.mem_cons_self
    · intro key value hmem
      exact hfound key value (List.mem_cons_of_mem _ hmem)

/-- Whatever text is read, its values are trimmed and on one line each. -/
theorem read?_valuesStand {text : List Char} {sections : List Section}
    (h : Document.read? text = some sections) : ValuesStand sections := by
  obtain ⟨found, hfound, rfl⟩ := Option.map_eq_some_iff.mp h
  have hfold : ValuesStand (found.foldl Document.addLine []) := by
    apply foldl_valuesStand
    · intro part hpart
      contradiction
    · intro key value hmem
      obtain ⟨raw, hraw, hread⟩ := mem_of_mapM hfound hmem
      exact Line.isValue_of_read (Text.not_mem_of_mem_pieces hraw) hread
  intro part hpart
  exact hfold part (List.mem_reverse.mp hpart)

theorem value?_isValue {sections : List Section} (h : ValuesStand sections) {part : Section}
    (hpart : part ∈ sections) {key value : List Char} (hvalue : part.value? key = some value) :
    IsValue value := by
  obtain ⟨_, _, hentries, _⟩ := List.lookup_eq_some_iff.mp hvalue
  exact h part hpart (Text.lower key, value) (hentries ▸ by simp)

theorem readNames_isName {text : List Char} (h : IsValue text) :
    ∀ name ∈ Value.readNames text, IsName name.toList := by
  intro name hname
  obtain ⟨trimmed, htrimmed, rfl⟩ := List.mem_map.mp hname
  obtain ⟨hmem, hne⟩ := List.mem_filter.mp htrimmed
  obtain ⟨piece, hpiece, rfl⟩ := List.mem_map.mp hmem
  rw [String.toList_ofList]
  have hchars := fun c (hc : c ∈ Text.trim piece) =>
    Text.mem_of_mem_pieces hpiece (Text.trim_subset hc)
  refine ⟨isValue_trim ?_, by simpa using hne, fun hc => (hchars _ hc).2 rfl⟩
  exact fun hc => h.2 (Text.mem_of_mem_pieces hpiece hc).1

/-- No settings are read that could not be written. -/
theorem ofValues_storable {values : Values}
    (h : ∀ key value, values key = some value → IsValue value) : (ofValues values).Storable := by
  have htext : ∀ (key : Key) (missing : String), IsValue missing.toList →
      IsValue (readText (values key) missing).toList := by
    intro key missing hmissing
    cases hvalue : values key with
    | none => simpa [readText] using hmissing
    | some value => simpa [readText] using h key value hvalue
  refine ⟨?_, htext .font _ default_storable.font, htext .size _ default_storable.scale⟩
  show ∀ name ∈ readGroups values, IsName name.toList
  unfold readGroups
  split
  · rename_i text htext
    exact readNames_isName (h .groups text htext)
  · exact default_storable.names

/-- Whatever is read, the settings can be stored. -/
theorem read_storable (text : String) : (read text).settings.Storable := by
  unfold read
  split
  · exact default_storable
  · rename_i sections hsections
    split
    · exact default_storable
    · rename_i part hpart
      apply ofValues_storable
      intro key value hvalue
      exact value?_isValue (read?_valuesStand hsections) (List.mem_of_find?_eq_some hpart) hvalue

end CockpitHud.Settings
