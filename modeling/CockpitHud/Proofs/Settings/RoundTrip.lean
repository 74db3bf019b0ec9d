import CockpitHud.Proofs.Settings.Value
import CockpitHud.Settings.Load

namespace CockpitHud.Settings

theorem key_name_plain (key : Key) : Text.trim key.name.toList = key.name.toList ∧
    key.name.toList ≠ [] ∧ '=' ∉ key.name.toList ∧ '\n' ∉ key.name.toList := by
  cases key <;> decide

theorem Key.mem_all (key : Key) : key ∈ all := by
  cases key <;> decide

/-- The keys stay apart in small letters. -/
theorem lower_name_inj {key other : Key}
    (h : Text.lower key.name.toList = Text.lower other.name.toList) : key = other := by
  have hnodup : (Key.all.map fun key => Text.lower key.name.toList).Nodup := by decide
  exact List.inj_on_of_nodup_map hnodup key.mem_all other.mem_all h

theorem read?_commentLine (key : Key) : Line.read? (commentLine key) = some .comment :=
  Line.read?_semicolon _

/-- Behind a key, a value that fits there is found again. -/
theorem read?_keyLine (key : Key) {value : List Char} (h : IsValue value) :
    Line.read? (key.name.toList ++ '=' :: value) = some (.entry key.name.toList value) := by
  obtain ⟨htrim, hne, hsign, _⟩ := key_name_plain key
  have hline : Text.trim (key.name.toList ++ '=' :: value) = key.name.toList ++ '=' :: value :=
    Text.trim_append_cons ((Text.trim_eq_self_iff _).mp htrim).1 hne (by decide) h.1
  rw [Line.read?_eq_entry_iff]
  refine ⟨key.name.toList, value, hne, hsign, hline, ?_, ?_, htrim.symm, h.1.symm⟩
  · rw [hline]
    cases key <;> rfl
  · rw [hline]
    cases key <;> rfl

def writtenEntries (settings : Settings) : List (List Char × List Char) :=
  Key.all.map fun key => (Text.lower key.name.toList, settings.value key)

def writtenSection (settings : Settings) : Section :=
  ⟨sectionName.toList, settings.writtenEntries.reverse⟩

def readLines (settings : Settings) (keys : List Key) : List Line :=
  keys.flatMap fun key => [.comment, .entry key.name.toList (settings.value key)]

/-- What can be stored is read back from its line. -/
theorem read?_entryLine {settings : Settings} (h : settings.Storable) (key : Key) :
    Line.read? (settings.entryLine key) = some (.entry key.name.toList (settings.value key)) :=
  read?_keyLine key (value_isValue h key)

theorem mapM_keyLines {settings : Settings} (h : settings.Storable) (keys : List Key) :
    (keys.flatMap fun key => [commentLine key, settings.entryLine key]).mapM Line.read? =
      some (settings.readLines keys) := by
  induction keys with
  | nil => rfl
  | cons key rest ih =>
    simp only [List.flatMap_cons]
    apply mapM_append_some _ ih
    simp [read?_commentLine, read?_entryLine h]

theorem filterMap_readLines (settings : Settings) (keys : List Key) :
    (settings.readLines keys).filterMap Line.entry? =
      keys.map fun key => (Text.lower key.name.toList, settings.value key) := by
  induction keys with
  | nil => rfl
  | cons key rest ih =>
    rw [List.map_cons, ← ih]
    rfl

theorem readLines_isHeader (settings : Settings) (keys : List Key) :
    ∀ line ∈ settings.readLines keys, line.isHeader = false := by
  intro line hline
  obtain ⟨key, _, hline⟩ := List.mem_flatMap.mp hline
  rcases List.mem_cons.mp hline with rfl | hline
  · rfl
  · rw [List.mem_singleton.mp hline]
    rfl

theorem read?_headerLine : Line.read? headerLine = some (.header sectionName.toList) := by decide

theorem headerLine_no_feed : '\n' ∉ headerLine := by decide

theorem entryLine_no_feed {settings : Settings} (h : settings.Storable) (key : Key) :
    '\n' ∉ settings.entryLine key := by
  intro hmem
  rcases List.mem_append.mp hmem with hmem | hmem
  · exact (key_name_plain key).2.2.2 hmem
  · exact (value_isValue h key).2 ((List.mem_cons.mp hmem).resolve_left (by decide))

theorem writtenLines_no_feed {settings : Settings} (h : settings.Storable) :
    ∀ line ∈ settings.writtenLines, '\n' ∉ line := by
  intro line hline
  rcases List.mem_cons.mp hline with rfl | hline
  · exact headerLine_no_feed
  · obtain ⟨key, _, hline⟩ := List.mem_flatMap.mp hline
    rcases List.mem_cons.mp hline with rfl | hline
    · cases key <;> decide
    · rw [List.mem_singleton.mp hline]
      exact entryLine_no_feed h key

theorem lines_write {settings : Settings} (h : settings.Storable) :
    Text.lines settings.write.toList = settings.writtenLines ++ [[]] := by
  have hlines := Text.lines_append settings.writtenLines (writtenLines_no_feed h) []
  rw [List.append_nil] at hlines
  rw [write, String.toList_ofList, hlines]
  rfl

/-- Written settings are read as one section, every key in it once. -/
theorem read?_write {settings : Settings} (h : settings.Storable) :
    Document.read? settings.write.toList = some [settings.writtenSection] := by
  have hblank : [[]].mapM Line.read? = some [Line.blank] := rfl
  have hnone : ∀ line ∈ settings.readLines Key.all ++ [Line.blank], line.isHeader = false := by
    intro line hline
    rcases List.mem_append.mp hline with hline | hline
    · exact settings.readLines_isHeader Key.all line hline
    · rw [List.mem_singleton.mp hline]
      rfl
  have hentries : (settings.readLines Key.all ++ [Line.blank]).filterMap Line.entry? =
      settings.writtenEntries := by
    rw [List.filterMap_append, filterMap_readLines]
    exact List.append_nil _
  rw [Document.read?_of_lines (lines_write h) read?_headerLine
    (mapM_append_some (mapM_keyLines h Key.all) hblank) hnone, hentries]
  rfl

/-- A text of one section, and that one of ours, gives what this section says. -/
theorem read_of_section {text : String} {part : Section}
    (h : Document.read? text.toList = some [part])
    (hname : part.hasName sectionName.toList = true) :
    read text = ⟨ofValues part.values, badColor part.values || missesKey part.values⟩ := by
  simp only [read, h, List.find?_cons, hname]

theorem values_writtenSection (settings : Settings) (key : Key) :
    settings.writtenSection.values key = some (settings.value key) := by
  apply lookup_of_agree
  · rw [writtenSection, writtenEntries, List.map_reverse, List.mem_reverse, List.map_map]
    exact List.mem_map.mpr ⟨key, by cases key <;> decide, rfl⟩
  · intro entry hentry hkey
    obtain ⟨other, _, rfl⟩ := List.mem_map.mp (List.mem_reverse.mp hentry)
    rw [lower_name_inj hkey]

theorem ofValues_written {settings : Settings} (h : settings.Storable) :
    ofValues (fun key => some (settings.value key)) = settings := by
  have hgroups := Value.readNames_writeNames h.names
  simp [ofValues, readGroups, readNumber, readFlag, readText, value, hgroups, Decimal.read_plain,
    Value.readBool?_writeBool, Value.readColor?_text]

theorem not_stale_written (settings : Settings) :
    (badColor (fun key => some (settings.value key)) ||
      missesKey fun key => some (settings.value key)) = false := by
  simp [badColor, missesKey, value, Value.readColor?_text]

/-- Settings that can be stored are read as they were written. -/
theorem read_write {settings : Settings} (h : settings.Storable) :
    read settings.write = ⟨settings, false⟩ := by
  have hvalues : settings.writtenSection.values = fun key => some (settings.value key) :=
    funext (values_writtenSection settings)
  rw [read_of_section (read?_write h) (beq_self_eq_true _), hvalues, ofValues_written h,
    not_stale_written]

/-- Reading gives back what was written for exactly the settings that can be stored, whatever the
anchors are. Empty lists and texts can be, and so can names that hold an equals sign, a bracket, a
semicolon or an inner carriage return. -/
theorem read_write_eq_iff (settings : Settings) :
    ((read settings.write).settings = settings ↔ settings.Storable) ∧
      (read settings.write = ⟨settings, false⟩ ↔ settings.Storable) ∧
      (∀ x y, { settings with anchorX := x, anchorY := y : Settings }.Storable ↔
        settings.Storable) ∧
      { settings with groupNames := [], font := "", scale := "" : Settings }.Storable ∧
      ({ settings with groupNames := ["=a", "[b]", ";c", "d\re"] : Settings }.Storable ↔
        { settings with groupNames := [] : Settings }.Storable) := by
  have hread : (read settings.write).settings = settings → settings.Storable := by
    intro h
    rw [← h]
    exact read_storable settings.write
  have hempty : IsValue "".toList := by decide
  have hnames : ∀ name ∈ ["=a", "[b]", ";c", "d\re"], IsName name.toList := by decide
  refine ⟨⟨hread, fun h => by rw [read_write h]⟩, ⟨fun h => hread (by rw [h]), read_write⟩, ?_,
    ⟨by simp, hempty, hempty⟩, ?_⟩
  · intro x y
    exact (storable_iff _).trans (storable_iff settings).symm
  · exact ⟨fun h => ⟨by simp, h.font, h.scale⟩, fun h => ⟨hnames, h.font, h.scale⟩⟩

end CockpitHud.Settings

namespace CockpitHud.Ship

/-- What is loaded can be read off the text that the loading leaves. -/
theorem read_loadSettings (ship : Ship) :
    Settings.read ship.loadSettings.2.settingsText = ⟨ship.loadSettings.1, false⟩ := by
  have hwritten := Settings.read_write (Settings.read_storable ship.settingsText)
  cases hreading : Settings.read ship.settingsText with
  | mk settings isStale =>
    rw [hreading] at hwritten
    cases isStale with
    | false => simp [loadSettings, hreading]
    | true => simpa [loadSettings, hreading] using hwritten

/-- One loading heals the settings text: a text that was right stays as it is, any other gives way
to what was read from it, and from then on loading changes nothing. Nothing else on the ship is
touched. -/
theorem loadSettings_heals (ship : Ship) :
    let reading := Settings.read ship.settingsText
    let loaded := ship.loadSettings
    loaded.2.loadSettings = loaded ∧ loaded.1 = reading.settings ∧
      Settings.read loaded.2.settingsText = ⟨loaded.1, false⟩ ∧
      loaded.2 = { ship with
        settingsText := if reading.isStale then loaded.1.write else ship.settingsText } := by
  have hwritten := Settings.read_write (Settings.read_storable ship.settingsText)
  cases hreading : Settings.read ship.settingsText with
  | mk settings isStale =>
    rw [hreading] at hwritten
    cases isStale <;> simp_all [loadSettings]

end CockpitHud.Ship
