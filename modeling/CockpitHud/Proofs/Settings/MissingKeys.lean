import CockpitHud.Proofs.Settings.RoundTrip

namespace CockpitHud.Settings

variable {settings : Settings} {kept : List Key} {below : List (List Char)}

/-- The settings with the fields of the keys that are kept, and the default for all others. -/
def keeping (settings : Settings) (kept : List Key) : Settings :=
  let missing : Settings := {}
  { groupNames := if .groups ∈ kept then settings.groupNames else missing.groupNames
    anchorX := if .positionX ∈ kept then settings.anchorX else missing.anchorX
    anchorY := if .positionY ∈ kept then settings.anchorY else missing.anchorY
    showHeader := if .header ∈ kept then settings.showHeader else missing.showHeader
    showBorders := if .borders ∈ kept then settings.showBorders else missing.showBorders
    color := if .color ∈ kept then settings.color else missing.color
    font := if .font ∈ kept then settings.font else missing.font
    scale := if .size ∈ kept then settings.scale else missing.scale }

/-- A line that says nothing: it is blank, or the first character in it that is no blank starts a
comment. -/
def IsFiller (line : List Char) : Prop :=
  '\n' ∉ line ∧ (Text.trim line).head?.all (· ∈ [';', '#']) = true

instance (line : List Char) : Decidable (IsFiller line) :=
  inferInstanceAs (Decidable (_ ∧ _))

/-- The lines are the entries of the keys that are kept, each at least once, and fillers. -/
structure HoldsKept (settings : Settings) (kept : List Key) (below : List (List Char)) : Prop where
  lines : ∀ line ∈ below, IsFiller line ∨ ∃ key ∈ kept, line = settings.entryLine key
  entries : ∀ key ∈ kept, settings.entryLine key ∈ below

def headed (below : List (List Char)) : String :=
  String.ofList (Text.join '\n' (headerLine :: below))

def keptValues (settings : Settings) (kept : List Key) : Values :=
  fun key => if key ∈ kept then some (settings.value key) else none

theorem IsFiller.read? {line : List Char} (h : IsFiller line) :
    Line.read? line = some .blank ∨ Line.read? line = some .comment := by
  cases htext : Text.trim line with
  | nil => exact .inl (by rw [Line.read?, htext])
  | cons c rest =>
    have hc : c = ';' ∨ c = '#' := by simpa [htext] using h.2
    exact .inr (Line.read?_of_head? hc (by rw [htext, List.head?_cons]))

namespace HoldsKept

variable (hstorable : settings.Storable) (h : HoldsKept settings kept below)

include hstorable h

theorem lines_headed : Text.lines (headed below).toList = headerLine :: below := by
  rw [headed, String.toList_ofList]
  apply Text.pieces_join (List.cons_ne_nil _ _)
  intro line hline
  rcases List.mem_cons.mp hline with rfl | hline
  · exact headerLine_no_feed
  · rcases h.lines line hline with hfiller | ⟨key, _, rfl⟩
    · exact hfiller.1
    · exact entryLine_no_feed hstorable key

/-- Each line is read, as a filler or as the entry of a key that is kept. -/
theorem read?_line {line : List Char} (hline : line ∈ below) :
    Line.read? line = some .blank ∨ Line.read? line = some .comment ∨
      ∃ key ∈ kept, Line.read? line = some (.entry key.name.toList (settings.value key)) := by
  rcases h.lines line hline with hfiller | ⟨key, hkey, rfl⟩
  · exact hfiller.read?.imp_right .inl
  · exact .inr (.inr ⟨key, hkey, read?_entryLine hstorable key⟩)

theorem mapM_read? : below.mapM Line.read? = some (below.filterMap Line.read?) := by
  rw [mapM_eq, if_neg]
  rw [List.mem_map]
  rintro ⟨line, hline, hnone⟩
  rcases read?_line hstorable h hline with hread | hread | ⟨key, _, hread⟩ <;>
    · rw [hread] at hnone
      contradiction

theorem isHeader_eq_false : ∀ line ∈ below.filterMap Line.read?, line.isHeader = false := by
  intro line hline
  obtain ⟨raw, hraw, hline⟩ := List.mem_filterMap.mp hline
  rcases read?_line hstorable h hraw with hread | hread | ⟨key, _, hread⟩ <;>
    · rw [hread] at hline
      cases hline
      rfl

/-- The entries found are those of the keys that are kept. -/
theorem mem_entries_iff {entry : List Char × List Char} :
    entry ∈ (below.filterMap Line.read?).filterMap Line.entry? ↔
      ∃ key ∈ kept, entry = (Text.lower key.name.toList, settings.value key) := by
  simp only [List.mem_filterMap]
  constructor
  · rintro ⟨line, ⟨raw, hraw, hline⟩, hentry⟩
    rcases read?_line hstorable h hraw with hread | hread | ⟨key, hkey, hread⟩ <;>
      rw [hread] at hline <;> cases hline
    · contradiction
    · contradiction
    · exact ⟨key, hkey, (Option.some.inj hentry).symm⟩
  · rintro ⟨key, hkey, rfl⟩
    exact ⟨_, ⟨_, h.entries key hkey, read?_entryLine hstorable key⟩, rfl⟩

/-- The section that the lines make up gives each key that is kept the value written for it, and
none to the others. -/
theorem values_section (name : List Char) :
    Section.values ⟨name, ((below.filterMap Line.read?).filterMap Line.entry?).reverse⟩ =
      settings.keptValues kept := by
  have hentries : ∀ entry,
      entry ∈ ((below.filterMap Line.read?).filterMap Line.entry?).reverse ↔
        ∃ key ∈ kept, entry = (Text.lower key.name.toList, settings.value key) :=
    fun entry => List.mem_reverse.trans (mem_entries_iff hstorable h)
  funext key
  rw [keptValues]
  split
  · rename_i hkey
    apply lookup_of_agree
    · exact List.mem_map.mpr ⟨_, (hentries _).mpr ⟨key, hkey, rfl⟩, rfl⟩
    · intro entry hentry hname
      obtain ⟨other, _, rfl⟩ := (hentries entry).mp hentry
      rw [lower_name_inj hname]
  · rename_i hkey
    apply List.lookup_eq_none_iff.mpr
    intro entry hentry
    obtain ⟨other, hother, rfl⟩ := (hentries entry).mp hentry
    rw [bne_iff_ne]
    intro hname
    exact hkey (lower_name_inj hname ▸ hother)

theorem read_headed : read (headed below) = ⟨ofValues (settings.keptValues kept),
    badColor (settings.keptValues kept) || missesKey (settings.keptValues kept)⟩ := by
  have hsection := Document.read?_of_lines (lines_headed hstorable h) read?_headerLine
    (mapM_read? hstorable h) (isHeader_eq_false hstorable h)
  rw [read_of_section hsection (beq_self_eq_true _), values_section hstorable h]

end HoldsKept

/-- Fields of missing keys have their defaults, and the others what was written. -/
theorem ofValues_keptValues (hstorable : settings.Storable) (kept : List Key) :
    ofValues (settings.keptValues kept) = settings.keeping kept := by
  have hnames := Value.readNames_writeNames hstorable.names
  simp only [ofValues, keeping, readGroups, readNumber, readFlag, readText, keptValues, value,
    Settings.mk.injEq]
  refine ⟨?_, ?_, ?_, ?_, ?_, ?_, ?_, ?_⟩ <;> split <;>
    simp_all [Decimal.read_plain, Value.readBool?_writeBool, Value.readColor?_text]

/-- The text is stale if and only if a key is missing. -/
theorem isStale_keptValues (settings : Settings) (kept : List Key) :
    (badColor (settings.keptValues kept) || missesKey (settings.keptValues kept)) = true ↔
      ∃ key, key ∉ kept := by
  have hcolor : badColor (settings.keptValues kept) = false := by
    rw [badColor, keptValues]
    split
    · simp [value, Value.readColor?_text]
    · rfl
  rw [hcolor, Bool.false_or, missesKey, List.any_eq_true]
  constructor
  · rintro ⟨key, _, hnone⟩
    refine ⟨key, fun hkey => ?_⟩
    simp [keptValues, hkey] at hnone
  · rintro ⟨key, hkey⟩
    exact ⟨key, key.mem_all, by simp [keptValues, hkey]⟩

/-- A text of ours in which keys are missing is read as the settings that were written, with the
default in the fields of the missing keys and in no other. It is to be written anew if a key is
missing and only then, and a ship that loads it is left with just these settings written. -/
theorem missing_keys_cost_no_other (hstorable : settings.Storable)
    (h : HoldsKept settings kept below) :
    let reading := read (headed below)
    reading.settings = settings.keeping kept ∧ (reading.isStale = true ↔ ∃ key, key ∉ kept) ∧
      ∀ ship : Ship, ship.settingsText = headed below →
        ship.loadSettings.1 = settings.keeping kept ∧
        ship.loadSettings.2.settingsText =
          if reading.isStale then (settings.keeping kept).write else headed below := by
  intro reading
  have hreading : reading = ⟨settings.keeping kept,
      badColor (settings.keptValues kept) || missesKey (settings.keptValues kept)⟩ := by
    rw [← ofValues_keptValues hstorable kept]
    exact h.read_headed hstorable
  refine ⟨by rw [hreading], by rw [hreading]; exact isStale_keptValues settings kept, ?_⟩
  intro ship htext
  have hread : read ship.settingsText = reading := by rw [htext]
  rw [Ship.loadSettings, hread, hreading]
  split
  · simp
  · simp [htext]

/-- Of three settings of the player's own the two that the text names are kept. -/
theorem missing_keys_cost_no_other_two :
    let kept : Settings := { groupNames := ["Main", "Retro Burn"], font := "Debug" }
    let settings := { kept with scale := "2" }
    let below := ["# mine", "LcdFont=Debug", " \t", "Groups=Main,Retro Burn", "  ; old",
      "LcdFont=Debug"].map String.toList
    settings.Storable ∧ HoldsKept settings [.font, .groups] below ∧
      (read (headed below)).settings = kept ∧ (read (headed below)).isStale = true ∧
      ∀ ship : Ship, ship.settingsText = headed below →
        ship.loadSettings.2.settingsText = kept.write := by
  intro kept settings below
  have hstorable : settings.Storable := by decide
  have hholds : HoldsKept settings [.font, .groups] below := ⟨by decide, by decide⟩
  obtain ⟨hsettings, hstale, hload⟩ := missing_keys_cost_no_other hstorable hholds
  have hkept : settings.keeping [.font, .groups] = kept := rfl
  rw [hkept] at hsettings hload
  have hanew := hstale.mpr ⟨.size, by decide⟩
  exact ⟨hstorable, hholds, hsettings, hanew, fun ship htext => by
    rw [(hload ship htext).2, if_pos hanew]⟩

end CockpitHud.Settings
