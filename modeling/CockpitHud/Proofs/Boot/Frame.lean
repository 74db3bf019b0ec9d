import CockpitHud.Boot.Animation
import CockpitHud.Proofs.Layout.Box
import CockpitHud.Proofs.Layout.Wrap
import CockpitHud.Proofs.Report.Status

namespace CockpitHud.Boot

open Text (visible isBlank)

variable {message text line : List Char} {shown texts : List (List Char)} {frame steps : Nat}

/-- A line with nothing on it but a text and spaces around it. -/
def Shows (line text : List Char) : Prop :=
  ∃ before behind, line = Layout.fill before ' ' ++ text ++ Layout.fill behind ' '

theorem shows_centered (h : text.length ≤ 32) : Shows (centered text) text := by
  have hcenter : ∃ before behind, centered text =
      Layout.fill before ' ' ++ text ++ Layout.fill behind ' ' :=
    Layout.center_of_fits h
  exact hcenter

theorem length_centered (text : List Char) : (centered text).length = 33 := by
  rw [centered, Layout.length_center]
  rfl

theorem centered_ne_nil (text : List Char) : centered text ≠ [] :=
  List.ne_nil_of_length_eq_add_one (length_centered text)

theorem no_feed_of_centered (h : '\n' ∉ text) : '\n' ∉ centered text := by
  intro hmem
  rcases Layout.mem_center hmem with hmem | hmem | hmem
  · exact h hmem
  · contradiction
  · contradiction

theorem Shows.visible_eq (h : Shows line text) : visible line = visible text := by
  obtain ⟨before, behind, rfl⟩ := h
  have hblank : ∀ n, ∀ c ∈ Layout.fill n ' ', isBlank c = true :=
    fun _ _ hc => Layout.mem_fill hc ▸ by decide
  rw [Text.visible_append, Text.visible_append, Text.visible_of_all_blank (hblank before),
    Text.visible_of_all_blank (hblank behind), List.nil_append, List.append_nil]

theorem visible_flatten_of_shows (h : List.Forall₂ Shows shown texts) :
    visible shown.flatten = visible texts.flatten := by
  induction h with
  | nil => rfl
  | cons hline _ ih =>
    rw [List.flatten_cons, List.flatten_cons, Text.visible_append, Text.visible_append,
      hline.visible_eq, ih]

theorem filled_eq (frame steps : Nat) :
    filled frame steps = min 24 (24 * frame / max steps 1) := by
  rw [filled, barLength, Nat.min_comm, Nat.mul_comm]

theorem filled_le (frame steps : Nat) : filled frame steps ≤ barLength :=
  Nat.min_le_right _ _

/-- The bar never shrinks. -/
theorem filled_mono {later : Nat} (h : frame ≤ later) (steps : Nat) :
    filled frame steps ≤ filled later steps :=
  min_le_min_right barLength (Nat.div_le_div_right (Nat.mul_le_mul_right barLength h))

theorem length_bar (frame steps : Nat) : (bar frame steps).length = 26 := by
  have hle := filled_le frame steps
  simp only [bar, List.cons_append, List.length_cons, List.length_append, Layout.length_fill,
    List.length_nil]
  unfold barLength at *
  omega

theorem no_feed_bar (frame steps : Nat) : '\n' ∉ bar frame steps := by
  intro h
  simp only [bar, List.cons_append, List.mem_cons, List.mem_append, List.not_mem_nil,
    or_false] at h
  rcases h with h | (h | h) | h
  · contradiction
  · exact absurd (Layout.mem_fill h) (by decide)
  · exact absurd (Layout.mem_fill h) (by decide)
  · contradiction

def messageTexts (message : List Char) : List (List Char) :=
  Layout.wrap 32 (by decide) message

theorem wraps_messageTexts (message : List Char) :
    Layout.Wraps 32 message (messageTexts message) :=
  Layout.wraps_wrap (by decide) message

theorem frameLines_eq (message : List Char) (frame steps : Nat) :
    frameLines message frame steps = [[], centered Report.title.toList, [],
      centered [spinner frame]] ++ (messageTexts message).map centered ++
        [[], centered (bar frame steps), []] := rfl

/-- Each part of the message stands on a line of its own. -/
theorem shows_message (message : List Char) :
    List.Forall₂ Shows ((messageTexts message).map centered) (messageTexts message) := by
  rw [List.forall₂_map_left_iff]
  exact List.forall₂_same.mpr fun text htext =>
    shows_centered ((wraps_messageTexts message).fits text htext)

theorem spinner_mem (frame : Nat) : spinner frame ∈ ['|', '/', '-', '\\'] := by
  unfold spinner
  split <;> decide

/-- Each line of a frame is empty or one text set in the middle. -/
theorem mem_frameLines (h : '\n' ∉ message) (hline : line ∈ frameLines message frame steps) :
    line = [] ∨ ∃ text, '\n' ∉ text ∧ line = centered text := by
  have hspinner : '\n' ∉ [spinner frame] := by
    intro hmem
    have hspinner := spinner_mem frame
    rw [← List.mem_singleton.mp hmem] at hspinner
    contradiction
  rw [frameLines_eq] at hline
  simp only [List.mem_append, List.mem_cons, List.not_mem_nil, or_false] at hline
  rcases hline with (hline | hline) | hline
  · rcases hline with rfl | rfl | rfl | rfl
    · exact .inl rfl
    · exact .inr ⟨_, by decide, rfl⟩
    · exact .inl rfl
    · exact .inr ⟨_, hspinner, rfl⟩
  · obtain ⟨text, htext, rfl⟩ := List.mem_map.mp hline
    have hsubset := (wraps_messageTexts message).subset text htext
    exact .inr ⟨text, fun hmem => h (hsubset hmem), rfl⟩
  · rcases hline with rfl | rfl | rfl
    · exact .inl rfl
    · exact .inr ⟨_, no_feed_bar frame steps, rfl⟩
    · exact .inl rfl

/-- A frame read line by line. -/
theorem lines_frameText (frame steps : Nat) (h : '\n' ∉ message) :
    Text.lines (frameText message frame steps).toList =
      frameLines message frame steps ++ [[]] := by
  have hfeed : ∀ line ∈ frameLines message frame steps, '\n' ∉ line := by
    intro line hline
    rcases mem_frameLines h hline with rfl | ⟨text, htext, rfl⟩
    · exact List.not_mem_nil
    · exact no_feed_of_centered htext
  have hlines := Report.lines_written hfeed []
  rw [List.append_nil] at hlines
  rw [frameText, String.toList_ofList, hlines]
  rfl

/-- Without borders a line has no right side, so each is one short of the box, or empty. -/
theorem width_of_mem_lines (h : '\n' ∉ message)
    (hline : line ∈ Text.lines (frameText message frame steps).toList) :
    line = [] ∨ line.length = 33 := by
  rw [lines_frameText frame steps h] at hline
  rcases List.mem_append.mp hline with hline | hline
  · rcases mem_frameLines h hline with rfl | ⟨text, _, rfl⟩
    · exact .inl rfl
    · exact .inr (length_centered text)
  · exact .inl (List.mem_singleton.mp hline)

/-- What is read off a frame, whatever its number and however many steps there are. Each line is
empty or as wide as any other. From top to bottom stand the title, the spinner, the whole message
as it was wrapped, and the bar, which is never too long and never gets shorter. -/
theorem frame_keeps_message (frame steps : Nat) (h : '\n' ∉ message) :
    let found := Text.lines (frameText message frame steps).toList
    let full := min 24 (24 * frame / max steps 1)
    let drawn := '[' :: List.replicate full '#' ++ List.replicate (24 - full) '-' ++ [']']
    (∀ line ∈ found, line = [] ∨ line.length = 33) ∧
      (∃ top spin shown below, found = [[], top, [], spin] ++ shown ++ [[], below, [], []] ∧
        Shows top Report.title.toList ∧ Shows spin [spinner frame] ∧
        List.Forall₂ Shows shown (Layout.wrap 32 (by decide) message) ∧ [] ∉ shown ∧
        visible shown.flatten = visible message ∧ Shows below drawn) ∧
      drawn.length = 26 ∧
      ∀ later, frame ≤ later → full ≤ min 24 (24 * later / max steps 1) := by
  intro found full drawn
  have hdrawn : drawn = bar frame steps := by
    rw [bar, filled_eq]
    rfl
  have hlength : drawn.length = 26 := hdrawn ▸ length_bar frame steps
  refine ⟨fun _ => width_of_mem_lines h, ⟨centered Report.title.toList, centered [spinner frame],
    (messageTexts message).map centered, centered drawn, ?_, ?_, ?_, shows_message message, ?_, ?_,
    ?_⟩, hlength, ?_⟩
  · have hfound : found = frameLines message frame steps ++ [[]] := lines_frameText frame steps h
    rw [hfound, frameLines_eq, hdrawn, List.append_assoc]
    rfl
  · exact shows_centered (by decide)
  · exact shows_centered (Nat.le_add_left 1 31)
  · intro hmem
    obtain ⟨text, _, hnil⟩ := List.mem_map.mp hmem
    exact centered_ne_nil text hnil
  · rw [visible_flatten_of_shows (shows_message message),
      (wraps_messageTexts message).visible_flatten]
  · exact shows_centered (by omega)
  · intro later hlater
    have hmono := filled_mono hlater steps
    rwa [filled_eq, filled_eq] at hmono

/-- Past the last step, with no steps to go by: the bar is full, and a message of two lines with a
blank at its end is shown whole. -/
theorem frame_keeps_message_past_end :
    let message := "Checking for valid EnCorp software license ".toList
    let texts := ["Checking for valid EnCorp".toList, "software license ".toList]
    let found := Text.lines (frameText message 40 0).toList
    '\n' ∉ message ∧ (∀ line ∈ found, line = [] ∨ line.length = 33) ∧
      ∃ top spin shown below, found = [[], top, [], spin] ++ shown ++ [[], below, [], []] ∧
        List.Forall₂ Shows shown texts ∧ visible shown.flatten = visible message ∧
        Shows below "[########################]".toList := by
  intro message texts found
  have hfeed : '\n' ∉ message := by decide
  have htexts : Layout.wrap 32 (by decide) message = texts := by decide +kernel
  obtain ⟨hwidth, ⟨top, spin, shown, below, hlines, _, _, hshown, _, hvisible, hbelow⟩, _, _⟩ :=
    frame_keeps_message 40 0 hfeed
  rw [htexts] at hshown
  exact ⟨hfeed, hwidth, top, spin, shown, below, hlines, hshown, hvisible, hbelow⟩

end CockpitHud.Boot
