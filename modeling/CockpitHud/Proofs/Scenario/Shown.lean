import CockpitHud.Scenario.Run
import Mathlib.Data.List.Chain
import Mathlib.Data.List.Nodup

namespace CockpitHud.Scenario

namespace Shown

variable {shown : Shown} {id other : BlockId}

theorem lookup_filter_ne (h : other ≠ id) (shown : Shown) :
    List.lookup other (shown.filter (·.1 ≠ id)) = shown.lookup other := by
  induction shown with
  | nil => rfl
  | cons first rest ih =>
    obtain ⟨known, text⟩ := first
    by_cases hknown : known = id
    · have hother : (other == known) = false := beq_false_of_ne (hknown ▸ h)
      rw [List.filter_cons_of_neg (by simpa using hknown), ih, List.lookup_cons, hother]
    · rw [List.filter_cons_of_pos (by simpa using hknown), List.lookup_cons, List.lookup_cons, ih]

theorem lookup_remember_self (shown : Shown) (id : BlockId) (text : String) :
    (shown.remember id text).lookup id = some text :=
  List.lookup_cons_self

theorem lookup_remember_other (h : other ≠ id) (shown : Shown) (text : String) :
    (shown.remember id text).lookup other = shown.lookup other := by
  rw [remember, List.lookup_cons, beq_false_of_ne h, lookup_filter_ne h]

end Shown

def Event.ofDisplay (display : Display) : Event :=
  .display display.name display.text

def told (shown : Shown) : List Display → List Display
  | [] => []
  | display :: rest =>
    if shown.lookup display.id = some display.text then told shown rest
    else display :: told (shown.remember display.id display.text) rest

def textsOf (id : BlockId) (log : List Display) : List String :=
  (log.filter (·.id = id)).map (·.text)

/-- What is remembered was told last, and the texts told for an id change each time. -/
structure Logged (shown : Shown) (log : List Display) : Prop where
  last : ∀ id, shown.lookup id = (textsOf id log).getLast?
  changing : ∀ id, (textsOf id log).IsChain (· ≠ ·)

variable {shown : Shown} {log displays : List Display} {display : Display} {id : BlockId}

theorem changes_events (shown : Shown) (displays : List Display) :
    (changes shown displays).1 = (told shown displays).map Event.ofDisplay := by
  induction displays generalizing shown with
  | nil => rfl
  | cons display rest ih =>
    simp only [changes, told]
    split
    · exact ih shown
    · exact congrArg (_ :: ·) (ih _)

theorem told_sublist (shown : Shown) (displays : List Display) :
    (told shown displays).Sublist displays := by
  induction displays generalizing shown with
  | nil => exact .slnil
  | cons display rest ih =>
    simp only [told]
    split
    · exact (ih shown).cons display
    · exact (ih _).cons_cons display

theorem textsOf_concat (id : BlockId) (log : List Display) (display : Display) :
    textsOf id (log ++ [display]) =
      textsOf id log ++ if display.id = id then [display.text] else [] := by
  rw [textsOf, List.filter_append, List.map_append, ← textsOf]
  split <;> simp [*]

theorem Logged.tell (h : Logged shown log)
    (hnew : shown.lookup display.id ≠ some display.text) :
    Logged (shown.remember display.id display.text) (log ++ [display]) where
  last := by
    intro id
    rw [textsOf_concat]
    by_cases hid : display.id = id
    · subst hid
      rw [shown.lookup_remember_self, if_pos rfl, List.getLast?_concat]
    · rw [Shown.lookup_remember_other (Ne.symm hid), if_neg hid, List.append_nil, h.last]
  changing := by
    intro id
    rw [textsOf_concat]
    by_cases hid : display.id = id
    · subst hid
      rw [h.last] at hnew
      rw [if_pos rfl, List.isChain_append]
      refine ⟨h.changing _, List.isChain_singleton _, ?_⟩
      intro before hbefore text htext hsame
      cases htext
      exact hnew (hbefore.trans (congrArg some hsame))
    · rw [if_neg hid, List.append_nil]
      exact h.changing id

/-- Telling the displays that have changed keeps what is remembered true. -/
theorem Logged.changes (h : Logged shown log) (displays : List Display) :
    Logged (changes shown displays).2 (log ++ told shown displays) := by
  induction displays generalizing shown log with
  | nil => simpa [Scenario.changes, told] using h
  | cons display rest ih =>
    simp only [Scenario.changes, told]
    split
    · exact ih h
    · rename_i hnew
      have hrest := ih (h.tell hnew)
      rw [List.append_assoc] at hrest
      exact hrest

/-- Displays of other ids leave what is remembered for an id. -/
theorem lookup_changes_other (h : id ∉ displays.map (·.id)) (shown : Shown) :
    (changes shown displays).2.lookup id = shown.lookup id := by
  induction displays generalizing shown with
  | nil => rfl
  | cons display rest ih =>
    have hne := List.ne_of_not_mem_cons h
    have hrest := List.not_mem_of_not_mem_cons h
    simp only [changes]
    split
    · exact ih hrest shown
    · exact (ih hrest _).trans (Shown.lookup_remember_other hne _ _)

/-- Where no two displays share an id, the text of each is remembered. -/
theorem lookup_changes (hids : (displays.map (·.id)).Nodup) (shown : Shown) :
    ∀ display ∈ displays, (changes shown displays).2.lookup display.id = some display.text := by
  induction displays generalizing shown with
  | nil => simp
  | cons first rest ih =>
    obtain ⟨hfirst, hrest⟩ := List.nodup_cons.mp hids
    intro display hdisplay
    simp only [changes]
    rcases List.mem_cons.mp hdisplay with rfl | hdisplay
    · split
      · rename_i hsame
        rw [lookup_changes_other hfirst, hsame]
      · exact (lookup_changes_other hfirst _).trans (Shown.lookup_remember_self _ _ _)
    · split
      · exact ih hrest shown display hdisplay
      · exact ih hrest _ display hdisplay

/-- Where nothing is remembered for any of them, all displays are told. -/
theorem told_of_unknown (hids : (displays.map (·.id)).Nodup)
    (h : ∀ display ∈ displays, shown.lookup display.id = none) :
    told shown displays = displays := by
  induction displays generalizing shown with
  | nil => rfl
  | cons first rest ih =>
    obtain ⟨hfirst, hrest⟩ := List.nodup_cons.mp hids
    have hnew : shown.lookup first.id ≠ some first.text := by simp [h first List.mem_cons_self]
    rw [told, if_neg hnew, ih hrest]
    intro display hdisplay
    have hne : display.id ≠ first.id := by
      intro hsame
      exact hfirst (List.mem_map.mpr ⟨display, hdisplay, hsame⟩)
    rw [Shown.lookup_remember_other hne]
    exact h display (List.mem_cons_of_mem _ hdisplay)

end CockpitHud.Scenario
