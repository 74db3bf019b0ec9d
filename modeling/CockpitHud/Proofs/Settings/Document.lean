import CockpitHud.Settings.Document
import Mathlib.Data.List.TakeWhile

namespace CockpitHud.Settings

theorem mem_of_mapM {α β : Type} {f : α → Option β} {xs : List α} {ys : List β} {y : β}
    (h : xs.mapM f = some ys) (hy : y ∈ ys) : ∃ x ∈ xs, f x = some y := by
  induction xs generalizing ys with
  | nil =>
    simp only [List.mapM_nil, Option.pure_def, Option.some.injEq] at h
    subst h
    contradiction
  | cons x rest ih =>
    simp only [List.mapM_cons, Option.pure_def, Option.bind_eq_bind,
      Option.bind_eq_some_iff, Option.some.injEq] at h
    obtain ⟨first, hfirst, others, hothers, rfl⟩ := h
    rcases List.mem_cons.mp hy with rfl | hy
    · exact ⟨x, List.mem_cons_self, hfirst⟩
    · obtain ⟨z, hz, hread⟩ := ih hothers hy
      exact ⟨z, List.mem_cons_of_mem _ hz, hread⟩

theorem mapM_append_some {α β : Type} {f : α → Option β} {xs zs : List α} {ys ws : List β}
    (hx : xs.mapM f = some ys) (hz : zs.mapM f = some ws) :
    (xs ++ zs).mapM f = some (ys ++ ws) := by
  simp [List.mapM_append, hx, hz]

/-- A list is read as a whole, or one bad element spoils it. -/
theorem mapM_eq {α β : Type} [DecidableEq β] (f : α → Option β) (xs : List α) :
    xs.mapM f = if none ∈ xs.map f then none else some (xs.filterMap f) := by
  induction xs with
  | nil => rfl
  | cons x rest ih =>
    rw [List.mapM_cons, ih]
    cases hx : f x with
    | none => simp [hx]
    | some y =>
      by_cases hrest : none ∈ rest.map f
      · simp only [hrest, List.map_cons, List.mem_cons, or_true, if_true]
        rfl
      · simp [hx, hrest]

namespace Line

def entry? : Line → Option (List Char × List Char)
  | .entry key value => some (Text.lower key, value)
  | _ => none

def isHeader : Line → Bool
  | .header _ => true
  | _ => false

end Line

namespace Document

/-- The sections that lines add up to, in order. -/
def sections (found : List Line) : List Section :=
  (found.foldl addLine []).reverse

/-- While a section is open, the sections before it stay as they are. -/
theorem foldl_addLine_append (found : List Line) (part : Section) (newer others : List Section) :
    found.foldl addLine (part :: newer ++ others) =
      found.foldl addLine (part :: newer) ++ others := by
  induction found generalizing part newer with
  | nil => rfl
  | cons line rest ih =>
    cases line with
    | blank => exact ih part newer
    | comment => exact ih part newer
    | header name => exact ih ⟨name, []⟩ (part :: newer)
    | entry key value => exact ih (part.add key value) newer

/-- An open section takes the entries up to the next header; behind it, it stays as it is. -/
theorem foldl_addLine_open (found : List Line) (name : List Char)
    (entries : List (List Char × List Char)) :
    found.foldl addLine [⟨name, entries⟩] =
      found.foldl addLine [] ++
        [⟨name, ((found.takeWhile (!·.isHeader)).filterMap Line.entry?).reverse ++ entries⟩] := by
  induction found generalizing entries with
  | nil => rfl
  | cons line rest ih =>
    cases line with
    | blank => exact ih entries
    | comment => exact ih entries
    | header next => exact foldl_addLine_append rest ⟨next, []⟩ [] [⟨name, entries⟩]
    | entry key value =>
      have hentry : Line.entry? (.entry key value) = some (Text.lower key, value) := rfl
      rw [List.takeWhile_cons_of_pos rfl, List.filterMap_cons_some hentry, List.reverse_cons,
        List.append_assoc]
      exact ih ((Text.lower key, value) :: entries)

theorem sections_header (name : List Char) (found : List Line) :
    sections (.header name :: found) =
      ⟨name, ((found.takeWhile (!·.isHeader)).filterMap Line.entry?).reverse⟩ ::
        sections found := by
  change (found.foldl addLine [⟨name, []⟩]).reverse = _
  rw [foldl_addLine_open, List.append_nil, List.reverse_append]
  rfl

/-- Nothing before the first header counts. -/
theorem foldl_addLine_of_no_header {found : List Line}
    (hfound : ∀ line ∈ found, line.isHeader = false) : found.foldl addLine [] = [] := by
  induction found with
  | nil => rfl
  | cons line rest ih =>
    have hline := hfound line List.mem_cons_self
    have hrest := fun l hl => hfound l (List.mem_cons_of_mem _ hl)
    cases line with
    | header name => contradiction
    | _ => exact ih hrest

/-- A header and lines that are none make one section, the newest entry first. -/
theorem foldl_section (name : List Char) {found : List Line}
    (hfound : ∀ line ∈ found, line.isHeader = false) :
    (.header name :: found).foldl addLine [] =
      [⟨name, (found.filterMap Line.entry?).reverse⟩] := by
  have hall : found.takeWhile (!·.isHeader) = found :=
    List.takeWhile_eq_self_iff.mpr (by simpa using hfound)
  change found.foldl addLine [⟨name, []⟩] = _
  rw [foldl_addLine_open, foldl_addLine_of_no_header hfound, hall, List.append_nil,
    List.nil_append]

/-- A text of a header and lines that are none is one section. -/
theorem read?_of_lines {text header name : List Char} {below : List (List Char)} {found : List Line}
    (hlines : Text.lines text = header :: below) (hheader : Line.read? header = some (.header name))
    (hbelow : below.mapM Line.read? = some found) (hfound : ∀ line ∈ found, line.isHeader = false) :
    read? text = some [⟨name, (found.filterMap Line.entry?).reverse⟩] := by
  rw [read?, hlines, List.mapM_cons, hheader, hbelow]
  exact congrArg (some ·.reverse) (foldl_section name hfound)

end Document

/-- A key has the value that all entries for it give, if there are any. -/
theorem lookup_of_agree {entries : List (List Char × List Char)} {key value : List Char}
    (hsome : key ∈ entries.map Prod.fst)
    (hagree : ∀ entry ∈ entries, entry.1 = key → entry.2 = value) :
    entries.lookup key = some value := by
  induction entries with
  | nil => contradiction
  | cons entry rest ih =>
    obtain ⟨k, v⟩ := entry
    by_cases hkey : key = k
    · subst hkey
      rw [List.lookup_cons_self]
      exact congrArg some (hagree _ List.mem_cons_self rfl)
    · rw [List.lookup_cons, beq_false_of_ne hkey]
      apply ih
      · exact (List.mem_cons.mp hsome).resolve_left hkey
      · exact fun entry hentry => hagree entry (List.mem_cons_of_mem _ hentry)

end CockpitHud.Settings
