import CockpitHud.Boot.Step

namespace CockpitHud.Boot

section Ranking

variable {α : Type} {rank : α → Nat} {criteria : List (α → Bool)} {front back : List α}
  {chosen : α}

/-- The candidate between the others ranks lower than all before it and no higher than any behind
it. -/
structure Leads (rank : α → Nat) (front : List α) (chosen : α) (back : List α) : Prop where
  front : ∀ other ∈ front, rank chosen < rank other
  back : ∀ other ∈ back, rank chosen ≤ rank other

theorem Leads.le (h : Leads rank front chosen back) :
    ∀ other ∈ front ++ chosen :: back, rank chosen ≤ rank other := by
  intro other hother
  rcases List.mem_append.mp hother with hother | hother
  · exact Nat.le_of_lt (h.front other hother)
  · rcases List.mem_cons.mp hother with rfl | hother
    · exact Nat.le_refl _
    · exact h.back other hother

/-- In every list some candidate leads. -/
theorem exists_leads (rank : α → Nat) {candidates : List α} (hne : candidates ≠ []) :
    ∃ front chosen back, candidates = front ++ chosen :: back ∧ Leads rank front chosen back := by
  induction candidates with
  | nil => contradiction
  | cons first rest ih =>
    by_cases hrest : rest = []
    · exact ⟨[], first, [], by rw [hrest]; rfl, nofun, nofun⟩
    · obtain ⟨front, chosen, back, rfl, hleads⟩ := ih hrest
      by_cases hfirst : rank first ≤ rank chosen
      · have hback : ∀ other ∈ front ++ chosen :: back, rank first ≤ rank other :=
          fun other hother => Nat.le_trans hfirst (hleads.le other hother)
        exact ⟨[], first, front ++ chosen :: back, rfl, nofun, hback⟩
      · have hfront : ∀ other ∈ first :: front, rank chosen < rank other :=
          List.forall_mem_cons.mpr ⟨Nat.lt_of_not_le hfirst, hleads.front⟩
        exact ⟨first :: front, chosen, back, rfl, hfront, hleads.back⟩

/-- Candidates at the end that rank no lower come too late. -/
theorem Leads.append (h : Leads rank front chosen back) {late : List α}
    (hlate : ∀ other ∈ late, rank chosen ≤ rank other) :
    Leads rank front chosen (back ++ late) :=
  ⟨h.front, List.forall_mem_append.mpr ⟨h.back, hlate⟩⟩

/-- Who leads still does when another is taken away. -/
theorem Leads.eraseIdx (h : Leads rank front chosen back) {gone : Nat}
    (hgone : gone ≠ front.length) :
    ∃ front' back', (front ++ chosen :: back).eraseIdx gone = front' ++ chosen :: back' ∧
      Leads rank front' chosen back' := by
  rcases Nat.lt_or_gt_of_ne hgone with hbefore | hbehind
  · refine ⟨front.eraseIdx gone, back, List.eraseIdx_append_of_lt_length hbefore _, ?_, h.back⟩
    exact fun other hother => h.front other (List.mem_of_mem_eraseIdx hother)
  · obtain ⟨n, rfl⟩ := Nat.exists_eq_add_of_lt hbehind
    refine ⟨front, back.eraseIdx n, ?_, h.front, ?_⟩
    · rw [List.eraseIdx_append_of_length_le (by omega), Nat.add_assoc, Nat.add_sub_cancel_left,
        List.eraseIdx_cons_succ]
    · exact fun other hother => h.back other (List.mem_of_mem_eraseIdx hother)

/-- The number of criteria that a candidate fails before it meets one. -/
def rankBy (criteria : List (α → Bool)) (candidate : α) : Nat :=
  criteria.findIdx fun meets => meets candidate

/-- The candidates are scanned for one criterion after the other, and the first is taken if none
meets any. -/
def scan? : List (α → Bool) → List α → Option α
  | [], candidates => candidates.head?
  | meets :: others, candidates => (candidates.find? meets).or (scan? others candidates)

theorem rankBy_cons (meets : α → Bool) (others : List (α → Bool)) (candidate : α) :
    rankBy (meets :: others) candidate =
      if meets candidate then 0 else rankBy others candidate + 1 := by
  rw [rankBy, List.findIdx_cons]
  cases meets candidate <;> rfl

theorem rankBy_cons_pos {meets : α → Bool} {candidate : α}
    (h : 0 < rankBy (meets :: criteria) candidate) : meets candidate = false := by
  rw [rankBy_cons] at h
  split at h
  · contradiction
  · rename_i hfails
    exact Bool.eq_false_iff.mpr hfails

/-- The scans find the candidate that leads. -/
theorem Leads.scan? (h : Leads (rankBy criteria) front chosen back) :
    scan? criteria (front ++ chosen :: back) = some chosen := by
  induction criteria with
  | nil =>
    have hfront : front = [] :=
      List.eq_nil_iff_forall_not_mem.mpr fun other hother => Nat.lt_irrefl 0 (h.front other hother)
    rw [hfront]
    rfl
  | cons meets others ih =>
    have hfront : ∀ other ∈ front, meets other = false :=
      fun other hother => rankBy_cons_pos (Nat.zero_lt_of_lt (h.front other hother))
    have hnone : front.find? meets = none := by simpa using hfront
    rw [Boot.scan?, List.find?_append, hnone, Option.none_or]
    cases hchosen : meets chosen with
    | true => rw [List.find?_cons_of_pos hchosen, Option.some_or]
    | false =>
      -- whoever leads fails the criterion, so everyone does, and the others alone decide
      have hback : ∀ other ∈ back, meets other = false := by
        intro other hother
        have hle := h.back other hother
        rw [rankBy_cons meets others chosen, hchosen] at hle
        exact rankBy_cons_pos (Nat.zero_lt_of_lt hle)
      have hrest : back.find? meets = none := by simpa using hback
      rw [List.find?_cons_of_neg (by simp [hchosen]), hrest, Option.none_or]
      apply ih
      constructor
      · intro other hother
        have hlt := h.front other hother
        simpa [rankBy_cons, hchosen, hfront other hother] using hlt
      · intro other hother
        have hle := h.back other hother
        simpa [rankBy_cons, hchosen, hback other hother] using hle

end Ranking

variable {candidates front back : List Controller} {chosen : Controller}

def rank (candidate : Controller) : Nat :=
  if nameHas candidate.name cockpitTag.toList then 0
  else if candidate.underControl then 1
  else if candidate.isMain then 2
  else 3

def criteria : List (Controller → Bool) :=
  [fun candidate => nameHas candidate.name cockpitTag.toList, (·.underControl), (·.isMain)]

/-- A controller ranks by the first criterion that it meets. -/
theorem rank_eq_rankBy : rank = rankBy criteria := by
  funext candidate
  simp only [rank, criteria, rankBy_cons]
  split
  · rfl
  · split
    · rfl
    · split <;> rfl

theorem chooseController?_eq_none_iff : chooseController? candidates = none ↔ candidates = [] := by
  simp only [chooseController?, Option.or_eq_none_iff, List.head?_eq_none_iff]
  constructor
  · exact fun h => h.2.2.2
  · rintro rfl
    exact ⟨rfl, rfl, rfl, rfl⟩

theorem Leads.chooseController? (h : Leads rank front chosen back) :
    chooseController? (front ++ chosen :: back) = some chosen := by
  rw [rank_eq_rankBy] at h
  exact h.scan?

/-- A controller is chosen if and only if it ranks before all that stand in front of it, and no
worse than those behind it. -/
theorem chooseController?_eq_some_iff :
    chooseController? candidates = some chosen ↔
      ∃ front back, candidates = front ++ chosen :: back ∧ Leads rank front chosen back := by
  constructor
  · intro h
    have hne : candidates ≠ [] := by
      intro hnil
      rw [chooseController?_eq_none_iff.mpr hnil] at h
      contradiction
    obtain ⟨front, leader, back, rfl, hleads⟩ := exists_leads rank hne
    rw [hleads.chooseController?] at h
    cases h
    exact ⟨front, back, rfl, hleads⟩
  · rintro ⟨front, back, rfl, hleads⟩
    exact hleads.chooseController?

/-- A controller at the end is chosen only if it ranks lower than all before it. -/
theorem chooseController?_concat (candidates : List Controller) (late : Controller) :
    chooseController? (candidates ++ [late]) =
      if candidates.all (rank late < rank ·) then some late else chooseController? candidates := by
  split
  · rename_i hall
    have hleads : Leads rank candidates late [] := ⟨by simpa using hall, nofun⟩
    exact hleads.chooseController?
  · rename_i hsome
    obtain ⟨other, hother, hle⟩ : ∃ other ∈ candidates, rank other ≤ rank late := by
      simpa using hsome
    obtain ⟨front, leader, back, rfl, hleads⟩ := exists_leads rank (List.ne_nil_of_mem hother)
    have hleast : rank leader ≤ rank late := Nat.le_trans (hleads.le other hother) hle
    have hlate := hleads.append (List.forall_mem_singleton.mpr hleast)
    rw [hleads.chooseController?, List.append_assoc, List.cons_append, hlate.chooseController?]

/-- The choice is a stable ranking: there is one unless there is no candidate, and it is the first
of those that rank lowest. A candidate added at the end changes it only by a rank lower than all
others have, and taking away any other than the one chosen does not change it. -/
theorem choice_by_rank (candidates : List Controller) :
    (chooseController? candidates = none ↔ candidates = []) ∧
      (∀ chosen, chooseController? candidates = some chosen ↔
        ∃ front back, candidates = front ++ chosen :: back ∧ Leads rank front chosen back) ∧
      (∀ late, chooseController? (candidates ++ [late]) =
        if candidates.all (rank late < rank ·) then some late
        else chooseController? candidates) ∧
      ∀ front chosen back gone, candidates = front ++ chosen :: back →
        Leads rank front chosen back → gone ≠ front.length →
        chooseController? (candidates.eraseIdx gone) = some chosen := by
  refine ⟨chooseController?_eq_none_iff, fun chosen => chooseController?_eq_some_iff,
    chooseController?_concat candidates, ?_⟩
  rintro front chosen back gone rfl hleads hgone
  obtain ⟨front', back', herase, hstill⟩ := hleads.eraseIdx hgone
  rw [herase, hstill.chooseController?]

/-- The tag outweighs a crew and the main flag together, and of two tagged the first is taken. -/
theorem choice_by_rank_tagged :
    let seat : Controller := { id := ⟨1⟩, name := "Seat", isMain := true }
    let helm : Controller := { id := ⟨2⟩, name := "Helm", underControl := true, isMain := true }
    let bridge : Controller := { id := ⟨3⟩, name := "Bridge [DELTAVcockpit]" }
    let spare := { helm with id := ⟨4⟩, name := "DeltaVCockpit" }
    let candidates := [seat, helm, bridge, spare]
    Leads rank [seat, helm] bridge [spare] ∧ chooseController? candidates = some bridge ∧
      chooseController? (candidates ++ [spare]) = chooseController? candidates ∧
      ∀ gone, gone ≠ 2 → chooseController? (candidates.eraseIdx gone) = some bridge := by
  intro seat helm bridge spare candidates
  have hleads : Leads rank [seat, helm] bridge [spare] :=
    ⟨by decide +kernel, by decide +kernel⟩
  obtain ⟨_, hchoice, hlate, hgone⟩ := choice_by_rank candidates
  have hnotall : candidates.all (rank spare < rank ·) = false := by decide +kernel
  refine ⟨hleads, (hchoice bridge).mpr ⟨_, _, rfl, hleads⟩, ?_, ?_⟩
  · rw [hlate spare, hnotall, if_neg Bool.false_ne_true]
  · exact fun gone => hgone _ bridge _ gone rfl hleads

end CockpitHud.Boot
