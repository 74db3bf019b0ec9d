import CockpitHud.Scenario.Basic
import Mathlib.Data.List.Induction
import Mathlib.Data.List.Pairwise

namespace CockpitHud

namespace Script

variable {script rest : Script} {entry other : Nat × String} {count : Nat}

def Ascending (script : Script) : Prop :=
  script.Pairwise fun first second => first.1 < second.1

theorem Ascending.tail (h : Ascending (entry :: rest)) : Ascending rest :=
  (List.pairwise_cons.mp h).2

theorem Ascending.lt_of_mem_tail (h : Ascending (entry :: rest)) (hmem : other ∈ rest) :
    entry.1 < other.1 :=
  (List.pairwise_cons.mp h).1 other hmem

/-- An argument takes the place of the one for the same call. -/
theorem mem_insert (h : Ascending script) (count : Nat) (argument : String) :
    entry ∈ script.insert count argument ↔
      entry = (count, argument) ∨ (entry ∈ script ∧ entry.1 ≠ count) := by
  induction script with
  | nil => simp [insert]
  | cons first rest ih =>
    have hrest : ∀ later ∈ rest, first.1 < later.1 := fun later => h.lt_of_mem_tail
    simp only [insert]
    split
    · rename_i hbefore
      have hlater : ∀ later ∈ first :: rest, later.1 ≠ count := by
        intro later hlater
        rcases List.mem_cons.mp hlater with rfl | hlater
        · exact Nat.ne_of_gt hbefore
        · exact Nat.ne_of_gt (Nat.lt_trans hbefore (hrest later hlater))
      rw [List.mem_cons]
      exact or_congr_right ⟨fun hmem => ⟨hmem, hlater entry hmem⟩, And.left⟩
    · split
      · rename_i hsame
        rw [List.mem_cons, List.mem_cons, hsame]
        refine or_congr_right ⟨fun hmem => ⟨.inr hmem, Nat.ne_of_gt (hrest entry hmem)⟩, ?_⟩
        rintro ⟨rfl | hmem, hne⟩
        · contradiction
        · exact hmem
      · rename_i hother
        rw [List.mem_cons, List.mem_cons, ih h.tail]
        constructor
        · rintro (rfl | rfl | ⟨hmem, hne⟩)
          · exact .inr ⟨.inl rfl, Ne.symm hother⟩
          · exact .inl rfl
          · exact .inr ⟨.inr hmem, hne⟩
        · rintro (rfl | ⟨rfl | hmem, hne⟩)
          · exact .inr (.inl rfl)
          · exact .inl rfl
          · exact .inr (.inr ⟨hmem, hne⟩)

theorem ascending_insert (h : Ascending script) (count : Nat) (argument : String) :
    Ascending (script.insert count argument) := by
  induction script with
  | nil => exact List.pairwise_singleton _ _
  | cons first rest ih =>
    have hrest : ∀ later ∈ rest, first.1 < later.1 := fun later => h.lt_of_mem_tail
    simp only [insert]
    split
    · rename_i hbefore
      refine List.pairwise_cons.mpr ⟨?_, h⟩
      intro later hlater
      rcases List.mem_cons.mp hlater with rfl | hlater
      · exact hbefore
      · exact Nat.lt_trans hbefore (hrest later hlater)
    · rename_i hnot
      split
      · rename_i hsame
        exact List.pairwise_cons.mpr ⟨hsame ▸ hrest, h.tail⟩
      · rename_i hother
        refine List.pairwise_cons.mpr ⟨?_, ih h.tail⟩
        intro later hlater
        rcases (mem_insert h.tail count argument).mp hlater with rfl | ⟨hlater, _⟩
        · change first.1 < count
          omega
        · exact hrest later hlater

theorem ofList_concat (commands : List (Nat × String)) (count : Nat) (argument : String) :
    ofList (commands ++ [(count, argument)]) = (ofList commands).insert count argument := by
  rw [ofList, List.foldl_append]
  rfl

/-- In whatever order the commands were listed, the script has them in that of their calls. -/
theorem ascending_ofList (commands : List (Nat × String)) : Ascending (ofList commands) := by
  induction commands using List.reverseRecOn with
  | nil => exact .nil
  | append_singleton rest last ih =>
    obtain ⟨count, argument⟩ := last
    rw [ofList_concat]
    exact ascending_insert ih count argument

/-- A script holds for each call what was listed last for it. -/
theorem mem_ofList {commands : List (Nat × String)} {count : Nat} {argument : String} :
    (count, argument) ∈ ofList commands ↔ commands.reverse.lookup count = some argument := by
  induction commands using List.reverseRecOn with
  | nil => simp [ofList]
  | append_singleton rest last ih =>
    obtain ⟨other, latest⟩ := last
    rw [ofList_concat, mem_insert (ascending_ofList rest), ih, List.reverse_concat,
      List.lookup_cons]
    by_cases hsame : count = other
    · simp [hsame, eq_comm]
    · simp [hsame, beq_false_of_ne hsame]

end Script

end CockpitHud
