import CockpitHud.Toggles

namespace CockpitHud.Toggles

/-- Toggles come back from the text they are stored in. -/
theorem restore_store (toggles : Toggles) : restore toggles.store = toggles := by
  have h : ∀ a b c, restore (store ⟨a, b, c⟩) = ⟨a, b, c⟩ := by decide
  exact h toggles.maneuvering toggles.burnTimes toggles.allDirections

theorem get_flip_self (toggles : Toggles) (switch : Switch) :
    (toggles.flip switch).get switch = !toggles.get switch := by
  cases switch <;> rfl

/-- A switch depends on its own flips only. -/
theorem get_flip_other (toggles : Toggles) {switch other : Switch} (h : switch ≠ other) :
    (toggles.flip switch).get other = toggles.get other := by
  cases switch <;> cases other <;> first | rfl | contradiction

def flipAll (toggles : Toggles) (flipped : List Switch) : Toggles :=
  flipped.foldl flip toggles

theorem flipAll_append (toggles : Toggles) (flipped more : List Switch) :
    toggles.flipAll (flipped ++ more) = (toggles.flipAll flipped).flipAll more :=
  List.foldl_append

/-- A switch is turned over by an odd number of its own flips. -/
theorem get_flipAll (toggles : Toggles) (flipped : List Switch) (switch : Switch) :
    (toggles.flipAll flipped).get switch =
      (toggles.get switch ^^ decide (flipped.count switch % 2 = 1)) := by
  induction flipped generalizing toggles with
  | nil => simp [flipAll]
  | cons first rest ih =>
    change ((toggles.flip first).flipAll rest).get switch = _
    rw [ih]
    by_cases h : first = switch
    · have hparity : decide ((rest.count switch + 1) % 2 = 1) =
          !decide (rest.count switch % 2 = 1) := by
        rw [← decide_not, decide_eq_decide]
        omega
      rw [h, get_flip_self, List.count_cons_self, hparity, Bool.not_xor, Bool.xor_not]
    · rw [get_flip_other toggles h, List.count_cons_of_ne h]

end CockpitHud.Toggles
