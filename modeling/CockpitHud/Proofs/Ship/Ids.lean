import CockpitHud.Ship.Build
import Mathlib.Data.List.Nodup

namespace CockpitHud

inductive BlockKind where
  | display
  | controller
  | thruster
  | tank

/-- A change to what is on a ship. A block is taken off by its place among those of its kind. -/
inductive Refit where
  | addDisplay (name : String)
  | addController (name : String) (facing : Direction)
  | addThruster (model : String) (facing : Direction) (maxThrust : Float)
  | addTank (definition : String) (capacity filled : Float)
  | addGroup (name : String) (members : List BlockId)
  | remove (kind : BlockKind) (place : Nat)

def Refit.added? : Refit → Option BlockKind
  | .addDisplay _ => some .display
  | .addController _ _ => some .controller
  | .addThruster _ _ _ => some .thruster
  | .addTank _ _ _ => some .tank
  | .addGroup _ _ => none
  | .remove _ _ => none

namespace Ship

variable {ship before after : Ship} {kind : BlockKind} {fresh : BlockId} {next : Refit}
  {refits : List Refit} {made : Nat}

def remove (ship : Ship) (place : Nat) : BlockKind → Ship
  | .display => { ship with displays := ship.displays.eraseIdx place }
  | .controller => { ship with controllers := ship.controllers.eraseIdx place }
  | .thruster => { ship with thrusters := ship.thrusters.eraseIdx place }
  | .tank => { ship with tanks := ship.tanks.eraseIdx place }

/-- The id that is told of a new block, and the ship afterwards. -/
def refit (ship : Ship) : Refit → Option BlockId × Ship
  | .addDisplay name => (ship.addDisplay name).map some id
  | .addController name facing => (ship.addController name facing).map some id
  | .addThruster model facing maxThrust => (ship.addThruster model facing maxThrust).map some id
  | .addTank definition capacity filled => (ship.addTank definition capacity filled).map some id
  | .addGroup name members => (none, ship.addGroup name members)
  | .remove kind place => (none, ship.remove place kind)

def refitted (ship : Ship) (refits : List Refit) : Ship :=
  refits.foldl (fun ship next => (ship.refit next).2) ship

theorem refitted_take_succ (h : refits[made]? = some next) :
    ship.refitted (refits.take (made + 1)) = ((ship.refitted (refits.take made)).refit next).2 := by
  rw [refitted, List.take_add_one, h, List.foldl_append]
  rfl

/-- No block has the last of all ids. -/
def Extensible (ship : Ship) : Prop :=
  ∀ id ∈ ship.ids, id.number.toNat < UInt64.size - 1

/-- A fresh id is above all others as long as ids have not run out. -/
theorem Extensible.lt_freshId (h : ship.Extensible) :
    ∀ other ∈ ship.ids, other.number < ship.freshId.number := by
  intro other hother
  have hlisted : other.number.toNat ∈ ship.ids.map (·.number.toNat) :=
    List.mem_map_of_mem hother
  unfold freshId
  split
  · rename_i hnone
    rw [List.max?_eq_none_iff.mp hnone] at hlisted
    contradiction
  · rename_i greatest hgreatest
    obtain ⟨hmem, hmost⟩ := List.max?_eq_some_iff.mp hgreatest
    obtain ⟨last, hlast, rfl⟩ := List.mem_map.mp hmem
    have hroom := h last hlast
    have hle : other.number.toNat ≤ last.number.toNat := hmost _ hlisted
    -- the id after the greatest one does not wrap around to zero
    have hfits : last.number.toNat + 1 < UInt64.size := Nat.add_lt_of_lt_sub hroom
    rw [UInt64.lt_iff_toNat_lt, UInt64.toNat_ofNat_of_lt' hfits]
    omega

/-- A block has come with a fresh id, last of its kind, and nothing else is different. -/
inductive Gains (before : Ship) (fresh : BlockId) : BlockKind → Ship → Prop
  | display (added : Display) (h : added.id = fresh) :
    Gains before fresh .display { before with displays := before.displays ++ [added] }
  | controller (added : Controller) (h : added.id = fresh) :
    Gains before fresh .controller { before with controllers := before.controllers ++ [added] }
  | thruster (added : Thruster) (h : added.id = fresh) :
    Gains before fresh .thruster { before with thrusters := before.thrusters ++ [added] }
  | tank (added : Tank) (h : added.id = fresh) :
    Gains before fresh .tank { before with tanks := before.tanks ++ [added] }

theorem Gains.ids_eq (h : Gains before fresh kind after) :
    ∃ front back, before.ids = front ++ back ∧ after.ids = front ++ fresh :: back := by
  cases h with
  | display added h =>
    exact ⟨before.displays.map (·.id), before.controllers.map (·.id) ++
      before.thrusters.map (·.id) ++ before.tanks.map (·.id), by simp [ids], by simp [ids, h]⟩
  | controller added h =>
    exact ⟨before.displays.map (·.id) ++ before.controllers.map (·.id),
      before.thrusters.map (·.id) ++ before.tanks.map (·.id), by simp [ids], by simp [ids, h]⟩
  | thruster added h =>
    exact ⟨before.displays.map (·.id) ++ before.controllers.map (·.id) ++
      before.thrusters.map (·.id), before.tanks.map (·.id), by simp [ids], by simp [ids, h]⟩
  | tank added h => exact ⟨before.ids, [], by simp, by simp [ids, h]⟩

/-- A block that comes with a new id leaves ids that tell the blocks apart. -/
theorem Gains.nodup_ids (h : Gains before fresh kind after) (hids : before.ids.Nodup)
    (hnew : fresh ∉ before.ids) : after.ids.Nodup := by
  obtain ⟨front, back, hbefore, hafter⟩ := h.ids_eq
  rw [hafter, List.nodup_middle, ← hbefore]
  exact List.nodup_cons.mpr ⟨hnew, hids⟩

theorem refit_gains (ship : Ship) (h : next.added? = some kind) :
    (ship.refit next).1 = some ship.freshId ∧
      Gains ship ship.freshId kind (ship.refit next).2 := by
  cases next with
  | addDisplay name =>
    cases h
    exact ⟨rfl, .display _ rfl⟩
  | addController name facing =>
    cases h
    exact ⟨rfl, .controller _ rfl⟩
  | addThruster model facing maxThrust =>
    cases h
    exact ⟨rfl, .thruster _ rfl⟩
  | addTank definition capacity filled =>
    cases h
    exact ⟨rfl, .tank _ rfl⟩
  | addGroup name members => contradiction
  | remove kind place => contradiction

theorem ids_remove_sublist (ship : Ship) (place : Nat) (kind : BlockKind) :
    (ship.remove place kind).ids.Sublist ship.ids := by
  have hkept : ∀ {α : Type} (blocks : List α) (idOf : α → BlockId),
      ((blocks.eraseIdx place).map idOf).Sublist (blocks.map idOf) :=
    fun blocks _ => (List.eraseIdx_sublist blocks place).map _
  cases kind with
  | display => exact (((hkept _ _).append_right _).append_right _).append_right _
  | controller => exact (((hkept _ _).append_left _).append_right _).append_right _
  | thruster => exact ((hkept _ _).append_left _).append_right _
  | tank => exact (hkept _ _).append_left _

/-- Without a new block there are no new ids. -/
theorem ids_refit_sublist (ship : Ship) (h : next.added? = none) :
    (ship.refit next).2.ids.Sublist ship.ids := by
  cases next with
  | addGroup name members => exact .refl ship.ids
  | remove kind place => exact ship.ids_remove_sublist place kind
  | addDisplay | addController | addThruster | addTank => contradiction

/-- What one change keeps: the ids tell the blocks apart. -/
theorem Extensible.nodup_refit (h : ship.Extensible) (hids : ship.ids.Nodup) (next : Refit) :
    (ship.refit next).2.ids.Nodup := by
  cases hadded : next.added? with
  | none => exact hids.sublist (ship.ids_refit_sublist hadded)
  | some kind =>
    have hnew : ship.freshId ∉ ship.ids :=
      fun hmem => UInt64.lt_irrefl _ (h.lt_freshId _ hmem)
    exact (ship.refit_gains hadded).2.nodup_ids hids hnew

/-- What a run of changes keeps. -/
theorem nodup_refitted (hids : ship.ids.Nodup)
    (h : ∀ made < refits.length, (ship.refitted (refits.take made)).Extensible) :
    ∀ made ≤ refits.length, (ship.refitted (refits.take made)).ids.Nodup := by
  intro made hmade
  induction made with
  | zero => exact hids
  | succ made ih =>
    rw [refitted_take_succ (List.getElem?_eq_getElem hmade)]
    exact (h made hmade).nodup_refit (ih (Nat.le_of_lt hmade)) _

/-- Blocks whose ids tell them apart are told apart after every change, as long as none has the
last id before it. Each new block gets an id above all that are on the ship, and comes last among
those of its kind; everything else stays as it is. -/
theorem ids_stay_apart (ship : Ship) (refits : List Refit) (hids : ship.ids.Nodup)
    (hroom : ∀ made < refits.length, (ship.refitted (refits.take made)).Extensible) :
    ∀ made next, refits[made]? = some next →
      let before := ship.refitted (refits.take made)
      let after := ship.refitted (refits.take (made + 1))
      after.ids.Nodup ∧ after = (before.refit next).2 ∧
        ∀ kind, next.added? = some kind → ∃ id, (before.refit next).1 = some id ∧
          (∀ other ∈ before.ids, other.number < id.number) ∧ Gains before id kind after := by
  intro made next hnext before after
  obtain ⟨hmade, _⟩ := List.getElem?_eq_some_iff.mp hnext
  have hafter : after = (before.refit next).2 := refitted_take_succ hnext
  refine ⟨nodup_refitted hids hroom (made + 1) hmade, hafter, ?_⟩
  intro kind hkind
  obtain ⟨htold, hgains⟩ := before.refit_gains hkind
  rw [← hafter] at hgains
  exact ⟨before.freshId, htold, (hroom made hmade).lt_freshId, hgains⟩

def crowded : Ship where
  displays := [{ id := ⟨0xfffffffffffffffc⟩, name := "LCD DeltaV" }]
  tanks := [{ id := ⟨7⟩, definition := "LargeHydrogenTank", capacity := 200000.0, filled := 1.0 }]
  totalMass := 10000.0

/-- The two ids before the last are given, though the block that had the greatest is gone. -/
theorem ids_stay_apart_crowded :
    let refits : List Refit := [.addTank "LargeOxygenTank" 100000.0 1.0, .remove .display 0,
      .addGroup "Tanks" [⟨7⟩], .addController "Helm" .forward]
    let before := crowded.refitted (refits.take 3)
    let after := crowded.refitted refits
    crowded.ids.Nodup ∧
      (∀ made < refits.length, (crowded.refitted (refits.take made)).Extensible) ∧
      before.ids = [⟨7⟩, ⟨0xfffffffffffffffd⟩] ∧ after.ids.Nodup ∧
      (before.refit (.addController "Helm" .forward)).1 = some ⟨0xfffffffffffffffe⟩ ∧
      (∀ other ∈ before.ids, other.number < 0xfffffffffffffffe) ∧
      Gains before ⟨0xfffffffffffffffe⟩ .controller after := by
  intro refits before after
  have hids : crowded.ids.Nodup := by decide
  have hroom : ∀ made < refits.length, (crowded.refitted (refits.take made)).Extensible := by
    unfold Extensible
    decide +kernel
  have htold : (before.refit (.addController "Helm" .forward)).1 =
      some ⟨0xfffffffffffffffe⟩ := by decide +kernel
  have hbefore : before.ids = [⟨7⟩, ⟨0xfffffffffffffffd⟩] := by decide +kernel
  obtain ⟨hafter, _, hadded⟩ := ids_stay_apart crowded refits hids hroom 3 _ rfl
  obtain ⟨id, hid, habove, hgains⟩ := hadded .controller rfl
  have hsame : id = ⟨0xfffffffffffffffe⟩ := Option.some.inj (hid.symm.trans htold)
  subst hsame
  exact ⟨hids, hroom, hbefore, hafter, htold, habove, hgains⟩

end Ship

end CockpitHud
