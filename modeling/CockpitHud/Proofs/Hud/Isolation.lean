import CockpitHud.Proofs.Hud.Tick
import CockpitHud.Proofs.Propulsion.Groups

namespace CockpitHud

namespace Hud

variable {hud : Hud} {ship other : Ship} {command : Command}

/-- Whether a thruster of this id can show in a report: it was found at boot, or a group has it. -/
def watches (hud : Hud) (id : BlockId) : Bool :=
  hud.thrusters.contains id || hud.groups.any fun group => group.members.contains id

/-- Two ships that a display cannot tell apart. Nothing is asked of the blocks that it does not
know, nor of the settings, the groups, the stored text, or what any display shows. -/
structure SameView (hud : Hud) (ship other : Ship) : Prop where
  works : other.displayWorks hud.display.id = ship.displayWorks hud.display.id
  mass : other.massAt hud.controller.id = ship.massAt hud.controller.id
  tanks : (other.tanks.filter fun tank => hud.tanks.contains tank.id) =
    ship.tanks.filter fun tank => hud.tanks.contains tank.id
  thrusters : (other.thrusters.filter fun thruster => hud.watches thruster.id) =
    ship.thrusters.filter fun thruster => hud.watches thruster.id

theorem SameView.sample (h : hud.SameView ship other) : hud.sample other = hud.sample ship := by
  rw [Hud.sample, Hud.sample, h.mass, h.tanks]

/-- A thruster found at boot is watched, so that the directions see no other. -/
theorem SameView.found (h : hud.SameView ship other) :
    (other.thrusters.filter fun thruster => hud.thrusters.contains thruster.id) =
      ship.thrusters.filter fun thruster => hud.thrusters.contains thruster.id := by
  have hnarrow : ∀ thrusters : List Thruster,
      (thrusters.filter fun thruster => hud.thrusters.contains thruster.id) =
        (thrusters.filter fun thruster => hud.watches thruster.id).filter
          fun thruster => hud.thrusters.contains thruster.id := by
    intro thrusters
    rw [List.filter_filter]
    apply List.filter_congr
    intro thruster _
    cases hfound : hud.thrusters.contains thruster.id <;> simp [watches, hfound]
  rw [hnarrow, hnarrow ship.thrusters, h.thrusters]

/-- The readings are of all thrusters, but a group asks only for its members. -/
theorem SameView.readings (h : hud.SameView ship other) :
    ∀ group ∈ hud.groups, ∀ id ∈ group.members,
      Propulsion.readingsById other.thrusters id = Propulsion.readingsById ship.thrusters id := by
  intro group hgroup id hid
  have hwatched : hud.watches id = true := by
    apply Bool.or_eq_true_iff.mpr
    exact .inr (List.any_eq_true.mpr ⟨group, hgroup, List.contains_iff_mem.mpr hid⟩)
  rw [← Propulsion.readingsById_filter hwatched, h.thrusters,
    Propulsion.readingsById_filter hwatched]

/-- What a display cannot tell apart it reports alike. -/
theorem SameView.screen (h : hud.SameView ship other) : hud.screen other = hud.screen ship := by
  have hgroups : Propulsion.groupTotals hud.settings.groupNames hud.groups
      (Propulsion.readingsById other.thrusters) hud.toggles.maneuvering =
        Propulsion.groupTotals hud.settings.groupNames hud.groups
          (Propulsion.readingsById ship.thrusters) hud.toggles.maneuvering := by
    apply Propulsion.groupTotals_congr
    intro name _ group hgroup id hid
    rw [h.readings group (List.mem_of_find?_eq_some hgroup) id hid]
  rw [Hud.screen, Hud.screen, report, report, h.sample, h.found, hgroups]

/-- A display looks at blocks only. -/
theorem SameView.of_sameBlocks {later another : Ship} (h : hud.SameView ship other)
    (hship : Ship.SameBlocks ship later) (hother : Ship.SameBlocks other another) :
    hud.SameView later another := by
  refine ⟨?_, ?_, ?_, ?_⟩
  · rw [hother.displayWorks, hship.displayWorks, h.works]
  · rw [hother.massAt, hship.massAt, h.mass]
  · rw [hother.tanks, hship.tanks, h.tanks]
  · rw [hother.thrusters, hship.thrusters, h.thrusters]

def commanded (hud : Hud) (command : Command) : Hud :=
  { hud with
    toggles := command.switch?.elim hud.toggles hud.toggles.flip
    status := hud.status ++ hud.events command }

theorem updated_of_ne_reload (h : command ≠ .reload) (ship : Ship) :
    hud.updated ship command = hud.commanded command := by
  rw [updated, if_neg h, if_neg h, commanded]

theorem SameView.commanded (h : hud.SameView ship other) (command : Command) :
    (hud.commanded command).SameView ship other :=
  ⟨h.works, h.mass, h.tanks, h.thrusters⟩

/-- A call that is no reload shows what the command leaves, on the ship as the call finds it. -/
theorem shown_of_ne_reload (h : command ≠ .reload) (ship : Ship) :
    hud.shown ship command = (hud.commanded command).screen ship := by
  rw [shown, updated_of_ne_reload h, screen_congr _ (hud.prepared_sameBlocks ship command)]

theorem SameView.written (h : hud.SameView ship other) (hcommand : command ≠ .reload) :
    hud.written other command = hud.written ship command := by
  rw [Hud.written, Hud.written, h.works, shown_of_ne_reload hcommand, shown_of_ne_reload hcommand,
    (h.commanded command).screen]

/-- A display looks at the same things after a call that is no reload. -/
theorem SameView.of_tick {seen : Ship} (h : hud.SameView ship other)
    (hcommand : command ≠ .reload) :
    (hud.tick seen command).1.SameView ship other := by
  cases hworks : seen.displayWorks hud.display.id with
  | false =>
    rw [tick_of_dead hworks]
    exact h
  | true =>
    rw [tick_hud hworks, updated_of_ne_reload hcommand]
    exact ⟨h.works, h.mass, h.tanks, h.thrusters⟩

/-- Any command but a reload makes the same of a display on both ships. -/
theorem SameView.tick (h : hud.SameView ship other) (hcommand : command ≠ .reload) :
    (hud.tick other command).1 = (hud.tick ship command).1 := by
  cases hworks : ship.displayWorks hud.display.id with
  | false => rw [tick_of_dead hworks, tick_of_dead (h.works.trans hworks)]
  | true =>
    rw [tick_hud hworks, tick_hud (h.works.trans hworks), h.sample, updated_of_ne_reload hcommand,
      updated_of_ne_reload hcommand]

end Hud

end CockpitHud
