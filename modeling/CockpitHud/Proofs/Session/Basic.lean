import CockpitHud.Proofs.Program

namespace CockpitHud

/-- What becomes of the ship before a call, and the run argument of the call. -/
structure Call where
  edit : Ship → Ship
  argument : String

namespace Call

def command (call : Call) : Command :=
  .ofArgument call.argument

def KeepsStore (call : Call) : Prop :=
  ∀ ship, (call.edit ship).storedState = ship.storedState

end Call

structure Session where
  program : Program
  ship : Ship

namespace Session

variable {α : Type} {session : Session} {calls : List Call} {made : Nat}

def start (ship : Ship) : Session :=
  ⟨(Program.start ship).1, (Program.start ship).2⟩

def call (session : Session) (next : Call) : Session :=
  let ticked := session.program.tick (next.edit session.ship) next.argument
  ⟨ticked.program, ticked.ship⟩

def run (session : Session) (calls : List Call) : Session :=
  calls.foldl call session

def undisturbed (arguments : List String) : List Call :=
  arguments.map (Call.mk id)

theorem undisturbed_keepsStore (arguments : List String) :
    ∀ next ∈ undisturbed arguments, next.KeepsStore := by
  intro next hnext
  obtain ⟨argument, _, rfl⟩ := List.mem_map.mp hnext
  exact fun ship => rfl

theorem undisturbed_length (arguments : List String) :
    (undisturbed arguments).length = arguments.length :=
  List.length_map _

theorem undisturbed_take (arguments : List String) (made : Nat) :
    undisturbed (arguments.take made) = (undisturbed arguments).take made :=
  List.map_take

/-- The ship as the call of a number finds it; calls are counted from one. -/
def shipAt (session : Session) (calls : List Call) (number : Nat) : Ship :=
  let before := session.run (calls.take (number - 1))
  match calls[number - 1]? with
  | some next => next.edit before.ship
  | none => before.ship

theorem run_take_succ {next : Call} (h : calls[made]? = some next) :
    session.run (calls.take (made + 1)) = (session.run (calls.take made)).call next := by
  rw [run, List.take_add_one, h, List.foldl_append]
  rfl

theorem run_append (session : Session) (calls more : List Call) :
    session.run (calls ++ more) = (session.run calls).run more :=
  List.foldl_append

theorem run_concat (session : Session) (calls : List Call) (next : Call) :
    session.run (calls ++ [next]) = (session.run calls).call next :=
  session.run_append calls [next]

theorem shipAt_succ {next : Call} (h : calls[made]? = some next) :
    session.shipAt calls (made + 1) = next.edit (session.run (calls.take made)).ship := by
  rw [shipAt]
  simp only [Nat.add_sub_cancel, h]

theorem shipAt_undisturbed (session : Session) (arguments : List String) (number : Nat) :
    session.shipAt (undisturbed arguments) number =
      (session.run (undisturbed (arguments.take (number - 1)))).ship := by
  rw [shipAt, undisturbed_take]
  cases hnext : (undisturbed arguments)[number - 1]? with
  | none => rfl
  | some next =>
    obtain ⟨argument, _, rfl⟩ := List.mem_map.mp (List.mem_of_getElem? hnext)
    rfl

theorem run_undisturbed_cons (session : Session) (argument : String) (rest : List String) :
    session.run (undisturbed (argument :: rest)) =
      (session.call ⟨id, argument⟩).run (undisturbed rest) := rfl

def collect (gather : Session → Call → List α) (session : Session) : List Call → List α
  | [] => []
  | next :: rest => gather session next ++ (session.call next).collect gather rest

theorem collect_append (gather : Session → Call → List α) (session : Session)
    (calls more : List Call) :
    session.collect gather (calls ++ more) =
      session.collect gather calls ++ (session.run calls).collect gather more := by
  induction calls generalizing session with
  | nil => rfl
  | cons first rest ih =>
    change gather session first ++ (session.call first).collect gather (rest ++ more) = _
    rw [ih]
    exact (List.append_assoc _ _ _).symm

theorem collect_concat (gather : Session → Call → List α) (session : Session) (calls : List Call)
    (next : Call) :
    session.collect gather (calls ++ [next]) =
      session.collect gather calls ++ gather (session.run calls) next := by
  rw [collect_append]
  exact congrArg _ (List.append_nil _)

/-- The display that reports, if the program runs and the display works when the call is made. -/
def active? (session : Session) (next : Call) : Option Hud :=
  match session.program with
  | .running hud => if (next.edit session.ship).displayWorks hud.display.id then some hud else none
  | .booting _ => none
  | .halted => none

def flippedAt (session : Session) (next : Call) : List Switch :=
  ((session.active? next).bind fun _ => next.command.switch?).toList

def eventsAt (session : Session) (next : Call) : List String :=
  ((session.active? next).map fun hud => hud.events next.command).getD []

/-- The texts that a call of a running program writes to its display: as many as writes were
counted, each read off the display afterwards. -/
def textsAt (session : Session) (next : Call) : List String :=
  match session.program with
  | .running hud =>
    List.replicate ((session.call next).ship.writes - (next.edit session.ship).writes)
      ((session.call next).ship.displayText hud.display.id)
  | .booting _ => []
  | .halted => []

def printedAt (session : Session) (next : Call) : List String :=
  (session.textsAt next).flatMap Report.statusEntries

/-- Whether a call finds a display that works and a mass sample that can be used. -/
def reportsAt (session : Session) (next : Call) : Bool :=
  (session.active? next).any fun hud => (hud.sample (next.edit session.ship)).isValid

theorem call_running (hud : Hud) (ship : Ship) (next : Call) :
    (Session.mk (.running hud) ship).call next =
      ⟨.running (hud.tick (next.edit ship) next.command).1,
        (hud.tick (next.edit ship) next.command).2⟩ := by
  rw [call, Program.tick_running]
  rfl

/-- A call of a running program writes the texts of its display. -/
theorem textsAt_running (hud : Hud) (ship : Ship) (next : Call) :
    (Session.mk (.running hud) ship).textsAt next =
      hud.written (next.edit ship) next.command := by
  simp only [textsAt, call_running, Hud.written]
  rw [hud.tick_writes]
  cases h : (next.edit ship).displayWorks hud.display.id with
  | false => simp
  | true => simp [Hud.tick_displayText h]

theorem legible_call (h : session.program.Legible) (next : Call) :
    (session.call next).program.Legible :=
  h.tick (next.edit session.ship) next.argument

/-- All that a run shows can be read entry by entry. -/
theorem legible_run (h : session.program.Legible) (calls : List Call) :
    (session.run calls).program.Legible := by
  induction calls generalizing session with
  | nil => exact h
  | cons next rest ih => exact ih (legible_call h next)

/-- A program that is left alone with its ship keeps the blocks as they are. -/
theorem run_undisturbed_sameBlocks (session : Session) (arguments : List String) :
    Ship.SameBlocks session.ship (session.run (undisturbed arguments)).ship := by
  induction arguments generalizing session with
  | nil => exact .refl session.ship
  | cons argument rest ih =>
    exact (session.program.tick_sameBlocks session.ship argument).trans
      (ih (session.call ⟨id, argument⟩))

theorem shipAt_undisturbed_sameBlocks (ship : Ship) (arguments : List String) (number : Nat) :
    Ship.SameBlocks ship ((start ship).shipAt (undisturbed arguments) number) := by
  have hstart : Ship.SameBlocks ship (start ship).ship := ⟨rfl, rfl, rfl, rfl, rfl, rfl⟩
  rw [shipAt_undisturbed]
  exact hstart.trans (run_undisturbed_sameBlocks _ _)

theorem active?_running (hud : Hud) (ship : Ship) (next : Call) :
    (Session.mk (.running hud) ship).active? next =
      if (next.edit ship).displayWorks hud.display.id then some hud else none := rfl

end Session

end CockpitHud
