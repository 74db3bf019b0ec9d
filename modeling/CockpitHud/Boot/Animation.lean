import CockpitHud.Layout.Box
import CockpitHud.Layout.Wrap
import CockpitHud.Report

namespace CockpitHud.Boot

structure Message where
  text : String
  /-- Frames it stays on the display. -/
  frames : Nat

def messages : List Message := [
  ⟨"Boot sequence initialized", 1⟩,
  ⟨"Loading HUD modules", 1⟩,
  ⟨"Validating LCD interface", 1⟩,
  ⟨"Linking cockpit controller", 1⟩,
  ⟨"Calculating fuel reserves", 1⟩,
  ⟨"Analyzing thruster config", 1⟩,
  ⟨"Generating burn tables", 1⟩,
  ⟨"Arming on-board explosives", 3⟩,
  ⟨"Checking for valid EnCorp software license", 2⟩,
  ⟨"License confirmed.", 1⟩,
  ⟨"Disarming on-board explosives", 3⟩,
  ⟨"Gathering the courage to hate the poor", 2⟩,
  ⟨"Launching ΔV HUD", 1⟩]

def trailingFrames : Nat := 3

/-- The message shown at a place of the sequence; the last one stays. -/
def messageAt (index : Nat) : Message :=
  (messages[min index (messages.length - 1)]?).getD ⟨"", 1⟩

def barLength : Nat := 24

def spinner (frame : Nat) : Char :=
  match frame % 4 with
  | 0 => '|'
  | 1 => '/'
  | 2 => '-'
  | _ => '\\'

/-- The filled part of the bar; past the last step it stays full. -/
def filled (frame steps : Nat) : Nat :=
  min (frame * barLength / max steps 1) barLength

def bar (frame steps : Nat) : List Char :=
  '[' :: Layout.fill (filled frame steps) '#' ++
    Layout.fill (barLength - filled frame steps) '-' ++ [']']

/-- A line of the animation, which has no borders. -/
def centered (text : List Char) : List Char :=
  Layout.center text Report.boxWidth ' '

def frameLines (message : List Char) (frame steps : Nat) : List (List Char) :=
  [[], centered Report.title.toList, [], centered [spinner frame]] ++
    (Layout.wrap (Report.boxWidth - 2) (by decide) message).map centered ++
    [[], centered (bar frame steps), []]

def frameText (message : List Char) (frame steps : Nat) : String :=
  String.ofList (Report.written (frameLines message frame steps))

structure Position where
  /-- The message shown, counted on past the last one. -/
  step : Nat := 0
  /-- Frames it has been shown for. -/
  frame : Nat := 0
  deriving DecidableEq

namespace Position

def screen (position : Position) : String :=
  frameText (messageAt position.step).text.toList position.step (messages.length + 2)

def advance (position : Position) : Position :=
  if (messageAt position.step).frames ≤ position.frame + 1 then ⟨position.step + 1, 0⟩
  else ⟨position.step, position.frame + 1⟩

def isOver (position : Position) : Bool :=
  messages.length + trailingFrames ≤ position.step

end Position

end CockpitHud.Boot
