namespace CockpitHud

inductive Direction where
  | forward
  | backward
  | left
  | right
  | up
  | down
  deriving DecidableEq, Repr

namespace Direction

def all : List Direction :=
  [.forward, .backward, .left, .right, .up, .down]

/-- A nozzle that points one way pushes the grid the other way. -/
def opposite : Direction → Direction
  | .forward => .backward
  | .backward => .forward
  | .left => .right
  | .right => .left
  | .up => .down
  | .down => .up

def name : Direction → String
  | .forward => "Forward"
  | .backward => "Backward"
  | .left => "Left"
  | .right => "Right"
  | .up => "Up"
  | .down => "Down"

def index : Direction → Nat
  | .forward => 0
  | .backward => 1
  | .left => 2
  | .right => 3
  | .up => 4
  | .down => 5

def ofIndex? (index : Nat) : Option Direction :=
  all[index]?

def ofName? (name : String) : Option Direction :=
  all.find? fun direction => direction.name == name

end Direction

structure PerDirection (α : Type) where
  forward : α
  backward : α
  left : α
  right : α
  up : α
  down : α
  deriving DecidableEq

namespace PerDirection

variable {α : Type}

def replicate (a : α) : PerDirection α :=
  ⟨a, a, a, a, a, a⟩

def get (table : PerDirection α) : Direction → α
  | .forward => table.forward
  | .backward => table.backward
  | .left => table.left
  | .right => table.right
  | .up => table.up
  | .down => table.down

def modify (table : PerDirection α) (direction : Direction) (f : α → α) : PerDirection α :=
  match direction with
  | .forward => { table with forward := f table.forward }
  | .backward => { table with backward := f table.backward }
  | .left => { table with left := f table.left }
  | .right => { table with right := f table.right }
  | .up => { table with up := f table.up }
  | .down => { table with down := f table.down }

@[simp] theorem get_replicate (a : α) (direction : Direction) :
    (replicate a).get direction = a := by
  cases direction <;> rfl

theorem get_modify (table : PerDirection α) (d e : Direction) (f : α → α) :
    (table.modify d f).get e = if e = d then f (table.get e) else table.get e := by
  cases d <;> cases e <;> rfl

end PerDirection

end CockpitHud
