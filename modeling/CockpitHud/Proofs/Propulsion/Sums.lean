import CockpitHud.Propulsion.Total
import Mathlib

namespace CockpitHud.Propulsion

variable {withManeuvering : Bool}

/-- Thrust and consumption of a thruster, if its model counts. -/
def share? (withManeuvering : Bool) (thruster : Thruster) : Option (Float × Float) :=
  (counted? thruster.model withManeuvering).map fun flow => (thruster.maxThrust, flow)

def shares (withManeuvering : Bool) (thrusters : List Thruster) : List (Float × Float) :=
  thrusters.filterMap (share? withManeuvering)

def sumOf (values : List Float) : Float :=
  values.foldl (· + ·) 0.0

def Total.ofShares (shares : List (Float × Float)) : Total where
  thrust := sumOf (shares.map Prod.fst)
  flow := sumOf (shares.map Prod.snd)
  contributors := shares.length

theorem shares_cons (thruster : Thruster) (thrusters : List Thruster) :
    shares withManeuvering (thruster :: thrusters) =
      (share? withManeuvering thruster).toList ++ shares withManeuvering thrusters := by
  rw [shares, List.filterMap_cons]
  cases share? withManeuvering thruster <;> rfl

theorem addThruster_eq (total : Total) (thruster : Thruster) :
    total.addThruster withManeuvering thruster =
      (share? withManeuvering thruster).elim total fun share => total.add share.1 share.2 := by
  unfold Total.addThruster share?
  cases counted? thruster.model withManeuvering <;> rfl

theorem foldl_addThruster (thrusters : List Thruster) (total : Total) :
    thrusters.foldl (Total.addThruster withManeuvering) total =
      ⟨((shares withManeuvering thrusters).map Prod.fst).foldl (· + ·) total.thrust,
        ((shares withManeuvering thrusters).map Prod.snd).foldl (· + ·) total.flow,
        total.contributors + (shares withManeuvering thrusters).length⟩ := by
  induction thrusters generalizing total with
  | nil => rfl
  | cons thruster thrusters ih =>
    rw [List.foldl_cons, ih, shares_cons, addThruster_eq]
    cases share? withManeuvering thruster with
    | none => rfl
    | some share =>
      rw [Option.elim_some, Option.toList_some, List.singleton_append, List.length_cons,
        Nat.add_comm _ 1, ← Nat.add_assoc]
      rfl

/-- Thrusters added one by one have the total of their shares. -/
theorem foldl_addThruster_zero (thrusters : List Thruster) :
    thrusters.foldl (Total.addThruster withManeuvering) .zero =
      .ofShares (shares withManeuvering thrusters) := by
  rw [foldl_addThruster]
  change (⟨_, _, 0 + _⟩ : Total) = _
  rw [Nat.zero_add]
  rfl

/-- A total holds three sums over the thrusters that count, each from zero and in their order. -/
theorem groupTotal_eq (readings : BlockId → Option Thruster) (members : List BlockId) :
    groupTotal readings withManeuvering members =
      .ofShares (shares withManeuvering (members.filterMap readings)) :=
  foldl_addThruster_zero _

end CockpitHud.Propulsion
