import Equilibrium.Inner.Solver
import Equilibrium.Linear.Difference
import Equilibrium.Linear.Triangle

/-!
What the numerical routines of inner solves have in common.

A routine goes from point to point and knows the value of the function and its length at each. Its
Jacobian is supplied or taken from differences, for which each component is moved by half of its
digits.
-/

namespace Equilibrium

variable {α : Type} [Scalar α]

structure SearchPoint (α : Type) where
  x : List α
  value : List α
  length : α

@[specialize] def SearchPoint.at (F : ListField α) (x : List α) :
    Except (Fault α) (SearchPoint α) := do
  let value ← F x
  return ⟨x, value, euclidean value⟩

def searchMove (x : α) : α :=
  let move := differenceStep * Scalar.abs x
  if move == 0 then differenceStep else move

/-- The Jacobian of a search, as a function of the point and the value there, and how many
evaluations of the function it takes. -/
structure SearchJacobian (α : Type) where
  rows : List α → List α → Except (Fault α) (List (List α))
  evaluations : Nat

def SearchJacobian.of (F : ListField α) (J : Option (Field α)) (n : Nat) : SearchJacobian α :=
  match J with
  | some J => ⟨fun x value => do
      return rowsOf n value.length (← J (.vector x)).entries, 0⟩
  | none => ⟨fun x value => differenceRows F x value (x.map searchMove), n⟩

/-- A routine's own limit on evaluations in the place of one that is not positive: so many for each
component and one more. -/
def evaluationLimit (limit : Int) (n : Nat) (supplied : Bool) : Nat :=
  if 0 < limit then limit.toNat else (if supplied then 100 else 200) * (n + 1)

@[specialize] def weighted (weights xs : List α) : List α := weights.zipWith (· * ·) xs

@[specialize] def columnWeights (columns : List (List α)) : List α :=
  columns.map fun column =>
    let length := euclidean column
    if length == 0 then 1 else length

/-- By how much a length falls, as a part of its square; minus one if it does not fall. -/
def reduction (before after otherwise : α) : α :=
  if after < before then 1 - after / before * (after / before) else otherwise

/-- How far the first step of a search may go, relative to the length of the point. -/
def firstReach : α := 100.0

def firstRadius (extent : α) : α :=
  let radius := firstReach * extent
  if radius == 0 then firstReach else radius

end Equilibrium
