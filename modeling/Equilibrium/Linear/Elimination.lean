import Equilibrium.Scalar

/-!
Systems of linear equations.

A square matrix is a list of its rows. Elimination takes out, one after the other, the row whose
first entry is the largest, and clears the first column of the others with it; what it notes down
on the way is enough to solve the system for any right-hand side. Multiples that are zero are not
subtracted, so a banded matrix costs no more than its band.
-/

namespace Equilibrium

variable {α : Type} [Scalar α]

@[specialize] def dot : List α → List α → α
  | x :: xs, y :: ys => x * y + dot xs ys
  | _, _ => 0

@[specialize] def lessMultiple (m : α) (xs ys : List α) : List α :=
  xs.zipWith (fun x y => x - m * y) ys

structure Pivot (α : Type) where
  /-- Which of the remaining rows is taken out. -/
  position : Nat
  head : α
  tail : List α
  /-- The multiple of it that is subtracted from each of the other rows. -/
  multiples : List α

abbrev Elimination (α : Type) := List (Pivot α)

/-- The position and the size of the largest first entry of some rows, counted from a position,
given the largest before them. -/
@[specialize] def largestHead (best : Nat × α) : Nat → List (List α) → Nat × α
  | _, [] => best
  | i, row :: rest =>
    let size := Scalar.abs (row.headD 0)
    largestHead (if best.2 < size then (i, size) else best) (i + 1) rest

@[specialize] def cleared (tail : List α) (row : List α) (m : α) : List α :=
  if m == 0 then row.tail else lessMultiple m row.tail tail

/-- The elimination of a square matrix of size `n`, unless it breaks off at a column without a
usable entry. -/
@[specialize] def eliminate? : (n : Nat) → List (List α) → Option (Elimination α)
  | 0, _ => some []
  | n + 1, rows =>
    let position := (largestHead (0, 0) 0 rows).1
    match rows[position]? with
    | some (head :: tail) =>
      if head == 0 || !Scalar.isFinite head then none
      else
        let others := rows.eraseIdx position
        let multiples := others.map fun row => row.headD 0 / head
        let reduced := others.zipWith (cleared tail) multiples
        (eliminate? n reduced).map (⟨position, head, tail, multiples⟩ :: ·)
    | _ => none

@[specialize] def Elimination.solve : Elimination α → List α → List α
  | [], _ => []
  | p :: rest, b =>
    let first := b.getD p.position 0
    let others := (b.eraseIdx p.position).zipWith (fun y m => y - m * first) p.multiples
    let xs := solve rest others
    (first - dot p.tail xs) / p.head :: xs

end Equilibrium
