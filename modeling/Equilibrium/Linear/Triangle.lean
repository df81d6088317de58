import Equilibrium.Linear.Elimination
import Equilibrium.Residual.Distance

/-!
Triangular systems.

A system with at least as many equations as unknowns is brought to triangular form by reflections,
one for each unknown, which leave the lengths of all columns as they are. The triangular system has
the solution of the given one, or where that has none, the values that come closest. Lengths are
taken relative to the largest entry, so that no square leaves the range of numbers.
-/

namespace Equilibrium

variable {α : Type} [Scalar α]

@[specialize] def euclidean (xs : List α) : α :=
  let largest := largestOrUndefined xs
  if largest == 0 || !Scalar.isFinite largest then largest
  else largest * Scalar.sqrt (sumSquares (xs.map (· / largest)))

structure TriangleRow (α : Type) where
  head : α
  tail : List α
  value : α

abbrev Triangle (α : Type) := List (TriangleRow α)

/-- A vector reflected at the plane that a normal vector stands on, whose first entry is half of its
squared length. -/
@[specialize] def reflected (normal xs : List α) : List α :=
  lessMultiple (dot normal xs / normal.headD 1) xs normal

/-- The normal vector of the reflection that leaves nothing of a column but its first entry, and
that entry. -/
@[specialize] def reflection (column : List α) : List α × α :=
  let length := euclidean column
  let signed := if column.headD 0 < 0 then -length else length
  if length == 0 then ([], 0)
  else match column.map (· / signed) with
    | [] => ([], 0)
    | a :: rest => ((a + 1) :: rest, -signed)

/-- The triangular form of a system that is given by its columns. -/
@[specialize] def triangulate (columns : List (List α)) (value : List α) : Triangle α :=
  match columns with
  | [] => []
  | column :: rest =>
    let (normal, head) := reflection column
    let reflect := fun xs => if normal.isEmpty then xs else reflected normal xs
    let others := rest.map reflect
    let value := reflect value
    ⟨head, others.map (·.headD 0), value.headD 0⟩ :: triangulate (others.map List.tail) value.tail
  termination_by columns.length

namespace Triangle

/-- The solution of a triangular system, zero for an unknown that no equation holds. -/
@[specialize] def solve : Triangle α → List α
  | [] => []
  | row :: rest =>
    let xs := solve rest
    (if row.head == 0 then 0 else (row.value - dot row.tail xs) / row.head) :: xs

@[specialize] def solveTransposed : Triangle α → List α → List α
  | row :: rest, b :: bs =>
    let x := b / row.head
    x :: solveTransposed rest (lessMultiple x bs row.tail)
  | _, _ => []

def isRegular (triangle : Triangle α) : Bool := triangle.all fun row => !(row.head == 0)

/-- The system with an entry in the place of each zero on the diagonal, small beside the others in
its column, the largest of which so far are given. -/
def raised : Triangle α → (above : List α) → Triangle α
  | row :: rest, largest :: above =>
    let small := if largest == 0 then Scalar.epsilon else Scalar.epsilon * largest
    let head := if row.head == 0 then small else row.head
    { row with head := head } ::
      raised rest (above.zipWith (fun a x => Scalar.larger a (Scalar.abs x)) row.tail)
  | _, _ => []

end Triangle

@[specialize] def columnsOf (n : Nat) (rows : List (List α)) : List (List α) :=
  (List.range n).map fun j => rows.map fun row => row.getD j 0

@[specialize] def timesVector (rows : List (List α)) (v : List α) : List α :=
  rows.map fun row => dot row v

@[specialize] def transposedTimes (n : Nat) (rows : List (List α)) (v : List α) : List α :=
  (rows.zip v).foldl (fun acc (row, c) => acc.zipWith (fun a r => a + r * c) row)
    (List.replicate n 0)

/-- The solution of a square system, or of one that is next to it and can be solved. -/
@[specialize] def solveSquare (rows : List (List α)) (value : List α) : List α :=
  let n := value.length
  match eliminate? n rows with
  | some e => e.solve value
  | none => ((triangulate (columnsOf n rows) value).raised (List.replicate n 0)).solve

end Equilibrium
