/-!
Lists inside messages: shapes between parentheses, numbers between brackets.
-/

namespace Equilibrium.Text

/-- A shape: `()`, `(3,)`, `(2, 3)`. The comma after a lone extent tells it from a number. -/
def shapeText : List Nat → String
  | [] => "()"
  | [n] => "(" ++ toString n ++ ",)"
  | extents => "(" ++ String.intercalate ", " (extents.map toString) ++ ")"

def denseShapeText : List Nat → String
  | [n] => shapeText [n]
  | extents => "(" ++ String.intercalate "," (extents.map toString) ++ ")"

/-- A list of whole numbers: `[3, -1]`. -/
def wholeList (ks : List Int) : String :=
  "[" ++ String.intercalate ", " (ks.map toString) ++ "]"

end Equilibrium.Text
