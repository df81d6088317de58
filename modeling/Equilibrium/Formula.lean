import Equilibrium.Fault

/-!
Formulas.

A formula is one component of a function of a state, written down: arithmetic on numbers, entries
of the state and the position of the component. It is evaluated at one component, in the order in
which it is written, and of a condition only the branch that holds is looked at. A formula may also
say that the function fails there, and how.
-/

namespace Equilibrium

class Elementary (α : Type) extends Scalar α where
  exp : α → α
  sin : α → α
  cos : α → α
  tanh : α → α

instance : Elementary Float where
  exp := Float.exp
  sin := Float.sin
  cos := Float.cos
  tanh := Float.tanh

namespace Formula

inductive Unary where
  | negate
  | abs
  | square
  | sqrt
  | exp
  | sin
  | cos
  | tanh
  deriving DecidableEq, Repr

inductive Binary where
  | add
  | subtract
  | multiply
  | divide
  deriving DecidableEq, Repr

inductive Relation where
  | less
  | lessOrEqual
  | greater
  | greaterOrEqual
  | equal
  deriving DecidableEq, Repr

def Unary.name : Unary → String
  | negate => "neg"
  | abs => "abs"
  | square => "sq"
  | sqrt => "sqrt"
  | exp => "exp"
  | sin => "sin"
  | cos => "cos"
  | tanh => "tanh"

def Unary.ofName? (name : String) : Option Unary :=
  [negate, abs, square, sqrt, exp, sin, cos, tanh].find? fun op => op.name == name

def Binary.name : Binary → String
  | add => "+"
  | subtract => "-"
  | multiply => "*"
  | divide => "/"

def Binary.ofName? (name : String) : Option Binary :=
  [add, subtract, multiply, divide].find? fun op => op.name == name

def Relation.name : Relation → String
  | less => "<"
  | lessOrEqual => "<="
  | greater => ">"
  | greaterOrEqual => ">="
  | equal => "=="

def Relation.ofName? (name : String) : Option Relation :=
  [less, lessOrEqual, greater, greaterOrEqual, equal].find? fun r => r.name == name

variable {α : Type}

def Unary.apply [Elementary α] : Unary → α → α
  | negate, x => -x
  | abs, x => Scalar.abs x
  | square, x => x * x
  | sqrt, x => Scalar.sqrt x
  | exp, x => Elementary.exp x
  | sin, x => Elementary.sin x
  | cos, x => Elementary.cos x
  | tanh, x => Elementary.tanh x

def Binary.apply [Scalar α] : Binary → α → α → α
  | add, x, y => x + y
  | subtract, x, y => x - y
  | multiply, x, y => x * y
  | divide, x, y => x / y

def Relation.holds [Scalar α] : Relation → α → α → Bool
  | less, x, y => x < y
  | lessOrEqual, x, y => x ≤ y
  | greater, x, y => y < x
  | greaterOrEqual, x, y => y ≤ x
  | equal, x, y => x == y

end Formula

/-- One component of a function of a state. -/
inductive Formula (α : Type) where
  | const (x : α)
  /-- The entry of the state at a position; a negative one counts from the end. -/
  | entry (position : Int)
  /-- The entry of the state at the component's own position. -/
  | own
  /-- The entry so many positions further on, or a number where there is none. -/
  | neighbour (offset : Int) (otherwise : α)
  | position
  | length
  | total
  | unary (op : Formula.Unary) (a : Formula α)
  | binary (op : Formula.Binary) (a b : Formula α)
  | choose (relation : Formula.Relation) (a b yes no : Formula α)
  | fail (signal : Signal) (text : String)

namespace Formula

variable {α : Type} [Elementary α]

structure Argument (α : Type) where
  shape : List Nat
  entries : Array α

namespace Argument

def length (y : Argument α) : Except (Fault α) Nat :=
  match y.shape with
  | [] => .error .notIterable
  | n :: _ => .ok n

/-- The entry of a state at a position, counted from the end if it is negative. A single number has
no entries, and those of an array of more axes are no numbers. -/
def entryAt (y : Argument α) (position : Int) : Except (Fault α) α :=
  match y.shape with
  | [] => .error (.tooFewAxes 0 1)
  | n :: rest =>
    let i := if position < 0 then position + n else position
    if i < 0 ∨ n ≤ i then .error (.noSuchEntry position 0 n)
    else match rest, y.entries[i.toNat]? with
      | [], some x => .ok x
      | _, _ => .error .notNumber

/-- The entry of a state at a position where there is one, else a number. -/
def entryOr (y : Argument α) (position : Int) (otherwise : α) : Except (Fault α) α := do
  let n ← y.length
  if 0 ≤ position ∧ position < n then y.entryAt position else return otherwise

def total (y : Argument α) : Except (Fault α) α :=
  match y.shape with
  | [] => .error .notIterable
  | [_] => .ok (y.entries.foldl (· + ·) 0)
  | n :: _ => if n = 0 then .ok 0 else .error .notNumber

end Argument

def eval (y : Argument α) (i : Nat) : Formula α → Except (Fault α) α
  | const x => .ok x
  | entry k => y.entryAt k
  | own => y.entryAt i
  | neighbour offset otherwise => y.entryOr (i + offset) otherwise
  | position => .ok (Scalar.ofNat i)
  | length => do return Scalar.ofNat (← y.length)
  | total => y.total
  | unary op a => do return op.apply (← eval y i a)
  | binary op a b => do
    let x ← eval y i a
    let z ← eval y i b
    return op.apply x z
  | choose relation a b yes no => do
    let x ← eval y i a
    let z ← eval y i b
    if relation.holds x z then eval y i yes else eval y i no
  | fail signal text => .error (.signalled signal text)

end Formula

end Equilibrium
