import Equilibrium.Formula

/-!
Reading formulas.

A formula is written as a term: a number, a word, or a list that starts with the name of what it
stands for. Numbers may also be written as words where they have no digits. An operation on two
numbers takes further ones from the left.
-/

namespace Equilibrium

inductive Term (α : Type) where
  | whole (k : Int)
  | real (x : α)
  | word (text : String)
  | list (items : List (Term α))
  deriving Nonempty

/-- The signal of a kind of failure. -/
def Signal.ofName : String → Signal
  | "LinAlgError" => .singular
  | "FloatingPointError" => .trapped
  | "InitialResidualError" => .undefinedStart
  | kind => .other kind

namespace Term

variable {α : Type} [Scalar α]

def number? : Term α → Option α
  | whole k => some (Scalar.ofInt k)
  | real x => some x
  | word "nan" => some Scalar.undefined
  | word "inf" => some Scalar.infinity
  | word "-inf" => some (-Scalar.infinity)
  | _ => none

end Term

namespace Formula

variable {α : Type} [Scalar α]

def ofLeaf? : List (Term α) → Option (Formula α)
  | [.word "y", .whole k] => some (.entry k)
  | [.word "yi"] => some .own
  | [.word "yat", .whole offset, otherwise] => otherwise.number?.map (.neighbour offset)
  | [.word "i"] => some .position
  | [.word "n"] => some .length
  | [.word "sum"] => some .total
  | [.word "raise", .word kind, .word text] => some (.fail (Signal.ofName kind) text)
  | _ => none

def ofParts? (name : String) (parts : List (Formula α)) : Option (Formula α) :=
  match Unary.ofName? name, Binary.ofName? name, parts with
  | some op, _, [a] => some (.unary op a)
  | _, some op, a :: rest => some (rest.foldl (.binary op) a)
  | _, _, _ => none

mutual

def ofTerm? : Term α → Option (Formula α)
  | .list items =>
    match ofLeaf? items with
    | some leaf => some leaf
    | none => ofItems? items
  | other => other.number?.map .const

/-- The formula of a list that starts with a name. -/
def ofItems? : List (Term α) → Option (Formula α)
  | .word "if" :: .word relation :: rest =>
    match Relation.ofName? relation, ofTerms? rest with
    | some r, some [a, b, yes, no] => some (.choose r a b yes no)
    | _, _ => none
  | .word name :: rest => do ofParts? name (← ofTerms? rest)
  | _ => none

def ofTerms? : List (Term α) → Option (List (Formula α))
  | [] => some []
  | t :: rest => do return (← ofTerm? t) :: (← ofTerms? rest)

end

end Formula

end Equilibrium
