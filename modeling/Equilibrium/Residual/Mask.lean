import Equilibrium.Fault

/-!
Algebraic components.

Some components of a state carry no time derivative. They are marked by a list of flags, one for
each component, or by indices in any order, nested and repeated at will; nothing at all, and any
empty array, marks none. The two forms are told apart by the entries alone: flags mixed with
numbers count as the numbers one and zero.
-/

namespace Equilibrium

inductive Mark where
  | flag (marked : Bool)
  | index (k : Int)
  /-- A whole number of a kind that is declared for the whole array, which it therefore fits. -/
  | declared (k : Int)
  | other
  deriving DecidableEq, Repr

/-- Which components of a state are algebraic, as a caller says it. -/
inductive Marking where
  | absent
  | entries (marks : Tensor Mark)
  | ragged
  | notIterable

/-- A mask holds, for each component of a state, whether it is algebraic. -/
abbrev Mask := List Bool

namespace Mark

def isFlag : Mark → Bool
  | flag _ => true
  | _ => false

def toFlag : Mark → Bool
  | flag marked => marked
  | _ => false

/-- The whole number that an entry counts as. -/
def toIndex? : Mark → Option Int
  | flag marked => some (if marked then 1 else 0)
  | index k | declared k => some k
  | other => none

def fitsSigned : Mark → Bool
  | flag _ | declared _ => true
  | index k => Int64.minValue.toInt ≤ k && k ≤ Int64.maxValue.toInt
  | other => false

/-- Whether an entry needs an unsigned machine word and fits it; a flag fits every word. -/
def fitsUnsigned : Mark → Bool
  | flag _ | declared _ => true
  | index k => Int64.maxValue.toInt < k && k < UInt64.size
  | other => false

end Mark

/-- The entries of a marking as indices, if they are whole numbers of one kind of machine word. -/
def indices? (marks : List Mark) : Option (List Int) :=
  if marks.all Mark.fitsSigned || marks.all Mark.fitsUnsigned then marks.mapM Mark.toIndex?
  else none

def unmarked {α : Type} (n : Int) : Except (Fault α) Mask :=
  if n < 0 then .error .negativeLength else .ok (List.replicate n.toNat false)

def markedAt (n : Nat) (indices : List Int) : Mask :=
  (List.range n).map fun i => indices.contains (Int.ofNat i)

@[simp] theorem length_markedAt (n : Nat) (indices : List Int) :
    (markedAt n indices).length = n := by
  simp [markedAt]

namespace Marking

def ofMask (mask : Mask) : Marking := .entries (Tensor.vector (mask.map Mark.flag))

/-- The mask of a state of length `n` that a marking stands for. -/
def mask {α : Type} (marking : Marking) (n : Int) : Except (Fault α) Mask :=
  match marking with
  | .absent => unmarked n
  | .ragged => .error .ragged
  | .notIterable => .error .notIterable
  | .entries marks =>
    if marks.entries.isEmpty then unmarked n
    else if marks.entries.all Mark.isFlag then
      if marks.shape.map Int.ofNat = [n] then .ok (marks.entries.map Mark.toFlag)
      else .error (.maskShape marks.shape n)
    else
      match indices? marks.entries with
      | none => .error .maskKind
      | some indices =>
        if indices.all fun k => 0 ≤ k && k < n then .ok (markedAt n.toNat indices)
        else .error (.maskRange n indices)

@[simp] theorem mask_absent {α : Type} (n : Nat) :
    (absent.mask n : Except (Fault α) Mask) = .ok (List.replicate n false) := by
  simp [mask, unmarked]

end Marking

end Equilibrium
