import Equilibrium.Decimal.Binary
import Equilibrium.Residual.Mask
import Equilibrium.Tensor.Nested

/-!
Markings whose kind of entries is declared.

A marking may say beforehand what its entries are: flags, whole numbers of a width, or something
else. Every entry is then brought to that kind. A flag is what is not zero or empty; a whole number
is what is in front of the point, and must be within reach of the kind.
-/

namespace Equilibrium

-- A power is the one of the naturals, whatever else is known about numbers.
attribute [local instance (2000)] instPowNat

/-- What the entries of an array are declared to be. -/
inductive EntryKind where
  | flag
  | signed (bits : Nat)
  | unsigned (bits : Nat)
  | other
  deriving DecidableEq, Repr

inductive WrittenEntry where
  | flag (marked : Bool)
  | whole (k : Int)
  | real (x : Float)
  | word (text : String)
  /-- Anything else, with whether it is empty. -/
  | other (empty : Bool)

/-- The mark of a written entry of which nothing is declared. -/
def WrittenEntry.mark : WrittenEntry → Mark
  | flag marked => .flag marked
  | whole k => .index k
  | real _ | word _ | other _ => .other

def WrittenEntry.toFlag : WrittenEntry → Bool
  | flag marked => marked
  | whole k => k != 0
  | real x => x != 0
  | word text => !text.isEmpty
  | other empty => !empty

def widestBits : Nat := 64

def checkReach {α : Type} (low high k : Int) : Except (Fault α) Int :=
  if low ≤ k ∧ k ≤ high then .ok k else .error .beyondKind

/-- The whole number of a written entry in a kind that reaches from `low` to `high`. A number with a
point is only held against the widest kind, and taken around the kind's range. -/
def WrittenEntry.toWhole {α : Type} (entry : WrittenEntry) (low high : Int) :
    Except (Fault α) Int :=
  match entry with
  | flag marked => .ok (if marked then 1 else 0)
  | whole k => checkReach low high k
  | word text =>
    match text.toInt? with
    | some k => checkReach low high k
    | none => .error (.unreadable text)
  | real x =>
    match (Decimal.Binary.ofFloat x).whole? with
    | some k =>
      if -2 ^ (widestBits - 1) ≤ k ∧ k < 2 ^ widestBits then
        .ok ((k - low) % (high - low + 1) + low)
      else .error .beyondKind
    | none => .error (if x.isNaN then .notFinite else .beyondKind)
  | other _ => .error .notNumber

namespace EntryKind

def names : List (EntryKind × List String) := [
  (.flag, ["bool", "bool_", "b1", "?"]),
  (.signed 8, ["int8", "byte", "i1", "b"]),
  (.signed 16, ["int16", "short", "i2", "h"]),
  (.signed 32, ["int32", "intc", "i4", "i"]),
  (.signed 64, ["int64", "int", "int_", "long", "longlong", "intp", "i8", "l", "q", "p", "n"]),
  (.unsigned 8, ["uint8", "ubyte", "u1", "B"]),
  (.unsigned 16, ["uint16", "ushort", "u2", "H"]),
  (.unsigned 32, ["uint32", "uintc", "u4", "I"]),
  (.unsigned 64, ["uint64", "uint", "ulong", "ulonglong", "uintp", "u8", "L", "Q", "P", "N"]),
  (.other, ["float16", "half", "f2", "e", "float32", "single", "f4", "float64", "double", "float",
    "f8", "f", "d", "longdouble", "g", "complex64", "complex128", "complex", "c8", "c16", "object",
    "object_", "O", "str", "str_", "U", "bytes", "bytes_", "S"])]

def orderMarks : List Char := ['<', '>', '=', '|']

def sizedLetters : List Char := ['U', 'S', 'V']

def isSized (name : String) : Bool :=
  match name.toList with
  | c :: digits => sizedLetters.contains c && digits.all Char.isDigit
  | [] => false

def ofName {α : Type} (name : String) : Except (Fault α) EntryKind :=
  let bare := match name.toList with
    | c :: rest => if orderMarks.contains c then String.ofList rest else name
    | [] => name
  match names.find? fun (_, known) => known.contains bare with
  | some (kind, _) => .ok kind
  | none => if isSized bare then .ok .other else .error (.unknownKind name)

def mark {α : Type} (kind : EntryKind) (entry : WrittenEntry) : Except (Fault α) Mark :=
  match kind with
  | flag => .ok (.flag entry.toFlag)
  | signed bits => do return .declared (← entry.toWhole (-2 ^ (bits - 1)) (2 ^ (bits - 1) - 1))
  | unsigned bits => do return .declared (← entry.toWhole 0 (2 ^ bits - 1))
  | other => .ok .other

end EntryKind

def Marking.ofNested (nested : Nested WrittenEntry) : Marking :=
  match (nested.toTensor : Except (Fault Float) _) with
  | .ok found => .entries (found.map WrittenEntry.mark)
  | .error _ => .ragged

/-- The marking that nested lists of entries of a declared kind are. -/
def Marking.ofKind {α : Type} (kind : String) (nested : Nested WrittenEntry) :
    Except (Fault α) Marking := do
  let kind ← EntryKind.ofName kind
  let entries ← nested.toTensor
  let marks ← entries.entries.mapM kind.mark
  match (Tensor.vector marks).reshape? entries.shape with
  | some marks => return .entries marks
  | none => throw .ragged

end Equilibrium
