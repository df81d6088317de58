import Equilibrium.Text.Printable

/-!
Quoted text.

A name that a message repeats stands between apostrophes, or between double quotes when it holds an
apostrophe and no double quote. Inside, the backslash and the quote in use are written after a
backslash, as are tab, line feed and carriage return; any other character without a form of its own
is written by its code point, in two, four or eight digits.
-/

namespace Equilibrium.Text

/-- The character that quotes a name unless the name decides otherwise. -/
def apostrophe : Char := Char.ofNat 39

/-- The digits of a code point, in lower case and at least `width` of them. -/
def hexText (width n : Nat) : String :=
  let digits := Nat.toDigits 16 n
  String.ofList (List.replicate (width - digits.length) '0' ++ digits)

def escapeChar (quote c : Char) : String :=
  if c = quote ∨ c = '\\' then String.ofList ['\\', c]
  else if c = '\t' then "\\t"
  else if c = '\n' then "\\n"
  else if c = '\r' then "\\r"
  else if isPrintable c then String.singleton c
  else if c.toNat < 0x100 then "\\x" ++ hexText 2 c.toNat
  else if c.toNat < 0x10000 then "\\u" ++ hexText 4 c.toNat
  else "\\U" ++ hexText 8 c.toNat

/-- The quote that a text is put between. -/
def quoteFor (s : String) : Char :=
  if s.toList.contains apostrophe && !s.toList.contains '"' then '"' else apostrophe

def quoted (s : String) : String :=
  let quote := quoteFor s
  String.singleton quote ++ String.join (s.toList.map (escapeChar quote)) ++ String.singleton quote

end Equilibrium.Text
