import ActionGraph.Text.Category
import ActionGraph.Text.Property
import ActionGraph.Text.Case

/-!
# Quoted texts in messages

A text in a message stands between double quotes, with quotes, backslashes
and line ends escaped.  Characters that would not be seen, and combining
characters, are written by their code point.
-/

namespace ActionGraph.Text

def extendingRanges : List (Nat × Nat) :=
  (Property.find? Property.properties "Grapheme_Extend".toList).getD []

def isPrintable (c : Char) : Bool :=
  c = ' ' || !(["Cc", "Cf", "Cs", "Co", "Cn", "Zl", "Zp", "Zs"].contains (category c))

def quoteChar (c : Char) : List Char :=
  match c.toNat with
  | 0x22 => ['\\', '"']
  | 0x5c => ['\\', '\\']
  | 0x0a => ['\\', 'n']
  | 0x0d => ['\\', 'r']
  | 0x09 => ['\\', 't']
  | 0 => ['\\', '0']
  | n =>
      if n < 128 ∧ 32 ≤ n ∧ n ≠ 127 then [c]
      else if inRanges extendingRanges n || !isPrintable c then
        ['\\', 'u', '{'] ++ Nat.toDigits 16 n ++ ['}']
      else [c]

def quoted (s : String) : String :=
  "\"" ++ String.ofList (s.toList.flatMap quoteChar) ++ "\""

end ActionGraph.Text
