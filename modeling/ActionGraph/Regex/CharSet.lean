import ActionGraph.Text.Case
import ActionGraph.Text.Category
import ActionGraph.Text.Property

/-!
# Sets of characters

The sets that a pattern can name: ranges, general categories, and what set
operations make of them.  A folded set holds every character that differs
from one of its members in case only.
-/

namespace ActionGraph.Regex

inductive CharSet where
  | ranges (ranges : List (Nat × Nat))
  /-- A general category, or the group of all categories that begin with a letter. -/
  | category (name : String)
  | union (a b : CharSet)
  | inter (a b : CharSet)
  | diff (a b : CharSet)
  | compl (a : CharSet)
  | fold (a : CharSet)
  /-- Ignores case within the first 128 characters only. -/
  | foldAscii (a : CharSet)
deriving DecidableEq, Hashable

namespace CharSet

/-- The representative of the characters that differ in case only. -/
def caseClass (n : Nat) : Nat :=
  Text.shifted Text.foldRanges n

/-- The code points that a range of the case table shifts to a code point. -/
def preimage? (target : Nat) (range : Text.CaseRange) : Option Nat :=
  let source := ((target : Int) - range.shift).toNat
  if range.covers source && caseClass source == target then some source else none

/-- All characters that differ from a character in case only, itself included. -/
def caseVariants (c : Char) : List Char :=
  let target := caseClass c.toNat
  c :: Char.ofNat target :: (Text.foldRanges.filterMap (preimage? target)).map Char.ofNat

def asciiVariants (c : Char) : List Char :=
  [c, c.toLower, c.toUpper]

def contains : CharSet → Char → Bool
  | .ranges rs, c => Text.inRanges rs c.toNat
  | .category name, c =>
      if name.length = 1 then (Text.category c).toList.take 1 == name.toList
      else Text.category c == name
  | .union a b, c => a.contains c || b.contains c
  | .inter a b, c => a.contains c && b.contains c
  | .diff a b, c => a.contains c && !b.contains c
  | .compl a, c => !a.contains c
  | .fold a, c => a.contains c || (caseVariants c).any fun d => a.contains d
  | .foldAscii a, c => (asciiVariants c).any fun d => a.contains d

def single (c : Char) : CharSet :=
  .ranges [(c.toNat, c.toNat)]

def any : CharSet :=
  .ranges [(0, 0x10ffff)]

def none : CharSet :=
  .ranges []

def digit : CharSet :=
  .category "Nd"

def blank : CharSet :=
  .ranges ((Text.Property.find? Text.Property.properties "White_Space".toList).getD [])

def word : CharSet :=
  .union
    (.ranges ((Text.Property.find? Text.Property.properties "Alphabetic".toList).getD []))
    (.union (.category "M") (.union digit (.union (.category "Pc")
      (.ranges [(0x200c, 0x200d)]))))

def asciiDigit : CharSet :=
  .ranges [(48, 57)]

def asciiBlank : CharSet :=
  .ranges [(9, 13), (32, 32)]

def asciiWord : CharSet :=
  .ranges [(48, 57), (65, 90), (95, 95), (97, 122)]

def named? (name : String) : Option CharSet :=
  (rangesOf name).map .ranges
where
  rangesOf : String → Option (List (Nat × Nat))
    | "alnum" => some [(48, 57), (65, 90), (97, 122)]
    | "alpha" => some [(65, 90), (97, 122)]
    | "ascii" => some [(0, 127)]
    | "blank" => some [(9, 9), (32, 32)]
    | "cntrl" => some [(0, 31), (127, 127)]
    | "digit" => some [(48, 57)]
    | "graph" => some [(33, 126)]
    | "lower" => some [(97, 122)]
    | "print" => some [(32, 126)]
    | "punct" => some [(33, 47), (58, 64), (91, 96), (123, 126)]
    | "space" => some [(9, 13), (32, 32)]
    | "upper" => some [(65, 90)]
    | "word" => some [(48, 57), (65, 90), (95, 95), (97, 122)]
    | "xdigit" => some [(48, 57), (65, 70), (97, 102)]
    | _ => Option.none

def categoryNames : List (String × List String) :=
  [("C", ["c", "other"]), ("Cc", ["cc", "control", "cntrl"]), ("Cf", ["cf", "format"]),
   ("Cn", ["cn", "unassigned"]), ("Co", ["co", "privateuse"]), ("Cs", ["cs", "surrogate"]),
   ("L", ["l", "letter"]), ("LC", ["lc", "casedletter"]), ("Ll", ["ll", "lowercaseletter"]),
   ("Lm", ["lm", "modifierletter"]), ("Lo", ["lo", "otherletter"]),
   ("Lt", ["lt", "titlecaseletter"]), ("Lu", ["lu", "uppercaseletter"]),
   ("M", ["m", "mark", "combiningmark"]), ("Mc", ["mc", "spacingmark"]),
   ("Me", ["me", "enclosingmark"]), ("Mn", ["mn", "nonspacingmark"]), ("N", ["n", "number"]),
   ("Nd", ["nd", "decimalnumber", "digit"]), ("Nl", ["nl", "letternumber"]),
   ("No", ["no", "othernumber"]), ("P", ["p", "punctuation", "punct"]),
   ("Pc", ["pc", "connectorpunctuation"]), ("Pd", ["pd", "dashpunctuation"]),
   ("Pe", ["pe", "closepunctuation"]), ("Pf", ["pf", "finalpunctuation"]),
   ("Pi", ["pi", "initialpunctuation"]), ("Po", ["po", "otherpunctuation"]),
   ("Ps", ["ps", "openpunctuation"]), ("S", ["s", "symbol"]), ("Sc", ["sc", "currencysymbol"]),
   ("Sk", ["sk", "modifiersymbol"]), ("Sm", ["sm", "mathsymbol"]), ("So", ["so", "othersymbol"]),
   ("Z", ["z", "separator"]), ("Zl", ["zl", "lineseparator"]),
   ("Zp", ["zp", "paragraphseparator"]), ("Zs", ["zs", "spaceseparator"])]

/-- A name without case, blanks, hyphens, underscores and a beginning `is`. -/
def plainName (name : List Char) : List Char :=
  let plain := Text.Property.plainName name
  match plain with
  | 'i' :: 's' :: rest => if rest = ['c'] then plain else rest
  | _ => plain

def ofCategory? (name : List Char) : Option CharSet :=
  let name := String.ofList (plainName name)
  match name with
  | "any" => some any
  | "assigned" => some (.compl (.category "Cn"))
  | "ascii" => some (.ranges [(0, 127)])
  | _ =>
      match categoryNames.find? fun entry => entry.2.contains name with
      | some ("LC", _) =>
          some (.union (.category "Lu") (.union (.category "Ll") (.category "Lt")))
      | some (short, _) => some (.category short)
      | Option.none => Option.none

def ofScript? (name : List Char) : Option CharSet :=
  (Text.Property.find? Text.Property.scripts (plainName name)).map .ranges

def ofProperty? (name : List Char) : Option CharSet :=
  (Text.Property.find? Text.Property.properties (plainName name)).map .ranges

def ofName? (name : List Char) : Option CharSet :=
  let plain := plainName name
  let asProperty := if plain = ['c', 'f'] ∨ plain = ['s', 'c'] ∨ plain = ['l', 'c'] then Option.none
    else ofProperty? name
  asProperty.or ((ofCategory? name).or (ofScript? name))

def ofNameValue? (name value : List Char) : Option CharSet :=
  match String.ofList (plainName name) with
  | "gc" => ofCategory? value
  | "generalcategory" => ofCategory? value
  | "sc" => ofScript? value
  | "script" => ofScript? value
  | "scx" => ofScript? value
  | "scriptextensions" => ofScript? value
  | _ => Option.none

/-- The count of ranges that a set is made of, as a measure of its size. -/
def extent : CharSet → Nat
  | .ranges rs => rs.length
  | .category name => if name.length = 1 then 400 else 200
  | .union a b => a.extent + b.extent
  | .inter a b => a.extent + b.extent
  | .diff a b => a.extent + b.extent
  | .compl a => a.extent + 1
  | .fold a => 2 * a.extent
  | .foldAscii a => 2 * a.extent

end CharSet

end ActionGraph.Regex
