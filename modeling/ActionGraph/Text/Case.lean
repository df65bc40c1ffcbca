import ActionGraph.Text.CaseTable

/-!
# Case of texts

Lower and upper case over all characters.  Lower case is taken character by
character, with two exceptions: a dotted capital I becomes two characters,
and a capital sigma takes its final form at the end of a word, that is, where
the nearest character before it that is not passed over has case and the
nearest behind it has none.
-/

namespace ActionGraph.Text

def inRanges (ranges : List (Nat × Nat)) (n : Nat) : Bool :=
  ranges.any fun range => decide (range.1 ≤ n ∧ n ≤ range.2)

/-- The code point that the first range to cover a code point shifts it to. -/
def shifted (ranges : List CaseRange) (n : Nat) : Nat :=
  match ranges.find? (·.covers n) with
  | some range => (n + range.shift).toNat
  | none => n

def isCased (c : Char) : Bool :=
  inRanges casedRanges c.toNat

def isCaseIgnorable (c : Char) : Bool :=
  inRanges caseIgnorableRanges c.toNat

def lowerChar (c : Char) : List Char :=
  if c.toNat < 128 then [c.toLower]
  else if c.toNat = 0x130 then ['i', Char.ofNat 0x307]
  else [Char.ofNat (shifted lowerRanges c.toNat)]

/-- Whether the nearest character that is not passed over has case. -/
def casedAhead (cs : List Char) : Bool :=
  match cs.dropWhile isCaseIgnorable with
  | c :: _ => isCased c
  | [] => false

/-- The lower case of a text, given the characters before it from the last to the first. -/
def lowerFrom (before : List Char) : List Char → List Char
  | [] => []
  | c :: rest =>
      let lower :=
        if c.toNat = 0x3a3 then
          [Char.ofNat (if casedAhead before && !casedAhead rest then 0x3c2 else 0x3c3)]
        else lowerChar c
      lower ++ lowerFrom (c :: before) rest

def lower (cs : List Char) : List Char :=
  lowerFrom [] cs

def upperChar (c : Char) : List Char :=
  if c.toNat < 128 then [c.toUpper]
  else
    match upperExpansions.find? fun entry => entry.1 = c.toNat with
    | some (_, expansion) => expansion.map Char.ofNat
    | none => [Char.ofNat (shifted upperRanges c.toNat)]

def upper (cs : List Char) : List Char :=
  cs.flatMap upperChar

def isBlank (c : Char) : Bool :=
  inRanges [(9, 13), (32, 32), (133, 133), (160, 160), (5760, 5760), (8192, 8202), (8232, 8233),
    (8239, 8239), (8287, 8287), (12288, 12288)] c.toNat

def trimStart (cs : List Char) : List Char :=
  cs.dropWhile isBlank

def trimEnd (cs : List Char) : List Char :=
  (cs.reverse.dropWhile isBlank).reverse

def trim (cs : List Char) : List Char :=
  trimEnd (trimStart cs)

def words (cs : List Char) : List (List Char) :=
  go cs []
where
  go : List Char → List Char → List (List Char)
    | [], [] => []
    | [], word => [word.reverse]
    | c :: rest, word =>
        if isBlank c then
          if word.isEmpty then go rest [] else word.reverse :: go rest []
        else go rest (c :: word)

end ActionGraph.Text
