import ActionGraph.Template.Arithmetic
import ActionGraph.Text.Case
import ActionGraph.Text.Split

/-!
# Filters, tests and functions of templates

A filter makes a value from a value and arguments, a test makes a truth
value.  In strict templates what takes a text does not take an undefined
value.
-/

namespace ActionGraph.Template

/-- The values of the arguments of a call: those without a name and those with one. -/
structure Arguments where
  plain : List Value
  named : List (String × Value)

namespace Arguments

/-- All arguments one after another; those with a name make one map. -/
def all (arguments : Arguments) : List Value :=
  if arguments.named.isEmpty then arguments.plain
  else arguments.plain ++
    [.ofEntries (arguments.named.map fun entry => (.str entry.1, entry.2))]

def named? (arguments : Arguments) (name : String) : Option Value :=
  Entries.find? name arguments.named

end Arguments

namespace Filter

/-- A text, which in strict templates has to be defined. -/
def textOf (strict : Bool) (value : Value) : Except Trouble (List Char) :=
  if strict && value.isUndefined then .error .undefined else .ok value.text.toList

/-- An argument that may be left out, undefined or none. -/
def given? : Option Value → Option Value
  | some (.undefined _) => none
  | some .none => none
  | given => given

def onText (strict : Bool) (f : List Char → List Char) (value : Value) (arguments : Arguments) :
    Except Trouble Value := do
  let text ← textOf strict value
  match arguments.all with
  | [] => return .ofChars (f text)
  | _ => throw .tooManyArguments

def onValue (f : Value → Except Trouble Value) (value : Value) (arguments : Arguments) :
    Except Trouble Value :=
  match arguments.all with
  | [] => f value
  | _ => .error .tooManyArguments

def isPunctuation (c : Char) : Bool :=
  decide ((33 ≤ c.toNat ∧ c.toNat ≤ 47) ∨ (58 ≤ c.toNat ∧ c.toNat ≤ 64)
    ∨ (91 ≤ c.toNat ∧ c.toNat ≤ 96) ∨ (123 ≤ c.toNat ∧ c.toNat ≤ 126))

/-- Each word with a capital letter; words end at blanks and at punctuation. -/
def title (begins : Bool) : List Char → List Char
  | [] => []
  | c :: rest =>
      if isPunctuation c || Text.isBlank c then c :: title true rest
      else (if begins then Text.upperChar c else Text.lowerChar c) ++ title false rest

/-- The text with a capital letter and no others. -/
def capitalize : List Char → List Char
  | [] => []
  | c :: rest => Text.upperChar c ++ Text.lower rest

def replaceAll (old new : List Char) : Nat → List Char → List Char
  | 0, cs => cs
  | _, [] => []
  | fuel + 1, c :: rest =>
      match Text.stripStart? old (c :: rest) with
      | some after => new ++ replaceAll old new fuel after
      | none => c :: replaceAll old new fuel rest

/-- Replace the occurrences of a text; an empty one occurs around every character. -/
def replaced (old new text : List Char) : List Char :=
  if old.isEmpty then new ++ text.flatMap fun c => c :: new
  else replaceAll old new text.length text

def replaceText (strict : Bool) (value : Value) (arguments : Arguments) :
    Except Trouble Value := do
  let text ← textOf strict value
  match arguments.all with
  | [old, new] => return .ofChars (replaced (← textOf strict old) (← textOf strict new) text)
  | [_] => throw .missingArgument
  | [] => throw .missingArgument
  | _ => throw .tooManyArguments

/-- A text without certain characters at its ends; those are the blanks if none are given. -/
def trim (strict : Bool) (value : Value) (arguments : Arguments) : Except Trouble Value := do
  let text ← textOf strict value
  match arguments.all with
  | [] => return .ofChars (Text.trim text)
  | [chars] =>
      match given? (some chars) with
      | none => return .ofChars (Text.trim text)
      | some chars =>
          let chars := chars.text.toList
          let drop := fun (cs : List Char) => cs.dropWhile chars.contains
          return .ofChars (drop (drop text).reverse).reverse
  | _ => throw .tooManyArguments

def length (value : Value) : Except Trouble Value :=
  match value.length? with
  | some n => .ok (.ofNat n)
  | none => .error (.invalidOperation ("cannot calculate length of value of type " ++ value.kind))

/-- Another value in place of an undefined one or, if asked for, of one that is not true. -/
def default (value : Value) (arguments : Arguments) : Except Trouble Value :=
  let choose (other : Option Value) (lax : Bool) : Value :=
    if value.isUndefined || (lax && !value.isTrue) then ((given? other).getD (.str ""))
    else value
  match arguments.all with
  | [] => .ok (choose none false)
  | [other] => .ok (choose (some other) false)
  | [other, lax] =>
      match given? (some lax) with
      | none => .ok (choose (some other) false)
      | some (.bool b) => .ok (choose (some other) b)
      | some lax => .error (.invalidOperation ("cannot convert " ++ lax.kind ++ " to bool"))
  | _ => .error .tooManyArguments

/--
The texts of items with a text between them; nothing stands before the first
that is not empty.
-/
def joined (between : String) (items : List Value) : String :=
  items.foldl
    (fun sofar item => (if sofar.isEmpty then sofar else sofar ++ between) ++ item.text) ""

def join (value : Value) (arguments : Arguments) : Except Trouble Value :=
  match arguments.all with
  | _ :: _ :: _ => .error .tooManyArguments
  | given =>
      let between := ((given? given.head?).map Value.text).getD ""
      match value.items? with
      | some items => .ok (.str (joined between items))
      | none => .error (.invalidOperation ("cannot join value of type " ++ value.kind))

def first : Value → Except Trouble Value
  | .str s => .ok ((s.toList.head?.map fun c => Value.ofChars [c]).getD .missing)
  | .list items => .ok (items.head?.getD .missing)
  | .map entries => .ok ((entries.head?.map (·.1)).getD .missing)
  | _ => .error (.invalidOperation "cannot get first item from value")

def last : Value → Except Trouble Value
  | .str s => .ok ((s.toList.getLast?.map fun c => Value.ofChars [c]).getD .missing)
  | .list items => .ok (items.getLast?.getD .missing)
  | _ => .error (.invalidOperation "cannot get last item from value")

def reverse : Value → Except Trouble Value
  | .undefined silent => .ok (.undefined silent)
  | .none => .ok .none
  | .str s => .ok (.ofChars s.toList.reverse)
  | .list items => .ok (.list items.reverse)
  | .map entries => .ok (.list (entries.map (·.1)).reverse)
  | value => .error (.invalidOperation ("cannot reverse values of type " ++ value.kind))

def abs : Value → Except Trouble Value
  | .int z => .ok (.int z.natAbs)
  | .float x => .ok (.float (.ofFloat x.toFloat.abs))
  | _ => .error (.invalidOperation "cannot get absolute value")

def pairs : Value → Except Trouble Value
  | .map entries => .ok (.list (entries.map fun entry => .list [entry.1, entry.2]))
  | _ => .error (.invalidOperation "cannot convert value into pair list")

/-- The value at a path of attributes and places. -/
def atPath? (path : String) (value : Value) : Option Value :=
  (Text.pieces '.' path.toList).foldl
    (fun found piece =>
      found.bind fun value =>
        match Text.index? piece with
        | some n => value.item? (.ofNat n)
        | none => value.attribute? (String.ofList piece))
    (some value)

/-- The order of two values, of texts without regard to case unless it is asked for. -/
def sortOrder (caseSensitive : Bool) (a b : Value) : Ordering :=
  match caseSensitive, a, b with
  | false, .str s, .str t =>
      compare (String.ofList (Text.lower s.toList)) (String.ofList (Text.lower t.toList))
  | _, _, _ => a.order b

def sort (strict : Bool) (value : Value) (arguments : Arguments) : Except Trouble Value := do
  if !arguments.plain.isEmpty then throw .tooManyArguments
  if strict && value.isUndefined then throw .undefined
  match value.items? with
  | none => throw (.invalidOperation "cannot convert value to list")
  | some items =>
      let flag := fun name => ((arguments.named? name).map Value.isTrue).getD false
      let caseSensitive := flag "case_sensitive"
      let order := fun (a b : Value) =>
        match arguments.named? "attribute" with
        | some path =>
            match atPath? path.text a, atPath? path.text b with
            | some a, some b => sortOrder caseSensitive a b
            | _, _ => .eq
        | none => sortOrder caseSensitive a b
      let sorted := items.mergeSort fun a b => order a b != .gt
      return .list (if flag "reverse" then sorted.reverse else sorted)

def apply (strict : Bool) (name : String) (value : Value) (arguments : Arguments) :
    Except Trouble Value :=
  match name with
  | "upper" => onText strict Text.upper value arguments
  | "lower" => onText strict Text.lower value arguments
  | "title" => onText strict (title true) value arguments
  | "capitalize" => onText strict capitalize value arguments
  | "trim" => trim strict value arguments
  | "replace" => replaceText strict value arguments
  | "length" => onValue length value arguments
  | "count" => onValue length value arguments
  | "default" => default value arguments
  | "d" => default value arguments
  | "join" => join value arguments
  | "first" => onValue first value arguments
  | "last" => onValue last value arguments
  | "reverse" => onValue reverse value arguments
  | "abs" => onValue abs value arguments
  | "sort" => sort strict value arguments
  | "items" => onValue pairs value arguments
  | _ => .error (.unknownFilter name)

end Filter

def Value.test (name : String) (value : Value) (arguments : Arguments) : Except Trouble Bool := do
  let known? : Option Bool := match name with
    | "defined" => some !value.isUndefined
    | "undefined" => some value.isUndefined
    | "none" => some (value.same .none)
    | "true" => some (match value with | .bool b => b | _ => false)
    | "false" => some (match value with | .bool b => !b | _ => false)
    | "boolean" => some (value.kind == "bool")
    | "number" => some (value.kind == "number")
    | "string" => some (value.kind == "string")
    | "sequence" => some (value.kind == "sequence")
    | "mapping" => some (value.kind == "map")
    | "iterable" => some value.items?.isSome
    | "integer" => some (match value with | .int _ => true | _ => false)
    | "float" => some (match value with | .float _ => true | _ => false)
    | _ => Option.none
  match known? with
  | Option.none => throw (.unknownTest name)
  | some passed => if arguments.all.isEmpty then return passed else throw .tooManyArguments

/-- The longest list that `range` makes. -/
def rangeLimit : Nat :=
  100000

def range (arguments : Arguments) : Except Trouble Value := do
  let integer := fun (value : Value) =>
    match value.integer? with
    | some z => Except.ok z
    | none => .error (Trouble.invalidOperation ("cannot convert " ++ value.kind ++ " to i64"))
  let (start, stop, step) : Int × Int × Int ← match arguments.all with
    | [stop] => do pure (0, ← integer stop, 1)
    | [start, stop] => do pure (← integer start, ← integer stop, 1)
    | [start, stop, step] => do pure (← integer start, ← integer stop, ← integer step)
    | [] => throw .missingArgument
    | _ => throw .tooManyArguments
  if step = 0 then throw (.invalidOperation "cannot create range with step of 0")
  let span := if 0 < step then stop - start else start - stop
  let count := (span.toNat + step.natAbs - 1) / step.natAbs
  if rangeLimit < count then throw (.invalidOperation "range has too many elements")
  return .list ((List.range count).map fun (i : Nat) => .int (start + step * i))

end ActionGraph.Template
