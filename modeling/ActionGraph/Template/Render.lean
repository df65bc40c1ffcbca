import ActionGraph.Context.Basic
import ActionGraph.Failure
import ActionGraph.Template.Filter
import ActionGraph.Template.Parse

/-!
# Rendering templates

A template is rendered against the view of a context.  Text without markers
of expressions and statements stands for itself.  An undefined value renders
as nothing or, in strict templates, is a failure.
-/

namespace ActionGraph.Template

/-- What names stand for, innermost first, and whether undefined values are objected to. -/
structure Scope where
  strict : Bool
  frames : List (List (String × Value))
  view : Value
  /-- How many loops are around. -/
  depth : Nat

namespace Scope

def ofView (strict : Bool) (view : Json) : Scope :=
  ⟨strict, [[]], .ofJson view, 0⟩

def find? (scope : Scope) (name : String) : Option Value :=
  (scope.frames.findSome? (Entries.find? name)).or (scope.view.attribute? name)

/-- Let a name stand for a value in the innermost frame. -/
def assign (scope : Scope) (name : String) (value : Value) : Scope :=
  match scope.frames with
  | frame :: others => { scope with frames := ((name, value) :: frame) :: others }
  | [] => { scope with frames := [[(name, value)]] }

def push (scope : Scope) : Scope :=
  { scope with frames := [] :: scope.frames }

def pop (scope : Scope) : Scope :=
  { scope with frames := scope.frames.drop 1 }

def truth (scope : Scope) (value : Value) : Except Trouble Bool :=
  match scope.strict, value with
  | true, .undefined false => .error .undefined
  | _, value => .ok value.isTrue

/-- Refuse an undefined value in strict templates. -/
def defined (scope : Scope) (value : Value) : Except Trouble Value :=
  match scope.strict, value with
  | true, .undefined false => .error .undefined
  | _, value => .ok value

end Scope

def reported {α : Type} (line : Nat) (result : Except Trouble α) : Except Fault α :=
  result.mapError fun trouble => ⟨trouble, line⟩

/-- A part of a value, which an undefined value does not have. -/
def partOf (value : Value) (part : Option Value) : Except Trouble Value :=
  match part, value with
  | some part, _ => .ok part
  | none, .undefined _ => .error .undefined
  | none, _ => .ok .missing

def operate (scope : Scope) (op : Binary) (a b : Value) : Except Trouble Value :=
  match op with
  | .or => .ok b
  | .and => .ok b
  | .equal => .ok (.bool (a.same b))
  | .unequal => .ok (.bool !(a.same b))
  | .less => .ok (.bool (a.order b == .lt))
  | .atMost => .ok (.bool (a.order b != .gt))
  | .greater => .ok (.bool (a.order b == .gt))
  | .atLeast => .ok (.bool (a.order b != .lt))
  | .within => do return .bool (← Value.contains a (← scope.defined b))
  | .add => a.add b
  | .subtract => a.subtract b
  | .concat => .ok (a.concat b)
  | .multiply => a.multiply b
  | .divide => a.divide b
  | .divideWhole => a.divideWhole b
  | .modulo => a.modulo b
  | .power => a.power b

def bound (default : Int) : Option Value → Except Trouble Int
  | none => .ok default
  | some .none => .ok default
  | some value =>
      match value.integer? with
      | some z => .ok z
      | none => .error (.invalidOperation ("cannot convert " ++ value.kind ++ " to i64"))

/-- The places from one to before another, in steps; negative ones count from the end. -/
def cut {α : Type} (start stop : Int) (step : Nat) (items : List α) : List α :=
  let place := fun (z : Int) =>
    (if z < 0 then z + items.length else z).toNat
  let chosen := (items.take (place stop)).drop (place start)
  (chosen.zipIdx.filter fun item => item.2 % step = 0).map (·.1)

def slice (value : Value) (start stop step : Option Value) : Except Trouble Value := do
  let count := (value.length?.getD 0 : Nat)
  let start ← bound 0 start
  let stop ← bound count stop
  let step ← bound 1 step
  if step ≤ 0 then throw (.invalidOperation "cannot slice by step size of 0")
  match value with
  | .str s => return .ofChars (cut start stop step.toNat s.toList)
  | .list items => return .list (cut start stop step.toNat items)
  | .undefined _ => return .list []
  | .none => return .list []
  | value => throw (.invalidOperation ("value of type " ++ value.kind ++ " cannot be sliced"))

def notCallable (value : Value) : Trouble :=
  .invalidOperation ("value of type " ++ value.kind ++ " is not callable")

def callFunction (scope : Scope) (name : String) (arguments : Arguments) :
    Except Trouble Value :=
  match scope.find? name with
  | some value => .error (notCallable value)
  | none => if name = "range" then range arguments else .error (.unknownFunction name)

def callMethod (value : Value) (name : String) (arguments : Arguments) : Except Trouble Value :=
  match name, value.attribute? "index0", arguments.all with
  | "cycle", some (.int (.ofNat n)), first :: others =>
      .ok ((first :: others).getD (n % (others.length + 1)) first)
  | _, _, _ =>
      match value.attribute? name with
      | some value => .error (notCallable value)
      | none => .error (.unknownMethod value.kind name)

def Arguments.ofList (arguments : List (Option String × Value)) : Arguments where
  plain := arguments.filterMap fun argument =>
    match argument with
    | (none, value) => some value
    | (some _, _) => none
  named := arguments.filterMap fun argument =>
    match argument with
    | (none, _) => none
    | (some name, value) => some (name, value)

namespace Expression

mutual

def eval (scope : Scope) : Expression → Except Fault Value
  | .const _ value => .ok value
  | .variable _ name => .ok ((scope.find? name).getD .missing)
  | .list _ items => (evalItems scope items).map Value.list
  | .map _ entries => (evalEntries scope entries).map Value.ofEntries
  | .attribute base name => do
      let value ← base.eval scope
      reported base.line (partOf value (value.attribute? name))
  | .item base index => do
      let value ← base.eval scope
      let key ← index.eval scope
      reported index.line (partOf value (value.item? key))
  | .slice base start stop step => do
      let value ← base.eval scope
      let start ← evalOption scope start
      let stop ← evalOption scope stop
      let step ← evalOption scope step
      reported base.line (Template.slice value start stop step)
  | .call callee arguments =>
      match callee with
      | .variable line name => do
          let found ← evalArguments scope arguments
          reported (lineOfArguments line arguments) (callFunction scope name (.ofList found))
      | .attribute base name => do
          let value ← base.eval scope
          let found ← evalArguments scope arguments
          reported (lineOfArguments base.line arguments) (callMethod value name (.ofList found))
      | callee => do
          let value ← callee.eval scope
          let _ ← evalArguments scope arguments
          reported (lineOfArguments callee.line arguments) (.error (notCallable value))
  | .filter base name arguments => do
      let value ← base.eval scope
      let found ← evalArguments scope arguments
      reported (lineOfArguments base.line arguments)
        (Filter.apply scope.strict name value (.ofList found))
  | .test base name arguments => do
      let value ← base.eval scope
      let found ← evalArguments scope arguments
      reported (lineOfArguments base.line arguments)
        ((value.test name (.ofList found)).map Value.bool)
  | .unary op operand => do
      let value ← operand.eval scope
      reported operand.line <|
        match op with
        | .not => (scope.truth value).map fun b => .bool !b
        | .negative => value.negate
  | .binary op left right => do
      let a ← left.eval scope
      let ended ← match op with
        | .or => reported left.line (scope.truth a)
        | .and => reported left.line ((scope.truth a).map (!·))
        | _ => .ok false
      if ended then return a
      let b ← right.eval scope
      reported right.line (operate scope op a b)
  | .choice condition yes no => do
      let value ← condition.eval scope
      if ← reported condition.line (scope.truth value) then yes.eval scope
      else return (← evalOption scope no).getD (.undefined true)

def evalOption (scope : Scope) : Option Expression → Except Fault (Option Value)
  | some e => (e.eval scope).map some
  | none => .ok none

def evalItems (scope : Scope) : List Expression → Except Fault (List Value)
  | [] => .ok []
  | e :: rest => do
      let value ← e.eval scope
      return value :: (← evalItems scope rest)

def evalEntries (scope : Scope) :
    List (Expression × Expression) → Except Fault (List (Value × Value))
  | [] => .ok []
  | (k, e) :: rest => do
      let key ← k.eval scope
      let value ← e.eval scope
      return (key, value) :: (← evalEntries scope rest)

def evalArguments (scope : Scope) :
    List (Option String × Expression) → Except Fault (List (Option String × Value))
  | [] => .ok []
  | (name, e) :: rest => do
      let value ← e.eval scope
      return (name, value) :: (← evalArguments scope rest)

end

end Expression

mutual

def Target.assign (value : Value) (scope : Scope) : Target → Except Trouble Scope
  | .variable name => .ok (scope.assign name value)
  | .several targets =>
      match value with
      | .list items =>
          if items.length = targets.length then assignAll items scope targets
          else
            .error <| .cannotUnpack <|
              "sequence of wrong length (expected " ++ toString targets.length ++ ", got "
                ++ toString items.length ++ ")"
      | _ => .error (.cannotUnpack "not a sequence")

def Target.assignAll (values : List Value) (scope : Scope) :
    List Target → Except Trouble Scope
  | [] => .ok scope
  | target :: rest => do
      let scope ← target.assign (values.headD .none) scope
      assignAll (values.drop 1) scope rest

end

/-- What is known inside a loop about its items and the place of the present one. -/
def loopValue (depth : Nat) (items : List Value) (i : Nat) : Value :=
  let count := items.length
  .ofEntries
    [(.str "index", .ofNat (i + 1)), (.str "index0", .ofNat i),
     (.str "revindex", .ofNat (count - i)), (.str "revindex0", .ofNat (count - i - 1)),
     (.str "first", .bool (i == 0)), (.str "last", .bool (i + 1 == count)),
     (.str "length", .ofNat count), (.str "depth", .ofNat (depth + 1)),
     (.str "depth0", .ofNat depth),
     (.str "previtem", if i = 0 then .missing else (items[i - 1]?).getD .missing),
     (.str "nextitem", (items[i + 1]?).getD .missing)]

namespace Statement

/-- The items of a loop that pass its filter. -/
def kept (scope : Scope) (target : Target) (line : Nat) (filter : Option Expression)
    (items : List Value) : Except Fault (List Value) :=
  match filter with
  | none => .ok items
  | some filter =>
      items.filterM fun item => do
        let scope ← reported line (target.assign item scope.push)
        let value ← filter.eval scope
        reported filter.line (scope.truth value)

mutual

/-- The text of a statement, and what names stand for after it. -/
def run (scope : Scope) : Statement → Except Fault (Scope × String)
  | .verbatim content => .ok (scope, String.ofList content)
  | .emit e => do
      let value ← reported e.line (scope.defined (← e.eval scope))
      return (scope, value.text)
  | .branch condition yes no => do
      let value ← condition.eval scope
      if ← reported condition.line (scope.truth value) then runAll scope yes
      else runAll scope no
  | .loop target source filter body otherwise => do
      let value ← source.eval scope
      let items ← reported source.line do (← scope.defined value).items
      let items ← kept scope target source.line filter items
      if items.isEmpty then runAll scope otherwise
      else
        let inner := { scope.push with depth := scope.depth + 1 }
        let (_, text) ← items.zipIdx.foldlM
          (fun ((scope, text) : Scope × String) (item, i) => do
            let scope := scope.assign "loop" (loopValue (inner.depth - 1) items i)
            let scope ← reported source.line (target.assign item scope)
            let (scope, more) ← runAll scope body
            return (scope, text ++ more))
          (inner, "")
        return (scope, text)
  | .assign target e => do
      let value ← e.eval scope
      return (← reported e.line (target.assign value scope), "")
  | .capture name body => do
      let (scope, text) ← runAll scope body
      return (scope.assign name (.str text), "")
  | .block bindings body => do
      let inner ← bindings.foldlM
        (fun (inner : Scope) (target, e) => do
          let value ← e.eval inner
          reported e.line (target.assign value inner))
        scope.push
      let (_, text) ← runAll inner body
      return (scope, text)

def runAll (scope : Scope) : List Statement → Except Fault (Scope × String)
  | [] => .ok (scope, "")
  | s :: rest => do
      let (scope, text) ← s.run scope
      let (scope, more) ← runAll scope rest
      return (scope, text ++ more)

end

end Statement

def expand (strict : Bool) (template : String) (view : Json) : Except Fault String := do
  let statements ← Statement.ofText template
  let (_, text) ← Statement.runAll (.ofView strict view) statements
  return text

/-- Whether a text has a marker of an expression or a statement in it. -/
def hasMarkers (template : String) : Bool :=
  Text.occursIn ['{', '{'] template.toList || Text.occursIn ['{', '%'] template.toList

/-- The text of a template; a text without markers stands for itself. -/
def render (strict : Bool) (template : String) (context : Context) : Except Failure String :=
  if hasMarkers template then
    (expand strict template context.view).mapError fun fault => .template fault.message
  else .ok template

end ActionGraph.Template
