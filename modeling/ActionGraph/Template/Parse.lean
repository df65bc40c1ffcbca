import ActionGraph.Template.Expression
import ActionGraph.Template.Token

/-!
# Reading templates

The tree of a template from its tokens, by descent.  Binary operations bind
in levels, the loosest first, and to the left.
-/

namespace ActionGraph.Template.Parse

/-- The tokens that are left, and the line of the last one that was taken. -/
structure Position where
  rest : Tokens
  line : Nat

abbrev Reader (α : Type) :=
  StateT Position (Except Fault) α

def fail {α : Type} (trouble : Trouble) : Reader α := do
  throw ⟨trouble, (← get).line⟩

def tooDeep {α : Type} : Reader α :=
  fail (.malformed "template exceeds maximum recursion limits")

def peek : Reader (Option Token) := do
  match (← get).rest with
  | ⟨located :: _, _⟩ => return some located.token
  | ⟨[], some fault⟩ => throw fault
  | ⟨[], none⟩ => return none

def peekLine : Reader Nat := do
  let position ← get
  return match position.rest.list with
    | located :: _ => located.line
    | [] => position.line

def take : Reader (Option Token) := do
  match (← get).rest with
  | ⟨located :: rest, fault⟩ =>
      set (⟨⟨rest, fault⟩, located.line⟩ : Position)
      return some located.token
  | ⟨[], some fault⟩ => throw fault
  | ⟨[], none⟩ => return none

def skip? (token : Token) : Reader Bool := do
  if (← peek) = some token then
    let _ ← take
    return true
  return false

def failUnexpected {α : Type} (met : Option Token) (expected : String) : Reader α :=
  fail (Trouble.unexpected ((met.map Token.describe).getD "end of input") expected)

def expect (token : Token) (expected : String) : Reader Unit := do
  let met ← take
  if met = some token then return () else failUnexpected met expected

def expectSymbol (symbol : String) : Reader Unit :=
  expect (.symbol symbol) ("`" ++ symbol ++ "`")

def expectName : Reader String := do
  match ← take with
  | some (.name name) => return name
  | met => failUnexpected met "identifier"

def endOfStatement : Reader Unit :=
  expect .statementEnd "end of block"

/-! ## Operators -/

/-- The binary operators of a level; levels count from the loosest. -/
def operators : Nat → List (Token × Binary)
  | 0 => [(.name "or", .or)]
  | 1 => [(.name "and", .and)]
  | 4 => [(.symbol "+", .add), (.symbol "-", .subtract)]
  | 5 => [(.symbol "~", .concat)]
  | 6 => [(.symbol "*", .multiply), (.symbol "/", .divide), (.symbol "//", .divideWhole),
      (.symbol "%", .modulo)]
  | 7 => [(.symbol "**", .power)]
  | _ => []

def comparisons : List (Token × Binary) :=
  [(.symbol "==", .equal), (.symbol "!=", .unequal), (.symbol "<", .less),
   (.symbol "<=", .atMost), (.symbol ">", .greater), (.symbol ">=", .atLeast),
   (.name "in", .within)]

def operatorOf (table : List (Token × Binary)) (token : Option Token) : Option Binary :=
  (table.find? fun entry => some entry.1 = token).map (·.2)

def unaryLevel : Nat :=
  8

def reserved : List String :=
  ["true", "True", "false", "False", "none", "None", "loop", "self"]

/-- Whether a token may begin the argument of a test that stands without brackets. -/
def beginsArgument : Option Token → Bool
  | some (.name name) => !(["and", "or", "else", "is", "not", "in", "if"].contains name)
  | some (.string _) => true
  | some (.integer _) => true
  | some (.float _) => true
  | some (.symbol s) => ["+", "-", "[", "\x7b"].contains s
  | _ => false

/-! ## Expressions -/

mutual

/-- A choice, or what is looser than every operator. -/
def expression : Nat → Reader Expression
  | 0 => tooDeep
  | fuel + 1 => do
      let e ← level fuel 0
      choices fuel e

def choices : Nat → Expression → Reader Expression
  | 0, _ => tooDeep
  | fuel + 1, e => do
      if ← skip? (.name "if") then
        let condition ← level fuel 0
        let no ← if ← skip? (.name "else") then (expression fuel).map some else pure none
        choices fuel (.choice condition e no)
      else return e

/-- An expression whose operators are of a level or tighter. -/
def level : Nat → Nat → Reader Expression
  | 0, _ => tooDeep
  | fuel + 1, n => do
      if n = 2 then
        if ← skip? (.name "not") then return .unary .not (← level fuel 2)
        else level fuel 3
      else if n = 3 then
        let e ← level fuel 4
        comparison fuel e
      else if n < unaryLevel then
        let e ← level fuel (n + 1)
        operations fuel n e
      else filtered fuel

def operations : Nat → Nat → Expression → Reader Expression
  | 0, _, _ => tooDeep
  | fuel + 1, n, left => do
      match operatorOf (operators n) (← peek) with
      | some op =>
          let _ ← take
          let right ← level fuel (n + 1)
          operations fuel n (.binary op left right)
      | none => return left

def comparison : Nat → Expression → Reader Expression
  | 0, _ => tooDeep
  | fuel + 1, left => do
      let met ← peek
      if met = some (.name "not") then
        let _ ← take
        expect (.name "in") "in"
        let right ← level fuel 4
        comparison fuel (.unary .not (.binary .within left right))
      else
        match operatorOf comparisons met with
        | some op =>
            let _ ← take
            let right ← level fuel 4
            comparison fuel (.binary op left right)
        | none => return left

/-- A signed expression with the filters and tests after it. -/
def filtered : Nat → Reader Expression
  | 0 => tooDeep
  | fuel + 1 => do
      let e ← signed fuel
      filters fuel e

/-- An expression with signs before it and parts after it. -/
def signed : Nat → Reader Expression
  | 0 => tooDeep
  | fuel + 1 => do
      if ← skip? (.symbol "-") then return .unary .negative (← signed fuel)
      let e ← primary fuel
      parts fuel e

def parts : Nat → Expression → Reader Expression
  | 0, _ => tooDeep
  | fuel + 1, e => do
      match ← peek with
      | some (.symbol ".") =>
          let _ ← take
          let line ← peekLine
          match ← take with
          | some (.name name) => parts fuel (.attribute e name)
          | some (.integer n) => parts fuel (.item e (.const line (.ofNat n)))
          | met => failUnexpected met "identifier or integer"
      | some (.symbol "[") =>
          let _ ← take
          let start ← if (← peek) = some (.symbol ":") then pure none
            else (expression fuel).map some
          if ← skip? (.symbol ":") then
            let stop ←
              if [some (.symbol "]"), some (.symbol ":")].contains (← peek) then pure none
              else (expression fuel).map some
            let step ←
              if ← skip? (.symbol ":") then
                if (← peek) = some (.symbol "]") then pure none
                else (expression fuel).map some
              else pure none
            expectSymbol "]"
            parts fuel (.slice e start stop step)
          else
            expectSymbol "]"
            match start with
            | some index => parts fuel (.item e index)
            | none => fail (.malformed "empty subscript")
      | some (.symbol "(") =>
          let found ← arguments fuel
          parts fuel (.call e found)
      | _ => return e

def filters : Nat → Expression → Reader Expression
  | 0, _ => tooDeep
  | fuel + 1, e => do
      match ← peek with
      | some (.symbol "|") =>
          let _ ← take
          let name ← expectName
          let found ← if (← peek) = some (.symbol "(") then arguments fuel else pure []
          filters fuel (.filter e name found)
      | some (.name "is") =>
          let _ ← take
          let negated ← skip? (.name "not")
          let name ← expectName
          let next ← peek
          let found ←
            if next = some (.symbol "(") then arguments fuel
            else if beginsArgument next then do
              let argument ← signed fuel
              pure [((none : Option String), argument)]
            else pure []
          let tested := Expression.test e name found
          filters fuel (if negated then .unary .not tested else tested)
      | _ => return e

def arguments : Nat → Reader (List Argument)
  | 0 => tooDeep
  | fuel + 1 => do
      expectSymbol "("
      argumentList fuel true false

def argumentList : Nat → Bool → Bool → Reader (List Argument)
  | 0, _, _ => tooDeep
  | fuel + 1, first, named => do
      if ← skip? (.symbol ")") then return []
      if !first then
        expectSymbol ","
        if ← skip? (.symbol ")") then return []
      let e ← expression fuel
      match e with
      | .variable _ name =>
          if ← skip? (.symbol "=") then
            let value ← level fuel 0
            return (some name, value) :: (← argumentList fuel false true)
          else if named then fail (.malformed "non-keyword arg after keyword arg")
          else return (none, e) :: (← argumentList fuel false named)
      | _ =>
          if named then fail (.malformed "non-keyword arg after keyword arg")
          else return (none, e) :: (← argumentList fuel false named)

def itemList : Nat → String → Bool → Reader (List Expression)
  | 0, _, _ => tooDeep
  | fuel + 1, close, first => do
      if ← skip? (.symbol close) then return []
      if !first then
        expectSymbol ","
        if ← skip? (.symbol close) then return []
      let e ← expression fuel
      return e :: (← itemList fuel close false)

def entryList : Nat → Bool → Reader (List (Expression × Expression))
  | 0, _ => tooDeep
  | fuel + 1, first => do
      if ← skip? (.symbol "\x7d") then return []
      if !first then
        expectSymbol ","
        if ← skip? (.symbol "\x7d") then return []
      let key ← expression fuel
      expectSymbol ":"
      let value ← expression fuel
      return (key, value) :: (← entryList fuel false)

def primary : Nat → Reader Expression
  | 0 => tooDeep
  | fuel + 1 => do
      match ← take with
      | none => failUnexpected none "expression"
      | some token =>
          let line := (← get).line
          match token with
          | .name name =>
              if name = "true" ∨ name = "True" then return .const line (.bool true)
              else if name = "false" ∨ name = "False" then return .const line (.bool false)
              else if name = "none" ∨ name = "None" then return .const line .none
              else return .variable line name
          | .string s => return .const line (.str s)
          | .integer n => return .const line (.ofNat n)
          | .float x => return .const line (.float x)
          | .symbol "(" =>
              if ← skip? (.symbol ")") then return .list line []
              let e ← expression fuel
              if (← peek) = some (.symbol ",") then
                let items ← itemList fuel ")" false
                return .list line (e :: items)
              else
                expectSymbol ")"
                return e
          | .symbol "[" => return .list line (← itemList fuel "]" true)
          | .symbol "\x7b" => return .map line (← entryList fuel true)
          | token => fail (.malformed ("unexpected " ++ token.describe))

end

/-! ## Statements -/

def assignable : Reader Target := do
  let name ← expectName
  if reserved.contains name then
    fail (.malformed ("cannot assign to reserved variable name " ++ name))
  else return .variable name

def endsTargets : Option Token → Bool
  | some (.symbol ")") => true
  | some .expressionEnd => true
  | some .statementEnd => true
  | some (.name "in") => true
  | _ => false

mutual

/-- Targets between commas: the ones read, and whether there was a comma. -/
def targetList : Nat → Bool → Reader (List Target × Bool)
  | 0, _ => tooDeep
  | fuel + 1, first => do
      if !first then expectSymbol ","
      if endsTargets (← peek) then return ([], !first)
      let target ←
        if ← skip? (.symbol "(") then do
          let inner ← targets fuel
          expectSymbol ")"
          pure inner
        else assignable
      if (← peek) = some (.symbol ",") then
        let (others, _) ← targetList fuel false
        return (target :: others, true)
      else return ([target], !first)

def targets : Nat → Reader Target
  | 0 => tooDeep
  | fuel + 1 => do
      match ← targetList fuel true with
      | ([target], false) => return target
      | (several, _) => return .several several

end

def isOneOf (names : List String) : Token → Bool
  | .name name => names.contains name
  | _ => false

mutual

/-- Statements up to a statement that begins with one of these names, whose start is taken. -/
def statements : Nat → List String → Reader (List Statement)
  | 0, _ => tooDeep
  | fuel + 1, ends => do
      match ← take with
      | none => return []
      | some (.text content) => return .verbatim content :: (← statements fuel ends)
      | some .expressionStart =>
          let e ← expression fuel
          expect .expressionEnd "end of variable block"
          return .emit e :: (← statements fuel ends)
      | some _ =>
          match ← peek with
          | none => failUnexpected none "keyword"
          | some token =>
              if isOneOf ends token then return []
              let s ← statement fuel
              endOfStatement
              return s :: (← statements fuel ends)

def statement : Nat → Reader Statement
  | 0 => tooDeep
  | fuel + 1 => do
      match ← take with
      | none => failUnexpected none "block keyword"
      | some (.name "if") => branch fuel
      | some (.name "for") => loop fuel
      | some (.name "set") => assignment fuel
      | some (.name "with") => do
          let bindings ← bindingList fuel true
          endOfStatement
          let body ← statements fuel ["endwith"]
          let _ ← take
          return .block bindings body
      | some (.name name) => fail (.malformed ("unknown statement " ++ name))
      | some token => fail (.malformed ("unknown " ++ token.describe ++ ", expected statement"))

def branch : Nat → Reader Statement
  | 0 => tooDeep
  | fuel + 1 => do
      let condition ← expression fuel
      endOfStatement
      let yes ← statements fuel ["endif", "else", "elif"]
      match ← take with
      | some (.name "else") =>
          endOfStatement
          let no ← statements fuel ["endif"]
          let _ ← take
          return .branch condition yes no
      | some (.name "elif") => return .branch condition yes [← branch fuel]
      | _ => return .branch condition yes []

def loop : Nat → Reader Statement
  | 0 => tooDeep
  | fuel + 1 => do
      let target ← targets fuel
      expect (.name "in") "in"
      let source ← level fuel 0
      let filter ← if ← skip? (.name "if") then (expression fuel).map some else pure none
      let _ ← skip? (.name "recursive")
      endOfStatement
      let body ← statements fuel ["endfor", "else"]
      let otherwise ←
        if ← skip? (.name "else") then do
          endOfStatement
          statements fuel ["endfor"]
        else pure []
      let _ ← take
      return .loop target source filter body otherwise

def assignment : Nat → Reader Statement
  | 0 => tooDeep
  | fuel + 1 => do
      if ← skip? (.symbol "(") then
        let target ← targets fuel
        expectSymbol ")"
        expect (.symbol "=") "assignment operator"
        return .assign target (← expression fuel)
      else
        let target ← assignable
        match target, ← peek with
        | .variable name, some .statementEnd =>
            let _ ← take
            let body ← statements fuel ["endset"]
            let _ ← take
            return .capture name body
        | target, _ =>
            expect (.symbol "=") "assignment operator"
            return .assign target (← expression fuel)

/-- The bindings of a scope up to the end of the statement. -/
def bindingList : Nat → Bool → Reader (List (Target × Expression))
  | 0, _ => tooDeep
  | fuel + 1, first => do
      if (← peek) = some .statementEnd then return []
      if !first then expectSymbol ","
      let target ←
        if ← skip? (.symbol "(") then do
          let inner ← targets fuel
          expectSymbol ")"
          pure inner
        else assignable
      expect (.symbol "=") "assignment operator"
      let value ← expression fuel
      return (target, value) :: (← bindingList fuel false)

end

end ActionGraph.Template.Parse

namespace ActionGraph.Template

def Statement.ofText (text : String) : Except Fault (List Statement) :=
  let tokens := Tokens.ofText text
  let fuel := 16 * (tokens.list.length + 2)
  (Parse.statements fuel []).run' ⟨tokens, 1⟩

end ActionGraph.Template
