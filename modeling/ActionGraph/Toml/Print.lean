import ActionGraph.Json.Print
import ActionGraph.Number.Decimal

/-!
# Writing TOML

Sections of settings, each under its header.  A text is written in the
plainest style in which nothing in it needs an escape.
-/

namespace ActionGraph.Toml

inductive Setting where
  | text (value : String)
  | natural (value : Nat)
  | float (value : Binary64)

structure Section where
  header : String
  settings : List (String × Setting)

/-! ## Texts -/

/-- A control character that has to be escaped wherever it stands. -/
def isControl (c : Char) : Bool :=
  (decide (c < ' ') && c ≠ '\t' && c ≠ '\n') || c = '\x7f'

/-- The length of the longest run of a character, after a run of so many. -/
def longestRun (c : Char) (longest current : Nat) : List Char → Nat
  | [] => longest
  | d :: rest =>
      if d = c then longestRun c (max longest (current + 1)) (current + 1) rest
      else longestRun c longest 0 rest

/-- How the characters of a text are written. -/
inductive Style where
  /-- On one line between double quotes. -/
  | basic
  /-- On one line between single quotes. -/
  | verbatim
  /-- Between three double quotes. -/
  | basicLines
  /-- Between three single quotes. -/
  | verbatimLines
deriving DecidableEq, Repr

/-- The style of a text: the plainest in which nothing needs an escape, if there is one. -/
def Style.of (cs : List Char) : Style :=
  let control := cs.any isControl
  let backslash := cs.contains '\\'
  let lines := cs.contains '\n'
  let doubles := longestRun '"' 0 0 cs
  let singles := longestRun '\'' 0 0 cs
  if !control && !backslash && doubles == 0 && !lines then .basic
  else if !control && singles == 0 && !lines then .verbatim
  else if !control && !backslash && decide (doubles ≤ 2) then .basicLines
  else if !control && decide (singles ≤ 2) then .verbatimLines
  else if lines then .basicLines
  else .basic

/--
A text between double quotes.  A run of quotes is broken by an escape when it
is longer than allowed; so many of the run went before.
-/
def escape (lines : Bool) (allowed before : Nat) : List Char → List Char
  | [] => []
  | c :: rest =>
      if c = '"' then
        if before < allowed then '"' :: escape lines allowed (before + 1) rest
        else '\\' :: '"' :: escape lines allowed 0 rest
      else
        let shown : List Char :=
          if c = '\n' then (if lines then ['\n'] else ['\\', 'n'])
          else if c = '\t' then ['\\', 't']
          else if c = '\r' then ['\\', 'r']
          else if c = '\x08' then ['\\', 'b']
          else if c = '\x0c' then ['\\', 'f']
          else if c = '\\' then ['\\', '\\']
          else if isControl c then
            ['\\', 'u', '0', '0', (Json.hexDigit (c.toNat / 16)).toUpper,
              (Json.hexDigit (c.toNat % 16)).toUpper]
          else [c]
        shown ++ escape lines allowed 0 rest

/-- A text with its quotes; a text of several lines begins on a line of its own. -/
def quote (text : String) : String :=
  let cs := text.toList
  let first := if cs.contains '\n' then "\n" else ""
  match Style.of cs with
  | .basic => "\"" ++ String.ofList (escape false 0 0 cs) ++ "\""
  | .verbatim => "\x27" ++ text ++ "\x27"
  | .basicLines => "\"\"\"" ++ first ++ String.ofList (escape true 2 0 cs) ++ "\"\"\""
  | .verbatimLines => "\x27\x27\x27" ++ first ++ text ++ "\x27\x27\x27"

/-! ## Sections -/

/-- A float; the sign of what is no number is left out. -/
def floatText (x : Binary64) : String :=
  if x.isNaN then "nan" else Decimal.render64 Decimal.plainPoint x

def Setting.render : Setting → String
  | .text value => quote value
  | .natural value => toString value
  | .float value => floatText value

def Section.render (s : Section) : String :=
  "[" ++ s.header ++ "]\n"
    ++ String.join (s.settings.map fun (key, value) => key ++ " = " ++ value.render ++ "\n")

def render (sections : List Section) : String :=
  "\n".intercalate (sections.map Section.render)

end ActionGraph.Toml
