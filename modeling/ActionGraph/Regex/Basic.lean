import ActionGraph.Regex.CharSet
import Std.Data.HashSet

/-!
# Patterns and what they match

A pattern is matched by partial derivatives: what is left of it after one
character is a list of patterns still to be matched in order, and a set of
such lists is carried along the text.  Since only the existence of a match is
asked for, greed plays no part.  Anchors and word boundaries look at the
characters on both sides of a position.
-/

namespace ActionGraph

inductive Regex.Look where
  | start
  | stop
  | lineStart
  | lineStop
  | lineStartCrlf
  | lineStopCrlf
  | boundary (ascii : Bool)
  | notBoundary (ascii : Bool)
  | wordStart (ascii : Bool)
  | wordStop (ascii : Bool)
  | wordStartHalf (ascii : Bool)
  | wordStopHalf (ascii : Bool)
deriving DecidableEq, Hashable

inductive Regex where
  | empty
  | set (chars : Regex.CharSet)
  | look (test : Regex.Look)
  | cat (a b : Regex)
  | alt (a b : Regex)
  | rep (a : Regex) (least : Nat) (most : Option Nat)
deriving DecidableEq, Hashable

namespace Regex

/-- A position of a text: the characters before and behind it. -/
structure Position where
  before : Option Char
  behind : Option Char

namespace Position

def isWord (ascii : Bool) (c : Option Char) : Bool :=
  c.any fun c => if ascii then CharSet.asciiWord.contains c else CharSet.word.contains c

def passes (p : Position) : Look → Bool
  | .start => p.before.isNone
  | .stop => p.behind.isNone
  | .lineStart => p.before.all (· = '\n')
  | .lineStop => p.behind.all (· = '\n')
  | .lineStartCrlf =>
      p.before.all (· = '\n') || (p.before == some '\r' && p.behind != some '\n')
  | .lineStopCrlf =>
      p.behind.all (· = '\r') || (p.behind == some '\n' && p.before != some '\r')
  | .boundary ascii => isWord ascii p.before != isWord ascii p.behind
  | .notBoundary ascii => isWord ascii p.before == isWord ascii p.behind
  | .wordStart ascii => !isWord ascii p.before && isWord ascii p.behind
  | .wordStop ascii => isWord ascii p.before && !isWord ascii p.behind
  | .wordStartHalf ascii => !isWord ascii p.before
  | .wordStopHalf ascii => !isWord ascii p.behind

end Position

def matchesEmpty (p : Position) : Regex → Bool
  | .empty => true
  | .set _ => false
  | .look test => p.passes test
  | .cat a b => a.matchesEmpty p && b.matchesEmpty p
  | .alt a b => a.matchesEmpty p || b.matchesEmpty p
  | .rep a least _ => least == 0 || a.matchesEmpty p

/-- Patterns still to be matched, in order. -/
abbrev Remainder := List Regex

/-- The repetition that remains after one round, if any. -/
def remainingRounds (a : Regex) (least : Nat) (most : Option Nat) : Remainder :=
  match most with
  | none => [.rep a (least - 1) none]
  | some n => if n ≤ 1 then [] else [.rep a (least - 1) (some (n - 1))]

def after (p : Position) (c : Char) : Regex → List Remainder
  | .empty => []
  | .set chars => if chars.contains c then [[]] else []
  | .look _ => []
  | .cat a b =>
      let left := (a.after p c).map (· ++ [b])
      if a.matchesEmpty p then left ++ b.after p c else left
  | .alt a b => a.after p c ++ b.after p c
  | .rep a least most =>
      if most = some 0 then []
      else
        let least := if a.matchesEmpty p then 0 else least
        (a.after p c).map (· ++ remainingRounds a least most)

def Remainder.matchesEmpty (p : Position) (remainder : Remainder) : Bool :=
  remainder.all (Regex.matchesEmpty p)

def Remainder.after (p : Position) (c : Char) : Remainder → List Remainder
  | [] => []
  | a :: rest =>
      let left := (a.after p c).map (· ++ rest)
      if a.matchesEmpty p then left ++ Remainder.after p c rest else left

/-- The remainders without repetitions. -/
def Remainder.distinct (remainders : List Remainder) : List Remainder :=
  (remainders.foldl insertNew (∅, [])).2
where
  insertNew : Std.HashSet Remainder × List Remainder → Remainder →
      Std.HashSet Remainder × List Remainder
    | (seen, kept), remainder =>
        if seen.contains remainder then (seen, kept)
        else (seen.insert remainder, remainder :: kept)

/-- Carry remainders along a text until one of them is done. -/
def search (pattern : Regex) (before : Option Char) (remainders : List Remainder) :
    List Char → Bool
  | [] =>
      let p : Position := ⟨before, none⟩
      ([pattern] :: remainders).any (Remainder.matchesEmpty p)
  | c :: rest =>
      let p : Position := ⟨before, some c⟩
      let current := [pattern] :: remainders
      current.any (Remainder.matchesEmpty p)
        || search pattern (some c)
          (Remainder.distinct (current.flatMap (Remainder.after p c))) rest

def occursIn (pattern : Regex) (text : List Char) : Bool :=
  pattern.search none [] text

/-- The space that a pattern takes when it is unfolded. -/
def weight : Regex → Nat
  | .empty => 32
  | .set chars => if chars.extent ≤ 4 then 64 + 8 * chars.extent else 60 * chars.extent
  | .look _ => 32
  | .cat a b => a.weight + b.weight
  | .alt a b => a.weight + b.weight + 64
  | .rep a least most =>
      match most with
      | none => a.weight * max least 1 + 64
      | some n => a.weight * n + 32 * (n - least)

def weightLimit : Nat :=
  10 * Nat.pow 2 20

end Regex

end ActionGraph
