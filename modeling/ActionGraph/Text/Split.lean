/-!
# Cutting texts

Texts are cut on lists of characters, so that each cut is one structural
recursion.
-/

namespace ActionGraph.Text

/-- The pieces between the occurrences of a separator; always at least one. -/
def pieces (separator : Char) : List Char → List (List Char)
  | [] => [[]]
  | c :: rest =>
      if c = separator then [] :: pieces separator rest
      else
        match pieces separator rest with
        | [] => [[c]]
        | piece :: more => (c :: piece) :: more

def splitFirst? (separator : Char) : List Char → Option (List Char × List Char)
  | [] => none
  | c :: rest =>
      if c = separator then some ([], rest)
      else (splitFirst? separator rest).map fun (before, after) => (c :: before, after)

section First

variable {separator : Char}

/-- What is before the first cut decides where it is; the separator may stand behind it again. -/
theorem splitFirst?_append_cons {before : List Char} (first : separator ∉ before)
    (after : List Char) :
    splitFirst? separator (before ++ separator :: after) = some (before, after) := by
  induction before with
  | nil => simp [splitFirst?]
  | cons c rest ih =>
      rw [List.mem_cons, not_or] at first
      simp [splitFirst?, Ne.symm first.1, ih first.2]

theorem splitFirst?_of_notMem {text : List Char} (absent : separator ∉ text) :
    splitFirst? separator text = none := by
  induction text with
  | nil => rfl
  | cons c rest ih =>
      rw [List.mem_cons, not_or] at absent
      simp [splitFirst?, Ne.symm absent.1, ih absent.2]

/-- Two ways to cut a text at its first separator are the same. -/
theorem first_cut_unique {before before' after after' : List Char} (first : separator ∉ before)
    (first' : separator ∉ before')
    (same : before ++ separator :: after = before' ++ separator :: after') :
    before = before' ∧ after = after' := by
  have cut := splitFirst?_append_cons first after
  rw [same, splitFirst?_append_cons first'] at cut
  cases cut
  exact ⟨rfl, rfl⟩

end First

def stripStart? : List Char → List Char → Option (List Char)
  | [], text => some text
  | _ :: _, [] => none
  | p :: ps, c :: cs => if p = c then stripStart? ps cs else none

def startsWith (start text : List Char) : Bool :=
  (stripStart? start text).isSome

def endsWith (ending text : List Char) : Bool :=
  startsWith ending.reverse text.reverse

def occursIn (part : List Char) : List Char → Bool
  | [] => part.isEmpty
  | c :: rest => startsWith part (c :: rest) || occursIn part rest

def digit? (c : Char) : Option Nat :=
  if '0' ≤ c ∧ c ≤ '9' then some (c.toNat - '0'.toNat) else none

def natOfDigits? (sofar : Nat) : List Char → Option Nat
  | [] => some sofar
  | c :: rest => (digit? c).bind fun d => natOfDigits? (10 * sofar + d) rest

/-- An index into a list: decimal digits after an optional plus sign, below `2 ^ 64`. -/
def index? (text : List Char) : Option Nat :=
  let digits := match text with
    | '+' :: rest => rest
    | _ => text
  if digits.isEmpty then none
  else (natOfDigits? 0 digits).bind fun n => if n < Nat.pow 2 64 then some n else none

end ActionGraph.Text
