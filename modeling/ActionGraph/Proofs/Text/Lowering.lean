import ActionGraph.Text.Case
import ActionGraph.Text.Split
import Mathlib.Logic.Basic

/-!
# Lower case in context

The lower case of a text takes each character alone, save that a capital sigma
takes its final form at the end of a word.  What stands around a text can
therefore change its lower case in no other way than that: not the length of
it, and not any character but a capital sigma.
-/

namespace ActionGraph.Text

/-! ## Searching -/

theorem stripStart?_eq_some_iff {start text rest : List Char} :
    stripStart? start text = some rest ↔ text = start ++ rest := by
  induction start generalizing text with
  | nil => simp [stripStart?]
  | cons p ps ih =>
      cases text with
      | nil => simp [stripStart?]
      | cons c cs =>
          by_cases same : p = c
          · simp [stripStart?, same, ih]
          · simp [stripStart?, same, Ne.symm same]

theorem startsWith_iff {start text : List Char} :
    startsWith start text = true ↔ start <+: text := by
  rw [startsWith, Option.isSome_iff_exists]
  exact exists_congr fun rest => stripStart?_eq_some_iff.trans eq_comm

theorem endsWith_iff {ending text : List Char} :
    endsWith ending text = true ↔ ending <:+ text := by
  rw [endsWith, startsWith_iff, List.reverse_prefix]

theorem occursIn_iff {part text : List Char} : occursIn part text = true ↔ part <:+: text := by
  induction text with
  | nil => rw [occursIn, List.isEmpty_iff, List.infix_nil]
  | cons c rest ih => rw [occursIn, Bool.or_eq_true, startsWith_iff, ih, List.infix_cons_iff]

/-! ## Words -/

/-- Only a text that is passed over as a whole lets through what stands behind it. -/
theorem casedAhead_append (cs ds : List Char) :
    casedAhead (cs ++ ds) = if cs.all isCaseIgnorable then casedAhead ds else casedAhead cs := by
  induction cs with
  | nil => rfl
  | cons c rest ih =>
      rw [List.all_cons]
      cases passed : isCaseIgnorable c with
      | true =>
          simpa only [casedAhead, List.cons_append, List.dropWhile_cons_of_pos passed,
            Bool.true_and] using ih
      | false =>
          have stays : ¬ isCaseIgnorable c = true := Bool.eq_false_iff.mp passed
          simp only [casedAhead, List.cons_append, List.dropWhile_cons_of_neg stays,
            Bool.false_and, Bool.false_eq_true, if_false]

theorem casedAhead_of_all {cs : List Char} (all : cs.all isCaseIgnorable = true) :
    casedAhead cs = false := by
  have through := casedAhead_append cs []
  rwa [if_pos all, List.append_nil] at through

/-! ## A text between two others -/

/-- The capital sigma, whose lower case depends on what stands around it. -/
def capitalSigma : Char :=
  Char.ofNat 0x3a3

/-- Whether a capital sigma between two texts stands at the end of a word. -/
def endsWord (before after : List Char) : Bool :=
  casedAhead before.reverse && !casedAhead after

def lowerCharIn (before after : List Char) (c : Char) : List Char :=
  if c = capitalSigma then [Char.ofNat (if endsWord before after then 0x3c2 else 0x3c3)]
  else lowerChar c

def lowerIn (before after : List Char) : List Char → List Char
  | [] => []
  | c :: rest => lowerCharIn before (rest ++ after) c ++ lowerIn (before ++ [c]) after rest

theorem toNat_eq_sigma_iff {c : Char} : c.toNat = 0x3a3 ↔ c = capitalSigma :=
  ⟨fun same => Char.toNat_inj.mp same, fun same => same ▸ rfl⟩

theorem lowerFrom_eq_lowerIn (before cs : List Char) :
    lowerFrom before.reverse cs = lowerIn before [] cs := by
  induction cs generalizing before with
  | nil => rfl
  | cons c rest ih =>
      have next := ih (before ++ [c])
      rw [List.reverse_append] at next
      simp only [lowerFrom, lowerIn, lowerCharIn, endsWord, toNat_eq_sigma_iff, List.append_nil]
      exact congrArg _ next

theorem lower_eq_lowerIn (cs : List Char) : lower cs = lowerIn [] [] cs :=
  lowerFrom_eq_lowerIn [] cs

theorem lowerIn_append (before after cs ds : List Char) :
    lowerIn before after (cs ++ ds) =
      lowerIn before (ds ++ after) cs ++ lowerIn (before ++ cs) after ds := by
  induction cs generalizing before with
  | nil => rw [List.nil_append, List.append_nil, lowerIn, List.nil_append]
  | cons c rest ih =>
      rw [List.cons_append, lowerIn, lowerIn, ih, List.append_assoc, List.append_assoc,
        List.append_assoc]
      rfl

/-- The lower case of a text is made of those of its parts, each in its place. -/
theorem lower_append_append (a s b : List Char) :
    lower (a ++ s ++ b) = lowerIn [] (s ++ b) a ++ lowerIn a b s ++ lowerIn (a ++ s) [] b := by
  rw [lower_eq_lowerIn, lowerIn_append, lowerIn_append, List.append_nil, List.nil_append,
    List.nil_append]

/-! ## What a place changes -/

section Places

variable {before after before' after' : List Char}

theorem length_lowerCharIn (c : Char) :
    (lowerCharIn before after c).length = (lowerCharIn before' after' c).length := by
  unfold lowerCharIn
  split
  · rfl
  · rfl

theorem lowerCharIn_eq_iff {c : Char} :
    lowerCharIn before after c = lowerCharIn before' after' c ↔
      (c = capitalSigma → endsWord before after = endsWord before' after') := by
  unfold lowerCharIn
  split
  · rename_i sigma
    have final : Char.ofNat 0x3c2 ≠ Char.ofNat 0x3c3 := by decide
    cases endsWord before after <;> cases endsWord before' after' <;>
      simp [sigma, final, final.symm]
  · rename_i other
    exact iff_of_true rfl fun sigma => absurd sigma other

theorem length_lowerIn_congr (cs : List Char) :
    (lowerIn before after cs).length = (lowerIn before' after' cs).length := by
  induction cs generalizing before before' with
  | nil => rfl
  | cons c rest ih =>
      simp only [lowerIn, List.length_append]
      exact congrArg₂ (· + ·) (length_lowerCharIn c) ih

/-- A text has the same lower case in two places exactly if each capital sigma has. -/
theorem lowerIn_eq_iff {cs : List Char} :
    lowerIn before after cs = lowerIn before' after' cs ↔
      ∀ p q, cs = p ++ capitalSigma :: q →
        endsWord (before ++ p) (q ++ after) = endsWord (before' ++ p) (q ++ after') := by
  induction cs generalizing before before' with
  | nil => simp [lowerIn]
  | cons c rest ih =>
      have parts : lowerIn before after (c :: rest) = lowerIn before' after' (c :: rest) ↔
          lowerCharIn before (rest ++ after) c = lowerCharIn before' (rest ++ after') c ∧
            lowerIn (before ++ [c]) after rest = lowerIn (before' ++ [c]) after' rest :=
        ⟨fun same => List.append_inj same (length_lowerCharIn c),
          fun ⟨first, later⟩ => congrArg₂ (· ++ ·) first later⟩
      rw [parts, lowerCharIn_eq_iff, ih]
      constructor
      · rintro ⟨first, later⟩ p q cut
        rcases List.cons_eq_append_iff.mp cut with ⟨rfl, here⟩ | ⟨p, rfl, there⟩
        · obtain ⟨sigma, rfl⟩ := List.cons.inj here
          rw [List.append_nil, List.append_nil]
          exact first sigma.symm
        · have next := later p q there
          rwa [List.append_assoc, List.append_assoc] at next
      · intro all
        constructor
        · rintro rfl
          have here := all [] rest rfl
          rwa [List.append_nil, List.append_nil] at here
        · rintro p q rfl
          have there := all (c :: p) q rfl
          rwa [List.append_assoc, List.append_assoc]

end Places

/-- Each capital sigma of a text ends a word there exactly if it does between two other texts. -/
def KeepsSigmas (before cs after : List Char) : Prop :=
  ∀ p q, cs = p ++ capitalSigma :: q → endsWord p q = endsWord (before ++ p) (q ++ after)

/-- What stands around a text does not change the length of its lower case. -/
theorem length_lowerIn (before after cs : List Char) :
    (lowerIn before after cs).length = (lower cs).length := by
  rw [lower_eq_lowerIn]
  exact length_lowerIn_congr cs

/-- A text keeps its lower case exactly if it keeps its capital sigmas. -/
theorem lowerIn_eq_lower_iff {before cs after : List Char} :
    lowerIn before after cs = lower cs ↔ KeepsSigmas before cs after := by
  rw [lower_eq_lowerIn, eq_comm, lowerIn_eq_iff]
  simp only [List.nil_append, List.append_nil, KeepsSigmas]

end ActionGraph.Text
