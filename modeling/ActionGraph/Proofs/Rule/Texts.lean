import ActionGraph.Proofs.Text.Lowering
import ActionGraph.Rule.Evaluate

/-!
# Texts within texts

Rules look for a text within another one in lower case.  The beginning of a
text is found at its beginning, and the end of it at its end, exactly if each
capital sigma of what is looked for ends a word there as it does in the whole.
A text is found in every text around it exactly if that is so whatever stands
around it.
-/

namespace ActionGraph

namespace Text

theorem prefix_append_iff {part first rest : List Char} (length : first.length = part.length) :
    part <+: first ++ rest ↔ first = part := by
  constructor
  · rintro ⟨others, same⟩
    exact (List.append_inj same length.symm).1.symm
  · rintro rfl
    exact List.prefix_append first rest

theorem startsWith_lower_iff (a rest : List Char) :
    startsWith (lower a) (lower (a ++ rest)) = true ↔ KeepsSigmas [] a rest := by
  rw [startsWith_iff, lower_eq_lowerIn (a ++ rest), lowerIn_append, List.append_nil,
    prefix_append_iff (length_lowerIn [] rest a), lowerIn_eq_lower_iff]

theorem suffix_append_iff {part first rest : List Char} (length : rest.length = part.length) :
    part <:+ first ++ rest ↔ rest = part := by
  constructor
  · rintro ⟨others, same⟩
    exact (List.append_inj_right' same length.symm).symm
  · rintro rfl
    exact List.suffix_append first rest

theorem endsWith_lower_iff (rest b : List Char) :
    endsWith (lower b) (lower (rest ++ b)) = true ↔ KeepsSigmas rest b [] := by
  rw [endsWith_iff, lower_eq_lowerIn (rest ++ b), lowerIn_append, List.nil_append,
    suffix_append_iff (length_lowerIn rest [] b), lowerIn_eq_lower_iff]

/-- The lower case of a part stands in that of the whole, though not where the part stands. -/
def StandsElsewhere (a s b : List Char) : Prop :=
  ∃ x y, lower (a ++ s ++ b) = x ++ lower s ++ y ∧ x.length ≠ (lower a).length

theorem occursIn_lower_iff (a s b : List Char) :
    occursIn (lower s) (lower (a ++ s ++ b)) = true ↔
      KeepsSigmas a s b ∨ StandsElsewhere a s b := by
  rw [occursIn_iff, ← lowerIn_eq_lower_iff]
  constructor
  · rintro ⟨x, y, found⟩
    by_cases place : x.length = (lower a).length
    · refine .inl ?_
      rw [lower_append_append, List.append_assoc, List.append_assoc] at found
      have later := (List.append_inj found (place.trans (length_lowerIn [] (s ++ b) a).symm)).2
      exact (List.append_inj later (length_lowerIn a b s).symm).1.symm
    · exact .inr ⟨x, y, found.symm, place⟩
  · rintro (kept | ⟨x, y, found, -⟩)
    · rw [lower_append_append, kept]
      exact ⟨_, _, rfl⟩
    · exact ⟨x, y, found.symm⟩

/-! ## In every text -/

/-- A small letter without context: it goes on with a word, and is its own lower case. -/
structure IsSmallLetter (z : Char) : Prop where
  cased : isCased z = true
  kept : isCaseIgnorable z = false
  lower : ∀ before after, lowerIn before after [z] = [z]

theorem isSmallLetter_a : IsSmallLetter 'a' :=
  ⟨by decide +kernel, by decide +kernel,
    fun _ _ => by rw [lowerIn, lowerCharIn, if_neg (by decide)]; rfl⟩

theorem isSmallLetter_b : IsSmallLetter 'b' :=
  ⟨by decide +kernel, by decide +kernel,
    fun _ _ => by rw [lowerIn, lowerCharIn, if_neg (by decide)]; rfl⟩

variable {s : List Char} {z : Char}

theorem IsSmallLetter.casedAhead (letter : IsSmallLetter z) : casedAhead [z] = true := by
  rw [Text.casedAhead, List.dropWhile_cons_of_neg (by simp [letter.kept])]
  exact letter.cased

/-- What a letter on each side leaves as it is, is left as it is by everything. -/
theorem keepsSigmas_of_letters {y : Char} (letterY : IsSmallLetter y) (letterZ : IsSmallLetter z)
    (behind : KeepsSigmas [] s [z]) (ahead : KeepsSigmas [y] s []) (a b : List Char) :
    KeepsSigmas a s b := by
  intro p q cut
  have after : endsWord p q = endsWord p (q ++ [z]) := behind p q cut
  have before : endsWord p q = endsWord ([y] ++ p) q := by
    simpa only [List.append_nil] using ahead p q cut
  simp only [endsWord, List.reverse_append, List.reverse_singleton, casedAhead_append,
    letterY.casedAhead, letterZ.casedAhead] at before after ⊢
  -- A sigma is safe from a side if a character stands there that is not passed over.
  cases passedBefore : p.reverse.all isCaseIgnorable with
  | true =>
      rw [passedBefore, casedAhead_of_all passedBefore] at before
      have shut : Text.casedAhead q = true := by simpa using before
      cases passedAfter : q.all isCaseIgnorable with
      | true => simp [casedAhead_of_all passedAfter] at shut
      | false => simp [casedAhead_of_all passedBefore, shut]
  | false =>
      cases passedAfter : q.all isCaseIgnorable with
      | true =>
          rw [passedAfter, casedAhead_of_all passedAfter] at after
          have bare : Text.casedAhead p.reverse = false := by simpa using after
          simp [bare]
      | false => simp

theorem keepsSigmas_of_lower_eq_nil (empty : lower s = []) (a b : List Char) :
    KeepsSigmas a s b := by
  apply lowerIn_eq_lower_iff.mp
  rw [empty, ← List.length_eq_zero_iff, length_lowerIn, empty, List.length_nil]

/-- A text that is found before a letter without standing there ends in it. -/
theorem keepsSigmas_or_getLast? (letter : IsSmallLetter z)
    (found : occursIn (lower s) (lower ([] ++ s ++ [z])) = true) :
    KeepsSigmas [] s [z] ∨ (lower s).getLast? = some z := by
  rcases (occursIn_lower_iff [] s [z]).mp found with kept | ⟨x, y, same, away⟩
  · exact .inl kept
  · rw [lower_append_append, letter.lower] at same
    have lengths := congrArg List.length same
    simp only [List.length_append, length_lowerIn, List.length_singleton] at lengths
    have nothing : lower [] = [] := rfl
    rw [nothing, List.length_nil] at away lengths
    have last : y = [] := List.eq_nil_of_length_eq_zero (by omega)
    have ends := congrArg List.getLast? same
    rw [last, List.append_nil, List.getLast?_concat, List.getLast?_append] at ends
    cases own : (lower s).getLast? with
    | none => exact .inl (keepsSigmas_of_lower_eq_nil (List.getLast?_eq_none_iff.mp own) _ _)
    | some c =>
        rw [own] at ends
        exact .inr ends.symm

/-- A text that is found after a letter without standing there begins with it. -/
theorem keepsSigmas_or_head? (letter : IsSmallLetter z)
    (found : occursIn (lower s) (lower ([z] ++ s ++ [])) = true) :
    KeepsSigmas [z] s [] ∨ (lower s).head? = some z := by
  rcases (occursIn_lower_iff [z] s []).mp found with kept | ⟨x, y, same, away⟩
  · exact .inl kept
  · have alone : (lower [z]).length = 1 := by rw [lower_eq_lowerIn, letter.lower]; rfl
    rw [alone] at away
    rw [lower_append_append, letter.lower, lowerIn, List.append_nil] at same
    have lengths := congrArg List.length same
    simp only [List.length_append, length_lowerIn, List.length_singleton] at lengths
    have first : x = [] := List.eq_nil_of_length_eq_zero (by omega)
    have begins := congrArg List.head? same
    rw [first, List.nil_append, List.singleton_append, List.head?_cons,
      List.head?_append] at begins
    cases own : (lower s).head? with
    | none => exact .inl (keepsSigmas_of_lower_eq_nil (List.head?_eq_none_iff.mp own) _ _)
    | some c =>
        rw [own] at begins
        exact .inr begins.symm

theorem exists_letter_behind (found : ∀ b, occursIn (lower s) (lower ([] ++ s ++ b)) = true) :
    ∃ z, IsSmallLetter z ∧ KeepsSigmas [] s [z] := by
  rcases keepsSigmas_or_getLast? isSmallLetter_a (found ['a']) with kept | endsA
  · exact ⟨_, isSmallLetter_a, kept⟩
  · rcases keepsSigmas_or_getLast? isSmallLetter_b (found ['b']) with kept | endsB
    · exact ⟨_, isSmallLetter_b, kept⟩
    · exact absurd (endsA.symm.trans endsB) (by decide)

theorem exists_letter_ahead (found : ∀ a, occursIn (lower s) (lower (a ++ s ++ [])) = true) :
    ∃ y, IsSmallLetter y ∧ KeepsSigmas [y] s [] := by
  rcases keepsSigmas_or_head? isSmallLetter_a (found ['a']) with kept | beginsA
  · exact ⟨_, isSmallLetter_a, kept⟩
  · rcases keepsSigmas_or_head? isSmallLetter_b (found ['b']) with kept | beginsB
    · exact ⟨_, isSmallLetter_b, kept⟩
    · exact absurd (beginsA.symm.trans beginsB) (by decide)

/-- A text is found whatever stands around it exactly if its sigmas are kept in all places. -/
theorem occursIn_lower_everywhere_iff :
    (∀ a b, occursIn (lower s) (lower (a ++ s ++ b)) = true) ↔ ∀ a b, KeepsSigmas a s b := by
  constructor
  · intro found
    obtain ⟨z, letterZ, behind⟩ := exists_letter_behind (found [])
    obtain ⟨y, letterY, ahead⟩ := exists_letter_ahead fun a => found a []
    exact keepsSigmas_of_letters letterY letterZ behind ahead
  · intro kept a b
    exact (occursIn_lower_iff a s b).mpr (.inl (kept a b))

end Text

namespace Operator

open Text (KeepsSigmas StandsElsewhere)

theorem apply_startsWith (text start : String) :
    startsWith.apply (some (.str text)) (.str start) =
      Text.startsWith (Text.lower start.toList) (Text.lower text.toList) :=
  rfl

theorem apply_endsWith (text ending : String) :
    endsWith.apply (some (.str text)) (.str ending) =
      Text.endsWith (Text.lower ending.toList) (Text.lower text.toList) :=
  rfl

theorem apply_contains (text part : String) :
    contains.apply (some (.str text)) (.str part) =
      Text.occursIn (Text.lower part.toList) (Text.lower text.toList) :=
  rfl

/--
A text that begins with another one is found to, exactly if each capital sigma
of the other ends a word there as it does in the whole, and so for its end.
A text that contains another one is found to, exactly if that holds of the
place where it stands or its lower case stands at another place as well.
That it is found whatever it stands between is the case exactly if no place
changes its sigmas.
-/
theorem literal_found_iff (a s b : String) :
    (startsWith.apply (some (.str (a ++ s ++ b))) (.str a) = true ↔
      KeepsSigmas [] a.toList (s ++ b).toList) ∧
    (endsWith.apply (some (.str (a ++ s ++ b))) (.str b) = true ↔
      KeepsSigmas (a ++ s).toList b.toList []) ∧
    (contains.apply (some (.str (a ++ s ++ b))) (.str s) = true ↔
      KeepsSigmas a.toList s.toList b.toList ∨ StandsElsewhere a.toList s.toList b.toList) ∧
    (notContains.apply (some (.str (a ++ s ++ b))) (.str s) =
      !contains.apply (some (.str (a ++ s ++ b))) (.str s)) ∧
    ((∀ before after : String,
        contains.apply (some (.str (before ++ s ++ after))) (.str s) = true) ↔
      ∀ before after, KeepsSigmas before s.toList after) := by
  refine ⟨?_, ?_, ?_, rfl, ?_⟩
  · rw [apply_startsWith, String.append_assoc, String.toList_append]
    exact Text.startsWith_lower_iff _ _
  · rw [apply_endsWith, String.toList_append]
    exact Text.endsWith_lower_iff _ _
  · rw [apply_contains, String.toList_append, String.toList_append]
    exact Text.occursIn_lower_iff _ _ _
  · simp only [apply_contains, String.toList_append, ← Text.occursIn_lower_everywhere_iff]
    constructor
    · intro found before after
      have here := found (.ofList before) (.ofList after)
      rwa [String.toList_ofList, String.toList_ofList] at here
    · intro found before after
      exact found before.toList after.toList

/-- A sigma that ends a word of its own is not found where another letter follows. -/
theorem literal_sigma_missed :
    startsWith.apply (some (.str ("ΑΣ" ++ "Α" ++ ""))) (.str "ΑΣ") = false ∧
      endsWith.apply (some (.str ("ΟΔ" ++ "Ο" ++ "Σ"))) (.str "Σ") = false ∧
      contains.apply (some (.str ("Α" ++ "Σ" ++ ""))) (.str "Σ") = false ∧
      notContains.apply (some (.str ("Α" ++ "Σ" ++ ""))) (.str "Σ") = true := by
  decide +kernel

end Operator

end ActionGraph
