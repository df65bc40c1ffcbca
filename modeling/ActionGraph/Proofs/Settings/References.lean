import ActionGraph.Settings.Load
import Mathlib.Data.List.TakeWhile
import Mathlib.Tactic.MkIffOfInductiveProp
import Mathlib.Tactic.Push

/-!
# References in a text of settings

A text is expanded from left to right: a complete reference to a variable that
is set becomes its value, and all else stays as it is.  There is one exception,
a reference that the end of the text cuts off.  It is taken for a reference by
all that follows, so that it is replaced as well, or gets the brace that it
lacks.
-/

namespace ActionGraph.Variables

variable {known : Variables}

/-- What stands in the place of a complete reference: the value, if there is one. -/
def meaning (known : Variables) (name : List Char) : List Char :=
  match known (String.ofList name) with
  | some value => value.toList
  | none => reference name

/-- What a text comes to if its complete references are replaced, and nothing else. -/
@[mk_iff]
inductive Expands (known : Variables) : List Char → List Char → Prop where
  | done : Expands known [] []
  | complete {name text expanded : List Char} (ends : '}' ∉ name)
      (later : Expands known text expanded) :
      Expands known (reference name ++ text) (meaning known name ++ expanded)
  | verbatim {c : Char} {text expanded : List Char}
      (plain : ∀ name behind, c :: text ≠ reference name ++ behind)
      (later : Expands known text expanded) :
      Expands known (c :: text) (c :: expanded)

/-- Every reference that begins in a text ends in it. -/
def Closed (text : List Char) : Prop :=
  ∀ before name, text = before ++ '$' :: '{' :: name → '}' ∈ name

/-- The end of a text cuts off a reference; what is before it is closed. -/
structure CutOff (text before name : List Char) : Prop where
  split : text = before ++ '$' :: '{' :: name
  closed : Closed before
  unended : '}' ∉ name

theorem reference_append (name text : List Char) :
    reference name ++ text = '$' :: '{' :: (name ++ '}' :: text) := by
  simp [reference]

/-! ## Where references begin and end -/

theorem closed_cons_iff {c : Char} {text : List Char} :
    Closed (c :: text) ↔ (∀ name, c :: text = '$' :: '{' :: name → '}' ∈ name) ∧ Closed text := by
  constructor
  · intro closed
    refine ⟨fun name => closed [] name, fun before name split => ?_⟩
    exact closed (c :: before) name (congrArg (c :: ·) split)
  · rintro ⟨here, later⟩ before name split
    cases before with
    | nil => exact here name split
    | cons d before => exact later before name (List.cons.inj split).2

theorem Closed.of_append {before text : List Char} (closed : Closed (before ++ text)) :
    Closed text := by
  induction before with
  | nil => exact closed
  | cons c before ih => exact ih (closed_cons_iff.mp closed).2

/-- A text is closed, or there is a first reference that its end cuts off. -/
theorem closed_or_cutOff (text : List Char) :
    Closed text ∨ ∃ before name, CutOff text before name := by
  induction text with
  | nil => exact .inl fun before name split => by simp at split
  | cons c text ih =>
      by_cases here : ∀ name, c :: text = '$' :: '{' :: name → '}' ∈ name
      · refine ih.imp (fun later => closed_cons_iff.mpr ⟨here, later⟩) ?_
        rintro ⟨before, name, rfl, closed, unended⟩
        refine ⟨c :: before, name, rfl, closed_cons_iff.mpr ⟨fun inner split => ?_, closed⟩,
          unended⟩
        -- the brace that ends the reference at the beginning is not behind the cut
        have mem := here (inner ++ '$' :: '{' :: name) (congrArg (· ++ '$' :: '{' :: name) split)
        simpa [unended] using mem
      · push Not at here
        obtain ⟨name, split, unended⟩ := here
        exact .inr ⟨[], name, split, fun before name split => by simp at split, unended⟩

/-- A text that is not empty begins with a reference, complete or cut off, or with neither. -/
theorem beginning (c : Char) (text : List Char) :
    (∃ name behind, '}' ∉ name ∧ c :: text = reference name ++ behind) ∨
      (∃ name, '}' ∉ name ∧ c :: text = '$' :: '{' :: name) ∨
      ∀ rest, c :: text ≠ '$' :: '{' :: rest := by
  by_cases begins : ∃ rest, c :: text = '$' :: '{' :: rest
  · obtain ⟨rest, split⟩ := begins
    by_cases ends : '}' ∈ rest
    · obtain ⟨name, behind, rfl, first⟩ := List.eq_append_cons_of_mem ends
      exact .inl ⟨name, behind, first, split.trans (reference_append name behind).symm⟩
    · exact .inr (.inl ⟨rest, ends, split⟩)
  · push Not at begins
    exact .inr (.inr begins)

theorem ne_reference_of_unopened {c : Char} {text : List Char}
    (unopened : ∀ rest, c :: text ≠ '$' :: '{' :: rest) (name behind : List Char) :
    c :: text ≠ reference name ++ behind := fun same =>
  unopened _ (same.trans (reference_append name behind))

/-- A reference behind a text does not begin before its end. -/
theorem unopened_append {c : Char} {text : List Char}
    (unopened : ∀ rest, c :: text ≠ '$' :: '{' :: rest) (name rest : List Char) :
    c :: (text ++ '$' :: '{' :: name) ≠ '$' :: '{' :: rest := by
  intro same
  cases text with
  | nil => simp at same
  | cons d text =>
      obtain ⟨start, same⟩ := List.cons.inj same
      obtain ⟨next, -⟩ := List.cons.inj same
      exact unopened text (start ▸ next ▸ rfl)

/-! ## The law -/

/-- There is one way to replace the complete references of a text. -/
theorem Expands.unique {text expanded other : List Char} (expands : Expands known text expanded)
    (again : Expands known text other) : expanded = other := by
  induction expands generalizing other with
  | done =>
      rcases (expands_iff _ _ _).mp again with ⟨-, same⟩ | ⟨_, _, _, -, -, start, -⟩ |
        ⟨_, _, _, -, -, start, -⟩
      · exact same.symm
      · simp [reference] at start
      · cases start
  | complete ends later ih =>
      rcases (expands_iff _ _ _).mp again with ⟨start, -⟩ | ⟨_, _, _, ends', later', same, rfl⟩ |
        ⟨_, _, _, plain, -, same, -⟩
      · simp [reference] at start
      · rw [reference_append, reference_append, List.cons_inj_right, List.cons_inj_right] at same
        obtain ⟨rfl, rfl⟩ := Text.first_cut_unique ends ends' same
        rw [ih later']
      · exact absurd same.symm (plain _ _)
  | verbatim plain later ih =>
      rcases (expands_iff _ _ _).mp again with ⟨start, -⟩ | ⟨_, _, _, -, -, same, -⟩ |
        ⟨_, _, _, -, later', same, rfl⟩
      · cases start
      · exact absurd same (plain _ _)
      · cases same
        rw [ih later']

/-- Where no variable is set, a text stands for itself. -/
theorem Expands.self_of_unset {text expanded : List Char}
    (expands : Expands (fun _ => none) text expanded) : expanded = text := by
  induction expands with
  | done => rfl
  | complete ends later ih => rw [ih, meaning]
  | verbatim plain later ih => rw [ih]

/-- Without a brace there is no complete reference. -/
theorem expands_of_notMem {text : List Char} (absent : '}' ∉ text) : Expands known text text := by
  induction text with
  | nil => exact .done
  | cons c text ih =>
      refine .verbatim (fun name behind same => absent ?_)
        (ih fun mem => absent (List.mem_cons_of_mem c mem))
      rw [same, reference_append]
      simp

/-- By the law, what is cut off stays as it is. -/
theorem Expands.append_cutOff {text before name expanded : List Char}
    (expands : Expands known before expanded) (cut : CutOff text before name) :
    Expands known text (expanded ++ '$' :: '{' :: name) := by
  obtain ⟨rfl, closed, unended⟩ := cut
  induction expands with
  | done => exact expands_of_notMem (by simpa using unended)
  | @complete inner text expanded ends later ih =>
      rw [List.append_assoc, List.append_assoc]
      exact .complete ends (ih closed.of_append)
  | @verbatim c text expanded plain later ih =>
      obtain ⟨here, later⟩ := closed_cons_iff.mp closed
      refine .verbatim (fun inner behind same => ?_) (ih later)
      rw [reference_append] at same
      rcases beginning c text with ⟨_, _, -, complete⟩ | ⟨_, endless, begins⟩ | unopened
      · exact plain _ _ complete
      · exact endless (here _ begins)
      · exact unopened_append unopened name _ same

/-! ## Expanding -/

theorem expandFrom_nil (known : Variables) (fuel : Nat) : expandFrom known fuel [] = [] := by
  cases fuel <;> rfl

/-- At a reference the scan takes its name and goes on behind it. -/
theorem expandFrom_opened (known : Variables) (fuel : Nat) (rest : List Char) :
    expandFrom known (fuel + 1) ('$' :: '{' :: rest) =
      meaning known (rest.takeWhile (· ≠ '}')) ++
        expandFrom known fuel ((rest.drop (rest.takeWhile (· ≠ '}')).length).drop 1) :=
  rfl

theorem expandFrom_reference (known : Variables) (fuel : Nat) {name : List Char}
    (ends : '}' ∉ name) (text : List Char) :
    expandFrom known (fuel + 1) (reference name ++ text) =
      meaning known name ++ expandFrom known fuel text := by
  have whole : (name ++ '}' :: text).takeWhile (· ≠ '}') = name := by
    rw [List.takeWhile_append_of_pos fun c mem => by simpa using ne_of_mem_of_not_mem mem ends]
    simp
  rw [reference_append, expandFrom_opened, whole, List.drop_left]
  rfl

/-- A reference that is cut off is taken for one to all that follows. -/
theorem expandFrom_unended (known : Variables) (fuel : Nat) {name : List Char}
    (unended : '}' ∉ name) :
    expandFrom known (fuel + 1) ('$' :: '{' :: name) = meaning known name := by
  have whole : name.takeWhile (· ≠ '}') = name :=
    List.takeWhile_eq_self_iff.mpr fun c mem => by simpa using ne_of_mem_of_not_mem mem unended
  rw [expandFrom_opened, whole, List.drop_length, List.drop_nil, expandFrom_nil, List.append_nil]

theorem expandFrom_unopened (known : Variables) (fuel : Nat) {c : Char} {text : List Char}
    (unopened : ∀ rest, c :: text ≠ '$' :: '{' :: rest) :
    expandFrom known (fuel + 1) (c :: text) = c :: expandFrom known fuel text := by
  rw [expandFrom]
  rintro rest rfl rfl
  exact unopened rest rfl

/-- A closed text is expanded as the law says. -/
theorem expands_expandFrom {text : List Char} (closed : Closed text) {fuel : Nat}
    (enough : text.length < fuel) : Expands known text (expandFrom known fuel text) := by
  induction fuel generalizing text with
  | zero => cases enough
  | succ fuel ih =>
      cases text with
      | nil => exact .done
      | cons c text =>
          rcases beginning c text with ⟨name, behind, ends, begins⟩ | ⟨name, unended, begins⟩ |
            unopened
          · rw [begins] at closed enough ⊢
            rw [expandFrom_reference known fuel ends]
            refine .complete ends (ih closed.of_append ?_)
            simp only [reference_append, List.length_cons, List.length_append] at enough
            omega
          · exact absurd (closed [] name begins) unended
          · rw [expandFrom_unopened known fuel unopened]
            refine .verbatim (ne_reference_of_unopened unopened) (ih ?_ ?_)
            · exact (closed_cons_iff.mp closed).2
            · exact Nat.lt_of_succ_lt_succ enough

/-- What is before a cut is closed, so that the law holds of it. -/
theorem CutOff.expands_before {text before name : List Char} (cut : CutOff text before name)
    {fuel : Nat} (enough : text.length < fuel) :
    Expands known before (expandFrom known fuel before) := by
  refine expands_expandFrom cut.closed (Nat.lt_of_le_of_lt ?_ enough)
  rw [cut.split, List.length_append]
  exact Nat.le_add_right _ _

/-- What is before a cut is expanded as it is alone, and what is cut off gets a meaning, too. -/
theorem expandFrom_cutOff {text before name : List Char} (cut : CutOff text before name)
    {fuel : Nat} (enough : text.length < fuel) :
    expandFrom known fuel text = expandFrom known fuel before ++ meaning known name := by
  obtain ⟨rfl, closed, unended⟩ := cut
  induction fuel generalizing before with
  | zero => cases enough
  | succ fuel ih =>
      cases before with
      | nil => rw [List.nil_append, expandFrom_unended known fuel unended]; rfl
      | cons c before =>
          rcases beginning c before with ⟨inner, behind, ends, begins⟩ | ⟨inner, endless, begins⟩ |
            unopened
          · rw [begins] at closed enough ⊢
            rw [List.append_assoc, expandFrom_reference known fuel ends,
              expandFrom_reference known fuel ends, ih closed.of_append, List.append_assoc]
            simp only [reference_append, List.length_cons, List.length_append] at enough ⊢
            omega
          · exact absurd (closed [] inner begins) endless
          · rw [List.cons_append, expandFrom_unopened known fuel (unopened_append unopened name),
              expandFrom_unopened known fuel unopened, ih (closed_cons_iff.mp closed).2,
              List.cons_append]
            exact Nat.lt_of_succ_lt_succ enough

/-- Nothing but the variables that are named makes a difference. -/
theorem expandFrom_congr {known other : Variables} {fuel : Nat} {text : List Char}
    (same : ∀ name ∈ namesFrom fuel text, known name = other name) :
    expandFrom known fuel text = expandFrom other fuel text := by
  fun_induction namesFrom fuel text with
  | case1 text => rfl
  | case2 => rfl
  | case3 fuel rest name ih =>
      obtain ⟨here, later⟩ := List.forall_mem_cons.mp same
      rw [expandFrom_opened, expandFrom_opened, ih later, meaning, meaning, here]
  | case4 fuel c rest unopened ih =>
      rw [expandFrom, expandFrom, ih same]
      · exact unopened
      · exact unopened

theorem meaning_eq_iff (known : Variables) (name : List Char) :
    meaning known name = '$' :: '{' :: name ↔
      known (String.ofList name) = some (String.ofList ('$' :: '{' :: name)) := by
  unfold meaning
  cases known (String.ofList name) with
  | none => simp [reference]
  | some value =>
      rw [Option.some.injEq]
      exact ⟨fun same => same ▸ String.ofList_toList.symm, fun same => same ▸ String.toList_ofList⟩

/-- A text is expanded as the law says exactly if what is cut off happens to mean itself. -/
theorem expands_expandFrom_iff {text : List Char} {fuel : Nat} (enough : text.length < fuel) :
    Expands known text (expandFrom known fuel text) ↔
      ∀ before name, CutOff text before name → meaning known name = '$' :: '{' :: name := by
  constructor
  · intro expands before name cut
    have first : Expands known before (expandFrom known fuel before) := cut.expands_before enough
    rw [expandFrom_cutOff cut enough] at expands
    exact List.append_cancel_left (expands.unique (first.append_cutOff cut))
  · intro meant
    rcases closed_or_cutOff text with closed | ⟨before, name, cut⟩
    · exact expands_expandFrom closed enough
    · rw [expandFrom_cutOff cut enough, meant before name cut]
      exact (cut.expands_before enough).append_cutOff cut

/-- Where no variable is set, a text that is not closed gets the brace that it lacks. -/
theorem expandFrom_unset_iff {text : List Char} {fuel : Nat} (enough : text.length < fuel) :
    expandFrom (fun _ => none) fuel text = text ↔ Closed text := by
  constructor
  · intro same
    rcases closed_or_cutOff text with closed | ⟨before, name, cut⟩
    · exact closed
    · rw [expandFrom_cutOff cut enough, (cut.expands_before enough).self_of_unset,
        cut.split] at same
      have lengths := congrArg List.length (List.append_cancel_left same)
      simp [meaning, reference] at lengths
  · exact fun closed => (expands_expandFrom closed enough).self_of_unset

/-- By the law, every text comes to one text. -/
theorem existsUnique_expands (known : Variables) (text : List Char) :
    ∃! expanded, Expands known text expanded := by
  obtain ⟨expanded, expands⟩ : ∃ expanded, Expands known text expanded := by
    rcases closed_or_cutOff text with closed | ⟨before, name, cut⟩
    · exact ⟨_, expands_expandFrom closed (Nat.lt_succ_self _)⟩
    · exact ⟨_, (cut.expands_before (Nat.lt_succ_self _)).append_cutOff cut⟩
  exact ⟨expanded, expands, fun other again => again.unique expands⟩

/--
A text comes to the one that the law says exactly if its end cuts off no
reference, or one to a variable whose value is what is cut off.  Where no
variable that is named is set, it stays as it is exactly if it is closed.
-/
theorem expand_expands_iff (known : Variables) (text : String) :
    (∃! expanded, Expands known text.toList expanded) ∧
    (Expands known text.toList (known.expand text).toList ↔
      ∀ before name, CutOff text.toList before name →
        known (String.ofList name) = some (String.ofList ('$' :: '{' :: name))) ∧
    ((∀ name ∈ names text, known name = none) →
      (known.expand text = text ↔ Closed text.toList)) := by
  have enough : text.toList.length < text.length + 1 := Nat.lt_succ_self _
  refine ⟨existsUnique_expands known text.toList, ?_, fun unset => ?_⟩
  · rw [expand, String.toList_ofList, expands_expandFrom_iff enough]
    simp only [meaning_eq_iff]
  · rw [← expandFrom_unset_iff enough, ← expandFrom_congr unset, expand]
    constructor
    · intro same
      rw [← String.toList_ofList (l := expandFrom _ _ _), same]
    · intro same
      rw [same, String.ofList_toList]

def twoReferences : String :=
  "key = \"$\x7bKEY\x7d\" # $\x7bNOTE\x7d"

theorem expand_of_twoReferences :
    names twoReferences = ["KEY", "NOTE"] ∧
      (∀ name ∈ names twoReferences, (fun _ => none : Variables) name = none) ∧
      expand (fun _ => none) twoReferences = twoReferences ∧ Closed twoReferences.toList :=
  have unset : ∀ name ∈ names twoReferences, (fun _ => none : Variables) name = none :=
    fun _ _ => rfl
  have same : expand (fun _ => none) twoReferences = twoReferences := by decide +kernel
  ⟨by decide +kernel, unset, same, ((expand_expands_iff _ twoReferences).2.2 unset).mp same⟩

/-- The brace of a reference is missing, and the variable is not set. -/
def unendedModel : String :=
  "[model]\nmodel_id = \"$\x7babc\"\n"

/-- A brace comes behind a text that ought to stay as it is, and the settings are refused. -/
theorem unendedModel_changed :
    names unendedModel = ["abc\"\n"] ∧
      expand (fun _ => none) unendedModel = unendedModel ++ "\x7d" ∧
      ¬ Expands (fun _ => none) unendedModel.toList
        (expand (fun _ => none) unendedModel).toList ∧
      (Toml.accept Settings.decode unendedModel).toBool = true ∧
      (Settings.ofText (fun _ => none) unendedModel).toBool = false := by
  have changed : expand (fun _ => none) unendedModel = unendedModel ++ "\x7d" := by
    decide +kernel
  refine ⟨by decide +kernel, changed, fun expands => ?_, by decide +kernel, by decide +kernel⟩
  have same := expands.self_of_unset
  rw [changed] at same
  revert same
  decide +kernel

end ActionGraph.Variables
