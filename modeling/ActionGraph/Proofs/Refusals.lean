/-!
# Refusals

What is done in steps, each of which may be refused, is accepted if each step
is.
-/

namespace ActionGraph

/-- What was not refused is no failure. -/
theorem toOption_eq_some_iff {ε α : Type} {x : Except ε α} {a : α} :
    x.toOption = some a ↔ x = .ok a := by
  cases x with
  | error failure => exact iff_of_false nofun nofun
  | ok b => exact ⟨fun same => congrArg _ (Option.some.inj same), fun same => by rw [same]; rfl⟩

section Bind

variable {ε α β : Type} {x : Except ε α} {f : α → Except ε β}

theorem bind_eq_ok_iff {b : β} : x >>= f = .ok b ↔ ∃ a, x = .ok a ∧ f a = .ok b := by
  cases x with
  | error failure => exact iff_of_false nofun nofun
  | ok a =>
      constructor
      · exact fun same => ⟨a, rfl, same⟩
      · rintro ⟨_, ⟨⟩, same⟩
        exact same

/-- What fails in two parts fails in the first, or in the second after the first. -/
theorem bind_eq_error_iff {failure : ε} :
    x >>= f = .error failure ↔ x = .error failure ∨ ∃ a, x = .ok a ∧ f a = .error failure := by
  cases x with
  | error _ =>
      constructor
      · rintro ⟨⟩
        exact .inl rfl
      · rintro (⟨⟨⟩⟩ | ⟨_, ⟨⟩, _⟩)
        rfl
  | ok a =>
      constructor
      · exact fun same => .inr ⟨a, rfl, same⟩
      · rintro (⟨⟨⟩⟩ | ⟨_, ⟨⟩, same⟩)
        exact same

theorem mapError_eq_ok_iff {g : ε → β} {a : α} : x.mapError g = .ok a ↔ x = .ok a := by
  cases x with
  | error failure => exact iff_of_false nofun nofun
  | ok b =>
      constructor
      · rintro ⟨⟩
        rfl
      · rintro ⟨⟩
        rfl

theorem map_fst_eq_ok {x : Except ε (α × β)} {a : α} (same : x.map Prod.fst = .ok a) :
    ∃ b, x = .ok (a, b) := by
  cases x with
  | error failure => cases same
  | ok pair =>
      cases same
      exact ⟨pair.2, rfl⟩

theorem map_eq_ok_iff {g : α → β} {b : β} : x.map g = .ok b ↔ ∃ a, x = .ok a ∧ g a = b := by
  cases x <;> simp [Except.map]

theorem exists_map_eq_ok_iff {g : α → β} : (∃ b, x.map g = .ok b) ↔ ∃ a, x = .ok a := by
  cases x with
  | error failure => exact iff_of_false nofun nofun
  | ok a => exact iff_of_true ⟨_, rfl⟩ ⟨_, rfl⟩

/-- What stands behind a guard is accepted if the guard does not hold. -/
theorem exists_guard_eq_ok_iff {stopped : Prop} [Decidable stopped] {failure : ε} :
    (∃ a, (if stopped then .error failure else x) = .ok a) ↔ ¬ stopped ∧ ∃ a, x = .ok a := by
  by_cases held : stopped
  · rw [if_pos held]
    exact iff_of_false nofun fun both => both.1 held
  · rw [if_neg held, and_iff_right held]

theorem toOption_map (x : Except ε α) (g : α → β) : (x.map g).toOption = x.toOption.map g := by
  cases x <;> rfl

end Bind

/-! ## Side by side -/

section Rel

variable {α β γ δ : Type} {R : α → β → Prop} {S : γ → δ → Prop} {a a' : Option α}
  {b b' : Option β}

theorem rel_map {f : α → γ} {f' : β → δ} (rel : Option.Rel R a b)
    (next : ∀ x y, a = some x → R x y → S (f x) (f' y)) :
    Option.Rel S (a.map f) (b.map f') := by
  cases rel with
  | none => exact .none
  | some related => exact .some (next _ _ rfl related)

theorem rel_or (first : Option.Rel R a b) (second : Option.Rel R a' b') :
    Option.Rel R (a.or a') (b.or b') := by
  cases first with
  | none => exact second
  | some related => exact .some related

end Rel

end ActionGraph
