import ActionGraph.Proofs.Refusals
import ActionGraph.Proofs.Text.Lowering
import ActionGraph.Template.Render
import Mathlib.Data.List.Basic

/-!
# Text without markers

Text in which no expression and no statement begins is rendered as it stands.
The reader of templates would make the same of it unless there is a comment in
it, which is left out, or a line break at its end.
-/

namespace ActionGraph.Template

namespace Scan

/-! ## Markers -/

def Marker.char : Marker → Char
  | .expression => '{'
  | .statement => '%'
  | .comment => '#'

theorem Marker.ofChar?_eq_some_iff {c : Char} {marker : Marker} :
    ofChar? c = some marker ↔ c = marker.char := by
  constructor
  · intro found
    unfold ofChar? at found
    split at found
    · cases found
      rfl
    · cases found
      rfl
    · cases found
      rfl
    · cases found
  · rintro rfl
    cases marker with
    | expression => rfl
    | statement => rfl
    | comment => rfl

def opened : Option (Marker × List Char) → List Char
  | none => []
  | some (marker, rest) => '{' :: marker.char :: rest

theorem untilMarker_append (cs : List Char) :
    (untilMarker cs).1 ++ opened (untilMarker cs).2 = cs := by
  fun_induction untilMarker cs with
  | case1 c rest marker found =>
      rw [Marker.ofChar?_eq_some_iff] at found
      rw [found]
      rfl
  | case2 c rest none text found same ih =>
      rw [same] at ih
      exact congrArg _ ih
  | case3 c rest other text found same ih =>
      rw [same] at ih
      exact congrArg _ ih
  | case4 => rfl

/-- Where a marker is, one is found. -/
theorem untilMarker_isSome {marker : Marker} {cs : List Char}
    (there : ['{', marker.char] <:+: cs) : (untilMarker cs).2.isSome = true := by
  fun_induction untilMarker cs with
  | case1 c rest marker found => rfl
  | case2 c rest none text found same ih =>
      rw [same] at ih
      obtain first | later := List.infix_cons_iff.mp there
      · obtain ⟨more, is⟩ := first
        cases is
        cases none.symm.trans (Marker.ofChar?_eq_some_iff.mpr rfl)
      · exact ih later
  | case3 c rest other text found same ih =>
      rw [same] at ih
      obtain first | later := List.infix_cons_iff.mp there
      · obtain ⟨more, is⟩ := first
        cases is
        exact absurd rfl (other _ _ rfl)
      · exact ih later
  | case4 => exact absurd (List.infix_nil.mp there) (List.cons_ne_nil _ _)

/-- No expression and no statement begins in a text. -/
def Quiet (cs : List Char) : Prop :=
  ∀ marker : Marker, marker ≠ .comment → ¬ ['{', marker.char] <:+: cs

theorem Quiet.of_infix {cs part : List Char} (quiet : Quiet cs) (within : part <:+: cs) :
    Quiet part :=
  fun marker other there => quiet marker other (there.trans within)

/-- The first marker of a quiet text opens a comment. -/
theorem Quiet.untilMarker_eq {cs : List Char} (quiet : Quiet cs) :
    (untilMarker cs = (cs, none) ∧ ¬ ['{', '#'] <:+: cs) ∨
      ∃ lead rest, untilMarker cs = (lead, some (.comment, rest)) ∧
        cs = lead ++ '{' :: '#' :: rest := by
  have append := untilMarker_append cs
  cases found : untilMarker cs with | mk lead after =>
  rw [found] at append
  cases after with
  | none =>
      have silent : ¬ ['{', '#'] <:+: cs := fun there => by
        have comment : ['{', Marker.comment.char] <:+: cs := there
        have some := untilMarker_isSome comment
        rw [found] at some
        cases some
      rw [← append] at silent ⊢
      exact .inl ⟨by simp [opened], silent⟩
  | some opening =>
      obtain ⟨marker, rest⟩ := opening
      have comment : marker = .comment := by
        by_contra other
        refine quiet marker other ⟨lead, rest, ?_⟩
        rw [← append]
        simp [opened]
      subst comment
      exact .inr ⟨lead, rest, rfl, append.symm⟩

theorem takeBlanks_suffix (cs : List Char) : (takeBlanks cs).2 <:+ cs := by
  unfold takeBlanks
  split
  · split
    · exact List.suffix_cons _ _
    · exact List.suffix_refl _
  · exact List.suffix_refl _

theorem untilPair_suffix {a b : Char} {cs text after : List Char}
    (found : untilPair a b cs = some (text, after)) : after <:+ cs := by
  fun_induction untilPair a b cs generalizing text with
  | case1 c d rest same =>
      cases found
      exact (List.suffix_cons _ _).trans (List.suffix_cons _ _)
  | case2 c d rest other ih =>
      obtain ⟨⟨inner, tail⟩, there, is⟩ := Option.map_eq_some_iff.mp found
      cases is
      exact (ih there).trans (List.suffix_cons _ _)
  | case3 => cases found

end Scan

/-! ## Tokens -/

namespace Tokens

def text (content : List Char) (line : Nat) (rest : Tokens) : Tokens :=
  if content.isEmpty then rest else .one (.text content) line rest

/-- Of a template only texts are read. -/
def Reads (tokens : Tokens) (texts : List (List Char)) : Prop :=
  tokens.list.map Located.token = texts.map Token.text

theorem reads_ended : ended.Reads [] :=
  rfl

theorem Reads.text {tokens : Tokens} {texts : List (List Char)} (reads : tokens.Reads texts)
    (content : List Char) (line : Nat) :
    ∃ more, (tokens.text content line).Reads more ∧ more.flatten = content ++ texts.flatten := by
  unfold Tokens.text
  split
  · rename_i empty
    rw [List.isEmpty_iff.mp empty]
    exact ⟨texts, reads, rfl⟩
  · exact ⟨content :: texts, congrArg _ reads, rfl⟩

end Tokens

namespace Scan

def shortened (trim : Bool) (cs : List Char) : List Char :=
  if trim then Text.trimStart cs else cs

theorem scan_of_no_marker {trim : Bool} {c : Char} {cs lead : List Char}
    (found : untilMarker (shortened trim (c :: cs)) = (lead, none)) (fuel line : Nat) :
    ∃ here, scan (fuel + 1) (.outside trim) line (c :: cs) = Tokens.ended.text lead here := by
  unfold shortened at found
  simp only [scan, found]
  exact ⟨_, rfl⟩

/-- After a comment the scan goes on, unless the comment does not end. -/
theorem scan_of_comment {trim : Bool} {c : Char} {cs lead rest : List Char}
    (found : untilMarker (shortened trim (c :: cs)) = (lead, some (.comment, rest)))
    (fuel line : Nat) :
    ∃ here kept, kept.length ≤ lead.length ∧ ∃ tokens : Tokens,
      scan (fuel + 1) (.outside trim) line (c :: cs) = tokens.text kept here ∧
        (tokens.list = [] ∨
          ∃ trim line after, after <:+ rest ∧ tokens = scan fuel (.outside trim) line after) := by
  unfold shortened at found
  simp only [scan, found]
  refine ⟨_, _, ?_, _, rfl, ?_⟩
  · split
    · unfold Text.trimEnd
      have less := (List.dropWhile_sublist Text.isBlank (l := lead.reverse)).length_le
      rwa [List.length_reverse] at less ⊢
    · exact Nat.le_refl _
  · split
    · exact .inl rfl
    · rename_i paired
      exact .inr ⟨_, _, _, (untilPair_suffix paired).trans (takeBlanks_suffix rest), rfl⟩

theorem shortened_suffix (trim : Bool) (cs : List Char) : shortened trim cs <:+ cs := by
  unfold shortened
  split
  · exact List.dropWhile_suffix _
  · exact List.suffix_refl _

/-- Of a quiet text no more is read than is there, and less if there is a comment in it. -/
theorem scan_quiet (fuel : Nat) (trim : Bool) (line : Nat) {cs : List Char} (quiet : Quiet cs) :
    ∃ texts, (scan fuel (.outside trim) line cs).Reads texts ∧ texts.flatten.length ≤ cs.length ∧
      (['{', '#'] <:+: cs → texts.flatten.length < cs.length) := by
  induction fuel generalizing trim line cs with
  | zero =>
      cases cs with
      | nil => exact ⟨[], rfl, Nat.le_refl _, fun there => by cases List.infix_nil.mp there⟩
      | cons c rest => exact ⟨[], rfl, Nat.zero_le _, fun _ => Nat.succ_pos _⟩
  | succ fuel ih =>
      cases cs with
      | nil => exact ⟨[], rfl, Nat.le_refl _, fun there => by cases List.infix_nil.mp there⟩
      | cons c rest =>
          have suffix := shortened_suffix trim (c :: rest)
          have shorter := suffix.length_le
          have quieter := quiet.of_infix suffix.isInfix
          obtain ⟨found, silent⟩ | ⟨lead, inner, found, split⟩ := quieter.untilMarker_eq
          · obtain ⟨here, scanned⟩ := scan_of_no_marker found fuel line
            obtain ⟨texts, reads, flat⟩ :=
              Tokens.Reads.text Tokens.reads_ended (shortened trim (c :: rest)) here
            rw [List.flatten_nil, List.append_nil] at flat
            refine ⟨texts, scanned ▸ reads, flat ▸ shorter, fun there => flat ▸ ?_⟩
            -- the comment is gone, so that something was left out
            refine Nat.lt_of_le_of_ne shorter fun same => silent ?_
            rwa [suffix.eq_of_length same]
          · obtain ⟨here, kept, less, tokens, scanned, goesOn⟩ := scan_of_comment found fuel line
            obtain ⟨later, laterReads, fits⟩ :
                ∃ later, tokens.Reads later ∧ later.flatten.length ≤ inner.length := by
              obtain none | ⟨blanks, there, after, behind, rfl⟩ := goesOn
              · exact ⟨[], congrArg _ none, Nat.zero_le _⟩
              · have opened : inner <:+: shortened trim (c :: rest) :=
                  ⟨lead ++ ['{', '#'], [], by simp [split]⟩
                obtain ⟨later, reads, fits, -⟩ :=
                  ih blanks there (quieter.of_infix (behind.isInfix.trans opened))
                exact ⟨later, reads, Nat.le_trans fits behind.length_le⟩
            obtain ⟨texts, reads, flat⟩ := laterReads.text kept here
            have left : texts.flatten.length < (c :: rest).length := by
              refine Nat.lt_of_lt_of_le ?_ shorter
              rw [flat, split, List.length_append, List.length_append, List.length_cons,
                List.length_cons]
              omega
            exact ⟨texts, scanned ▸ reads, Nat.le_of_lt left, fun _ => left⟩

/-! ## Line breaks at the end -/

def Unbroken (cs : List Char) : Prop :=
  cs.getLast? ≠ some '\n' ∧ cs.getLast? ≠ some '\r'

theorem withoutLastBreak_prefix (cs : List Char) : withoutLastBreak cs <+: cs := by
  unfold withoutLastBreak
  dsimp only
  split
  · split
    · exact (List.dropLast_prefix _).trans (List.dropLast_prefix _)
    · exact List.dropLast_prefix _
  · split
    · exact List.dropLast_prefix _
    · exact List.prefix_refl _

theorem withoutLastBreak_eq_self_iff {cs : List Char} :
    withoutLastBreak cs = cs ↔ Unbroken cs := by
  constructor
  · intro same
    by_contra broken
    have some : cs ≠ [] := by
      rintro rfl
      exact broken ⟨nofun, nofun⟩
    have less : (withoutLastBreak cs).length ≤ cs.dropLast.length := by
      unfold withoutLastBreak
      dsimp only
      split
      · split
        · exact (List.dropLast_prefix _).length_le
        · exact Nat.le_refl _
      · rename_i first
        have second : cs.getLast? = Option.some '\r' := by_contra fun other => broken ⟨first, other⟩
        exact Nat.le_of_eq (congrArg _ (if_pos second))
    rw [same, List.length_dropLast] at less
    have := List.length_pos_iff.mpr some
    omega
  · rintro ⟨first, second⟩
    unfold withoutLastBreak
    dsimp only
    rw [if_neg first, if_neg second]

end Scan

/-! ## Statements -/

namespace Parse

theorem statements_text (fuel : Nat) (content : List Char) (here : Nat) (rest : List Located)
    (fault : Option Fault) (line : Nat) :
    (statements (fuel + 1) []).run' ⟨⟨⟨.text content, here⟩ :: rest, fault⟩, line⟩ =
      ((statements fuel []).run' ⟨⟨rest, fault⟩, here⟩).map (.verbatim content :: ·) := by
  rw [statements]
  change Except.map Prod.fst (((statements fuel []).run ⟨⟨rest, fault⟩, here⟩).bind fun others =>
    .ok (.verbatim content :: others.1, others.2)) =
      (((statements fuel []).run _).map Prod.fst).map _
  cases (statements fuel []).run ⟨⟨rest, fault⟩, here⟩ with
  | error fault => rfl
  | ok others => rfl

/-- Where only texts are read, the statements are these texts, if there is no fault. -/
theorem statements_of_reads {fuel : Nat} {tokens : Tokens} {texts : List (List Char)}
    (reads : tokens.Reads texts) (enough : texts.length < fuel) (line : Nat) :
    (statements fuel []).run' ⟨tokens, line⟩ =
      match tokens.fault with
      | some fault => .error fault
      | none => .ok (texts.map .verbatim) := by
  induction fuel generalizing tokens texts line with
  | zero => cases enough
  | succ fuel ih =>
      obtain ⟨list, fault⟩ := tokens
      cases list with
      | nil =>
          cases texts with
          | cons text texts => cases reads
          | nil =>
              rw [statements]
              cases fault with
              | some fault => rfl
              | none => rfl
      | cons located rest =>
          obtain ⟨token, here⟩ := located
          cases texts with
          | nil => cases reads
          | cons text texts =>
              obtain ⟨rfl, later⟩ := List.cons.inj reads
              have reads : (Tokens.mk rest fault).Reads texts := later
              rw [statements_text, ih reads (Nat.lt_of_succ_lt_succ enough)]
              cases fault with
              | some fault => rfl
              | none => rfl

end Parse

namespace Statement

theorem runAll_verbatim (scope : Scope) (texts : List (List Char)) :
    runAll scope (texts.map .verbatim) = .ok (scope, String.ofList texts.flatten) := by
  induction texts with
  | nil => rfl
  | cons text rest ih =>
      rw [List.map_cons, runAll, run]
      change (runAll scope (rest.map .verbatim)).bind
        (fun later => .ok (later.1, String.ofList text ++ later.2)) = _
      rw [ih, List.flatten_cons, String.ofList_append]
      rfl

end Statement

/-! ## Templates -/

/-- No comment begins in a text, and it does not end in a line break. -/
structure Plain (template : String) : Prop where
  uncommented : ¬ ['{', '#'] <:+: template.toList
  unbroken : Scan.Unbroken template.toList

/-- The text of a template by its statements, whether or not there are any. -/
def interpret (strict : Bool) (template : String) (context : Context) : Except Failure String :=
  (expand strict template context.view).mapError fun fault => .template fault.message

theorem quiet_of_hasMarkers {template : String} (none : hasMarkers template = false) :
    Scan.Quiet template.toList := by
  intro marker other there
  have found := Text.occursIn_iff.mpr there
  rw [hasMarkers, Bool.or_eq_false_iff] at none
  cases marker with
  | expression => exact Bool.false_ne_true (none.1.symm.trans found)
  | statement => exact Bool.false_ne_true (none.2.symm.trans found)
  | comment => exact other rfl

section Quiet

variable {template : String}

theorem expand_of_reads {texts : List (List Char)} (reads : (Tokens.ofText template).Reads texts)
    (strict : Bool) (view : Json) :
    expand strict template view =
      match (Tokens.ofText template).fault with
      | some fault => .error fault
      | none => .ok (String.ofList texts.flatten) := by
  have enough : texts.length < 16 * ((Tokens.ofText template).list.length + 2) := by
    have same := congrArg List.length reads
    rw [List.length_map, List.length_map] at same
    omega
  unfold expand Statement.ofText
  dsimp only
  rw [Parse.statements_of_reads reads enough]
  cases (Tokens.ofText template).fault with
  | some fault => rfl
  | none =>
      change (Statement.runAll _ (texts.map .verbatim)).bind _ = _
      rw [Statement.runAll_verbatim]
      rfl

theorem ofText_of_plain (quiet : Scan.Quiet template.toList) (plain : Plain template) :
    ∃ line, Tokens.ofText template = Tokens.ended.text template.toList line := by
  unfold Tokens.ofText
  dsimp only
  rw [Scan.withoutLastBreak_eq_self_iff.mpr plain.unbroken]
  obtain ⟨found, -⟩ | ⟨lead, rest, -, split⟩ := quiet.untilMarker_eq
  · cases cs : template.toList with
    | nil => exact ⟨0, rfl⟩
    | cons c rest =>
        rw [cs] at found
        have whole : Scan.untilMarker (Scan.shortened false (c :: rest)) = (c :: rest, none) :=
          found
        exact Scan.scan_of_no_marker whole rest.length 1
  · exact absurd ⟨lead, rest, by simp [split]⟩ plain.uncommented

theorem expand_of_plain (quiet : Scan.Quiet template.toList) (plain : Plain template)
    (strict : Bool) (view : Json) : expand strict template view = .ok template := by
  obtain ⟨line, whole⟩ := ofText_of_plain quiet plain
  obtain ⟨texts, reads, flat⟩ := Tokens.Reads.text Tokens.reads_ended template.toList line
  have sound : (Tokens.ended.text template.toList line).fault = none := by
    unfold Tokens.text
    split
    · rfl
    · rfl
  rw [expand_of_reads (whole ▸ reads), flat, whole, sound, List.flatten_nil, List.append_nil,
    String.ofList_toList]

/-- What is read of a text that is not plain is shorter. -/
theorem expand_of_not_plain (quiet : Scan.Quiet template.toList) (rough : ¬ Plain template)
    (strict : Bool) (view : Json) : expand strict template view ≠ .ok template := by
  intro same
  have before := Scan.withoutLastBreak_prefix template.toList
  obtain ⟨texts, reads, fits, less⟩ := Scan.scan_quiet _ false 1 (quiet.of_infix before.isInfix)
  rw [expand_of_reads reads] at same
  have left : texts.flatten.length < template.toList.length := by
    by_cases kept : Scan.withoutLastBreak template.toList = template.toList
    · rw [kept] at less
      refine less (by_contra fun uncommented => rough ⟨uncommented, ?_⟩)
      exact Scan.withoutLastBreak_eq_self_iff.mp kept
    · refine Nat.lt_of_le_of_lt fits (Nat.lt_of_le_of_ne before.length_le fun long => kept ?_)
      exact before.eq_of_length long
  split at same
  · cases same
  · have is := congrArg String.toList (Except.ok.inj same)
    rw [String.toList_ofList] at is
    exact Nat.ne_of_lt left (congrArg List.length is)

end Quiet

/--
A template without markers stands for itself, and by its statements it would,
too, exactly if no comment begins in it and it does not end in a line break.
-/
theorem render_eq_interpret_iff (strict : Bool) (template : String) (context : Context) :
    render strict template context = interpret strict template context ↔
      hasMarkers template = true ∨ Plain template := by
  unfold render
  cases marked : hasMarkers template with
  | true =>
      rw [if_pos rfl]
      exact iff_of_true rfl (.inl rfl)
  | false =>
      have quiet := quiet_of_hasMarkers marked
      rw [if_neg Bool.false_ne_true, or_iff_right Bool.false_ne_true]
      constructor
      · intro same
        by_contra rough
        exact expand_of_not_plain quiet rough strict _ (mapError_eq_ok_iff.mp same.symm)
      · intro plain
        exact (mapError_eq_ok_iff.mpr (expand_of_plain quiet plain strict _)).symm

/-- A comment, and a line break at the end, are kept, though they do not stand for themselves. -/
theorem comment_not_left_out :
    render false "Hi\x7b# all #\x7d" default = .ok "Hi\x7b# all #\x7d" ∧
      interpret false "Hi\x7b# all #\x7d" default = .ok "Hi" ∧
      render false "Hi\n" default = .ok "Hi\n" ∧ interpret false "Hi\n" default = .ok "Hi" := by
  decide +kernel

end ActionGraph.Template
