import ActionGraph.Context.Basic
import ActionGraph.Proofs.Wire.Values

/-!
# Paths that are put together

The segments of a path are those of its parts, wherever it is cut at a dot, and
to follow them is to follow the ones and then the others.  Null ends every
walk: where one part leads to it, there is nothing further on, and nothing is
what a path to null gives.  So a path is resolved part by part, and below a key
of the bag as if the value stood alone.
-/

namespace ActionGraph

/-! ## Cutting at dots -/

namespace Text

variable {separator : Char}

theorem pieces_ne_nil (text : List Char) : pieces separator text ≠ [] := by
  cases text with
  | nil => exact nofun
  | cons c rest =>
      rw [pieces]
      split
      · exact nofun
      · split <;> exact nofun

/-- A separator ends one piece and begins another. -/
theorem pieces_append_cons (before after : List Char) :
    pieces separator (before ++ separator :: after) =
      pieces separator before ++ pieces separator after := by
  induction before with
  | nil => exact if_pos rfl
  | cons c rest ih =>
      rw [List.cons_append, pieces, pieces, ih]
      split
      · rfl
      · cases cut : pieces separator rest with
        | nil => exact absurd cut (pieces_ne_nil rest)
        | cons piece more => rfl

theorem pieces_of_notMem {text : List Char} (absent : separator ∉ text) :
    pieces separator text = [text] := by
  induction text with
  | nil => rfl
  | cons c rest ih =>
      rw [List.mem_cons, not_or] at absent
      rw [pieces, if_neg (Ne.symm absent.1), ih absent.2]

end Text

namespace Json

theorem segments_dot (path more : String) :
    segments (path ++ "." ++ more) = segments path ++ segments more := by
  have cut : (path ++ "." ++ more).toList = path.toList ++ '.' :: more.toList := by simp
  rw [segments, cut, Text.pieces_append_cons, List.filter_append]
  rfl

theorem segments_of_key {key : String} (some : key ≠ "") (plain : '.' ∉ key.toList) :
    segments key = [key.toList] := by
  have filled : key.toList ≠ [] := by simpa using some
  rw [segments, Text.pieces_of_notMem plain]
  simpa using filled

/-! ## Following segments -/

theorem walk?_append (path more : List (List Char)) (value : Json) :
    walk? (path ++ more) value = (walk? path value).bind (walk? more) := by
  induction path generalizing value with
  | nil => rfl
  | cons segment rest ih =>
      rw [List.cons_append, walk?, walk?]
      cases value.child? segment with
      | none => rfl
      | some child => exact ih child

/-- There is nothing below null, and null itself is nothing. -/
theorem resolve?_null (path : String) : null.resolve? path = none := by
  unfold resolve?
  cases segments path with
  | nil => rfl
  | cons segment rest => rfl

theorem present?_bind_resolve? (value : Json) (path : String) :
    (present? value).bind (·.resolve? path) = value.resolve? path := by
  cases value with
  | null => exact (resolve?_null path).symm
  | _ => rfl

theorem resolve?_dot (root : Json) (path more : String) :
    root.resolve? (path ++ "." ++ more) = (root.resolve? path).bind (·.resolve? more) := by
  have whole : root.resolve? (path ++ "." ++ more) =
      (walk? (segments path) root).bind (·.resolve? more) := by
    rw [resolve?, segments_dot, walk?_append, Option.bind_assoc]
    rfl
  rw [whole, resolve?, Option.bind_assoc]
  simp only [present?_bind_resolve?]

/-- A key alone leads to the field of an object. -/
theorem resolve?_key {key : String} (some : key ≠ "") (plain : '.' ∉ key.toList) {value : Json}
    (isObject : value.isObject = true) :
    value.resolve? key = (value.field? key).bind present? := by
  cases value with
  | obj fields =>
      rw [resolve?, segments_of_key some plain, walk?, child?, String.ofList_toList,
        Option.bind_assoc]
      rfl
  | _ => cases isObject

end Json

/-! ## Paths into the bag -/

namespace Context

theorem resolve?_view (context : Context) :
    context.view.resolve? "context" = some (.ofDict context.bag) := by
  have field : context.view.field? "context" = some (.ofDict context.bag) :=
    Json.field?_ofFields (by simp) (by simp)
  rw [Json.resolve?_key (by decide) (by decide) rfl, field]
  rfl

/-- A path below a key of the bag is one into the value that is set there. -/
theorem resolve?_set (context : Context) {key : String} (some : key ≠ "")
    (plain : '.' ∉ key.toList) (value : Json) (path : String) :
    (context.set key value).resolve? ("context." ++ key ++ "." ++ path) = value.resolve? path := by
  have field : (Json.ofDict (context.set key value).bag).field? key = .some value :=
    Entries.find?_insert_self key value context.bag.entries
  have parts : "context." = "context" ++ "." := rfl
  rw [resolve?, parts, Json.resolve?_dot, Json.resolve?_dot, resolve?_view, Option.bind_some,
    Json.resolve?_key some plain rfl, field, Option.bind_some, Json.present?_bind_resolve?]

/--
A path that is cut at a dot is resolved part by part, and what is set in the bag
is found below its key as it is found in the value alone.
-/
theorem resolves_part_by_part :
    (∀ (root : Json) (path more : String),
        root.resolve? (path ++ "." ++ more) = (root.resolve? path).bind (·.resolve? more)) ∧
      ∀ (context : Context) (key : String) (value : Json) (path : String),
        key ≠ "" → '.' ∉ key.toList →
          (context.set key value).resolve? ("context." ++ key ++ "." ++ path) =
            value.resolve? path :=
  ⟨Json.resolve?_dot, fun context _ value path some plain =>
    resolve?_set context some plain value path⟩

/-- Empty segments are skipped, items have indices, and null is nothing. -/
theorem resolves_part_by_part_of_tagged :
    "user" ≠ "" ∧ '.' ∉ "user".toList ∧
      ((default : Context).set "user" (.obj [("tags", .arr [.null, .str "new"])])).resolve?
        ("context." ++ "user" ++ "." ++ "..tags.+1.") = some (.str "new") ∧
      ((default : Context).set "user" (.obj [("tags", .arr [.null, .str "new"])])).resolve?
        ("context." ++ "user" ++ "." ++ "tags.0") = none ∧
      (Json.obj [("tags", .arr [.null, .str "new"])]).resolve? ("tags.0" ++ "." ++ "1") = none := by
  have some : "user" ≠ "" := by decide
  have plain : '.' ∉ "user".toList := by decide
  refine ⟨some, plain, ?_, ?_, ?_⟩
  · rw [resolves_part_by_part.2 _ _ _ _ some plain]
    decide
  · rw [resolves_part_by_part.2 _ _ _ _ some plain]
    decide
  · rw [resolves_part_by_part.1]
    decide

end Context

end ActionGraph
