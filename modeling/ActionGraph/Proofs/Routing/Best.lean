import ActionGraph.Action.Route
import ActionGraph.Proofs.Wire.Values
import Mathlib.Data.List.Induction

/-!
# The route that fits best

The vectors are cut into as many for each route as it has texts, and these are
the vectors of its texts.  The score of a route is the greatest similarity of
one of them to the query, and the route that is matched is the first one
declared of those with the greatest score.
-/

namespace ActionGraph

namespace Binary32

variable {x y : Binary32}

theorem lt_iff : x.lt y = true ↔ (x.isNaN = false ∧ y.isNaN = false) ∧ x.key < y.key := by
  simp [lt, and_assoc]

theorem le_iff : x.le y = true ↔ (x.isNaN = false ∧ y.isNaN = false) ∧ x.key ≤ y.key := by
  simp [le, and_assoc]

/-- Two patterns of one negative number are the same. -/
theorem eq_of_key_eq (negative : x.key < 0) (same : x.key = y.key) : x = y := by
  have pattern : ∀ z : Binary32, z.key < 0 → (z.bits.toNat : Int) = 2 ^ 31 - z.key := by
    intro z below
    have range := z.bits.toNat_lt
    simp only [key, Binary32.negative, magnitude, Nat.pow_eq, decide_eq_true_iff] at below ⊢
    split at below
    · rename_i large
      rw [if_pos large]
      omega
    · omega
  have bits : (x.bits.toNat : Int) = y.bits.toNat := by
    rw [pattern x negative, pattern y (same ▸ negative), same]
  obtain ⟨xBits⟩ := x
  obtain ⟨yBits⟩ := y
  exact congrArg mk (UInt32.toNat_inj.mp (Int.ofNat_inj.mp bits))

end Binary32

namespace Routing

/-! ## The greatest of some scores -/

section Choice

variable {α : Type} {above : α → α → Bool} {number : α → Prop} {rank : α → Int}

def Compares (above : α → α → Bool) (number : α → Prop) (rank : α → Int) : Prop :=
  ∀ a b, number a → number b → (above a b = true ↔ rank b < rank a)

variable (compares : Compares above number rank)
include compares

/-- The greatest score is one of the scores, or the least one, and none is above it. -/
theorem greatest_spec {least : α} (known : number least) (scores : List α)
    (numbers : ∀ score ∈ scores, number score) :
    (greatest above least scores = least ∨ greatest above least scores ∈ scores) ∧
      ∀ score ∈ scores, rank score ≤ rank (greatest above least scores) := by
  induction scores using List.reverseRecOn with
  | nil => exact ⟨.inl rfl, List.forall_mem_nil _⟩
  | append_singleton scores last ih =>
      obtain ⟨before, lastKnown⟩ := List.forall_mem_append.mp numbers
      have isNumber : number last := lastKnown last List.mem_cons_self
      obtain ⟨one, all⟩ := ih before
      have soFar : number (greatest above least scores) := by
        obtain is | mem := one
        · rwa [is]
        · exact before _ mem
      have step : greatest above least (scores ++ [last]) =
          if above last (greatest above least scores) then last
          else greatest above least scores := List.foldl_append
      rw [step]
      by_cases better : above last (greatest above least scores) = true
      · rw [if_pos better]
        have higher := (compares _ _ isNumber soFar).mp better
        refine ⟨.inr List.mem_concat_self, List.forall_mem_append.mpr ⟨fun score mem => ?_, ?_⟩⟩
        · exact Int.le_trans (all score mem) (Int.le_of_lt higher)
        · exact List.forall_mem_singleton.mpr (Int.le_refl _)
      · rw [if_neg better]
        have lower := Int.not_lt.mp ((compares _ _ isNumber soFar).not.mp better)
        refine ⟨one.imp_right (List.mem_append_left _), ?_⟩
        exact List.forall_mem_append.mpr ⟨all, List.forall_mem_singleton.mpr lower⟩

/-- What is matched has the greatest score, and all that come before it have lower ones. -/
theorem matched_spec (first : String × α) (others : List (String × α))
    (numbers : ∀ scored ∈ first :: others, number scored.2) :
    ∃ before after, first :: others = before ++ matched above first others :: after ∧
      (∀ scored ∈ before, rank scored.2 < rank (matched above first others).2) ∧
      ∀ scored ∈ after, rank scored.2 ≤ rank (matched above first others).2 := by
  induction others using List.reverseRecOn with
  | nil => exact ⟨[], [], rfl, List.forall_mem_nil _, List.forall_mem_nil _⟩
  | append_singleton others last ih =>
      rw [← List.cons_append] at numbers ⊢
      obtain ⟨known, lastKnown⟩ := List.forall_mem_append.mp numbers
      have isNumber : number last.2 := lastKnown last List.mem_cons_self
      obtain ⟨before, after, split, lower, notHigher⟩ := ih known
      have soFar : number (matched above first others).2 :=
        known _ (split ▸ List.mem_append_right _ List.mem_cons_self)
      have step : matched above first (others ++ [last]) =
          if above last.2 (matched above first others).2 then last
          else matched above first others := List.foldl_append
      rw [step]
      by_cases better : above last.2 (matched above first others).2 = true
      · rw [if_pos better]
        have higher := (compares _ _ isNumber soFar).mp better
        refine ⟨first :: others, [], rfl, ?_, List.forall_mem_nil _⟩
        rw [split]
        refine List.forall_mem_append.mpr ⟨fun scored mem => ?_, ?_⟩
        · exact Int.lt_trans (lower scored mem) higher
        · refine List.forall_mem_cons.mpr ⟨higher, fun scored mem => ?_⟩
          exact Int.lt_of_le_of_lt (notHigher scored mem) higher
      · rw [if_neg better]
        have bounded := Int.not_lt.mp ((compares _ _ isNumber soFar).not.mp better)
        refine ⟨before, after ++ [last], ?_, lower, ?_⟩
        · rw [split, List.append_assoc, List.cons_append]
        · exact List.forall_mem_append.mpr ⟨notHigher, List.forall_mem_singleton.mpr bounded⟩

end Choice

/-! ## The texts of a route among all texts -/

section Slices

variable {β : Type}

/-- Where the texts of a route begin, if the query comes first. -/
def offset (routes : List Route) (i : Nat) : Nat :=
  1 + ((routes.take i).flatMap Route.texts).length

/-- What stands, for each text, in the place of those of a route. -/
def slice (routes : List Route) (i : Nat) (route : Route) (all : List β) : List β :=
  (all.drop (offset routes i)).take route.texts.length

variable {routes : List Route} {i : Nat} {route : Route}

theorem flatMap_texts_eq (there : routes[i]? = some route) :
    routes.flatMap Route.texts = (routes.take i).flatMap Route.texts ++
      (route.texts ++ (routes.drop (i + 1)).flatMap Route.texts) := by
  obtain ⟨inRange, rfl⟩ := List.getElem?_eq_some_iff.mp there
  rw [← List.flatMap_cons, ← List.flatMap_append, ← List.drop_eq_getElem_cons inRange,
    List.take_append_drop]

theorem drop_offset (routes : List Route) (i : Nat) (first : β) (values : List β) :
    (first :: values).drop (offset routes i) =
      values.drop ((routes.take i).flatMap Route.texts).length := by
  rw [offset, Nat.add_comm, List.drop_succ_cons]

/-- Of all texts, the slice of a route has its own. -/
theorem slice_texts (there : routes[i]? = some route) (query : String) :
    slice routes i route (query :: routes.flatMap Route.texts) = route.texts := by
  rw [slice, drop_offset, flatMap_texts_eq there, List.drop_left, List.take_left]

theorem offset_add_le (there : routes[i]? = some route) :
    offset routes i + route.texts.length ≤ (routes.flatMap Route.texts).length + 1 := by
  rw [flatMap_texts_eq there, List.length_append, List.length_append, offset]
  omega

/-- Each route is dealt its slice. -/
theorem getElem?_deal (routes : List Route) (first : β) (values : List β) (i : Nat) :
    (deal routes values)[i]? =
      routes[i]?.map fun route => (route.name, slice routes i route (first :: values)) := by
  induction routes generalizing values i with
  | nil => rfl
  | cons head rest ih =>
      cases i with
      | zero => rfl
      | succ i =>
          rw [deal, List.getElem?_cons_succ, List.getElem?_cons_succ, ih]
          congr 1
          funext route
          rw [slice, slice, drop_offset, drop_offset, List.drop_drop, List.take_succ_cons,
            List.flatMap_cons, List.length_append]

end Slices

/-! ## Scores -/

structure Greatest (scores : List Binary32) (score : Binary32) : Prop where
  mem : score ∈ scores
  bound : ∀ other ∈ scores, other.le score = true

theorem compares_lt : Compares (fun a b => b.lt a) (fun x => x.isNaN = false) Binary32.key :=
  fun _ _ a b => Binary32.lt_iff.trans (and_iff_right ⟨b, a⟩)

/-- Where every similarity is a number and not below the least one, the score is the greatest. -/
theorem score_greatest {query : Embedding.Vector} {vectors : List Embedding.Vector}
    (some : vectors ≠ [])
    (ordered : ∀ v ∈ vectors, leastScore.le (query.cosine v) = true) :
    Greatest (vectors.map query.cosine) (score query vectors) := by
  have numbers : ∀ x ∈ vectors.map query.cosine, x.isNaN = false ∧ leastScore.key ≤ x.key := by
    refine List.forall_mem_map.mpr fun v mem => ?_
    obtain ⟨⟨-, number⟩, notBelow⟩ := Binary32.le_iff.mp (ordered v mem)
    exact ⟨number, notBelow⟩
  have known : leastScore.isNaN = false := rfl
  obtain ⟨one, all⟩ := greatest_spec compares_lt known (vectors.map query.cosine)
    fun x mem => (numbers x mem).1
  have mem : score query vectors ∈ vectors.map query.cosine := by
    obtain least | mem := one
    · obtain ⟨v, there⟩ := List.exists_mem_of_ne_nil _ some
      have its := List.mem_map_of_mem (f := query.cosine) there
      have below : (query.cosine v).key ≤ leastScore.key := least ▸ all _ its
      have same := Int.le_antisymm (numbers _ its).2 below
      have is : leastScore = query.cosine v := Binary32.eq_of_key_eq (by decide) same
      rw [score, least, is]
      exact its
    · exact mem
  exact ⟨mem, fun x there => Binary32.le_iff.mpr ⟨⟨(numbers x there).1, (numbers _ mem).1⟩,
    all x there⟩⟩

def scored (query : Embedding.Vector) (routes : List Route) (vectors : List Embedding.Vector) :
    List (Route × Binary32) :=
  routes.mapIdx fun i route => (route, score query (slice routes i route (query :: vectors)))

theorem getElem?_scored (query : Embedding.Vector) (routes : List Route)
    (vectors : List Embedding.Vector) (i : Nat) :
    (scored query routes vectors)[i]? = routes[i]?.map fun route =>
      (route, score query (slice routes i route (query :: vectors))) :=
  List.getElem?_mapIdx

theorem scored_routes (query : Embedding.Vector) (routes : List Route)
    (vectors : List Embedding.Vector) : (scored query routes vectors).map (·.1) = routes := by
  refine List.ext_getElem? fun i => ?_
  rw [List.getElem?_map, getElem?_scored, Option.map_map]
  exact congrFun Option.map_id _

theorem scores_eq (query : Embedding.Vector) (routes : List Route)
    (vectors : List Embedding.Vector) :
    scores query routes vectors =
      (scored query routes vectors).map fun entry => (entry.1.name, entry.2) := by
  refine List.ext_getElem? fun i => ?_
  rw [scores, List.getElem?_map, List.getElem?_map, getElem?_scored, getElem?_deal routes query,
    Option.map_map, Option.map_map]
  rfl

/-- The vectors of a route are those of its texts, and the score is the greatest of theirs. -/
structure Scored (routes : List Route) (i : Nat) (route : Route) (query : Embedding.Vector)
    (vectors : List Embedding.Vector) (score : Binary32) : Prop where
  inBounds : offset routes i + route.texts.length ≤ (query :: vectors).length
  /-- What stands in these places among the texts are the texts of the route. -/
  own : ∀ text, slice routes i route (text :: routes.flatMap Route.texts) = route.texts
  greatest : Greatest ((slice routes i route (query :: vectors)).map query.cosine) score

/-- The first of the greatest scores: those before it are lower, those after it not higher. -/
def FirstGreatest (scored : List (Route × Binary32)) (route : Route) (score : Binary32) : Prop :=
  ∃ before after, scored = before ++ (route, score) :: after ∧
    (∀ entry ∈ before, entry.2.lt score = true) ∧ ∀ entry ∈ after, entry.2.le score = true

section Spec

variable {query : Embedding.Vector} {routes : List Route} {vectors : List Embedding.Vector}

theorem scored_spec (several : ∀ route ∈ routes, route.texts ≠ [])
    (enough : vectors.length = (routes.flatMap Route.texts).length)
    (ordered : ∀ v ∈ vectors, leastScore.le (query.cosine v) = true) {i : Nat} {route : Route}
    {score : Binary32} (there : (scored query routes vectors)[i]? = some (route, score)) :
    Scored routes i route query vectors score := by
  rw [getElem?_scored, Option.map_eq_some_iff] at there
  obtain ⟨_, there, is⟩ := there
  cases is
  have inBounds : offset routes i + route.texts.length ≤ (query :: vectors).length := by
    rw [List.length_cons, enough]
    exact offset_add_le there
  have length : (slice routes i route (query :: vectors)).length = route.texts.length := by
    rw [slice, List.length_take, List.length_drop]
    omega
  refine ⟨inBounds, slice_texts there, score_greatest ?_ fun v mem => ordered v ?_⟩
  · intro none
    rw [none] at length
    exact several route (List.mem_of_getElem? there) (List.length_eq_zero_iff.mp length.symm)
  · rw [slice, drop_offset] at mem
    exact List.mem_of_mem_drop (List.mem_of_mem_take mem)

end Spec

/-- What is matched among routes by their names is the first of the greatest scores. -/
theorem exists_first {scored : List (Route × Binary32)} {first : String × Binary32}
    {others : List (String × Binary32)}
    (named : scored.map (fun entry => (entry.1.name, entry.2)) = first :: others)
    (numbers : ∀ entry ∈ scored, entry.2.isNaN = false) :
    ∃ route score, FirstGreatest scored route score ∧
      matched (fun a b => b.lt a) first others = (route.name, score) := by
  have known : ∀ entry ∈ first :: others, entry.2.isNaN = false := by
    rw [← named]
    exact List.forall_mem_map.mpr numbers
  obtain ⟨before, after, split, lower, notHigher⟩ := matched_spec compares_lt first others known
  rw [← named, List.map_eq_append_iff] at split
  obtain ⟨earlier, rest, rfl, rfl, split⟩ := split
  obtain ⟨⟨route, score⟩, later, rfl, is, rfl⟩ := List.map_eq_cons_iff.mp split
  obtain ⟨early, hereOn⟩ := List.forall_mem_append.mp numbers
  obtain ⟨here, late⟩ := List.forall_mem_cons.mp hereOn
  rw [← is] at lower notHigher
  rw [List.forall_mem_map] at lower notHigher
  refine ⟨route, score, ⟨earlier, later, rfl, fun entry mem => ?_, fun entry mem => ?_⟩, is.symm⟩
  · exact Binary32.lt_iff.mpr ⟨⟨early entry mem, here⟩, lower entry mem⟩
  · exact Binary32.le_iff.mpr ⟨⟨late entry mem, here⟩, notHigher entry mem⟩

/-! ## Grades -/

namespace Confidence

theorem name_injective : Function.Injective name := by
  intro a b same
  cases a <;> cases b <;> first | rfl | exact absurd same (by decide)

section Grade

variable {α : Type} {atLeast : α → α → Bool} {high medium score : α}

theorem grade_eq_high_iff :
    grade atLeast high medium score = .high ↔ atLeast score high = true := by
  unfold grade
  split
  · rename_i above
    exact iff_of_true rfl above
  · rename_i below
    refine iff_of_false ?_ below
    split <;> exact Confidence.noConfusion

theorem grade_eq_low_iff :
    grade atLeast high medium score = .low ↔
      atLeast score high = false ∧ atLeast score medium = false := by
  unfold grade
  cases atLeast score high <;> cases atLeast score medium <;> decide

theorem grade_eq_medium_iff :
    grade atLeast high medium score = .medium ↔
      atLeast score high = false ∧ atLeast score medium = true := by
  unfold grade
  cases atLeast score high <;> cases atLeast score medium <;> decide

end Grade

end Confidence

end Routing

namespace Action.Route

open Routing

/-- What is put out for a route that is matched, and the scores of all. -/
structure Tells (plan : Plan) (scored : List (Routing.Route × Binary32)) (best : Routing.Route)
    (top : Binary32) (output : Json) : Prop where
  matchedRoute : output.field? "matchedRoute" = some (.str best.name)
  score : output.field? "score" = some (.ofBinary32 top)
  high : output.field? "confidence" = some (.str "high") ↔ plan.high.le top = true
  medium : output.field? "confidence" = some (.str "medium") ↔
    plan.high.le top = false ∧ plan.medium.le top = true
  low : output.field? "confidence" = some (.str "low") ↔
    plan.high.le top = false ∧ plan.medium.le top = false
  route : output.field? "confidence" ≠ some (.str "low") →
    output.field? "route" = some (.str best.name)
  /-- Where the confidence is low, the fallback route is put out, or null if there is none. -/
  fallback : output.field? "confidence" = some (.str "low") →
    output.field? "route" = some ((plan.fallback.map Json.str).getD .null)
  scores : (scored.map fun entry => entry.1.name).Nodup → ∀ name value,
    (output.field "scores").field? name = some value ↔
      ∃ entry ∈ scored, entry.1.name = name ∧ Json.ofBinary32 entry.2 = value

def Plan.grade (plan : Plan) (score : Binary32) : Confidence :=
  .grade (fun a b => b.le a) plan.high plan.medium score

section Output

variable {plan : Plan} {first : String × Binary32} {others : List (String × Binary32)}
  {name : String} {top : Binary32}

theorem output_eq (best : matched (fun a b => b.lt a) first others = (name, top)) :
    output plan first others = Json.ofFields
      [("route", if plan.grade top == .low then Settings.textOrNull plan.fallback else .str name),
       ("matchedRoute", .str name), ("score", .ofBinary32 top),
       ("confidence", .str (plan.grade top).name), ("fallback", .bool (plan.grade top == .low)),
       ("scores", Json.ofFields ((first :: others).map fun entry =>
         (entry.1, Json.ofBinary32 entry.2)))] := by
  unfold output
  rw [best]
  rfl

theorem output_scores {scored : List (Routing.Route × Binary32)}
    (named : scored.map (fun entry => (entry.1.name, entry.2)) = first :: others)
    (distinct : (scored.map fun entry => entry.1.name).Nodup) (value : Json) :
    (Json.ofFields ((first :: others).map fun entry =>
        (entry.1, Json.ofBinary32 entry.2))).field? name = some value ↔
      ∃ entry ∈ scored, entry.1.name = name ∧ Json.ofBinary32 entry.2 = value := by
  rw [← named, List.map_map, Json.field?_ofFields_iff, List.mem_map]
  · exact exists_congr fun entry => and_congr_right fun _ => iff_of_eq (Prod.mk.injEq ..)
  · rwa [List.map_map]

theorem tells_output {scored : List (Routing.Route × Binary32)} {best : Routing.Route}
    (named : scored.map (fun entry => (entry.1.name, entry.2)) = first :: others)
    (is : matched (fun a b => b.lt a) first others = (best.name, top)) :
    Tells plan scored best top (output plan first others) := by
  obtain ⟨fields, same, distinct, route, matchedRoute, score, confidence, scores⟩ :
      ∃ fields, output plan first others = Json.ofFields fields ∧ (fields.map (·.1)).Nodup ∧
        ("route", if plan.grade top == .low then Settings.textOrNull plan.fallback
          else .str best.name) ∈ fields ∧
        ("matchedRoute", .str best.name) ∈ fields ∧ ("score", .ofBinary32 top) ∈ fields ∧
        ("confidence", .str (plan.grade top).name) ∈ fields ∧
        ("scores", Json.ofFields ((first :: others).map fun entry =>
          (entry.1, Json.ofBinary32 entry.2))) ∈ fields :=
    ⟨_, output_eq is, by simp, by simp, by simp, by simp, by simp, by simp⟩
  have graded : ∀ grade : Confidence,
      (output plan first others).field? "confidence" = some (.str grade.name) ↔
        plan.grade top = grade := by
    intro grade
    rw [same, Json.field?_ofFields distinct confidence, Option.some_inj, Json.str.injEq,
      Confidence.name_injective.eq_iff]
  have routed := Json.field?_ofFields distinct route
  rw [← same] at routed
  refine ⟨?_, ?_, (graded .high).trans Confidence.grade_eq_high_iff,
    (graded .medium).trans Confidence.grade_eq_medium_iff,
    (graded .low).trans Confidence.grade_eq_low_iff, fun fits => ?_, fun low => ?_,
    fun apart name value => ?_⟩
  · rw [same, Json.field?_ofFields distinct matchedRoute]
  · rw [same, Json.field?_ofFields distinct score]
  · rwa [if_neg fun low => fits ((graded .low).mpr (eq_of_beq low))] at routed
  · rwa [if_pos (beq_iff_eq.mpr ((graded .low).mp low))] at routed
  · rw [same, Json.field, Json.field?_ofFields distinct scores]
    exact output_scores named apart value

theorem choose_of_scores {routes : Routes} {query : Embedding.Vector}
    {vectors : List Embedding.Vector}
    (are : scores query routes.all vectors = first :: others) :
    choose plan routes (query :: vectors) = output plan first others := by
  unfold choose
  rw [List.headD_cons, List.drop_one, List.tail_cons, are]

end Output

def Chooses (plan : Plan) (routes : Routes) (query : Embedding.Vector)
    (vectors : List Embedding.Vector) (output : Json) : Prop :=
  ∃ scored : List (Routing.Route × Binary32),
    scored.map (·.1) = routes.all ∧
      (∀ i route score, scored[i]? = some (route, score) →
        Scored routes.all i route query vectors score) ∧
      ∃ best top, FirstGreatest scored best top ∧ Tells plan scored best top output

/--
Let every route have a text, and every text a vector.  Where all similarities
are numbers that are not below the least score, the score of a route is the
greatest similarity of one of its own texts, and the first route of the
greatest score is matched and graded.
-/
theorem first_greatest_chosen (plan : Plan) {routes : Routes}
    (several : ∀ route ∈ routes.all, route.texts ≠ []) {query : Embedding.Vector}
    {vectors : List Embedding.Vector}
    (enough : vectors.length = (routes.all.flatMap Routing.Route.texts).length)
    (ordered : ∀ v ∈ vectors, leastScore.le (query.cosine v) = true) :
    Chooses plan routes query vectors (choose plan routes (query :: vectors)) := by
  have fits : ∀ i route top, (scored query routes.all vectors)[i]? = some (route, top) →
      Scored routes.all i route query vectors top :=
    fun _ _ _ there => scored_spec several enough ordered there
  have numbers : ∀ entry ∈ scored query routes.all vectors, entry.2.isNaN = false := by
    intro entry mem
    obtain ⟨i, there⟩ := List.mem_iff_getElem?.mp mem
    have greatest := (fits i entry.1 entry.2 there).greatest
    exact (Binary32.le_iff.mp (greatest.bound _ greatest.mem)).1.1
  obtain ⟨first, others, named⟩ : ∃ first others, scores query routes.all vectors =
      first :: others := ⟨_, _, rfl⟩
  rw [choose_of_scores named]
  rw [scores_eq] at named
  obtain ⟨best, top, isFirst, is⟩ := exists_first named numbers
  exact ⟨_, scored_routes query routes.all vectors, fits, best, top, isFirst,
    tells_output named is⟩

/-! ### Routes that fit equally well -/

def halves : Plan :=
  ⟨defaultQuery, "small", ⟨0x3f000000⟩, ⟨0x3f000000⟩, none, none⟩

def animals : Routes :=
  ⟨⟨"fish", ["swim"], none⟩,
    [⟨"cats", ["purr"], some "about cats"⟩, ⟨"dogs", ["bark"], none⟩]⟩

def across : Embedding.Vector :=
  [.ofInt 1, .ofInt 0]

def upward : Embedding.Vector :=
  [.ofInt 0, .ofInt 1]

/-- Two of three routes fit fully, one of them by one of its two texts, and it is the first. -/
theorem first_greatest_chosen_of_tie :
    let vectors : List Embedding.Vector := [upward, upward, across, across]
    let output := choose halves animals (across :: vectors)
    (∀ route ∈ animals.all, route.texts ≠ []) ∧
      vectors.length = (animals.all.flatMap Routing.Route.texts).length ∧
      (∀ v ∈ vectors, leastScore.le (across.cosine v) = true) ∧
      Chooses halves animals across vectors output ∧
      output.field? "matchedRoute" = some (.str "cats") ∧
      output.field? "route" = some (.str "cats") ∧
      output.field? "score" = some (.ofBinary32 (.ofInt 1)) ∧
      output.field? "scores" = some (.ofFields
        [("fish", .ofBinary32 (.ofInt 0)), ("cats", .ofBinary32 (.ofInt 1)),
          ("dogs", .ofBinary32 (.ofInt 1))]) := by
  intro vectors output
  have several : ∀ route ∈ animals.all, route.texts ≠ [] := by decide
  have enough : vectors.length = (animals.all.flatMap Routing.Route.texts).length := rfl
  have ordered : ∀ v ∈ vectors, leastScore.le (across.cosine v) = true := by
    decide +kernel
  exact ⟨several, enough, ordered, first_greatest_chosen halves several enough ordered,
    by decide +kernel, by decide +kernel, by decide +kernel, by decide +kernel⟩

end Action.Route

end ActionGraph
