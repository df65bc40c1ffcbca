import ActionGraph.Execution.Basic
import ActionGraph.Proofs.Execution.Mailboxes

/-!
# The flow of data through a graph

What a run of a graph comes to when nothing interferes, said without runs and
mailboxes: the nodes follow each other in order, each is a function of its
context, and what is posted to a port is kept in one list of messages.
-/

namespace ActionGraph.Execution

open ActionGraph.Graph

/-! ## What is posted to nodes -/

structure Posting where
  node : String
  port : String
  value : Json
deriving DecidableEq

def valuesAt (messages : List Posting) (node port : String) : List Json :=
  (messages.filter fun m => m.node = node && m.port = port).map (·.value)

/-- The last values of a list, so many as there is room for. -/
def newest (room : Nat) (values : List Json) : List Json :=
  values.drop (values.length - room)

/-- What a port of a node holds after messages, with room for one at least. -/
def queueAt (capacity : Nat) (messages : List Posting) (node port : String) : List Json :=
  newest (max capacity 1) (valuesAt messages node port)

/-- A single message is shown as it is, and several are shown as an array. -/
def shown : List Json → Json
  | [value] => value
  | values => .arr values

theorem inputs_eq (drained : Dict (List Json)) : inputs drained = .ofDict (drained.map shown) :=
  rfl

/-- What a node sees of its messages: the ports that were sent any, and what each holds. -/
def inputsAt (capacity : Nat) (messages : List Posting) (node : String) : Json :=
  .ofFields <| (messages.filter fun m => m.node = node).map fun m =>
    (m.port, shown (queueAt capacity messages node m.port))

/-- What a port selects of an output: the field that has its name, or else all of it. -/
def selected (output : Json) (port : String) : Json :=
  match output with
  | .obj fields => ((fields.find? fun field => field.1 = port).map (·.2)).getD output
  | _ => output

theorem portValue_eq_selected (output : Json) (port : String) :
    portValue output port = selected output port := by
  cases output with
  | obj fields => rw [portValue, Json.field?, Entries.find?_eq_map_find?, selected]
  | _ => rfl

/-- What a node sends with an output, along its edges in order. -/
def postings (turn : Turn) (output : Json) : List Posting :=
  turn.edges.map fun edge =>
    ⟨edge.target.node, edge.targetPort, selected output edge.sourcePort⟩

/-! ## What nodes come to -/

inductive Yield where
  /-- It succeeds, and leaves a context. -/
  | success (output : Json) (context : Context)
  | failure (output : Option Json)
  /-- Its credential expired. -/
  | expired (failure : Failure)
  /-- Its time was up. -/
  | overdue

abbrev Behaviour :=
  Node → Context → Yield

structure Flow where
  /-- How every node stands and what its output is, in the order of the turns. -/
  results : List (String × Status × Option Json)
  context : Context
  state : State
  /-- Why the run breaks off, if it does. -/
  failure : Option Failure

namespace Flow

def after (done : List (String × Status × Option Json)) (f : Flow) : Flow :=
  { f with results := done ++ f.results }

/-- A node does not succeed, and the nodes of the later turns are skipped. -/
def stop (turn : Turn) (rest : List Turn) (context : Context) (output : Option Json)
    (failure : Option Failure) : Flow where
  results :=
    (turn.node.id, .failed, output) :: rest.map fun later => (later.node.id, .skipped, none)
  context := context
  state := .failed
  failure := failure

/-- A node comes to something, and the flow goes on with the next one if it succeeded. -/
def ofYield (next : Context → List Posting → Flow) (turn : Turn) (rest : List Turn)
    (context : Context) (messages : List Posting) : Yield → Flow
  | .success output after =>
      (next (after.remove inputsKey) (messages ++ postings turn output)).after
        [(turn.node.id, .completed, some output)]
  | .failure output => stop turn rest context output none
  | .expired failure => stop turn rest context none (some failure)
  | .overdue => stop turn rest context none none

/--
The turns of nodes, one after the other, on the context that the last completed
node left and the messages so far.
-/
def ofTurns (b : Behaviour) (capacity : Nat) : List Turn → Context → List Posting → Flow
  | [], context, _ => ⟨[], context, .completed, none⟩
  | turn :: rest, context, messages =>
      ofYield (ofTurns b capacity rest) turn rest context messages
        (b turn.node (context.set inputsKey (inputsAt capacity messages turn.node.id)))

theorem after_after (first second : List (String × Status × Option Json)) (f : Flow) :
    (f.after second).after first = f.after (first ++ second) := by
  rw [after, after, after, List.append_assoc]

theorem stop_ids (turn : Turn) (rest : List Turn) (context : Context) (output : Option Json)
    (failure : Option Failure) :
    (stop turn rest context output failure).results.map (·.1) =
      (turn :: rest).map (·.node.id) := by
  rw [stop, List.map_cons, List.map_map, List.map_cons]
  rfl

theorem stop_settled (turn : Turn) (rest : List Turn) (context : Context)
    (output : Option Json) (failure : Option Failure) :
    ∀ r ∈ (stop turn rest context output failure).results, r.2.1.isSettled = true := by
  refine List.forall_mem_cons.mpr ⟨rfl, ?_⟩
  rintro _ mem
  obtain ⟨later, _, rfl⟩ := List.mem_map.mp mem
  rfl

section OfTurns

variable (b : Behaviour) (capacity : Nat) (turns : List Turn) (context : Context)
  (messages : List Posting)

/-- Every node has a result. -/
theorem results_ids :
    (ofTurns b capacity turns context messages).results.map (·.1) = turns.map (·.node.id) := by
  induction turns generalizing context messages with
  | nil => rfl
  | cons turn rest ih =>
      rw [ofTurns]
      cases b turn.node _ with
      | success output after =>
          rw [ofYield, Flow.after, List.map_append, ih]
          rfl
      | failure output => exact stop_ids _ _ _ _ _
      | expired failure => exact stop_ids _ _ _ _ _
      | overdue => exact stop_ids _ _ _ _ _

/-- No node is left waiting or at work. -/
theorem results_settled :
    ∀ r ∈ (ofTurns b capacity turns context messages).results, r.2.1.isSettled = true := by
  induction turns generalizing context messages with
  | nil => exact nofun
  | cons turn rest ih =>
      rw [ofTurns]
      cases b turn.node _ with
      | success output after =>
          intro r mem
          rcases List.mem_append.mp mem with here | later
          · rw [List.mem_singleton.mp here]
            rfl
          · exact ih _ _ r later
      | failure output => exact stop_settled _ _ _ _ _
      | expired failure => exact stop_settled _ _ _ _ _
      | overdue => exact stop_settled _ _ _ _ _

end OfTurns

end Flow

/-! ## Values and messages -/

theorem valuesAt_append (messages more : List Posting) (node port : String) :
    valuesAt (messages ++ more) node port =
      valuesAt messages node port ++ valuesAt more node port := by
  rw [valuesAt, List.filter_append, List.map_append]
  rfl

theorem valuesAt_singleton (m : Posting) (node port : String) :
    valuesAt [m] node port = if m.node = node ∧ m.port = port then [m.value] else [] := by
  simp only [valuesAt, List.filter_cons, List.filter_nil, Bool.and_eq_true, decide_eq_true_eq]
  split <;> rfl

theorem length_newest (room : Nat) (values : List Json) :
    (newest room values).length = min values.length room := by
  rw [newest, List.length_drop]
  omega

/-- One more value drives out the oldest one where there is no room for it. -/
theorem newest_concat {room : Nat} (some : 0 < room) (values : List Json) (value : Json) :
    newest room (values ++ [value]) =
      (if room ≤ (newest room values).length then (newest room values).drop 1
        else newest room values) ++ [value] := by
  rw [length_newest]
  unfold newest
  rw [List.length_append, List.length_singleton]
  split
  · rename_i full
    rw [List.drop_drop, List.drop_append_of_le_length (by omega)]
    congr 2
    omega
  · rename_i free
    have all : values.length - room = 0 := by omega
    have still : values.length + 1 - room = 0 := by omega
    rw [all, still, List.drop_zero, List.drop_zero]

/-- A port that holds the newest of some values then holds the newest of them and one more. -/
theorem Mailbox.queue_push_of_newest {m : Mailbox} {capacity : Nat}
    (room : m.capacity = max capacity 1) {port : String} {values : List Json}
    (held : m.queue port = newest (max capacity 1) values) (value : Json) :
    (m.push port value).1.queue port = newest (max capacity 1) (values ++ [value]) := by
  rw [queue_push, if_pos rfl, room, held, newest_concat (Nat.le_max_right _ _)]

theorem newest_eq_nil_iff {room : Nat} (some : 0 < room) (values : List Json) :
    newest room values = [] ↔ values = [] := by
  rw [newest, List.drop_eq_nil_iff]
  constructor
  · intro short
    exact List.length_eq_zero_iff.mp (by omega)
  · rintro rfl
    exact Nat.zero_le _

theorem valuesAt_eq_nil_iff (messages : List Posting) (node port : String) :
    valuesAt messages node port = [] ↔
      port ∉ (messages.filter fun m => m.node = node).map (·.port) := by
  simp only [valuesAt, List.map_eq_nil_iff, List.filter_eq_nil_iff, Bool.and_eq_true,
    decide_eq_true_eq, List.mem_map, List.mem_filter]
  constructor
  · rintro none ⟨m, ⟨mem, here⟩, there⟩
    exact none m mem ⟨here, there⟩
  · rintro none m mem ⟨here, there⟩
    exact none ⟨m, ⟨mem, here⟩, there⟩

end ActionGraph.Execution
