import ActionGraph.Context.Basic
import ActionGraph.Graph.Definition
import ActionGraph.Proofs.Rule.RoundTrip
import ActionGraph.Proofs.Wire.Written

/-!
# Values that are written and read back

Rules, actions, reports, graphs and contexts are written as objects, and read
from objects with defaults and unknown keys and from lists.  Whatever they are
read from, what is written of them is read as the same again.
-/

namespace ActionGraph

open Wire

/-- An ordered value that is not taken for none where it may be left out. -/
def Json.Given (value : Json) : Prop :=
  value ≠ .null ∧ value.Ordered

namespace Wire

/-- A value of an optional field that holds any JSON value. -/
theorem Field.Drawn.given {name : String} {value : Json}
    (drawn : (Field.optional name Decode.json).Drawn Node.OfJson (some value)) : value.Given := by
  obtain ⟨_, ⟨source, rfl⟩, read⟩ := drawn.of_optional
  have made := Decode.option_eq_ok_some read
  refine ⟨Node.ne_null_of_toJson ?_ made, Node.ordered_of_toJson made⟩
  rintro rfl
  cases read

theorem Field.told_json {name : String} {value : Option Json} (all : ∀ v ∈ value, v.Given) :
    (Field.optional name Decode.json).Told (some (value.getD .null)) value := by
  have told : (Field.optional name Decode.json).Told (some ((value.map id).getD .null)) value :=
    Field.told_nullable fun v mem => ⟨(all v mem).1, Node.toJson_ofJson (all v mem).2⟩
  rwa [Option.map_id] at told

end Wire

namespace Action

/-! ## Actions -/

namespace Spec

theorem toJson_eq (spec : Spec) :
    spec.toJson = .ofFields (fields.write
      [some (.str spec.type), spec.id.map Json.str, some spec.params]) := by
  obtain ⟨type, id, params⟩ := spec
  cases id <;> rfl

theorem decode_toJson {spec : Spec} (ordered : spec.params.Ordered) :
    decode (.ofJson spec.toJson) = .ok spec := by
  rw [decode, toJson_eq, bind_eq_ok_iff]
  exact ⟨(spec.type, spec.id, spec.params, ()), Fields.record_write (by decide) _
    ⟨rfl, Field.told_text spec.id, Node.toJson_ofJson ordered, trivial⟩, rfl⟩

theorem ordered_of_decode {node : Node} {spec : Spec} (read : decode node = .ok spec) :
    spec.params.Ordered := by
  rw [decode, bind_eq_ok_iff] at read
  obtain ⟨⟨type, id, params, ⟨⟩⟩, read, ⟨⟩⟩ := read
  obtain ⟨_, _, params, _⟩ := Fields.drawn_of_record (by decide) node.each_true read
  rcases params.of_default with rfl | ⟨_, _, read⟩
  · exact ⟨.nil, trivial⟩
  · exact Node.ordered_of_toJson read

theorem stable : Stable decode toJson :=
  fun _ _ read => decode_toJson (ordered_of_decode read)

end Spec

/-! ## Reports -/

namespace Report

theorem toJson_eq (report : Report) :
    report.toJson = .ofFields (fields.write
      [some (.bool report.success), some (.str report.type), report.id.map Json.str,
        report.output, report.error.map Json.str, some (.ofNat report.duration)]) := by
  obtain ⟨success, type, id, output, error, duration⟩ := report
  cases id <;> cases output <;> cases error <;> rfl

/-- A report is read back, but for an output that is null. -/
theorem decode_toJson {report : Report} (ordered : ∀ output ∈ report.output, output.Ordered)
    (below : report.duration < Nat.pow 2 64) :
    decode (.ofJson report.toJson) =
      .ok { report with output := report.output.bind Json.present? } := by
  have told : (Field.optional "output" Decode.json).Told report.output
      (report.output.bind Json.present?) := by
    cases found : report.output with
    | none => rfl
    | some value => exact Decode.option_json_ofJson (ordered value found)
  rw [decode, toJson_eq, bind_eq_ok_iff]
  exact ⟨(report.success, report.type, report.id, report.output.bind Json.present?,
      report.error, report.duration, ()), Fields.record_write (by decide) _
    ⟨rfl, rfl, Field.told_text report.id, told, Field.told_text report.error,
      Field.told_required (Decode.u64_ofJson below), trivial⟩, rfl⟩

theorem given_of_decode {value : Json} {report : Report}
    (read : decode (.ofJson value) = .ok report) :
    (∀ output ∈ report.output, output.Given) ∧ report.duration < Nat.pow 2 64 := by
  rw [decode, bind_eq_ok_iff] at read
  obtain ⟨⟨success, type, id, output, error, duration, ⟨⟩⟩, read, ⟨⟩⟩ := read
  obtain ⟨_, _, _, output, _, duration, _⟩ :=
    Fields.drawn_of_record (by decide) (Node.each_ofJson value) read
  obtain ⟨_, _, read⟩ := duration.of_required
  refine ⟨?_, Decode.lt_of_u64 read⟩
  rintro output rfl
  exact output.given

theorem stable : Stable decode toJson := by
  intro value report read
  obtain ⟨given, below⟩ := given_of_decode read
  rw [decode_toJson (fun output mem => (given output mem).2) below]
  obtain ⟨_, _, _, output, _, _⟩ := report
  cases output with
  | none => rfl
  | some output =>
      rw [Option.bind_some, Json.present?_of_ne (given output rfl).1]

end Report

end Action

/-! ## Graphs -/

namespace Graph

namespace Node

theorem decode_toJson {node : Node} (ordered : node.config.Ordered) :
    decode (.ofJson node.toJson) = .ok node := by
  have written : node.toJson = .ofFields (fields.write
      [some (.str node.id), some (.str node.component), some node.config]) := rfl
  rw [decode, written, bind_eq_ok_iff]
  exact ⟨(node.id, node.component, node.config, ()), Fields.record_write (by decide) _
    ⟨rfl, rfl, Wire.Node.toJson_ofJson ordered, trivial⟩, rfl⟩

theorem ordered_of_decode {source : Wire.Node} {node : Node} (read : decode source = .ok node) :
    node.config.Ordered := by
  rw [decode, bind_eq_ok_iff] at read
  obtain ⟨⟨id, component, config, ⟨⟩⟩, read, ⟨⟩⟩ := read
  obtain ⟨_, _, config, _⟩ := Fields.drawn_of_record (by decide) source.each_true read
  rcases config.of_default with rfl | ⟨_, _, read⟩
  · exact ⟨.nil, trivial⟩
  · exact Wire.Node.ordered_of_toJson read

end Node

theorem Endpoint.toJson_eq (endpoint : Endpoint) :
    endpoint.toJson = .ofFields (fields.write
      [some (.str endpoint.node), endpoint.port.map Json.str]) := by
  obtain ⟨node, port⟩ := endpoint
  cases port <;> rfl

theorem Endpoint.decode_toJson (endpoint : Endpoint) :
    decode (.ofJson endpoint.toJson) = .ok endpoint := by
  rw [decode, toJson_eq, bind_eq_ok_iff]
  exact ⟨(endpoint.node, endpoint.port, ()), Fields.record_write (by decide) _
    ⟨rfl, Field.told_text endpoint.port, trivial⟩, rfl⟩

theorem Edge.decode_toJson (edge : Edge) : decode (.ofJson edge.toJson) = .ok edge := by
  have written : edge.toJson = .ofFields (fields.write
      [some edge.source.toJson, some edge.target.toJson]) := rfl
  rw [decode, written, bind_eq_ok_iff]
  exact ⟨(edge.source, edge.target, ()), Fields.record_write (by decide) _
    ⟨edge.source.decode_toJson, edge.target.decode_toJson, trivial⟩, rfl⟩

namespace Definition

theorem toJson_eq (d : Definition) :
    d.toJson = .ofFields (fields.write
      [some (.str d.name), some (.str d.version), d.description.map Json.str,
        some (.arr (d.nodes.map Node.toJson)), some (.arr (d.edges.map Edge.toJson))]) := by
  obtain ⟨name, version, description, nodes, edges⟩ := d
  cases description <;> rfl

theorem decode_toJson {d : Definition} (ordered : ∀ node ∈ d.nodes, node.config.Ordered) :
    decode (.ofJson d.toJson) = .ok d := by
  rw [decode, toJson_eq, bind_eq_ok_iff]
  exact ⟨(d.name, d.version, d.description, d.nodes, d.edges, ()),
    Fields.record_write (by decide) _
      ⟨rfl, rfl, Field.told_text d.description,
        Decode.list_ofJson fun node mem => Node.decode_toJson (ordered node mem),
        Decode.list_ofJson fun edge _ => edge.decode_toJson, trivial⟩, rfl⟩

theorem ordered_of_decode {source : Wire.Node} {d : Definition} (read : decode source = .ok d) :
    ∀ node ∈ d.nodes, node.config.Ordered := by
  rw [decode, bind_eq_ok_iff] at read
  obtain ⟨⟨name, version, description, nodes, edges, ⟨⟩⟩, read, ⟨⟩⟩ := read
  obtain ⟨_, _, _, nodes, _⟩ := Fields.drawn_of_record (by decide) source.each_true read
  rcases nodes.of_default with rfl | ⟨_, _, read⟩
  · exact List.forall_mem_nil _
  · intro node mem
    obtain ⟨_, read⟩ := Decode.exists_of_list read node mem
    exact Node.ordered_of_decode read

theorem stable : Stable decode toJson :=
  fun _ _ read => decode_toJson (ordered_of_decode read)

end Definition

end Graph

/-! ## Contexts -/

theorem Conversation.State.decode_toJson (state : State) :
    decode (.ofJson state.toJson) = .ok state := by
  cases state <;> rfl

namespace Message

/-- What else a message carries does not pass for a field of it. -/
structure Regular (message : Message) : Prop where
  unknown : ∀ entry ∈ message.extra.entries, entry.1 ∉ fields.names
  ordered : Json.OrderedFields message.extra.entries

/-- The fields of a message, as they are written before whatever else it carries. -/
def written (message : Message) : List (Option Json) :=
  [message.id.map Json.str, some (.str message.content), message.verbatim.map Json.str,
    message.sender.map Json.str, message.channel.map Json.str]

theorem toJson_eq (message : Message) :
    message.toJson = .ofFields (fields.write message.written ++ message.extra.entries) := by
  obtain ⟨id, content, verbatim, sender, channel, extra⟩ := message
  cases id <;> cases verbatim <;> cases sender <;> cases channel <;> rfl

theorem ordered_written (message : Message) :
    ∀ value ∈ message.written, ∀ v ∈ value, v.Ordered := by
  simp only [written, List.forall_mem_cons]
  exact ⟨Json.ordered_text _, Json.ordered_text (some _), Json.ordered_text _,
    Json.ordered_text _, Json.ordered_text _, List.forall_mem_nil _⟩

theorem regular_of_decode {node : Node} {message : Message} (read : decode node = .ok message) :
    message.Regular := by
  rw [decode, bind_eq_ok_iff] at read
  obtain ⟨⟨⟨id, content, verbatim, sender, channel, ⟨⟩⟩, extra⟩, read, ⟨⟩⟩ := read
  cases node with
  | map start entries ending =>
      obtain ⟨_, _, kept, keeps, rfl⟩ := (Fields.openRecord_map_eq_ok_iff (by decide) _).mp read
      have all := keeps.forall
      have given : ∀ entry ∈ (Dict.ofList kept).entries, entry ∈ kept := fun ⟨key, value⟩ mem =>
        Dict.mem_of_get?_ofList ((Dict.mem_entries_iff _ key value).mp mem)
      refine ⟨fun entry mem => (all entry (given entry mem)).1, Json.orderedFields_iff.mpr ?_⟩
      intro entry mem
      obtain ⟨_, _, read⟩ := all entry (given entry mem)
      exact Node.ordered_of_toJson read
  | _ => cases read

theorem decode_toJson {message : Message} (regular : message.Regular) :
    decode (.ofJson message.toJson) = .ok message := by
  rw [decode, toJson_eq, bind_eq_ok_iff]
  exact ⟨((message.id, message.content, message.verbatim, message.sender, message.channel, ()),
      message.extra),
    Fields.openRecord_write (by decide) _ (fields.ordered_write message.ordered_written)
      regular.unknown regular.ordered
      ⟨Field.told_text message.id, rfl, Field.told_text message.verbatim,
        Field.told_text message.sender, Field.told_text message.channel, trivial⟩, rfl⟩

end Message

namespace Context

/-- What a context holds is told apart from nothing, and is ordered. -/
structure Regular (context : Context) : Prop where
  trigger : ∀ value ∈ context.trigger, value.Given
  event : ∀ value ∈ context.event, value.Given
  user : ∀ value ∈ context.user, value.Given
  message : ∀ message ∈ context.message, message.Regular
  metadata : Json.OrderedFields context.metadata.entries
  bag : Json.OrderedFields context.bag.entries

theorem decode_view {context : Context} (regular : context.Regular) :
    decode (.ofJson context.view) = .ok context := by
  obtain ⟨trigger, event, user, message, metadata, bag⟩ := regular
  have written : context.view = .ofFields (fields.write
      [some (.str context.organization), some ((context.conversation.map Json.str).getD .null),
        some context.state.toJson, some (context.trigger.getD .null),
        some (context.event.getD .null), some ((context.message.map Message.toJson).getD .null),
        some (context.user.getD .null), some (.ofDict context.metadata),
        some (.ofDict context.bag)]) := rfl
  rw [decode, written, bind_eq_ok_iff]
  exact ⟨(context.organization, context.conversation, context.state, context.trigger,
      context.event, context.message, context.user, context.metadata, context.bag, ()),
    Fields.record_write (by decide) _
      ⟨rfl, Field.told_nullable fun _ _ => ⟨nofun, rfl⟩, context.state.decode_toJson,
        Field.told_json trigger, Field.told_json event,
        Field.told_nullable fun m mem => ⟨nofun, Message.decode_toJson (message m mem)⟩,
        Field.told_json user, Decode.dict_ofJson metadata, Decode.dict_ofJson bag, trivial⟩,
    rfl⟩

theorem regular_of_decode {value : Json} {context : Context}
    (read : decode (.ofJson value) = .ok context) : context.Regular := by
  rw [decode, bind_eq_ok_iff] at read
  obtain ⟨⟨organization, conversation, state, trigger, event, message, user, metadata, bag, ⟨⟩⟩,
    read, ⟨⟩⟩ := read
  obtain ⟨_, _, _, trigger, event, message, user, metadata, bag, _⟩ :=
    Fields.drawn_of_record (by decide) (Node.each_ofJson value) read
  have dict {name : String} {d : Dict Json}
      (drawn : (Field.default name (Decode.dict Decode.json) .empty).Drawn Node.OfJson d) :
      Json.OrderedFields d.entries := by
    rcases drawn.of_default with rfl | ⟨_, _, read⟩
    · trivial
    · exact Decode.ordered_of_dict read
  refine ⟨?_, ?_, ?_, ?_, dict metadata, dict bag⟩
  · rintro _ rfl
    exact trigger.given
  · rintro _ rfl
    exact event.given
  · rintro _ rfl
    exact user.given
  · rintro _ rfl
    obtain ⟨_, _, read⟩ := message.of_optional
    exact Message.regular_of_decode (Decode.option_eq_ok_some read)

theorem stable : Stable decode view :=
  fun _ _ read => decode_view (regular_of_decode read)

end Context

/-- Whatever is read is read as the same again from what is written of it. -/
theorem written_stably :
    Stable RuleGroup.decode RuleGroup.toJson ∧ Stable Action.Spec.decode Action.Spec.toJson ∧
      Stable Action.Report.decode Action.Report.toJson ∧
      Stable Graph.Definition.decode Graph.Definition.toJson ∧
      Stable Context.decode Context.view :=
  ⟨fun _ _ => RuleGroup.decode_again, Action.Spec.stable, Action.Report.stable,
    Graph.Definition.stable, Context.stable⟩

def taggedMessage : Json :=
  .obj
    [("message", .obj
      [("channel", .null), ("content", .str "Hi"), ("tags", .arr [.str "new", .null])]),
     ("note", .bool true), ("trigger", .null)]

def tagged : Context :=
  { Context.ofOrganization "" with
    message := some
      { Message.ofContent "Hi" with extra := .ofList [("tags", .arr [.str "new", .null])] } }

theorem tagged_written :
    Context.decode (.ofJson taggedMessage) = .ok tagged ∧
      Context.decode (.ofJson tagged.view) = .ok tagged := by
  have read : Context.decode (.ofJson taggedMessage) = .ok tagged := by rfl
  exact ⟨read, written_stably.2.2.2.2 _ _ read⟩

end ActionGraph
