import ActionGraph.Completion.Remote
import ActionGraph.Embedding.Remote
import ActionGraph.Proofs.Action.Collaboration
import ActionGraph.Proofs.Routing.Batches
import ActionGraph.Rehearsal.Network

/-!
# Replies of services

An action that asks a service once ends as the reply says.  A status that
denies the credential makes the dispatch fail; any other reply that does not
serve, and the lack of one, becomes a report without success and leaves the
context as it was.
-/

namespace ActionGraph

/-! ## What a reply says -/

namespace Http

open ActionGraph.Action

variable {σ α β : Type}

/-- In some state of what is outside, a transport gives this reply to whatever is asked. -/
def Transport.Gives (transport : Transport σ) (outside : σ) (reply : Option Reply) : Prop :=
  ∀ request (w : World σ), w.outside = outside → (Task.complete w (transport request)).2 = reply

def Denied (reply : Option Reply) : Prop :=
  ∃ answer, reply = some answer ∧ (answer.status = 401 ∨ answer.status = 403)

def Conveys (decoder : Wire.Decoder α) (reply : Option Reply) (value : α) : Prop :=
  ∃ status text, reply = some ⟨status, some text⟩ ∧ 200 ≤ status ∧ status < 300 ∧
    Json.acceptText decoder text = .ok value

theorem isSuccess_iff {status : Nat} : isSuccess status = true ↔ 200 ≤ status ∧ status < 300 :=
  decide_eq_true_iff

/-- A credential that is denied is told as such, and only values of some kind are answered. -/
structure Answers (reply : Option Reply) (served : α → Prop) (answer : Except Failure α) :
    Prop where
  denied : (∃ failure, answer = .error failure ∧ failure.isCredential = true) ↔ Denied reply
  served : ∀ value, answer = .ok value ↔ served value

namespace Answers

variable {reply : Option Reply} {served : α → Prop} {answer : Except Failure α}
  (answers : Answers reply served answer)
include answers

theorem denied_iff_of_error {failure : Failure} (told : answer = .error failure) :
    Denied reply ↔ failure.isCredential = true := by
  rw [← answers.denied]
  constructor
  · rintro ⟨other, same, credential⟩
    cases told.symm.trans same
    exact credential
  · exact fun credential => ⟨failure, told, credential⟩

theorem not_served_of_error {failure : Failure} (told : answer = .error failure) :
    ¬ ∃ value, served value := by
  rintro ⟨value, serves⟩
  cases told.symm.trans ((answers.served value).mpr serves)

theorem not_denied_of_ok {value : α} (told : answer = .ok value) : ¬ Denied reply := by
  rw [← answers.denied]
  rintro ⟨failure, same, _⟩
  cases told.symm.trans same

end Answers

section Understand

variable {other : String → Failure} {unread : String} {decoder : Wire.Decoder α}
  {request : Request} {reply : Option Reply}

theorem understand_eq_ok_iff {value : α} :
    understand other unread decoder request reply = .ok value ↔ Conveys decoder reply value := by
  constructor
  · intro understood
    rcases reply with _ | ⟨status, body⟩
    · cases understood
    · simp only [understand] at understood
      split at understood
      · rename_i success
        split at understood
        · rename_i found
          cases understood
          obtain ⟨text, rfl, read⟩ := Option.map_eq_some_iff.mp found
          obtain ⟨above, below⟩ := isSuccess_iff.mp success
          exact ⟨status, text, rfl, above, below, read⟩
        · cases understood
      · cases understood
  · rintro ⟨status, text, rfl, above, below, read⟩
    simp only [understand, if_pos (isSuccess_iff.mpr ⟨above, below⟩), Option.map_some, read]

theorem refusal_isCredential (plain : ∀ text, (other text).isCredential = false)
    (answer : Reply) :
    (refusal other answer).isCredential = true ↔ answer.status = 401 ∨ answer.status = 403 := by
  unfold refusal
  dsimp only
  split
  · rename_i denied
    exact iff_of_true rfl denied
  · rename_i other
    rw [plain]
    exact iff_of_false Bool.false_ne_true other

/-- What is understood answers, if the failures of the request are no credentials. -/
theorem understand_answers (plain : ∀ text, (other text).isCredential = false) :
    Answers reply (Conveys decoder reply) (understand other unread decoder request reply) := by
  refine ⟨?_, fun value => understand_eq_ok_iff⟩
  have never : ∀ text, ¬ ∃ failure, (.error (other text) : Except Failure α) = .error failure ∧
      failure.isCredential = true := by
    rintro text ⟨_, ⟨⟩, credential⟩
    exact Bool.false_ne_true ((plain text).symm.trans credential)
  rcases reply with _ | answer
  · exact iff_of_false (never _) nofun
  · have same : Denied (some answer) ↔ answer.status = 401 ∨ answer.status = 403 := by
      constructor
      · rintro ⟨_, ⟨⟩, denied⟩
        exact denied
      · exact fun denied => ⟨answer, rfl, denied⟩
    rw [same]
    simp only [understand]
    split
    · rename_i success
      have apart : ¬ (answer.status = 401 ∨ answer.status = 403) := by
        have := isSuccess_iff.mp success
        omega
      split
      · exact iff_of_false nofun apart
      · exact iff_of_false (never _) apart
    · rw [← refusal_isCredential plain answer]
      constructor
      · rintro ⟨_, ⟨⟩, credential⟩
        exact credential
      · exact fun credential => ⟨_, rfl, credential⟩

end Understand

/-- What is made of an answer answers, if it fails for no credential. -/
theorem Answers.bind {reply : Option Reply} {served : α → Prop} {answer : Except Failure α}
    (answers : Answers reply served answer) {f : α → Except Failure β}
    (plain : ∀ value failure, f value = .error failure → failure.isCredential = false) :
    Answers reply (fun b => ∃ a, served a ∧ f a = .ok b) (answer.bind f) := by
  constructor
  · rw [← answers.denied]
    constructor
    · rintro ⟨failure, failed, credential⟩
      obtain failed | ⟨value, _, failed⟩ := bind_eq_error_iff.mp failed
      · exact ⟨failure, failed, credential⟩
      · exact absurd ((plain value failure failed).symm.trans credential) Bool.false_ne_true
    · rintro ⟨failure, failed, credential⟩
      exact ⟨failure, bind_eq_error_iff.mpr (.inl failed), credential⟩
  · intro b
    refine bind_eq_ok_iff.trans ?_
    exact exists_congr fun a => and_congr_left fun _ => answers.served a

/-- A service that is asked while nothing is happening outside answers. -/
theorem complete_ask {transport : Transport σ} {outside : σ} {reply : Option Reply}
    (gives : transport.Gives outside reply) (other : String → Failure) (unread : String)
    (decoder : Wire.Decoder α) (request : Request) {w : World σ} (same : w.outside = outside) :
    (Task.complete w (ask transport other unread decoder request)).2 =
      understand other unread decoder request reply := by
  unfold ask Process.map
  rw [Task.complete_bind, gives request w same]
  rfl

end Http

/-! ## Texts that are asked for -/

namespace Routing

open ActionGraph.Action ActionGraph.Embedding

variable {σ : Type}

/-- Where a text is not in the cache, the source of embeddings is asked about those that are not. -/
theorem complete_vectors (embedder : Embedder σ) (dimensions : Option Nat) (model : String)
    {texts : List String} {w : World σ} (missing : uncached w.cache w.now model texts ≠ []) :
    ∃ v : World σ, v.outside = w.outside ∧ ∃ hits,
      (Task.complete w (vectors embedder dimensions model texts)).2 =
        ((Task.complete v
          (embedder (uncached w.cache w.now model texts) model dimensions)).2.bind
            (paired (uncached w.cache w.now model texts))).map (fill hits) := by
  refine ⟨consulted model texts w, rfl, (lookUp model w.now w.cache texts).2, ?_⟩
  rw [complete_vectors_of_some embedder dimensions missing, complete_conclude_snd]
  rfl

end Routing

/-! ## Services -/

namespace Completion.Remote

open ActionGraph.Action

variable {σ : Type} {transport : Http.Transport σ} {outside : σ} {reply : Option Http.Reply}

def Served (reply : Option Http.Reply) : Prop :=
  ∃ answer content others, Http.Conveys Answer.decode reply answer ∧
    answer.choices = some content :: others

theorem Answer.reply_eq_ok_iff {answer : Answer} {model : String} :
    (∃ completion, answer.reply model = .ok completion) ↔
      ∃ content others, answer.choices = some content :: others := by
  unfold Answer.reply
  split
  · rename_i content others there
    exact iff_of_true ⟨_, rfl⟩ ⟨content, others, there⟩
  · rename_i none
    exact iff_of_false nofun fun ⟨content, others, there⟩ => none content others there

theorem Answer.reply_plain (answer : Answer) (model : String) (failure : Failure)
    (refused : answer.reply model = .error failure) : failure.isCredential = false := by
  unfold Answer.reply at refused
  split at refused
  · cases refused
  · cases refused
    rfl

theorem complete_model (gives : transport.Gives outside reply) (base : String)
    (key : Option String) (request : Request) {w : World σ} (same : w.outside = outside) :
    ∃ served, Http.Answers reply served (Task.complete w (model transport base key request)).2 ∧
      ((∃ completion, served completion) ↔ Served reply) := by
  unfold model
  dsimp only [Process.map]
  rw [Task.complete_bind, Http.complete_ask gives _ _ _ _ same]
  refine ⟨_, (Http.understand_answers fun _ => rfl).bind fun answer =>
    answer.reply_plain request.model, ?_⟩
  constructor
  · rintro ⟨completion, answer, told, replied⟩
    obtain ⟨content, others, there⟩ := Answer.reply_eq_ok_iff.mp ⟨completion, replied⟩
    exact ⟨answer, content, others, told, there⟩
  · rintro ⟨answer, content, others, told, there⟩
    obtain ⟨completion, replied⟩ := Answer.reply_eq_ok_iff.mpr ⟨content, others, there⟩
    exact ⟨completion, answer, told, replied⟩

end Completion.Remote

namespace Embedding.Remote

open ActionGraph.Action

variable {σ : Type} {transport : Http.Transport σ} {outside : σ} {reply : Option Http.Reply}

def Served (count : Nat) (reply : Option Http.Reply) : Prop :=
  ∃ data, Http.Conveys Tagged.decodeAll reply data ∧ data.length = count

theorem Tagged.ordered_eq_ok {data : List Tagged} {vectors : List Vector} {expected : Nat}
    (ordered : Tagged.ordered data expected = .ok vectors) :
    data.length = expected ∧ vectors.length = expected := by
  unfold Tagged.ordered at ordered
  split at ordered
  · cases ordered
  · rename_i enough
    cases ordered
    refine ⟨not_ne_iff.mp enough, ?_⟩
    rw [List.length_map]
    split
    · rw [List.length_mergeSort, not_ne_iff.mp enough]
    · exact not_ne_iff.mp enough

theorem Tagged.exists_ordered {data : List Tagged} {expected : Nat}
    (enough : data.length = expected) : ∃ vectors, Tagged.ordered data expected = .ok vectors :=
  ⟨_, if_neg (not_not_intro enough)⟩

theorem Tagged.ordered_plain (expected : Nat) (data : List Tagged) (failure : Failure)
    (refused : Tagged.ordered data expected = .error failure) : failure.isCredential = false := by
  unfold Tagged.ordered at refused
  split at refused
  · cases refused
    rfl
  · cases refused

theorem complete_embedder (gives : transport.Gives outside reply) (base : String)
    (key : Option String) {texts : List String} (some : texts ≠ []) (model : String)
    (dimensions : Option Nat) {w : World σ} (same : w.outside = outside) :
    Http.Answers reply
      (fun vectors => ∃ data, Http.Conveys Tagged.decodeAll reply data ∧
        Tagged.ordered data texts.length = .ok vectors)
      (Task.complete w (embedder transport base key texts model dimensions)).2 := by
  unfold embedder
  rw [if_neg fun empty => some (List.isEmpty_iff.mp empty)]
  dsimp only [Process.map]
  rw [Task.complete_bind, Http.complete_ask gives _ _ _ _ same]
  exact (Http.understand_answers fun _ => rfl).bind (Tagged.ordered_plain texts.length)

end Embedding.Remote

namespace Routing

open ActionGraph.Action ActionGraph.Embedding

variable {σ : Type} {transport : Http.Transport σ} {reply : Option Http.Reply}

theorem paired_plain (texts : List String) (vectors : List Vector) (failure : Failure)
    (refused : paired texts vectors = .error failure) : failure.isCredential = false := by
  unfold paired at refused
  split at refused
  · cases refused
  · cases refused
    rfl

/-- Texts that are not in the cache get their vectors if the reply has as many. -/
theorem complete_vectors_remote {w : World σ} (gives : transport.Gives w.outside reply)
    (base : String) (key : Option String) (dimensions : Option Nat) (model : String)
    {texts : List String} (missing : uncached w.cache w.now model texts ≠ []) :
    ∃ served, Http.Answers reply served (Task.complete w
        (vectors (Remote.embedder transport base key) dimensions model texts)).2 ∧
      ((∃ vectors, served vectors) ↔
        Remote.Served (uncached w.cache w.now model texts).length reply) := by
  obtain ⟨v, same, hits, comes⟩ :=
    complete_vectors (Remote.embedder transport base key) dimensions model missing
  have asked := Remote.complete_embedder gives base key missing model dimensions same
  have mapped : ∀ answer : Except Failure (List (String × Vector)),
      answer.map (fill hits) = answer.bind fun fresh => .ok (fill hits fresh) := by
    rintro (_ | _)
    · rfl
    · rfl
  rw [comes, mapped]
  refine ⟨_, (asked.bind (paired_plain _)).bind fun _ _ => nofun, ?_⟩
  constructor
  · rintro ⟨_, _, ⟨_, ⟨data, told, ordered⟩, _⟩, _⟩
    exact ⟨data, told, (Remote.Tagged.ordered_eq_ok ordered).1⟩
  · rintro ⟨data, told, enough⟩
    obtain ⟨vectors, ordered⟩ := Remote.Tagged.exists_ordered enough
    have many := (Remote.Tagged.ordered_eq_ok ordered).2
    exact ⟨_, _, ⟨vectors, ⟨data, told, ordered⟩, if_pos many⟩, rfl⟩

end Routing

/-! ## Dispatches -/

namespace Action

variable {σ α : Type}

def Route.Prepared.texts (ready : Route.Prepared σ) : List String :=
  ready.query :: ready.routes.all.flatMap Routing.Route.texts

/-- What an action comes to for an answer: its failure, or an outcome with success. -/
structure Handled.Follows (context : Context) (answer : Except Failure α) (handled : Handled) :
    Prop where
  failed : ∀ failure, answer = .error failure → handled = .failed context failure
  served : ∀ value, answer = .ok value → ∃ output, handled.1 = .ok (.ok output)

/-- An action that asks for an answer and then comes to its end follows the answer. -/
theorem Handled.follows_bind {context : Context} {asking : Task σ (Except Failure α)}
    {next : Except Failure α → Task σ Handled}
    (failed : ∀ failure, next (.error failure) = .done (.failed context failure))
    (succeeds : ∀ value, ∃ output after, next (.ok value) = .done (.ok (.ok output), after))
    (w : World σ) :
    Handled.Follows context (Task.complete w asking).2 (Task.complete w (asking.bind next)).2 := by
  rw [Task.complete_bind]
  constructor
  · intro failure told
    rw [told, failed]
    rfl
  · intro value told
    obtain ⟨output, after, ends⟩ := succeeds value
    rw [told, ends]
    exact ⟨output, rfl⟩

/-- How a dispatch that asks a service once ends, given the reply and whether it serves. -/
structure Dispatched.Classified (reply : Option Http.Reply) (served : Prop) (context : Context)
    (ended : Dispatched) : Prop where
  /-- It fails exactly if the credential is not accepted. -/
  fails : (∃ failure, ended.1 = .error failure) ↔ Http.Denied reply
  unserved : ¬ Http.Denied reply → ¬ served →
    ∃ report, ended = (.ok report, context) ∧ report.success = false
  serves : served → ∃ report, ended.1 = .ok report ∧ report.success = true

/-- An answer decides how the dispatch of its action ends. -/
theorem Dispatched.Classified.of_answers {reply : Option Http.Reply} {served : α → Prop}
    {answer : Except Failure α} (answers : Http.Answers reply served answer) {context : Context}
    {handled : Handled} (follows : handled.Follows context answer) (spec : Spec)
    (duration : Nat) :
    Dispatched.Classified reply (∃ value, served value) context
      (Report.ofHandled spec duration handled.1, handled.2) := by
  cases told : answer with
  | error failure =>
      obtain rfl := follows.failed failure told
      have never := answers.not_served_of_error told
      dsimp only [Handled.failed, Report.ofHandled]
      by_cases credential : failure.isCredential = true
      · have denied := (answers.denied_iff_of_error told).mpr credential
        rw [if_pos credential]
        exact ⟨iff_of_true ⟨failure, rfl⟩ denied, absurd denied, never.elim⟩
      · have accepted := credential ∘ (answers.denied_iff_of_error told).mp
        rw [if_neg credential]
        exact ⟨iff_of_false nofun accepted, fun _ _ => ⟨_, rfl, rfl⟩, never.elim⟩
  | ok value =>
      obtain ⟨output, succeeded⟩ := follows.served value told
      have serves : ∃ value, served value := ⟨value, (answers.served value).mp told⟩
      rw [succeeded]
      exact ⟨iff_of_false nofun (answers.not_denied_of_ok told), fun _ never => absurd serves never,
        fun _ => ⟨_, rfl, rfl⟩⟩

/-- A dispatch that runs by itself reports what its handler comes to. -/
theorem Registry.complete_dispatch {r : Registry σ} {spec : Spec} {handler : Handler σ}
    (found : r.get? spec.type = some handler) (context : Context) (w : World σ) :
    ∃ dispatcher duration, (Task.complete w (r.dispatch spec context)).2 =
      (Report.ofHandled spec duration
          (Task.complete w (handler.run dispatcher spec.params context)).2.1,
        (Task.complete w (handler.run dispatcher spec.params context)).2.2) := by
  unfold Registry.dispatch Registry.dispatchWithin
  rw [found]
  refine ⟨⟨r.maxDepth - r.maxDepth, r.dispatchWithin r.maxDepth⟩, ?_⟩
  dsimp only
  rw [Task.complete_bind, Task.complete_bind, Task.complete_bind]
  exact ⟨_, rfl⟩

section Services

variable {r : Registry σ} {collaborators : Collaborators σ} {transport : Http.Transport σ}
  {reply : Option Http.Reply} {w : World σ}

theorem generate_classified (gives : transport.Gives w.outside reply)
    {base : String} {key : Option String} {defaults : Option ModelSettings}
    (asks : collaborators.model = some (Completion.Remote.model transport base key))
    {spec : Spec} (found : r.get? spec.type = some (Generate.handler collaborators defaults))
    {context : Context} {ready : Generate.Prepared σ}
    (prepared : Generate.prepare collaborators defaults spec.params context = .ok ready) :
    Dispatched.Classified reply (Completion.Remote.Served reply) context
      (Task.complete w (r.dispatch spec context)).2 := by
  obtain ⟨dispatcher, duration, comes⟩ := Registry.complete_dispatch found context w
  obtain ⟨served, answers, serves⟩ :=
    Completion.Remote.complete_model gives base key ready.request rfl
  rw [comes, ← serves]
  refine .of_answers answers ?_ spec duration
  have model := Option.some.inj ((model_of_prepare prepared).symm.trans asks)
  unfold Generate.handler Generate.run
  dsimp only
  rw [prepared]
  dsimp only
  rw [model]
  exact Handled.follows_bind (fun _ => rfl) (fun completion => ⟨_, _, rfl⟩) w

theorem route_classified (gives : transport.Gives w.outside reply)
    {base : String} {key : Option String} {settings : RoutingSettings}
    (asks : collaborators.embedder = some (Embedding.Remote.embedder transport base key))
    {spec : Spec} (found : r.get? spec.type = some (Route.handler collaborators settings))
    {context : Context} {ready : Route.Prepared σ}
    (prepared : Route.prepare collaborators settings spec.params context = .ok ready)
    (missing : Routing.uncached w.cache w.now ready.plan.model ready.texts ≠ []) :
    Dispatched.Classified reply
      (Embedding.Remote.Served
        (Routing.uncached w.cache w.now ready.plan.model ready.texts).length reply)
      context (Task.complete w (r.dispatch spec context)).2 := by
  obtain ⟨dispatcher, duration, comes⟩ := Registry.complete_dispatch found context w
  obtain ⟨served, answers, serves⟩ :=
    Routing.complete_vectors_remote gives base key settings.dimensions ready.plan.model missing
  rw [comes, ← serves]
  refine .of_answers answers ?_ spec duration
  have embedder := Option.some.inj ((embedder_of_prepare prepared).symm.trans asks)
  unfold Route.handler Route.run
  dsimp only
  rw [prepared]
  dsimp only
  rw [embedder]
  exact Handled.follows_bind (fun _ => rfl) (fun vectors => ⟨_, _, rfl⟩) w

/--
Let a transport give some reply, or none, and the parameters of an action be
valid.  An action that generates by a remote language model fails exactly if
the status denies the credential; it succeeds exactly if the status says so
and the first choice of the body has content.  An action that routes by remote
embeddings, with a text that is not in the cache, fails exactly if the status
denies the credential; it succeeds exactly if the status says so and the body
has as many vectors as there are such texts.  In all other cases there is a
report without success, and the context is as it was.
-/
theorem replies_classified (gives : transport.Gives w.outside reply) (base : String)
    (key id : Option String) (params : Json) (context : Context) :
    (∀ defaults ready,
        collaborators.model = some (Completion.Remote.model transport base key) →
        r.get? "llm_generate" = some (Generate.handler collaborators defaults) →
        Generate.prepare collaborators defaults params context = .ok ready →
        Dispatched.Classified reply (Completion.Remote.Served reply) context
          (Task.complete w (r.dispatch ⟨"llm_generate", id, params⟩ context)).2) ∧
      ∀ settings ready,
        collaborators.embedder = some (Embedding.Remote.embedder transport base key) →
        r.get? "semantic_route" = some (Route.handler collaborators settings) →
        Route.prepare collaborators settings params context = .ok ready →
        let asked := Routing.uncached w.cache w.now ready.plan.model ready.texts
        asked ≠ [] →
        Dispatched.Classified reply (Embedding.Remote.Served asked.length reply) context
          (Task.complete w (r.dispatch ⟨"semantic_route", id, params⟩ context)).2 :=
  ⟨fun _ _ asks found prepared => generate_classified gives asks found prepared,
    fun _ _ asks found prepared missing => route_classified gives asks found prepared missing⟩

end Services

/-! ### A reply that serves both -/

theorem network_gives (network : Rehearsal.Network) :
    Http.Transport.Gives Rehearsal.Network.transport network (network.replies.headD none) := by
  rintro request w rfl
  rfl

def remote : Collaborators Rehearsal.Network :=
  ⟨some (Completion.Remote.model Rehearsal.Network.transport "http://localhost/v1/" none),
    some (Embedding.Remote.embedder Rehearsal.Network.transport "http://localhost/v1/" none),
    fun text _ => .ok text⟩

def inquiry : Json :=
  .ofFields [("prompt", .str "Hi"), ("model", .str "small"), ("query", .str "Hi"),
    ("routes", .arr [.ofFields
      [("name", .str "greeting"), ("examples", .ofStrings ["Hello", "Hi"])]])]

def twofold : Http.Reply :=
  ⟨200, some <| "\x7b\"choices\":[\x7b\"message\":\x7b\"content\":\"Hello\"\x7d\x7d]," ++
    "\"data\":[\x7b\"embedding\":[]\x7d]\x7d"⟩

def halfWarm : Embedding.Cache :=
  ⟨1000, [⟨⟨"small", "Hello"⟩, [⟨0⟩], 20⟩]⟩

def replying (reply : Http.Reply) : World Rehearsal.Network :=
  ⟨50, 0, halfWarm, .ofReplies [some reply]⟩

theorem replies_classified_of_twofold :
    let r : Registry Rehearsal.Network := .builtins default remote
    let generate : Spec := ⟨"llm_generate", none, inquiry⟩
    let route : Spec := ⟨"semantic_route", none, inquiry⟩
    let denial : Http.Reply := ⟨403, none⟩
    (∃ report, (Task.complete (replying twofold) (r.dispatch generate default)).2.1 =
        .ok report ∧ report.success = true) ∧
      (∃ report, (Task.complete (replying twofold) (r.dispatch route default)).2.1 =
        .ok report ∧ report.success = true) ∧
      ∃ failure, (Task.complete (replying denial) (r.dispatch route default)).2.1 =
        .error failure := by
  intro r generate route denial
  have generates : r.get? "llm_generate" =
      some (Generate.handler remote (default : Settings).model) := rfl
  have routes : r.get? "semantic_route" =
      some (Route.handler remote (default : Settings).routing) := rfl
  have generatePrepared : Generate.prepare remote (default : Settings).model inquiry default =
      .ok ⟨_, _, _⟩ := rfl
  have routePrepared : Route.prepare remote (default : Settings).routing inquiry default =
      .ok ⟨_, _, _, _⟩ := rfl
  have asked : Routing.uncached halfWarm 50 "small" ["Hi", "Hello", "Hi"] = ["Hi"] := by
    decide +kernel
  have missing : Routing.uncached halfWarm 50 "small" ["Hi", "Hello", "Hi"] ≠ [] := by
    rw [asked]
    exact List.cons_ne_nil _ _
  have content : Completion.Remote.Served (some twofold) :=
    ⟨⟨none, [some "Hello"], none⟩, "Hello", [],
      ⟨200, _, rfl, by decide, by decide, by decide +kernel⟩, rfl⟩
  have vectors : Embedding.Remote.Served 1 (some twofold) :=
    ⟨[⟨none, []⟩], ⟨200, _, rfl, by decide, by decide, by decide +kernel⟩, rfl⟩
  obtain ⟨generated, routed⟩ := replies_classified (r := r)
    (network_gives (replying twofold).outside) "http://localhost/v1/" none none inquiry default
  obtain ⟨_, refused⟩ := replies_classified (r := r)
    (network_gives (replying denial).outside) "http://localhost/v1/" none none inquiry default
  refine ⟨(generated _ _ rfl generates generatePrepared).serves content,
    (routed _ _ rfl routes routePrepared missing).serves ?_,
    (refused _ _ rfl routes routePrepared missing).fails.mpr ⟨denial, rfl, .inr rfl⟩⟩
  change Embedding.Remote.Served
    (Routing.uncached halfWarm 50 "small" ["Hi", "Hello", "Hi"]).length _
  rw [asked]
  exact vectors

end Action

end ActionGraph
