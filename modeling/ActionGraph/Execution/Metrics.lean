import ActionGraph.Json.Basic

/-!
# Metrics of an execution

Counters that are kept while nodes are dispatched.  The average latency is
the total divided by the count, in double precision.
-/

namespace ActionGraph.Execution

structure Metrics where
  processed : Nat
  emitted : Nat
  invocations : Nat
  components : Dict Nat
  totalLatency : Nat
  maxLatency : Nat
  errors : Nat
  backpressure : Nat
deriving DecidableEq

namespace Metrics

def zero : Metrics :=
  ⟨0, 0, 0, .empty, 0, 0, 0, 0⟩

/-- A node was dispatched. -/
def invocation (m : Metrics) (component : String) (latency : Nat) (success : Bool) : Metrics :=
  { m with
    invocations := m.invocations + 1
    components := m.components.insert component ((m.components.get? component).getD 0 + 1)
    totalLatency := m.totalLatency + latency
    maxLatency := max m.maxLatency latency
    errors := if success then m.errors else m.errors + 1 }

/-- Messages were handed to a node. -/
def process (m : Metrics) (count : Nat) : Metrics :=
  { m with processed := m.processed + count }

/-- A message was forwarded along an edge. -/
def emit (m : Metrics) : Metrics :=
  { m with emitted := m.emitted + 1 }

/-- A message was driven out of a full port. -/
def overflow (m : Metrics) : Metrics :=
  { m with backpressure := m.backpressure + 1 }

def averageLatency (m : Metrics) : Binary64 :=
  if m.invocations = 0 then ⟨0⟩
  else .ofFloat ((Binary64.ofNat m.totalLatency).toFloat / (Binary64.ofNat m.invocations).toFloat)

def counters (m : Metrics) : List (String × Json) :=
  [("messagesProcessed", .ofNat m.processed), ("messagesEmitted", .ofNat m.emitted),
   ("nodeInvocations", .ofNat m.invocations),
   ("componentInvocations", .ofDict (m.components.map Json.ofNat)),
   ("avgLatencyMs", .ofBinary64 m.averageLatency), ("maxLatencyMs", .ofNat m.maxLatency),
   ("errorCount", .ofNat m.errors), ("backpressureEvents", .ofNat m.backpressure)]

end Metrics

end ActionGraph.Execution
