import ActionGraph.Http.Basic

/-!
# A network for rehearsals

Requests are answered by prepared replies in order.  Once these are used up,
no connection is made.  A list is kept of what was sent.
-/

namespace ActionGraph.Rehearsal

/-- The replies that are left and all that was sent, the latest first. -/
structure Network where
  /-- A connection without a reply fails. -/
  replies : List (Option Http.Reply)
  requests : List Http.Request
deriving DecidableEq

namespace Network

def ofReplies (replies : List (Option Http.Reply)) : Network :=
  ⟨replies, []⟩

def exchange (request : Http.Request) (network : Network) : Option Http.Reply × Network :=
  (network.replies.headD none, ⟨network.replies.drop 1, request :: network.requests⟩)

def sent (network : Network) : List Http.Request :=
  network.requests.reverse

def transport : Http.Transport Network := fun request =>
  Action.Task.outside (exchange request)

end Network

end ActionGraph.Rehearsal
