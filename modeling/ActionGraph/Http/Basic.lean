import ActionGraph.Action.World
import ActionGraph.Accept

/-!
# Requests to remote services

A service is asked by posting JSON to an address and answers with a status
and a body.  A status that says that the credential is not accepted is told
apart from all other refusals.
-/

namespace ActionGraph.Http

open ActionGraph.Action

variable {σ : Type}

structure Request where
  url : String
  /-- The credential that the request bears. -/
  key : Option String
  body : Json
deriving DecidableEq

namespace Request

def method : String :=
  "POST"

def contentType : String :=
  "application/json"

def authorization (request : Request) : Option String :=
  request.key.map fun key => "Bearer " ++ key

end Request

/-- The reply to a request; a body that breaks off cannot be read. -/
structure Reply where
  status : Nat
  body : Option String
deriving DecidableEq

/-- What carries requests; there is no reply if the connection fails. -/
abbrev Transport (σ : Type) :=
  Request → Task σ (Option Reply)

/-- An address below a base, whose slashes at the end do not count. -/
def address (base path : String) : String :=
  String.ofList (base.toList.reverse.dropWhile (· = '/')).reverse ++ path

def refusal (other : String → Failure) (reply : Reply) : Failure :=
  let text := "HTTP " ++ toString reply.status ++ ": " ++ reply.body.getD ""
  if reply.status = 401 ∨ reply.status = 403 then .credentialExpired text else other text

def isSuccess (status : Nat) : Bool :=
  decide (200 ≤ status ∧ status < 300)

def understand {α : Type} (other : String → Failure) (unread : String)
    (decoder : Wire.Decoder α) (request : Request) : Option Reply → Except Failure α
  | none => .error (other ("error sending request for url (" ++ request.url ++ ")"))
  | some reply =>
      if isSuccess reply.status then
        match reply.body.map (Json.acceptText decoder) with
        | some (.ok value) => .ok value
        | _ => .error (other (unread ++ ": error decoding response body"))
      else .error (refusal other reply)

def ask {α : Type} (transport : Transport σ) (other : String → Failure) (unread : String)
    (decoder : Wire.Decoder α) (request : Request) : Task σ (Except Failure α) :=
  (transport request).map (understand other unread decoder request)

end ActionGraph.Http
