import ClientRegistration.Config
import ClientRegistration.Filter.Registry
import ClientRegistration.Merge
import ClientRegistration.Response
namespace ClientRegistration

/-- What a client sends its requests with: nothing yet, nothing at all, a transport which blocks
until it has an answer, or one whose answers are awaited. -/
inductive Variant where
  | abstract
  | base
  | blocking
  | awaiting
deriving DecidableEq

namespace Variant

def className : Variant → Text
  | .abstract => "BaseRegisteredClient"
  | .base => "BaseClient"
  | .blocking => "RegisteredClient"
  | .awaiting => "AsyncRegisteredClient"

def transport? : Variant → Option TransportKind
  | .blocking => some .blocking
  | .awaiting => some .awaiting
  | _ => none

def isConnectionFault (variant : Variant) : Fault → Bool
  | .foreign f => variant.transport?.any fun transport => f.kind = .noConnection transport
  | _ => false

/-- By which names a new handle is given the transport of an older one. -/
def transportArguments : Variant → Except Fault (List Text)
  | .abstract => .error .notImplemented
  | .base => .ok []
  | .blocking => .ok ["session"]
  | .awaiting => .ok ["http_client"]

end Variant

/-- A handle. Its metadata is the document of that number. -/
structure Handle (σ : Type) where
  document : Nat
  uri : Value
  token : Value
  config : Config
  registry : Registry σ
  closed : Bool

namespace Handle

variable {σ : Type}

def contentType : Text := "application/json"

def checkOpen (h : Handle σ) : Except Fault Unit :=
  if h.closed then .error (.registration (.plain .closed)) else .ok ()

def checkRequestAllowed (h : Handle σ) : Except Fault Unit := do
  h.checkOpen
  if h.uri.isNull then throw (.registration (.plain .noManagementEndpoint))

def readRequest (h : Handle σ) : Except Fault Request := do
  h.checkRequestAllowed
  return {
    method := .text "GET"
    uri := h.uri
    headers := [(.text "Accept", .text contentType)]
    body := [] }

def deleteRequest (h : Handle σ) : Except Fault Request := do
  h.checkRequestAllowed
  return { method := .text "DELETE", uri := h.uri, headers := [], body := [] }

def updateRequest (h : Handle σ) (merged : Fields Text Value) : Except Fault Request := do
  let body ← ({} : Conversion).encode (← (Value.ofFields merged).toJsonText false)
  return {
    method := .text "PUT"
    uri := h.uri
    headers := [(.text "Content-Type", .text contentType), (.text "Accept", .text contentType)]
    body }

def authorize (h : Handle σ) (request : Request) : Except Fault Request := do
  if h.token.isNull then return request
  else
    let credentials : Text := "Bearer " ++ (← h.token.shown)
    return { request with
      headers := request.headers.put (.text "Authorization") (.text credentials) }

/-- A request with the bearer token, as the filters for the client configuration endpoint leave
it, and the names of those called. Their context is empty at first. -/
def applyFilters (h : Handle σ) (state : σ) (request : Request) : List Text × Applied σ :=
  match h.authorize request with
  | .error fault => ([], ⟨state, request, [], some fault⟩)
  | .ok request =>
    if h.registry.isEmpty then ([], ⟨state, request, [], none⟩)
    else
      match h.registry.matching .clientConfiguration with
      | .ok filters => applyInOrder filters state request []
      | .error fault => ([], ⟨state, request, [], some fault⟩)

def literal (h : Handle σ) (variant : Variant) : Except Fault Text := do
  return "<" ++ variant.className ++ " " ++ (← h.uri.shownLiteral) ++ ">"

end Handle

end ClientRegistration
