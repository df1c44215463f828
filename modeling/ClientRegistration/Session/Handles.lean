import ClientRegistration.Session.Transport
namespace ClientRegistration.Session

variable {σ : Type}

def create (metadata uri token : Value) (config : Config) (filters : FilterSet σ) :
    Action σ Nat := do
  addHandle (← lift (Metadata.ofValue metadata)) uri token config filters

def createOfResponse (response : Value) (config : Config) (filters : FilterSet σ) :
    Action σ Nat := do
  let registration ← lift (Registration.ofValue response)
  create registration.metadata.toValue registration.uri registration.token config filters

def metadata (number : Nat) : Action σ Nat := do
  let h ← handle number
  lift h.checkOpen
  addDocument (← lift (← document h.document).copy)

def appendToDocument (number : Nat) (key item : Value) : Action σ Unit := do
  let changed ← lift ((← document number).append key item)
  modify fun s => { s with documents := s.documents.set number changed }

def markClosed (number : Nat) : Action σ Unit := do
  let h ← handle number
  setHandle number { h with closed := true }

def prepareRead (number : Nat) : Action σ Request := do lift (← handle number).readRequest

def prepareDelete (number : Nat) : Action σ Request := do lift (← handle number).deleteRequest

/-- The request which sends the merge of a handle's metadata with a new document. The handle is
checked before the document. -/
def prepareUpdate (number : Nat) (new : Value) : Action σ Request := do
  let h ← handle number
  lift h.checkRequestAllowed
  let new ← lift (Metadata.ofValue new)
  let current ← document h.document
  lift (current.checkImmutable new)
  log (.currentMetadata current.toValue)
  let merged := current.merge new
  log (.updatedMetadata (.ofFields merged))
  lift (h.updateRequest merged)

def runFilters (number : Nat) (request : Request) : Action σ (Request × Option Fault) := do
  let h ← handle number
  let s ← get
  let (names, applied) := h.applyFilters s.filterState request
  modify fun s => { s with
    filterState := applied.state
    journal := s.journal ++ names.map .filtered }
  return (applied.request, applied.fault)

def applyFilters (number : Nat) (request : Request) : Action σ Request := do
  match ← runFilters number request with
  | (request, none) => return request
  | (_, some fault) => throw fault

/-- The filters run over a prepared request, which keeps what those before a failure did. -/
def applyToPrepared (number prepared : Nat) : Action σ Request := do
  let (request, fault) ← runFilters number (← request prepared)
  setRequest prepared request
  match fault with
  | none => return request
  | some fault => throw fault

/-- The error that stands for a failed transport. The cause is only logged. -/
def unavailable (cause : Fault) : Action σ Fault := do
  log (.unavailable cause)
  return .registration (.plain .serverUnavailable)

def answerEntries (response : Response) : Action σ (Fields Value Value) := do
  if !response.succeeded then
    log (.requestFailed response.status response.text)
    throw response.rejection
  else
    match response.document with
    | .ok (.mapping entries) => return entries
    | .error fault =>
      if fault.isInvalidValue then
        log (.noObject response.text)
        throw response.rejection
      else throw fault
    | .ok _ =>
      log (.noObject response.text)
      throw response.rejection

def orElse (given held : Value) : Value := if given.isNull then held else given

/-- The new handle which an answer to a read or update makes. It keeps of the older one what the
answer does not give. -/
def parse (number : Nat) (response : Response) : Action σ Nat := do
  let h ← handle number
  let entries ← answerEntries response
  log (.metadataUpdated (.mapping entries))
  let registration ← lift (Registration.ofEntries entries)
  discard (lift (← get).variant.transportArguments)
  create registration.metadata.toValue (orElse registration.uri h.uri)
    (orElse registration.token h.token) h.config h.registry.toFilterSet

/-- An answer to a delete. A failed one is only logged. -/
def parseDelete (response : Response) : Action σ Unit :=
  if response.status = 200 then log .deleted
  else log (.deleteFailed response.status response.text)

def interpret (number : Nat) (call : Call) (response : Response) : Action σ (Option Nat) :=
  match call with
  | .delete => do
    parseDelete response
    return none
  | _ => some <$> parse number response

def prepare (number : Nat) (call : Call) (new : Value) : Action σ Request :=
  match call with
  | .read => prepareRead number
  | .update => prepareUpdate number new
  | .delete => prepareDelete number

def appendFilter (number : Nat) (filter : RequestFilter σ) : Action σ Unit := do
  let h ← handle number
  setHandle number { h with registry := ← lift (h.registry.append filter) }

end ClientRegistration.Session
