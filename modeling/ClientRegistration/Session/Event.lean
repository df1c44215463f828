import ClientRegistration.Request
namespace ClientRegistration

inductive LogLevel where
  | debug
  | warning
deriving DecidableEq

inductive LogSource where
  | client
  | merge
  | blockingTransport
  | awaitingTransport
deriving DecidableEq

structure LogRecord where
  level : LogLevel
  source : LogSource
  text : Text
deriving DecidableEq

inductive Event where
  | sent (request : Request)
  | waited (delay : Number)
  | released
  | filtered (name : Text)
  | logged (record : LogRecord)

namespace LogRecord

def currentMetadata (m : Value) : LogRecord :=
  ⟨.debug, .merge, "Current client metadata: " ++ m.literal⟩

def updatedMetadata (merged : Value) : LogRecord :=
  ⟨.debug, .merge, "Updated client metadata: " ++ merged.literal⟩

def requestFailed (status : Int) (answer : Value) : LogRecord :=
  ⟨.debug, .client, "Client configuration request has failed: status: " ++ Text.ofInt status ++
    ", error message: " ++ answer.toText⟩

def noObject (answer : Value) : LogRecord :=
  ⟨.debug, .client,
    "Client configuration response is not a JSON object: " ++ answer.toText⟩

def metadataUpdated (answer : Value) : LogRecord :=
  ⟨.debug, .client, "Client metadata has been successfully updated: " ++ answer.literal⟩

def deleted : LogRecord := ⟨.debug, .client, "Client has been successfully deleted"⟩

def deleteFailed (status : Int) (answer : Value) : LogRecord :=
  ⟨.warning, .client, "Client delete request has failed: status: " ++ Text.ofInt status ++
    ", error message: " ++ answer.toText⟩

def unavailable (fault : Fault) : LogRecord :=
  ⟨.warning, .client, "Registration server is not available: " ++ fault.literal⟩

/-- The record of an attempt, by its number, that failed and will be repeated. -/
def retrying (source : LogSource) (uri : Value) (attempt retries : Nat) : LogRecord :=
  ⟨.debug, source, "Connection to " ++ uri.toText ++ " failed, retrying (" ++ Text.ofNat attempt ++
    "/" ++ Text.ofNat retries ++ ")"⟩

def closeFailed (source : LogSource) (fault : Fault) : LogRecord :=
  ⟨.debug, source, "Failed to close the client: " ++ fault.literal⟩

end LogRecord

end ClientRegistration
