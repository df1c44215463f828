import ClientRegistration.Json.Reader
import ClientRegistration.Text.Charset
import ClientRegistration.Value.Equality
import ClientRegistration.Value.Literal
namespace ClientRegistration

inductive RegistrationErrorClass where
  | general
  | clientRegistration
  | closed
  | noManagementEndpoint
  | registrationUpdate
  | immutableFieldViolation
  | serverUnavailable
deriving DecidableEq

namespace RegistrationErrorClass

def list : List RegistrationErrorClass :=
  [general, clientRegistration, closed, noManagementEndpoint, registrationUpdate,
    immutableFieldViolation, serverUnavailable]

def name : RegistrationErrorClass → Text
  | .general => "DynRegError"
  | .clientRegistration => "ClientRegistrationError"
  | .closed => "ClosedError"
  | .noManagementEndpoint => "NoManagementEndpointError"
  | .registrationUpdate => "RegistrationUpdateError"
  | .immutableFieldViolation => "ImmutableFieldViolationError"
  | .serverUnavailable => "ServerUnavailableError"

def ofName? (t : Text) : Option RegistrationErrorClass := list.find? (·.name = t)

def isA : RegistrationErrorClass → RegistrationErrorClass → Bool
  | _, .general => true
  | c, .clientRegistration => c != .general
  | c, .registrationUpdate => c == .registrationUpdate || c == .immutableFieldViolation
  | c, d => c == d

end RegistrationErrorClass

/-- An error of client registration. Only update errors have a status, and only violations a
field. -/
structure RegistrationError where
  cls : RegistrationErrorClass
  code : Value
  description : Value
  arguments : List Value
  status : Option Value
  field : Option Value

inductive TransportKind where
  | blocking
  | awaiting
deriving DecidableEq

/-- What clients tell a failure from outside by, whatever its name: one which ends the program or
the task, one of an invalid value, the end of an iteration, or that a transport made no connection. -/
inductive ForeignKind where
  | ordinary
  | interruption
  | invalidValue
  | endOfIteration
  | noConnection (transport : TransportKind)
deriving DecidableEq

/-- A failure from outside the library, which a transport, a filter or a caller raises. Logs show
its literal. -/
structure ForeignFailure where
  name : Text
  message : Text
  literal : Text
  kind : ForeignKind
deriving DecidableEq

inductive SerializationFlaw where
  | value (kind : Text)
  | key (kind : Text)
  | longInteger
deriving DecidableEq

inductive SettingFlaw where
  | retryCountKind
  | retryCountNegative
  | delayKind
  | delayNegative
deriving DecidableEq

inductive ArgumentFlaw where
  | unexpected (name : Text)
  | repeated (name : Text)
  | tooMany (least most given : Nat)
  | missing (names : List Text)
deriving DecidableEq

inductive Modification where
  | assignment
  | deletion
  | source
deriving DecidableEq

inductive Fault where
  | registration (error : RegistrationError)
  | foreign (failure : ForeignFailure)
  | conversion (flaw : ConversionFlaw)
  | refusedText (text : Text) (refusal : Json.Refusal)
  | notDocumentText (kind : Text)
  | serialization (flaw : SerializationFlaw)
  | unserializableMetadata (flaw : SerializationFlaw)
  | metadataNoObject
  | readOnlyMetadata (modification : Modification)
  | missingKey (key : Value)
  | missingAttribute (kind name : Text)
  | attributeNameKind (kind : Text)
  | unhashable (kind : Text)
  | notIterable (kind : Text)
  | notSearchable (kind : Text)
  | notSubscriptable (kind : Text)
  | searchKind (container kind : Text)
  | indexKind (container kind : Text)
  | indexOutOfRange (container : Text)
  | hugeIndex
  | pairKind (index : Nat)
  | pairLength (index length : Nat)
  | byteRange
  | bufferRange
  | notAnInteger (kind : Text)
  | noByteSequence (kind : Text) (target : ByteKind)
  | noContent
  | noConcatenation (kind : Text)
  | textWithoutCharset
  | negativeLength
  | hugeLength
  | outOfMemory
  | uncopiable
  | noSum (kind : Text)
  | unknownEndpoint (value : Value)
  | setting (flaw : SettingFlaw)
  | unreadableSetting (key : Text) (value : Value)
  | infiniteInteger
  | hugeInteger
  | frozenSetting (name : Value)
  | arguments (callee : Text) (flaw : ArgumentFlaw)
  | descriptionKind (kind : Text)
  | notImplemented
  | reusedTask
  | notAwaitable (kind : Text)
  | notEnterable (kind : Text)

inductive FaultKind where
  | registration (cls : RegistrationErrorClass)
  | foreign (name : Text)
  | wrongType
  | invalidValue
  | missingKey
  | missingAttribute
  | outOfRange
  | overflow
  | memory
  | unknownName
  | encoding
  | decoding
  | malformedDocument
  | frozen
  | notImplemented
  | runtime
deriving DecidableEq

namespace FaultKind

def name : FaultKind → Text
  | .registration cls => cls.name
  | .foreign name => name
  | .wrongType => "TypeError"
  | .invalidValue => "ValueError"
  | .missingKey => "KeyError"
  | .missingAttribute => "AttributeError"
  | .outOfRange => "IndexError"
  | .overflow => "OverflowError"
  | .memory => "MemoryError"
  | .unknownName => "LookupError"
  | .encoding => "UnicodeEncodeError"
  | .decoding => "UnicodeDecodeError"
  | .malformedDocument => "JSONDecodeError"
  | .frozen => "FrozenInstanceError"
  | .notImplemented => "NotImplementedError"
  | .runtime => "RuntimeError"

end FaultKind

namespace SerializationFlaw

def message : SerializationFlaw → Text
  | .value kind => "Object of type " ++ kind ++ " is not JSON serializable"
  | .key kind => "keys must be str, int, float, bool or None, not " ++ kind
  | .longInteger =>
    "Exceeds the limit (" ++ Text.ofNat Json.maxIntegerDigits ++
      " digits) for integer string conversion; use sys.set_int_max_str_digits() to increase " ++
      Text.ofString "the limit"

end SerializationFlaw

namespace SettingFlaw

def message : SettingFlaw → Text
  | .retryCountKind => "\"connection_retry_count\" MUST be an integer"
  | .retryCountNegative => "\"connection_retry_count\" MUST NOT be negative"
  | .delayKind => "\"connection_delay\" MUST be a number"
  | .delayNegative => "\"connection_delay\" MUST NOT be negative"

end SettingFlaw

namespace ArgumentFlaw

def enumerated : List Text → Text
  | [] => []
  | [name] => Text.quoted name
  | [name, last] => Text.quoted name ++ " and " ++ Text.quoted last
  | name :: rest => Text.quoted name ++ ", " ++ enumerated rest

def message : ArgumentFlaw → Text
  | .unexpected name => "got an unexpected keyword argument '" ++ name ++ "'"
  | .repeated name => "got multiple values for argument '" ++ name ++ "'"
  | .tooMany least most given =>
    (if least = most then "takes " ++ Text.ofNat most
      else "takes from " ++ Text.ofNat least ++ " to " ++ Text.ofNat most) ++
      (if most = 1 then Text.ofString " positional argument but "
        else Text.ofString " positional arguments but ") ++
      Text.ofNat given ++ " were given"
  | .missing names =>
    "missing " ++ Text.ofNat names.length ++
      (if names.length = 1 then Text.ofString " required positional argument: "
        else Text.ofString " required positional arguments: ") ++
      enumerated names

end ArgumentFlaw

namespace RegistrationError

/-- The text of an error: code and description of a general one, else the description alone, if
there is any. A description which is no text has none. -/
def text? (e : RegistrationError) : Except Text Text :=
  match e.cls, e.arguments with
  | .general, [v] => .ok v.toText
  | _, _ =>
    if e.description.isTrue then
      match e.description with
      | .text t => .ok t
      | v => .error v.kind
    else .ok []

def literal (e : RegistrationError) : Text :=
  "<" ++ e.cls.name ++ " \"" ++ e.code.toText ++ "\">"

end RegistrationError

namespace Fault

def ofMessage (kind : ForeignKind) (name message : Text) : Fault :=
  .foreign ⟨name, message, name ++ "(" ++ Text.quoted message ++ ")", kind⟩

def kind : Fault → FaultKind
  | .registration e => .registration e.cls
  | .foreign f => .foreign f.name
  | .conversion (.unencodable ..) => .encoding
  | .conversion (.undecodable ..) => .decoding
  | .conversion .nullCharacter => .invalidValue
  | .conversion _ => .unknownName
  | .refusedText _ (.malformed ..) => .malformedDocument
  | .refusedText _ (.longInteger _) => .invalidValue
  | .serialization .longInteger => .invalidValue
  | .unserializableMetadata _ | .metadataNoObject | .pairLength .. | .byteRange | .bufferRange
  | .negativeLength | .unknownEndpoint _ | .setting _ | .unreadableSetting .. => .invalidValue
  | .missingKey _ => .missingKey
  | .missingAttribute .. | .readOnlyMetadata .source => .missingAttribute
  | .indexOutOfRange _ | .hugeIndex => .outOfRange
  | .infiniteInteger | .hugeInteger | .hugeLength => .overflow
  | .outOfMemory => .memory
  | .frozenSetting _ => .frozen
  | .notImplemented => .notImplemented
  | .reusedTask => .runtime
  | _ => .wrongType

def isInvalidValue (f : Fault) : Bool :=
  match f, f.kind with
  | .foreign failure, _ => failure.kind = .invalidValue
  | _, .invalidValue | _, .encoding | _, .decoding | _, .malformedDocument => true
  | _, _ => false

/-- Whether a fault goes past every handler of failed operations. -/
def interrupts : Fault → Bool
  | .foreign f => f.kind = .interruption
  | _ => false

/-- Something looked for in a text or byte sequence which can not be part of it. -/
def searchKindMessage (container kind : Text) : Text :=
  if container = "str" then
    "'in <string>' requires string as left operand, not " ++ kind
  else "a bytes-like object is required, not '" ++ kind ++ "'"

def indexKindMessage (container kind : Text) : Text :=
  if container = "str" then "string indices must be integers, not '" ++ kind ++ "'"
  else if container = "memoryview" then "memoryview: invalid slice key"
  else
    (if container = "bytes" then Text.ofString "byte" else container) ++
      " indices must be integers or slices, not " ++ kind

def indexOutOfRangeMessage (container : Text) : Text :=
  if container = "str" then "string index out of range"
  else if container = "bytes" then "index out of range"
  else if container = "memoryview" then "index out of bounds on dimension 1"
  else container ++ " index out of range"

def noSumMessage (kind : Text) : Text :=
  if kind ∈ (["str", "list", "tuple"] : List Text) then
    "can only concatenate " ++ kind ++ " (not \"int\") to " ++ kind
  else if kind ∈ (["bytes", "bytearray"] : List Text) then "can't concat int to " ++ kind
  else "unsupported operand type(s) for +: '" ++ kind ++ "' and 'int'"

def message : Fault → Text
  | .registration e =>
    match e.text? with
    | .ok t => t
    | .error kind => "__str__ returned non-string (type " ++ kind ++ ")"
  | .foreign f => f.message
  | .conversion flaw => flaw.message
  | .refusedText t refusal => Json.refusalMessage t refusal
  | .notDocumentText kind => "the JSON object must be str, bytes or bytearray, not " ++ kind
  | .serialization flaw => flaw.message
  | .unserializableMetadata flaw =>
    "Client metadata is not JSON serializable: " ++ flaw.message
  | .metadataNoObject => "Client metadata must be a JSON object"
  | .readOnlyMetadata .assignment =>
    "'ClientMetadata' object does not support item assignment"
  | .readOnlyMetadata .deletion => "'ClientMetadata' object does not support item deletion"
  | .readOnlyMetadata .source =>
    "property 'metadata_string' of 'ClientMetadata' object has no setter"
  | .missingKey key => key.literal
  | .missingAttribute kind name =>
    "'" ++ kind ++ "' object has no attribute " ++ Text.quoted name
  | .attributeNameKind kind => "attribute name must be string, not '" ++ kind ++ "'"
  | .unhashable kind => "unhashable type: '" ++ kind ++ "'"
  | .notIterable kind => "'" ++ kind ++ "' object is not iterable"
  | .notSearchable kind => "argument of type '" ++ kind ++ "' is not iterable"
  | .notSubscriptable kind => "'" ++ kind ++ "' object is not subscriptable"
  | .searchKind container kind => searchKindMessage container kind
  | .indexKind container kind => indexKindMessage container kind
  | .indexOutOfRange container => indexOutOfRangeMessage container
  | .hugeIndex | .hugeLength => "cannot fit 'int' into an index-sized integer"
  | .noSum kind => noSumMessage kind
  | .pairKind index =>
    "cannot convert dictionary update sequence element #" ++ Text.ofNat index ++ " to a sequence"
  | .pairLength index length =>
    "dictionary update sequence element #" ++ Text.ofNat index ++ " has length " ++
      Text.ofNat length ++ "; 2 is required"
  | .byteRange => "bytes must be in range(0, 256)"
  | .bufferRange => "byte must be in range(0, 256)"
  | .notAnInteger kind => "'" ++ kind ++ "' object cannot be interpreted as an integer"
  | .noByteSequence kind target =>
    "cannot convert '" ++ kind ++ "' object to " ++ Value.kind (.bytes target [])
  | .noContent => "can assign only bytes, buffers, or iterables of ints in range(0, 256)"
  | .noConcatenation kind => "can't concat " ++ kind ++ " to bytearray"
  | .textWithoutCharset => "string argument without an encoding"
  | .negativeLength => "negative count"
  | .outOfMemory => []
  | .uncopiable => "cannot pickle memoryview objects"
  | .unknownEndpoint value => value.literal ++ " is not a valid EndpointType"
  | .setting flaw => flaw.message
  | .unreadableSetting key value =>
    "Invalid value for \"" ++ key ++ "\": " ++ value.literal
  | .infiniteInteger => "cannot convert float infinity to integer"
  | .hugeInteger => "int too large to convert to float"
  | .frozenSetting name => "cannot assign to field " ++ name.literal
  | .arguments callee flaw => callee ++ ".__init__() " ++ flaw.message
  | .descriptionKind kind => "__str__ returned non-string (type " ++ kind ++ ")"
  | .notImplemented => []
  | .reusedTask => "cannot reuse already awaited coroutine"
  | .notAwaitable kind => "object " ++ kind ++ " can't be used in 'await' expression"
  | .notEnterable kind =>
    "'" ++ kind ++ "' object does not support the context manager protocol"

/-- A fault as a log shows it: by its class, with its message in quotes unless that is a key,
which is shown as it is. -/
def literal : Fault → Text
  | .registration e => e.literal
  | .foreign f => f.literal
  | .missingKey key => FaultKind.missingKey.name ++ "(" ++ key.literal ++ ")"
  | f => f.kind.name ++ "(" ++ Text.quoted f.message ++ ")"

end Fault

end ClientRegistration
