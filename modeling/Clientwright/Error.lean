import Clientwright.Selector.Parser
import Clientwright.Text.Literal

/-!
# Errors

Every cause for which reading or generating stops, as data. The wording of each cause is in one
place, and so is the kind under which it is reported.
-/

namespace Clientwright

/-- The documents that are read. -/
inductive Document where
  | definition
  | paginators
  | waiters
  | manifest
  deriving DecidableEq, Repr

/-- A definition that cannot be made into a service. -/
inductive DefinitionFault where
  | noProtocol
  | unknownProtocol (name : String)
  /-- the json protocol addresses operations by a target, which needs a prefix -/
  | noTargetPrefix (serviceId : String)
  | listWithoutMember (shape : String)
  | mapWithoutEnds (shape : String)
  | unknownType (shape type : String)
  | unknownReference (owner target : String)
  | unknownRequired (owner member : String)
  | unknownPayload (owner member : String)
  | unknownMemberShape (owner member target : String)
  | unknownLocation (owner member location : String)
  | unknownTimestampFormat (owner format : String)
  | notAStructure (operation role shape : String)
  | unknownOperationShape (operation role shape : String)
  | unknownErrorShape (operation shape : String)
  | unboundPlaceholder (operation placeholder : String)
  deriving DecidableEq, Repr

/-- A paginator document that does not fit its service. -/
inductive PaginatorFault where
  | unknownOperation (name : String)
  | tokenCounts (operation : String) (inputs outputs : Nat)
  | notAnInputMember (operation member : String)
  deriving DecidableEq, Repr

/-- A waiter document that does not fit its service. -/
inductive WaiterFault where
  | unsupportedVersion (version expected : Nat)
  | unknownOperation (waiter operation : String)
  | unknownState (waiter state : String)
  | statusNotNumeric (waiter : String)
  | unexpectedErrorValue (waiter value : String)
  | noArgument (waiter matcher : String)
  deriving DecidableEq, Repr

/-- A manifest or a set of services that cannot be worked on. -/
inductive SelectionFault where
  | unsupportedVersion (version expected : Nat)
  | noServices
  | unknownOperation (service operation : String)
  | sharedCrateName (name : String)
  deriving DecidableEq, Repr

/-- A shape for which no code can be emitted where it is used. -/
inductive EmissionFault where
  | unknownShape (name : String)
  | unknownOperation (name : String)
  /-- A list or map that contains itself with no structure in between. To follow such a shape is
  never done, and a program that tries, as it does when it first collects the shapes in use, runs
  out of stack without an answer. The fault stands for that, where code would be emitted. -/
  | endlessShape (name : String)
  | notAStructure (name : String)
  | notAnEnum (name : String)
  | noUriMember (operation placeholder : String)
  | notWritableAsText (shape : String)
  | notBindableToHeader (shape : String)
  | notReadableFromText (shape : String)
  | headersNotAMap (owner member : String)
  | payloadNotReadable (owner member : String)
  | unknownTemplate (name : String)
  deriving DecidableEq, Repr

/-- A place that cannot be written to. -/
inductive WriteFault where
  | directory (path : String)
  | file (path : String)
  | full (path : String)
  deriving DecidableEq, Repr

/-- Why reading or generating stopped. -/
inductive Error where
  | unreadable (document : Document) (path : String)
  | malformed (document : Document)
  | malformedStore
  | definition (fault : DefinitionFault)
  | paginators (fault : PaginatorFault)
  | waiters (fault : WaiterFault)
  | selection (fault : SelectionFault)
  | emission (fault : EmissionFault)
  | write (fault : WriteFault)
  deriving DecidableEq, Repr

/-- The kinds of errors. -/
inductive ErrorKind where
  | parse
  | validation
  | generation
  | json
  deriving DecidableEq, Repr

namespace ErrorKind

/-- The kind's name. -/
def name : ErrorKind → String
  | .parse => "Parse"
  | .validation => "Validation"
  | .generation => "Generation"
  | .json => "Json"

/-- What a message of the kind begins with. -/
def label : ErrorKind → String
  | .parse => "Parse error"
  | .validation => "Validation error"
  | .generation => "Generation error"
  | .json => "JSON error"

end ErrorKind

/-- How messages name a document. -/
def Document.reading : Document → String
  | .definition => "service definition"
  | .paginators => "paginator definition"
  | .waiters => "waiter definition"
  | .manifest => "manifest file"

/-- How messages name the text of a document. -/
def Document.parsing : Document → String
  | .definition => "service definition JSON"
  | .paginators => "paginator JSON"
  | .waiters => "waiter JSON"
  | .manifest => "manifest YAML"

/-- The fault in words. -/
def DefinitionFault.text : DefinitionFault → String
  | .noProtocol => "Service metadata does not declare a protocol"
  | .unknownProtocol name => "Unsupported protocol: " ++ name
  | .noTargetPrefix id =>
    "Service " ++ id ++ " uses the json protocol but has no targetPrefix"
  | .listWithoutMember shape => "List shape " ++ shape ++ " has no member"
  | .mapWithoutEnds shape => "Map shape " ++ shape ++ " needs both key and value"
  | .unknownType shape type => "Shape " ++ shape ++ " has unsupported type '" ++ type ++ "'"
  | .unknownReference owner target =>
    "Shape " ++ owner ++ " references unknown shape " ++ target
  | .unknownRequired owner member =>
    "Structure " ++ owner ++ " requires unknown member " ++ member
  | .unknownPayload owner member =>
    "Structure " ++ owner ++ " uses unknown member " ++ member ++ " as payload"
  | .unknownMemberShape owner member target =>
    "Member " ++ owner ++ "." ++ member ++ " references unknown shape " ++ target
  | .unknownLocation owner member location =>
    "Member " ++ owner ++ "." ++ member ++ " has unknown location Some(" ++
      Text.literal location ++ ")"
  | .unknownTimestampFormat owner format =>
    owner ++ " uses unknown timestamp format " ++ format
  | .notAStructure operation role shape =>
    "Operation " ++ operation ++ " " ++ role ++ " shape " ++ shape ++ " is not a structure"
  | .unknownOperationShape operation role shape =>
    "Operation " ++ operation ++ " references unknown " ++ role ++ " shape " ++ shape
  | .unknownErrorShape operation shape =>
    "Operation " ++ operation ++ " references unknown error shape " ++ shape
  | .unboundPlaceholder operation placeholder =>
    "Operation " ++ operation ++ " has URI placeholder \x7b" ++ placeholder ++
      "\x7d without a matching uri member"

/-- The fault in words. -/
def PaginatorFault.text : PaginatorFault → String
  | .unknownOperation name => "Paginator references unknown operation " ++ name
  | .tokenCounts operation inputs outputs =>
    "Paginator " ++ operation ++ " has " ++ toString inputs ++ " input tokens but " ++
      toString outputs ++ " output tokens"
  | .notAnInputMember operation member =>
    "Paginator " ++ operation ++ " uses " ++ member ++
      " which is not a member of the operation input"

/-- The fault in words. -/
def WaiterFault.text : WaiterFault → String
  | .unsupportedVersion version expected =>
    "Unsupported waiter document version " ++ toString version ++ " (expected " ++
      toString expected ++ ")"
  | .unknownOperation waiter operation =>
    "Waiter " ++ waiter ++ " references unknown operation " ++ operation
  | .unknownState waiter state =>
    "Waiter " ++ waiter ++ " has acceptor with unknown state " ++ state
  | .statusNotNumeric waiter =>
    "Waiter " ++ waiter ++ " has status acceptor without a numeric status"
  | .unexpectedErrorValue waiter value =>
    "Waiter " ++ waiter ++ " has error acceptor with unexpected value " ++ value
  | .noArgument waiter matcher =>
    "Waiter " ++ waiter ++ " has " ++ matcher ++ " acceptor without argument"

/-- The fault in words. -/
def SelectionFault.text : SelectionFault → String
  | .unsupportedVersion version expected =>
    "Unsupported manifest version " ++ toString version ++ " (expected " ++
      toString expected ++ ")"
  | .noServices => "Manifest does not list any service"
  | .unknownOperation service operation =>
    "Service " ++ service ++ " has no operation named " ++ operation
  | .sharedCrateName name => "Crate name " ++ name ++ " is used by more than one service"

/-- The fault in words. -/
def EmissionFault.text : EmissionFault → String
  | .unknownShape name => "Unknown shape " ++ name
  | .unknownOperation name => "Unknown operation " ++ name
  | .endlessShape name => "Shape " ++ name ++ " contains itself without a structure in between"
  | .notAStructure name => "Shape " ++ name ++ " is not a structure"
  | .notAnEnum name => "Shape " ++ name ++ " is not an enum"
  | .noUriMember operation placeholder =>
    "Operation " ++ operation ++ " has no uri member for \x7b" ++ placeholder ++ "\x7d"
  | .notWritableAsText shape => "Shape " ++ shape ++ " cannot be written as text"
  | .notBindableToHeader shape => "Shape " ++ shape ++ " cannot be bound to a header"
  | .notReadableFromText shape => "Shape " ++ shape ++ " cannot be read from text"
  | .headersNotAMap owner member =>
    "Member " ++ owner ++ "." ++ member ++ " binds headers to a non-map shape"
  | .payloadNotReadable owner member =>
    "Payload " ++ owner ++ "." ++ member ++ " must be a structure, blob or string"
  | .unknownTemplate name =>
    "Template error in " ++ name ++ ": Template '" ++ name ++ "' not found"

/-- The fault in words. -/
def WriteFault.text : WriteFault → String
  | .directory path => "Failed to create directory " ++ path
  | .file path => "Failed to write " ++ path
  | .full path => "disk full at " ++ path

namespace Error

/-- The kind under which the error is reported. -/
def kind : Error → ErrorKind
  | .unreadable _ _ | .malformed _ => .parse
  | .malformedStore => .json
  | .definition _ | .paginators _ | .waiters _ | .selection _ => .validation
  | .emission _ | .write _ => .generation

/-- What happened, in words; an unreadable store has no words of its own. -/
def text? : Error → Option String
  | .unreadable .manifest path =>
    some ("Failed to read " ++ Document.manifest.reading ++ " " ++ Text.quotedPath path)
  | .unreadable document path => some ("Failed to read " ++ document.reading ++ " " ++ path)
  | .malformed document => some ("Failed to parse " ++ document.parsing)
  | .malformedStore => none
  | .definition fault => some fault.text
  | .paginators fault => some fault.text
  | .waiters fault => some fault.text
  | .selection fault => some fault.text
  | .emission fault => some fault.text
  | .write fault => some fault.text

/-- The error as a message. -/
def message (e : Error) : String :=
  match e.text? with
  | some text => e.kind.label ++ ": " ++ text
  | none => e.kind.label

end Error

end Clientwright
