import AudioHost.Plugin.Identifier

/-!
What can go wrong with plugins, and how it is told.
-/

namespace AudioHost

/-- Why a plugin could not be made. -/
inductive InstantiationFault where
  | noFunction
  | refused
deriving DecidableEq, Repr

/-- Why an operation on an instance is refused. -/
inductive OperationFault where
  /-- The operation belongs to plugins of another kind. -/
  | wrongKind (operation : String) (kind : PluginKind)
  | portOutOfRange (port : Nat)
  | nullBuffer (port : Nat)
  | unconnected (port : Nat)
  | missingFunction (name : String)
deriving DecidableEq, Repr

/-- What is wrong with a descriptor. -/
inductive DescriptorFault where
  | missingPortArrays (count : Nat)
  | badIdentifier (e : IdentifierError)
deriving DecidableEq, Repr

/-- What can go wrong with plugins. -/
inductive PluginError where
  | loadFailure (path : Path) (reason : String)
  | unloadFailure (path : Path) (reason : String)
  | symbolMissing (path : Path) (symbol : String)
  | descriptorNotFound (path : Path) (label : String)
  | duplicateDescriptor (path : Path) (label : String) (first second : Nat)
  | instantiationFailure (label : String) (fault : InstantiationFault)
  | unsupportedOperation (label : String) (fault : OperationFault)
  | kindMismatch (expected found : PluginKind)
  | invalidIdentifier (e : IdentifierError)
  | malformedDescriptor (path : Path) (fault : DescriptorFault)
deriving DecidableEq, Repr

/-- Why a plugin could not be made, in words. -/
def InstantiationFault.message : InstantiationFault → String
  | .noFunction => "descriptor has no instantiate function"
  | .refused => "instantiate returned null"

/-- The name of a kind in running text. -/
def PluginKind.title : PluginKind → String
  | .ladspa => "LADSPA"
  | .vamp => "Vamp"

/-- Why an operation is refused, in words. -/
def OperationFault.message : OperationFault → String
  | .wrongKind operation kind => s!"{operation} is a {kind.title} operation"
  | .portOutOfRange port => s!"port {port} out of range"
  | .nullBuffer port => s!"port {port} given a null buffer"
  | .unconnected port => s!"port {port} is not connected"
  | .missingFunction name => s!"plugin has no {name} function"

/-- How a text that names no plugin is told. -/
def invalidIdentifierText (e : IdentifierError) : String :=
  s!"invalid plugin identifier: {e.message}"

/-- What is wrong with a descriptor, in words. -/
def DescriptorFault.message : DescriptorFault → String
  | .missingPortArrays count => s!"{count} ports declared but port arrays are missing"
  | .badIdentifier e => invalidIdentifierText e

/-- What an error says. -/
def PluginError.message : PluginError → String
  | .loadFailure path reason => s!"failed to load library '{path.text}': {reason}"
  | .unloadFailure path reason => s!"failed to unload library '{path.text}': {reason}"
  | .symbolMissing path symbol => s!"library '{path.text}' does not export '{symbol}'"
  | .descriptorNotFound path label => s!"no plugin labelled '{label}' in library '{path.text}'"
  | .duplicateDescriptor path label first second =>
    s!"library '{path.text}' returns plugin '{label}' at indices {first} and {second}"
  | .instantiationFailure label fault => s!"plugin '{label}' failed to instantiate: {fault.message}"
  | .unsupportedOperation label fault => s!"plugin '{label}' cannot do that: {fault.message}"
  | .kindMismatch expected found =>
    s!"identifier of type '{found.tag}' given to the {expected.tag} factory"
  | .invalidIdentifier e => invalidIdentifierText e
  | .malformedDescriptor path fault =>
    s!"malformed descriptor in '{path.text}': {fault.message}"

/-! ## Kinds of errors -/

/-- The kinds that all errors of the host fall into. -/
inductive ErrorKind where
  | notFound
  | validation
  | internal
  | storage
  | configuration
  | plugin
  | cache
  | serialization
  | externalService
deriving DecidableEq, Repr

namespace ErrorKind

/-- The name of a kind. -/
def name : ErrorKind → String
  | .notFound => "NotFound"
  | .validation => "Validation"
  | .internal => "Internal"
  | .storage => "Storage"
  | .configuration => "Configuration"
  | .plugin => "Plugin"
  | .cache => "Cache"
  | .serialization => "Serialization"
  | .externalService => "ExternalService"

/-- The word for a kind in messages. -/
def word : ErrorKind → String
  | .notFound => "NOT_FOUND"
  | .validation => "VALIDATION"
  | .internal => "INTERNAL"
  | .storage => "STORAGE"
  | .configuration => "CONFIGURATION"
  | .plugin => "PLUGIN"
  | .cache => "CACHE"
  | .serialization => "SERIALIZATION"
  | .externalService => "EXTERNAL_SERVICE"

/-- Every kind. -/
def all : List ErrorKind :=
  [.notFound, .validation, .internal, .storage, .configuration, .plugin, .cache, .serialization,
    .externalService]

/-- The kind of a name. -/
def ofName? (name : String) : Option ErrorKind := all.find? fun kind => kind.name == name

end ErrorKind

/-- The kind of a plugin error. -/
def PluginError.kind : PluginError → ErrorKind
  | .invalidIdentifier _ => .validation
  | .kindMismatch _ _ => .validation
  | .descriptorNotFound _ _ => .notFound
  | _ => .plugin

/-! ## Reports -/

/-- An error as the user is told of it. -/
structure Problem where
  kind : ErrorKind
  message : String
  /-- The error that caused this one is kept. -/
  hasSource : Bool
deriving DecidableEq, Repr

namespace Problem

/-- The text of a report. -/
def text (p : Problem) : String := s!"{p.kind.word}: {p.message}"

/-- A report without a cause. -/
def plain (kind : ErrorKind) (message : String) : Problem := ⟨kind, message, false⟩

/-- A copy of a report does not keep the cause. -/
def copy (p : Problem) : Problem := { p with hasSource := false }

/-- The report of a failure to read or write. -/
def ofStorage (message : String) : Problem := ⟨.storage, s!"I/O error: {message}", true⟩

/-- The report of a failure to read settings. -/
def ofConfiguration (message : String) : Problem :=
  ⟨.configuration, s!"Configuration error: {message}", true⟩

/-- The report of a failure to read JSON. -/
def ofJson (message : String) : Problem :=
  ⟨.serialization, s!"JSON serialization error: {message}", true⟩

/-- The report of a plugin error. -/
def ofPlugin (e : PluginError) : Problem := ⟨e.kind, e.message, true⟩

end Problem

end AudioHost
