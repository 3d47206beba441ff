import SignOn.Endpoint.Directory
import SignOn.Endpoint.Dispatcher
import SignOn.Endpoint.Making
import SignOn.Endpoint.Negotiator
import SignOn.Endpoint.Pseudo

/-!
# Kinds of handlers

A registry maps names to ways of making a handler. Names differ only in more than the case of ASCII
letters, and of entries with the same name the last one counts. A way of making a handler may ask
the registry for others, as that of dispatchers does for their parts; these are no dispatchers
themselves.
-/

namespace SignOn

/-- The registered ways of making handlers, the latest first. -/
structure Registry where
  entries : List (String × Maker) := []

namespace Registry

/-- Adds a way of making handlers under a name, in the place of an earlier one. -/
def register (r : Registry) (name : String) (maker : Maker) : Registry :=
  ⟨(Text.lowerAscii name, maker) :: r.entries⟩

/-- The way of making handlers under a name; white space around the name does not count. -/
def find? (r : Registry) (name : String) : Option Maker :=
  r.entries.lookup (Text.lowerAscii (Text.trim name))

/-- Whether there is a way of making handlers under a name. -/
def contains (r : Registry) (name : String) : Bool :=
  (r.find? name).isSome

/-! ## Making handlers -/

/-- What comes out of a program in this registry, if it has an end. Where a handler is to be made,
the program for its kind stands in. -/
def run (r : Registry) {α : Type} : Making α → Option (Result α)
  | .done result => some result
  | .asks name next => r |>.run (next (r.contains name))
  | .creates c props name next =>
    match r.find? name with
    | some maker => r |>.run ((maker c props).andThen next)
    | none => r |>.run (next (misconfigured (.unknownHandler name)))
partial_fixpoint

/-- Makes a handler of the kind with a name, unless this has no end. -/
def create (r : Registry) (c : Collaborators) (props : Properties) (name : String) :
    Option (Result Handler) :=
  match r.find? name with
  | some maker => r.run (maker c props)
  | none => some (misconfigured (.unknownHandler name))

end Registry

namespace Dispatcher

/-- The kind of handler that the configuration names for a scheme, other than that of
dispatchers. -/
def kindFor (props : Properties) (scheme : String) : Result String := do
  let kind ← (props.require (handlerKey scheme)).mapError fun _ =>
    ⟨.configuration (.schemeWithoutHandler scheme), none⟩
  if Text.sameText kind usualKind then misconfigured (.nestedDispatch scheme usualKind)
  .ok kind

/-- Binds the handler that the configuration names for a scheme. -/
def bindPart (c : Collaborators) (props : Properties) (d : Dispatcher) (scheme : String) :
    Making Dispatcher := do
  let kind ← kindFor props scheme
  let handler ← .create c props kind
  d.bind scheme handler

/-- The items of a list of schemes between commas. -/
def schemeItems (list : String) : List String :=
  ((Text.splitText ',' list).map Text.trim).filter (· != "")

/-- Makes a dispatcher for the schemes that the configuration lists. -/
def ofProperties (c : Collaborators) (props : Properties) : Making Dispatcher := do
  match props.get? schemesKey with
  | none => misconfigured (.unspecified schemesKey)
  | some list =>
    let d ← (schemeItems list).foldlM (bindPart c props) {}
    if d.bindings.isEmpty then misconfigured (.emptyList schemesKey)
    return d

end Dispatcher

namespace Registry

/-! ## The usual kinds -/

/-- Makes the handler for claimed names. -/
def makePseudo : Maker := fun _ props =>
  .done ((PseudoHandler.ofProperties props).map PseudoHandler.handler)

/-- Makes the handler that asks the security provider, which must be there. -/
def makeNegotiator : Maker := fun c props =>
  match c.keytab with
  | some list =>
    let made : Result (Negotiator c.engine) := Negotiator.ofProperties c.files list props
    .done (made.map Negotiator.handler)
  | none => .done (misconfigured .noAcceptor)

/-- Makes the handler that asks the directory, which must be there. -/
def makeDirectory : Maker := fun c props =>
  if c.hasDirectory then
    .done ((DirectoryHandler.ofProperties props).map DirectoryHandler.handler)
  else .done (misconfigured .noBinder)

/-- Makes a dispatcher, whose parts come from the registry. -/
def makeDispatcher : Maker := fun c props => do
  let d ← Dispatcher.ofProperties c props
  return d.handler

/-- The registry with the usual kinds of handlers. -/
def usual : Registry :=
  ((((⟨[]⟩ : Registry).register PseudoHandler.usualKind makePseudo).register
    Negotiator.usualKind makeNegotiator).register
    DirectoryHandler.usualKind makeDirectory).register
    Dispatcher.usualKind makeDispatcher

/-! ## Inspection -/

/-- The names of a registry, each once and in ascending order. -/
def names (r : Registry) : List String :=
  (Properties.ofList (r.entries.map fun (name, _) => (name, ""))).entries.map Prod.fst

/-- A registry as a developer sees it. -/
def inspect (r : Registry) : String :=
  Text.Inspect.record "HandlerRegistry" [
    ("types", Text.Inspect.list (r.names.map Text.Inspect.quote))]

end Registry

end SignOn
