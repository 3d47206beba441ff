import SignOn.Endpoint.Handler

/-!
# Several schemes at one endpoint

A dispatcher binds handlers to schemes, each scheme at most once. A request goes to the handler
that is bound to the scheme of its credentials; otherwise the client learns which schemes there
are.
-/

namespace SignOn

/-- Handlers bound to schemes, in the order of binding. -/
structure Dispatcher where
  bindings : List (Scheme × Handler) := []

namespace Dispatcher

/-- The kind that stands for several schemes. -/
def usualKind : String := "multi-scheme"

/-- The key with the list of schemes. -/
def schemesKey : String := "multi-scheme-auth-handler.schemes"

/-- The key under which the configuration names the handler for a scheme. -/
def handlerKey (scheme : String) : String :=
  Text.lowercase (schemesKey ++ "." ++ scheme ++ ".handler")

/-- Binds a handler to a scheme that has none. -/
def bind (d : Dispatcher) (scheme : String) (handler : Handler) : Result Dispatcher := do
  let s ← Scheme.parse scheme
  if d.bindings.any fun (bound, _) => bound == s then misconfigured (.schemeTaken s.name)
  .ok ⟨d.bindings ++ [(s, handler)]⟩

/-- The schemes, in the order of binding. -/
def schemes (d : Dispatcher) : List Scheme :=
  d.bindings.map Prod.fst

/-- The list without repetitions, each item at its first place. -/
def distinct : List String → List String → List String
  | seen, [] => seen
  | seen, s :: rest => distinct (if seen.contains s then seen else seen ++ [s]) rest

/-- The kinds of tokens of all handlers. -/
def tokenKinds (d : Dispatcher) : List String :=
  distinct [] (d.bindings.flatMap fun (_, h) => h.tokenKinds)

/-- The challenge that lists the schemes. -/
def offer (d : Dispatcher) : Challenge where
  status := 401
  headers := .ofTexts (d.schemes.map fun s => (Http.challengeField, s.name))

/-- The handler for the credentials of a request. -/
def route? (d : Dispatcher) (request : Http.Request) : Option Handler :=
  (credentials? request).bind fun text =>
    (d.bindings.find? fun (s, _) => s.matches? text).map Prod.snd

/-- What is found out about a request. -/
def authenticate (d : Dispatcher) (request : Http.Request) : Attempt Outcome :=
  match d.route? request with
  | some handler => handler.authenticate request
  | none => .done (.ok (.challenge d.offer))

/-- The handler for all bound schemes. -/
def handler (d : Dispatcher) : Handler where
  kind := usualKind
  tokenKinds := d.tokenKinds
  authenticate := d.authenticate

/-- A dispatcher as a developer sees it. -/
def inspect (d : Dispatcher) : String :=
  Text.Inspect.record "MultiSchemeDispatcher" [
    ("bindings", Text.Inspect.list (d.bindings.map fun (s, h) =>
      Text.Inspect.tuple [Text.Inspect.quote s.name, h.inspect]))]

/-- The schemes of a dispatcher as a developer sees them. -/
def inspectSchemes (d : Dispatcher) : String :=
  Text.Inspect.list (d.schemes.map fun s => Text.Inspect.quote s.name)

end Dispatcher

end SignOn
