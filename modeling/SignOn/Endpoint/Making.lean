import SignOn.Endpoint.Handler
import SignOn.Files
import SignOn.Pattern.Basic
import SignOn.Properties

/-!
# Ways of making handlers

Whoever makes a handler gets the configuration, the collaborators and a registry of kinds of
handlers, which may be asked for further handlers. `Making` lists what the registry is asked, one
question after the other, with all that may follow on its answers. The answers are not part of it:
they come from `Registry.run`, which may find no end of questions.
-/

namespace SignOn

/-- What handlers are made with. -/
structure Collaborators where
  files : Files := {}
  /-- How the principals of a keytab are listed, if there is a security provider. -/
  keytab : Option (String → Except String (List String)) := none
  /-- Whether there is a directory. -/
  hasDirectory : Bool := false
  /-- How the patterns of rules are read. -/
  engine : PatternEngine := .usual

/-- A program that makes something with a registry at hand. -/
inductive Making (α : Type) where
  /-- The end, with what is made or why nothing is. -/
  | done (result : Result α)
  /-- Does the registry know this kind? -/
  | asks (name : String) (next : Bool → Making α)
  /-- Let the registry make a handler of this kind. What is given is given on, or not. -/
  | creates (c : Collaborators) (props : Properties) (name : String)
      (next : Result Handler → Making α)

namespace Making

variable {α β : Type}

/-- Goes on with the result, whatever it is. -/
def andThen : Making α → (Result α → Making β) → Making β
  | .done result, f => f result
  | .asks name next, f => .asks name fun known => (next known).andThen f
  | .creates c props name next, f => .creates c props name fun made => (next made).andThen f

/-- Goes on after a success. -/
def onSuccess (f : α → Making β) : Result α → Making β
  | .ok a => f a
  | .error e => .done (.error e)

instance : Monad Making where
  pure a := .done (.ok a)
  bind m f := m.andThen (onSuccess f)

instance : MonadLift (Except Error) Making where
  monadLift := .done

/-- Lets the registry make a handler. -/
def create (c : Collaborators) (props : Properties) (name : String) : Making Handler :=
  .creates c props name .done

end Making

/-- A way of making a handler. -/
abbrev Maker := Collaborators → Properties → Making Handler

/-- The collaborators as a developer sees them. -/
def Collaborators.inspect (c : Collaborators) : String :=
  Text.Inspect.record "Collaborators" [
    ("acceptor", Text.Inspect.bool c.keytab.isSome),
    ("binder", Text.Inspect.bool c.hasDirectory)]

end SignOn
