import SignOn.Keyring.Source

/-!
# Groups of sources

Several sources over one store, under names. When time passes, their rotations happen in the order
in which they fall due; of rotations due at the same moment, the one asked for first comes first. A
rotation is asked for when the source is scheduled or its rotation before is done, so the sources
stand in the order in which their next rotations were asked for.
-/

namespace SignOn

/-- Sources under names, with the store that they share. -/
structure SourceGroup (σ : Type) where
  sources : List (String × Source) := []
  state : σ

namespace SourceGroup

variable {σ : Type}

/-- The source with a name. -/
def find? (g : SourceGroup σ) (name : String) : Option Source :=
  g.sources.lookup name

/-- Puts a source in the place of one with the same name, or behind all others. -/
def put (g : SourceGroup σ) (name : String) (source : Source) : SourceGroup σ :=
  if (g.find? name).isSome then
    { g with sources := g.sources.map fun (n, s) => if n = name then (n, source) else (n, s) }
  else { g with sources := g.sources ++ [(name, source)] }

/-- Adds a source behind all others; an older one with the same name goes. -/
def add (g : SourceGroup σ) (name : String) (source : Source) : SourceGroup σ :=
  { g with sources := g.sources.filter (·.1 != name) ++ [(name, source)] }

/-- Takes a source away. -/
def remove (g : SourceGroup σ) (name : String) : SourceGroup σ :=
  { g with sources := g.sources.filter (·.1 != name) }

/-- The one of two sources whose rotation comes first; the first one if neither does. -/
def earlier (a b : String × Source) : String × Source :=
  match a.2.schedule?, b.2.schedule? with
  | some s, some t => if t.isBefore s then b else a
  | none, some _ => b
  | _, none => a

/-- The source whose rotation comes first. -/
def first? : List (String × Source) → Option (String × Source)
  | [] => none
  | a :: rest => some (rest.foldl earlier a)

/-- Does the next rotations, as many as given. -/
def run (store : Store σ) : Nat → SourceGroup σ → SourceGroup σ
  | 0, g => g
  | n + 1, g =>
    match first? g.sources with
    | none => g
    | some (name, source) =>
      let (source, state) := source.tick store g.state
      run store n ({ g with state }.add name source)

/-- The group once its clock stands at `now`: all rotations due by then are done. -/
def runUntil (store : Store σ) (now : Nat) (g : SourceGroup σ) : SourceGroup σ :=
  run store (g.sources.foldl (fun n (_, source) => n + source.dueCount now) 0) g

end SourceGroup

end SignOn
