import SignOn.Fleet.Store

/-!
# Stores with outages

A store in memory whose next calls of a kind can be made to fail. A call that fails this way has no
effect on the records.
-/

namespace SignOn

open SignOn.Text (Bytes)

/-- The calls that a store answers. -/
inductive StoreCall where
  | create
  | get
  | set
deriving DecidableEq, Repr

/-- A store in memory with the failures that await its next calls. -/
structure OutageStore where
  memory : MemoryStore := {}
  /-- The failures to come, each with the kind of call that meets it, in order. -/
  faults : List (StoreCall × StoreFault) := []

namespace OutageStore

/-- Adds a failure behind those that await the same kind of call. -/
def expect (s : OutageStore) (call : StoreCall) (fault : StoreFault) : OutageStore :=
  { s with faults := s.faults ++ [(call, fault)] }

/-- The first failure that awaits a kind of call. -/
def fault? (s : OutageStore) (call : StoreCall) : Option StoreFault :=
  s.faults.lookup call

/-- The store after a call of a kind met its failure. -/
def pass (s : OutageStore) (call : StoreCall) : OutageStore :=
  { s with faults := s.faults.eraseP (·.1 == call) }

/-- The store as its clients see it. -/
def asStore : Store OutageStore where
  create s path data :=
    match s.fault? .create with
    | some fault => (.error fault, s.pass .create)
    | none =>
      let (answer, memory) := s.memory.create path data
      (answer, { s with memory })
  get s path :=
    match s.fault? .get with
    | some fault => (.error fault, s.pass .get)
    | none => (s.memory.get path, s)
  set s path data expected :=
    match s.fault? .set with
    | some fault => (.error fault, s.pass .set)
    | none =>
      let (answer, memory) := s.memory.set path data expected
      (answer, { s with memory })

end OutageStore

end SignOn
