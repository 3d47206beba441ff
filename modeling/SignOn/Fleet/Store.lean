import SignOn.Error

/-!
# Versioned stores

A store keeps records at paths. Each record has a version, and a record is replaced only by a
writer that names the version it has read, so no writer overwrites what it has not seen. Every call
is one step: it sees one state of the store and leaves one state behind.

The store in memory numbers the versions of a record from zero, one step for each replacement.
-/

namespace SignOn

open SignOn.Text (Bytes)

/-- A record with its version. -/
structure Versioned where
  data : Bytes
  version : Int64
deriving DecidableEq, Repr

/-- What a process can ask of a store whose states are of type `σ`. -/
structure Store (σ : Type) where
  /-- Puts a record at a path where none is. -/
  create : σ → String → Bytes → Except StoreFault Unit × σ
  /-- Reads the record at a path. -/
  get : σ → String → Except StoreFault Versioned × σ
  /-- Replaces the record at a path if it has the given version, and answers the new version. -/
  set : σ → String → Bytes → Int64 → Except StoreFault Int64 × σ

/-- A store in the memory of one process: the records with their paths. -/
structure MemoryStore where
  records : List (String × Versioned) := []
deriving DecidableEq, Repr

namespace MemoryStore

/-- The record at a path. -/
def find? (s : MemoryStore) (path : String) : Option Versioned :=
  s.records.lookup path

/-- The store with a record put in front of an older one at the same path. -/
def put (s : MemoryStore) (path : String) (record : Versioned) : MemoryStore :=
  ⟨(path, record) :: s.records.filter (·.1 != path)⟩

/-- Puts a record at a path where none is. -/
def create (s : MemoryStore) (path : String) (data : Bytes) :
    Except StoreFault Unit × MemoryStore :=
  match s.find? path with
  | some _ => (.error .alreadyExists, s)
  | none => (.ok (), s.put path ⟨data, 0⟩)

/-- Reads the record at a path. -/
def get (s : MemoryStore) (path : String) : Except StoreFault Versioned :=
  match s.find? path with
  | some record => .ok record
  | none => .error .notFound

/-- Replaces the record at a path if it has the expected version. -/
def set (s : MemoryStore) (path : String) (data : Bytes) (expected : Int64) :
    Except StoreFault Int64 × MemoryStore :=
  match s.find? path with
  | none => (.error .notFound, s)
  | some record =>
    if record.version = expected then
      (.ok (record.version + 1), s.put path ⟨data, record.version + 1⟩)
    else (.error .badVersion, s)

/-- The store as its clients see it. -/
def asStore : Store MemoryStore where
  create := create
  get s path := (s.get path, s)
  set := set

end MemoryStore

end SignOn
