import SignOn.Fleet.Store

/-!
# Records at a path

What the calls of the store in memory do to the record at the path they name, and that they do
nothing at any other path. A store that cannot be reached answers every call with a failure and
stays as it is.
-/

namespace SignOn

open SignOn.Text (Bytes)

/-- The store seen by a process that cannot reach it. -/
def Store.unreachable {σ : Type} (reason : String) : Store σ where
  create s _ _ := (.error (.unavailable reason), s)
  get s _ := (.error (.unavailable reason), s)
  set s _ _ _ := (.error (.unavailable reason), s)

namespace MemoryStore

@[simp] theorem find?_put_self (s : MemoryStore) (path : String) (record : Versioned) :
    (s.put path record).find? path = some record := by
  simp [put, find?]

theorem lookup_filter_ne {path other : String} (h : other ≠ path)
    (records : List (String × Versioned)) :
    (records.filter (·.1 != path)).lookup other = records.lookup other := by
  induction records with
  | nil => rfl
  | cons entry records ih =>
    obtain ⟨key, record⟩ := entry
    by_cases hKey : key = path
    · have hOther : (other == key) = false := by simpa [hKey] using h
      rw [List.filter_cons_of_neg (by simpa using hKey), ih, List.lookup_cons, hOther]
    · rw [List.filter_cons_of_pos (by simpa using hKey), List.lookup_cons, List.lookup_cons, ih]

theorem find?_put_of_ne {path other : String} (h : other ≠ path) (s : MemoryStore)
    (record : Versioned) : (s.put path record).find? other = s.find? other := by
  have hOther : (other == path) = false := by simpa using h
  simp only [put, find?, List.lookup_cons, hOther]
  exact lookup_filter_ne h s.records

theorem create_of_some {s : MemoryStore} {path : String} {record : Versioned}
    (h : s.find? path = some record) (data : Bytes) :
    s.create path data = (.error .alreadyExists, s) := by
  rw [create, h]

theorem create_of_none {s : MemoryStore} {path : String} (h : s.find? path = none)
    (data : Bytes) : s.create path data = (.ok (), s.put path ⟨data, 0⟩) := by
  rw [create, h]

theorem set_of_eq {s : MemoryStore} {path : String} {record : Versioned}
    (h : s.find? path = some record) (data : Bytes) :
    s.set path data record.version =
      (.ok (record.version + 1), s.put path ⟨data, record.version + 1⟩) := by
  simp only [set, h, if_true]

/-- A writer that does not know the version of the record changes nothing. -/
theorem set_of_ne {s : MemoryStore} {path : String} {expected : Int64}
    (h : ∀ record, s.find? path = some record → record.version ≠ expected) (data : Bytes) :
    ∃ fault, s.set path data expected = (.error fault, s) := by
  cases hs : s.find? path with
  | none => exact ⟨.notFound, by simp only [set, hs]⟩
  | some record => exact ⟨.badVersion, by simp only [set, hs, if_neg (h record hs)]⟩

end MemoryStore

end SignOn
