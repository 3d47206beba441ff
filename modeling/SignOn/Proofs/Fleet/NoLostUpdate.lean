import Mathlib.Data.Nat.Count
import SignOn.Proofs.Fleet.Store

/-!
# No update is lost

Any number of clients ask one store in memory, which serves one call after the other. All that is
known of the clients is the order in which their calls are served, so an interleaving of them is a
sequence of calls. What one call can do to the record at a path is said by `held_succ_of_creates`,
`held_succ_of_replaces` and `held_succ_of_idle`; over a run, a record is there from its creation on,
and its version counts the replacements (`unwritten_or_written`).

So the version of a record tells all replacements apart, and who replaces the version that was read
replaces what was read (`no_lost_update`).
-/

namespace SignOn

open SignOn.Text (Bytes)

/-- A call of a store. -/
inductive StoreRequest where
  | create (path : String) (data : Bytes)
  | get (path : String)
  | set (path : String) (data : Bytes) (expected : Int64)

def StoreRequest.path : StoreRequest → String
  | .create path _ | .get path | .set path _ _ => path

inductive StoreAnswer where
  | created
  | found (record : Versioned)
  | replaced (version : Int64)
  | failed (fault : StoreFault)

def Store.serve {σ : Type} (store : Store σ) (s : σ) : StoreRequest → StoreAnswer × σ
  | .create path data =>
    match store.create s path data with
    | (.ok (), s) => (.created, s)
    | (.error fault, s) => (.failed fault, s)
  | .get path =>
    match store.get s path with
    | (.ok record, s) => (.found record, s)
    | (.error fault, s) => (.failed fault, s)
  | .set path data expected =>
    match store.set s path data expected with
    | (.ok version, s) => (.replaced version, s)
    | (.error fault, s) => (.failed fault, s)

namespace MemoryStore

/-! ## Serving one call -/

/-- What a call can come to: it is refused and changes nothing, or it reads and changes nothing, or
it puts a record at its path. That is a new record where none was, or the successor of the one whose
version the call names. -/
inductive Served (s : MemoryStore) : StoreRequest → StoreAnswer → MemoryStore → Prop
  | refused {request : StoreRequest} (fault : StoreFault) : Served s request (.failed fault) s
  | found {path : String} {record : Versioned} (h : s.find? path = some record) :
      Served s (.get path) (.found record) s
  | created {path : String} (data : Bytes) (h : s.find? path = none) :
      Served s (.create path data) .created (s.put path ⟨data, 0⟩)
  | replaced {path : String} {record : Versioned} (data : Bytes) (h : s.find? path = some record) :
      Served s (.set path data record.version) (.replaced (record.version + 1))
        (s.put path ⟨data, record.version + 1⟩)

theorem served (s : MemoryStore) (request : StoreRequest) :
    Served s request (asStore.serve s request).1 (asStore.serve s request).2 := by
  cases request with
  | create path data =>
    simp only [Store.serve, asStore]
    cases h : s.find? path with
    | none =>
      rw [create_of_none h]
      exact .created data h
    | some record =>
      rw [create_of_some h]
      exact .refused _
  | get path =>
    simp only [Store.serve, asStore, get]
    cases h : s.find? path with
    | none => exact .refused _
    | some record => exact .found h
  | set path data expected =>
    simp only [Store.serve, asStore]
    by_cases hKnown : ∃ record, s.find? path = some record ∧ record.version = expected
    · obtain ⟨record, h, rfl⟩ := hKnown
      rw [set_of_eq h]
      exact .replaced data h
    · obtain ⟨fault, hSet⟩ :=
        set_of_ne (fun record h hVersion => hKnown ⟨record, h, hVersion⟩) data
      rw [hSet]
      exact .refused fault

/-! ## Runs -/

section

variable (calls : ℕ → StoreRequest)

/-- A new store after its first `n` calls. -/
def after : ℕ → MemoryStore
  | 0 => {}
  | n + 1 => (asStore.serve (after n) (calls n)).2

def answer (n : ℕ) : StoreAnswer :=
  (asStore.serve (after calls n) (calls n)).1

/-- The record at a path after the first `n` calls. -/
def held (path : String) (n : ℕ) : Option Versioned :=
  (after calls n).find? path

/-- The call is to create a record, and it succeeds. -/
def Creates (path : String) (n : ℕ) (data : Bytes) : Prop :=
  calls n = .create path data ∧ answer calls n = .created

/-- The call is to read a record, and this is what it answers. -/
def Reads (path : String) (n : ℕ) (record : Versioned) : Prop :=
  calls n = .get path ∧ answer calls n = .found record

/-- The call is to replace the record with this version, and it succeeds. -/
def Replaces (path : String) (n : ℕ) (expected : Int64) (data : Bytes) : Prop :=
  calls n = .set path data expected ∧ ∃ version, answer calls n = .replaced version

def Fails (n : ℕ) : Prop :=
  ∃ fault, answer calls n = .failed fault

end

variable {calls : ℕ → StoreRequest} {path : String} {n : ℕ}

theorem served_after (calls : ℕ → StoreRequest) (n : ℕ) :
    Served (after calls n) (calls n) (answer calls n) (after calls (n + 1)) :=
  served (after calls n) (calls n)

theorem after_of_fails (h : Fails calls n) : after calls (n + 1) = after calls n := by
  obtain ⟨fault, hAnswer⟩ := h
  have hServed := served_after calls n
  rw [hAnswer] at hServed
  generalize calls n = request at hServed
  generalize after calls (n + 1) = next at hServed ⊢
  cases hServed
  rfl

theorem held_of_path_ne (h : (calls n).path ≠ path) :
    held calls path (n + 1) = held calls path n := by
  have hServed := served_after calls n
  unfold held
  generalize calls n = request at h hServed
  generalize answer calls n = answered at hServed
  generalize after calls (n + 1) = next at hServed ⊢
  cases hServed with
  | refused fault => rfl
  | found hFound => rfl
  | created data hNone => exact find?_put_of_ne (Ne.symm h) _ _
  | replaced data hFound => exact find?_put_of_ne (Ne.symm h) _ _

/-- The call puts no record at the path. -/
def IsIdle (calls : ℕ → StoreRequest) (path : String) (n : ℕ) : Prop :=
  (∀ data, ¬ Creates calls path n data) ∧ ∀ expected data, ¬ Replaces calls path n expected data

theorem isIdle_of_path_ne (h : (calls n).path ≠ path) : IsIdle calls path n := by
  constructor
  · rintro data ⟨hCall, -⟩
    exact h (by rw [hCall, StoreRequest.path])
  · rintro expected data ⟨hCall, -⟩
    exact h (by rw [hCall, StoreRequest.path])

theorem isIdle_of_answer (hCreated : answer calls n ≠ .created)
    (hReplaced : ∀ version, answer calls n ≠ .replaced version) : IsIdle calls path n :=
  ⟨fun _ h => hCreated h.2, fun _ _ ⟨_, version, h⟩ => hReplaced version h⟩

/-- What one call does to the record at a path: nothing, or it creates the record, or it replaces it
by its successor. -/
inductive Step (calls : ℕ → StoreRequest) (path : String) (n : ℕ) : Prop
  | idle (idle : IsIdle calls path n) (kept : held calls path (n + 1) = held calls path n)
  | created {data : Bytes} (creates : Creates calls path n data)
      (absent : held calls path n = none) (written : held calls path (n + 1) = some ⟨data, 0⟩)
  | replaced {record : Versioned} {data : Bytes}
      (replaces : Replaces calls path n record.version data)
      (present : held calls path n = some record)
      (written : held calls path (n + 1) = some ⟨data, record.version + 1⟩)

theorem step (calls : ℕ → StoreRequest) (path : String) (n : ℕ) : Step calls path n := by
  by_cases hPath : (calls n).path = path
  swap
  · exact .idle (isIdle_of_path_ne hPath) (held_of_path_ne hPath)
  subst hPath
  have hServed := served_after calls n
  generalize hRequest : calls n = request at hServed ⊢
  generalize hAnswer : answer calls n = answered at hServed
  generalize hNext : after calls (n + 1) = next at hServed
  have hHeld : ∀ path, held calls path (n + 1) = next.find? path := fun _ => by rw [held, hNext]
  cases hServed with
  | refused fault =>
    exact .idle (isIdle_of_answer (by simp [hAnswer]) (by simp [hAnswer])) (hHeld _)
  | found h => exact .idle (isIdle_of_answer (by simp [hAnswer]) (by simp [hAnswer])) (hHeld _)
  | created data h =>
    exact .created ⟨hRequest, hAnswer⟩ h ((hHeld _).trans (find?_put_self ..))
  | replaced data h =>
    exact .replaced ⟨hRequest, _, hAnswer⟩ h ((hHeld _).trans (find?_put_self ..))

theorem creates_iff {data : Bytes} :
    Creates calls path n data ↔ calls n = .create path data ∧ held calls path n = none := by
  constructor
  · intro h
    cases step calls path n with
    | idle idle => exact absurd h (idle.1 data)
    | created _ absent => exact ⟨h.1, absent⟩
    | replaced replaces => cases replaces.1.symm.trans h.1
  · rintro ⟨hCall, hNone⟩
    refine ⟨hCall, ?_⟩
    simp only [answer, hCall, Store.serve, asStore, create_of_none hNone]

theorem reads_iff {record : Versioned} :
    Reads calls path n record ↔ calls n = .get path ∧ held calls path n = some record := by
  refine and_congr_right fun hCall => ?_
  simp only [answer, hCall, Store.serve, asStore, get, held]
  cases (after calls n).find? path <;> simp

theorem replaces_iff {expected : Int64} {data : Bytes} :
    Replaces calls path n expected data ↔
      calls n = .set path data expected ∧ ∃ old, held calls path n = some ⟨old, expected⟩ := by
  constructor
  · intro h
    cases step calls path n with
    | idle idle => exact absurd h (idle.2 expected data)
    | created creates => cases creates.1.symm.trans h.1
    | replaced replaces present =>
      cases replaces.1.symm.trans h.1
      exact ⟨h.1, _, present⟩
  · rintro ⟨hCall, old, hHeld⟩
    refine ⟨hCall, expected + 1, ?_⟩
    simp only [answer, hCall, Store.serve, asStore, set_of_eq hHeld]

/-! ## The record and its version -/

def isUpdate (calls : ℕ → StoreRequest) (path : String) (n : ℕ) : Bool :=
  match calls n, answer calls n with
  | .set other _ _, .replaced _ => other == path
  | _, _ => false

theorem isUpdate_iff :
    isUpdate calls path n = true ↔ ∃ expected data, Replaces calls path n expected data := by
  unfold isUpdate Replaces
  cases calls n <;> cases answer calls n <;> simp

/-- How many of the first `n` calls replace the record at a path. -/
def updateCount (calls : ℕ → StoreRequest) (path : String) (n : ℕ) : ℕ :=
  Nat.count (fun m => isUpdate calls path m = true) n

theorem updateCount_mono {n' : ℕ} (h : n ≤ n') :
    updateCount calls path n ≤ updateCount calls path n' :=
  Nat.count_monotone _ h

theorem IsIdle.isUpdate (h : IsIdle calls path n) : ¬ isUpdate calls path n = true := by
  rw [isUpdate_iff]
  rintro ⟨expected, data, hReplaces⟩
  exact h.2 expected data hReplaces

theorem updateCount_of_not (h : ¬ isUpdate calls path n = true) :
    updateCount calls path (n + 1) = updateCount calls path n :=
  Nat.count_succ_eq_count_iff.mpr h

theorem Replaces.updateCount {expected : Int64} {data : Bytes}
    (h : Replaces calls path n expected data) :
    updateCount calls path (n + 1) = updateCount calls path n + 1 :=
  Nat.count_succ_eq_succ_count_iff.mpr (isUpdate_iff.mpr ⟨expected, data, h⟩)

/-- The data at a path is what the last update wrote, or, before the first one, what the record was
created with. -/
inductive IsLatest (calls : ℕ → StoreRequest) (path : String) (n : ℕ) (data : Bytes) : Prop
  | created {m : ℕ} (earlier : m < n) (creates : Creates calls path m data)
      (unreplaced : ∀ k < n, ∀ expected data, ¬ Replaces calls path k expected data)
  | replaced {m : ℕ} {expected : Int64} (earlier : m < n)
      (replaces : Replaces calls path m expected data)
      (unreplaced : ∀ k, m < k → k < n → ∀ expected data, ¬ Replaces calls path k expected data)

theorem IsLatest.succ {data : Bytes} (h : IsLatest calls path n data)
    (hIdle : ∀ expected data, ¬ Replaces calls path n expected data) :
    IsLatest calls path (n + 1) data := by
  cases h with
  | created earlier creates unreplaced =>
    exact .created (Nat.lt_succ_of_lt earlier) creates
      (Nat.forall_lt_succ_right.mpr ⟨unreplaced, hIdle⟩)
  | replaced earlier replaces unreplaced =>
    refine .replaced (Nat.lt_succ_of_lt earlier) replaces fun k hAfter hk => ?_
    rcases Nat.lt_succ_iff_lt_or_eq.mp hk with hk | rfl
    · exact unreplaced k hAfter hk
    · exact hIdle

/-- Nothing is at a path until a record is created there. Then there is one, its data is the latest,
and its version is the number of updates. -/
theorem unwritten_or_written (calls : ℕ → StoreRequest) (path : String) (n : ℕ) :
    (held calls path n = none ∧ ∀ m < n, IsIdle calls path m) ∨
      ∃ data, held calls path n = some ⟨data, Int64.ofNat (updateCount calls path n)⟩ ∧
        IsLatest calls path n data := by
  -- By induction on the calls; a call is idle, creates the record, or replaces it.
  induction n with
  | zero => exact .inl ⟨rfl, fun m hm => absurd hm (Nat.not_lt_zero m)⟩
  | succ n ih =>
    cases step calls path n with
    | idle idle kept =>
      rw [kept, updateCount_of_not idle.isUpdate]
      rcases ih with ⟨hNone, hIdle⟩ | ⟨data, hHeld, hLatest⟩
      · exact .inl ⟨hNone, Nat.forall_lt_succ_right.mpr ⟨hIdle, idle⟩⟩
      · exact .inr ⟨data, hHeld, hLatest.succ idle.2⟩
    | @created data creates absent written =>
      rcases ih with ⟨-, hIdle⟩ | ⟨_, hHeld, -⟩
      · have hHere : ∀ expected data, ¬ Replaces calls path n expected data := by
          intro expected data hReplaces
          cases creates.1.symm.trans hReplaces.1
        have hReplaced : ∀ m < n + 1, ∀ expected data, ¬ Replaces calls path m expected data :=
          Nat.forall_lt_succ_right.mpr ⟨fun m hm => (hIdle m hm).2, hHere⟩
        have hCount : updateCount calls path (n + 1) = 0 := by
          refine Nat.count_of_forall_not fun m hm => ?_
          rw [isUpdate_iff]
          rintro ⟨expected, data, h⟩
          exact hReplaced m hm expected data h
        rw [written, hCount]
        exact .inr ⟨data, rfl, .created (Nat.lt_succ_self n) creates hReplaced⟩
      · rw [absent] at hHeld
        cases hHeld
    | @replaced record data replaces present written =>
      rcases ih with ⟨hNone, -⟩ | ⟨_, hHeld, -⟩
      · rw [hNone] at present
        cases present
      · have hVersion : record.version = Int64.ofNat (updateCount calls path n) := by
          rw [present, Option.some.injEq] at hHeld
          rw [hHeld]
        refine .inr ⟨data, ?_, .replaced (Nat.lt_succ_self n) replaces ?_⟩
        · rw [written, hVersion, replaces.updateCount, Int64.ofNat_add]
          rfl
        · intro k hAfter hk
          omega

variable {record : Versioned} {m : ℕ}

theorem toInt_version (h : held calls path n = some record)
    (hRange : updateCount calls path n < 2 ^ 63) :
    record.version.toInt = updateCount calls path n := by
  rcases unwritten_or_written calls path n with ⟨hNone, -⟩ | ⟨data, hHeld, -⟩
  · rw [hNone] at h
    cases h
  · rw [hHeld, Option.some.injEq] at h
    rw [← h]
    exact Int64.toInt_ofNat_of_lt hRange

theorem toInt_of_replaces {expected : Int64} {data : Bytes}
    (h : Replaces calls path n expected data) (hRange : updateCount calls path n < 2 ^ 63) :
    expected.toInt = updateCount calls path n := by
  obtain ⟨-, old, hHeld⟩ := replaces_iff.mp h
  exact toInt_version hHeld hRange

theorem held_of_updateCount_eq (hLe : m ≤ n) (h : held calls path m = some record)
    (hCount : updateCount calls path m = updateCount calls path n) :
    held calls path n = some record := by
  induction n, hLe using Nat.le_induction with
  | base => exact h
  | succ n hLe ih =>
    have hStep : updateCount calls path n ≤ updateCount calls path (n + 1) :=
      updateCount_mono (Nat.le_succ n)
    have hEarlier : updateCount calls path m ≤ updateCount calls path n := updateCount_mono hLe
    have hHeld := ih (by omega)
    cases step calls path n with
    | idle idle kept => rw [kept, hHeld]
    | created creates absent =>
      rw [absent] at hHeld
      cases hHeld
    | replaced replaces =>
      have hMore := replaces.updateCount
      omega

theorem not_creates_of_lt {data data' : Bytes} (h : Creates calls path m data) (hLt : m < n) :
    ¬ Creates calls path n data' := by
  intro h'
  rcases unwritten_or_written calls path n with ⟨-, hIdle⟩ | ⟨_, hHeld, -⟩
  · exact (hIdle m hLt).1 data h
  · rw [(creates_iff.mp h').2] at hHeld
    cases hHeld

/-- The version that an update expects is that of no later update. -/
theorem not_replaces_of_lt {expected : Int64} {data data' : Bytes}
    (h : Replaces calls path m expected data) (hLt : m < n)
    (hRange : updateCount calls path n < 2 ^ 63) : ¬ Replaces calls path n expected data' := by
  intro h'
  have hLater : updateCount calls path (m + 1) ≤ updateCount calls path n := updateCount_mono hLt
  have hMore := h.updateCount
  have hVersion := toInt_of_replaces h (by omega)
  have hVersion' := toInt_of_replaces h' hRange
  omega

theorem creates_unique {m' : ℕ} {data data' : Bytes} (h : Creates calls path m data)
    (h' : Creates calls path m' data') : m = m' := by
  rcases Nat.lt_trichotomy m m' with hLt | hEq | hGt
  · exact absurd h' (not_creates_of_lt h hLt)
  · exact hEq
  · exact absurd h (not_creates_of_lt h' hGt)

theorem replaces_unique {m' : ℕ} {expected : Int64} {data data' : Bytes}
    (h : Replaces calls path m expected data) (hRange : updateCount calls path m < 2 ^ 63)
    (h' : Replaces calls path m' expected data') (hRange' : updateCount calls path m' < 2 ^ 63) :
    m = m' := by
  rcases Nat.lt_trichotomy m m' with hLt | hEq | hGt
  · exact absurd h' (not_replaces_of_lt h hLt hRange')
  · exact hEq
  · exact absurd h (not_replaces_of_lt h' hGt hRange)

theorem held_of_reads {data : Bytes} (hReads : Reads calls path m record) (hLt : m < n)
    (hReplaces : Replaces calls path n record.version data)
    (hRange : updateCount calls path n < 2 ^ 63) : held calls path n = some record := by
  have hHeld := (reads_iff.mp hReads).2
  have hEarlier : updateCount calls path m ≤ updateCount calls path n := updateCount_mono hLt.le
  have hVersion := toInt_version hHeld (by omega)
  have hVersion' := toInt_of_replaces hReplaces hRange
  exact held_of_updateCount_eq hLt.le hHeld (by omega)

/-- **No update is lost.** Whatever is asked of a new store, and in whatever order: at each path at
most one creation succeeds; once one has, the version of the record is the number of updates and its
data is that of the last of them, or of the creation. As long as the versions do not leave the range
of 64 bits, no two updates expect the same version, so an update that expects the version that was
read by an earlier call replaces exactly the record that was read. A call that fails, or that is
about another path, leaves the record as it is. -/
theorem no_lost_update (calls : ℕ → StoreRequest) (path : String) (n : ℕ)
    (hRange : updateCount calls path n < 2 ^ 63) :
    (∀ m m' data data', Creates calls path m data → Creates calls path m' data' → m = m') ∧
    (held calls path n = none → ∀ m < n, IsIdle calls path m) ∧
    (∀ record, held calls path n = some record →
      record.version.toInt = updateCount calls path n ∧ IsLatest calls path n record.data) ∧
    (∀ m < n, ∀ m' < n, ∀ expected data data', Replaces calls path m expected data →
      Replaces calls path m' expected data' → m = m') ∧
    (∀ m m' record data, m < m' → m' < n → Reads calls path m record →
      Replaces calls path m' record.version data → held calls path m' = some record) ∧
    ∀ m, Fails calls m ∨ (calls m).path ≠ path → held calls path (m + 1) = held calls path m := by
  have hInRange : ∀ m < n, updateCount calls path m < 2 ^ 63 := fun m hm =>
    Nat.lt_of_le_of_lt (updateCount_mono hm.le) hRange
  refine ⟨?_, ?_, ?_, ?_, ?_, ?_⟩
  · intro m m' data data' h h'
    exact creates_unique h h'
  · intro hNone
    rcases unwritten_or_written calls path n with ⟨-, hIdle⟩ | ⟨_, hHeld, -⟩
    · exact hIdle
    · rw [hNone] at hHeld
      cases hHeld
  · intro record hRecord
    rcases unwritten_or_written calls path n with ⟨hNone, -⟩ | ⟨data, hHeld, hLatest⟩
    · rw [hNone] at hRecord
      cases hRecord
    · refine ⟨toInt_version hRecord hRange, ?_⟩
      cases hHeld.symm.trans hRecord
      exact hLatest
  · intro m hm m' hm' expected data data' h h'
    exact replaces_unique h (hInRange m hm) h' (hInRange m' hm')
  · intro m m' record data hLt hm' hReads hReplaces
    exact held_of_reads hReads hLt hReplaces (hInRange m' hm')
  · rintro m (hFails | hOther)
    · rw [held, after_of_fails hFails, held]
    · exact held_of_path_ne hOther

/-- Two clients read the same record and replace it one after the other, and a third one creates a
record elsewhere in between: the first replacement is of what was read, and the second one fails. -/
theorem no_lost_update_race :
    let calls : ℕ → StoreRequest := fun n =>
      [.create "/a" [1], .get "/a", .create "/b" [7], .get "/a", .create "/a" [2],
        .set "/a" [3] 0, .set "/a" [4] 0].getD n (.get "/a")
    updateCount calls "/a" 7 < 2 ^ 63 ∧ Reads calls "/a" 1 ⟨[1], 0⟩ ∧
      Replaces calls "/a" 5 0 [3] ∧ Fails calls 6 ∧ held calls "/a" 5 = some ⟨[1], 0⟩ ∧
      held calls "/a" 7 = held calls "/a" 6 := by
  intro calls
  have hRange : updateCount calls "/a" 7 < 2 ^ 63 := by decide
  have hReads : Reads calls "/a" 1 ⟨[1], 0⟩ := ⟨rfl, rfl⟩
  have hReplaces : Replaces calls "/a" 5 0 [3] := ⟨rfl, 1, rfl⟩
  have hFails : Fails calls 6 := ⟨.badVersion, rfl⟩
  obtain ⟨-, -, -, -, hRead, hKept⟩ := no_lost_update calls "/a" 7 hRange
  exact ⟨hRange, hReads, hReplaces, hFails, hRead 1 5 _ _ (by decide) (by decide) hReads hReplaces,
    hKept 6 (.inl hFails)⟩

end MemoryStore

end SignOn
