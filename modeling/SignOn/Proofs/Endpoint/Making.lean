import SignOn.Endpoint.Registry

/-!
# Programs that ask a registry

What a program makes in a registry is said by `Registry.Makes`: a call for a handler has the result
of the program for its kind, and then the calling program goes on. Nothing keeps a call from leading
to itself again, so there are programs without a result. `Registry.run` puts the program for a kind
in the place of the call and finds the same result, if there is one (`Registry.makes_iff`).

A program depends on a registry only in what it asks: in registries that agree on these names the
same comes out, or nothing in both (`Registry.run_congr`).
-/

namespace SignOn

namespace Making

variable {α : Type}

theorem andThen_done (m : Making α) : m.andThen .done = m := by
  induction m with
  | done result => rfl
  | asks name next ih => exact congrArg (asks name) (funext ih)
  | creates c props name next ih => exact congrArg (creates c props name) (funext ih)

/-- The program asks for no handler. -/
inductive Direct : Making α → Prop
  | done (result : Result α) : Direct (.done result)
  | asks {name : String} {next : Bool → Making α} (rest : ∀ known, Direct (next known)) :
      Direct (.asks name next)

end Making

namespace Registry

variable {α β : Type} {r r' : Registry} {c : Collaborators} {props : Properties}
  {name kind : String} {maker : Maker} {m : Making α}

/-! ## Results -/

/-- In this registry the program comes to an end, with this result. -/
inductive Makes (r : Registry) : {α : Type} → Making α → Result α → Prop
  | done {α : Type} (result : Result α) : Makes r (.done result) result
  | asks {α : Type} {name : String} {next : Bool → Making α} {result : Result α}
      (rest : Makes r (next (r.contains name)) result) : Makes r (.asks name next) result
  | creates {α : Type} {c : Collaborators} {props : Properties} {name : String} {maker : Maker}
      {made : Result Handler} {next : Result Handler → Making α} {result : Result α}
      (found : r.find? name = some maker) (call : Makes r (maker c props) made)
      (rest : Makes r (next made) result) : Makes r (.creates c props name next) result
  | unknown {α : Type} {c : Collaborators} {props : Properties} {name : String}
      {next : Result Handler → Making α} {result : Result α} (found : r.find? name = none)
      (rest : Makes r (next (misconfigured (.unknownHandler name))) result) :
      Makes r (.creates c props name next) result

theorem Makes.run_andThen {made : Result α} (h : r.Makes m made) (f : Result α → Making β) :
    r.run (m.andThen f) = r.run (f made) := by
  induction h generalizing β with
  | done result => rw [Making.andThen]
  | asks rest ih =>
    rw [Making.andThen, run]
    exact ih f
  | creates found call rest ihCall ihRest =>
    rw [Making.andThen, run, found]
    exact (ihCall _).trans (ihRest f)
  | unknown found rest ih =>
    rw [Making.andThen, run, found]
    exact ih f

theorem Makes.run_eq {result : Result α} (h : r.Makes m result) : r.run m = some result := by
  have hRun := h.run_andThen .done
  rw [Making.andThen_done, run] at hRun
  exact hRun

/-- A result of two programs in a row comes from a result of the first. -/
theorem Makes.of_andThen {f : Result α → Making β} {result : Result β}
    (h : r.Makes (m.andThen f) result) : ∃ made, r.Makes m made ∧ r.Makes (f made) result := by
  induction m with
  | done made => exact ⟨made, .done made, h⟩
  | asks name next ih =>
    rw [Making.andThen] at h
    cases h with
    | asks rest =>
      obtain ⟨made, hFirst, hSecond⟩ := ih _ rest
      exact ⟨made, .asks hFirst, hSecond⟩
  | creates c props name next ih =>
    rw [Making.andThen] at h
    cases h with
    | creates found call rest =>
      obtain ⟨made, hFirst, hSecond⟩ := ih _ rest
      exact ⟨made, .creates found call hFirst, hSecond⟩
    | unknown found rest =>
      obtain ⟨made, hFirst, hSecond⟩ := ih _ rest
      exact ⟨made, .unknown found hFirst, hSecond⟩

theorem makes_of_run {result : Result α} (h : r.run m = some result) : r.Makes m result := by
  refine run.partial_correctness r (fun m result => r.Makes m result) ?_ m result h
  -- One step of the computation, behind which the results are already known to be right.
  intro run ih m result hStep
  cases m with
  | done result =>
    cases hStep
    exact .done result
  | asks name next => exact .asks (ih _ _ hStep)
  | creates c props name next =>
    dsimp only at hStep
    split at hStep
    · rename_i maker hFind
      obtain ⟨made, hCall, hRest⟩ := (ih _ _ hStep).of_andThen
      exact .creates hFind hCall hRest
    · rename_i hFind
      exact .unknown hFind (ih _ _ hStep)

/-- What a program makes is what is computed; it makes nothing if the computation has no end. -/
theorem makes_iff {result : Result α} : r.Makes m result ↔ r.run m = some result :=
  ⟨Makes.run_eq, makes_of_run⟩

theorem run_lift (x : Result α) : r.run (liftM x) = some x :=
  Makes.run_eq (.done x)

theorem run_pure (a : α) : r.run (pure a) = some (.ok a) :=
  Makes.run_eq (.done (.ok a))

theorem makes_done_iff {x result : Result α} : r.Makes (.done x) result ↔ x = result := by
  rw [makes_iff, run, Option.some.injEq]

theorem run_andThen (m : Making α) (f : Result α → Making β) :
    r.run (m.andThen f) = (r.run m).bind fun made => r.run (f made) := by
  cases hRun : r.run m with
  | some made => exact (makes_iff.mpr hRun).run_andThen f
  | none =>
    rw [Option.bind_none, Option.eq_none_iff_forall_ne_some]
    intro result hBoth
    obtain ⟨made, hFirst, -⟩ := (makes_iff.mpr hBoth).of_andThen
    cases hRun.symm.trans hFirst.run_eq

theorem run_creates (next : Result Handler → Making α) :
    r.run (.creates c props name next) =
      (r.create c props name).bind fun made => r.run (next made) := by
  rw [run, create]
  cases r.find? name with
  | none => rfl
  | some maker => exact run_andThen _ _

theorem run_create : r.run (.create c props name) = r.create c props name := by
  rw [Making.create, run_creates]
  cases r.create c props name with
  | none => rfl
  | some made => rw [Option.bind_some, run]

theorem create_of_find? (hFind : r.find? name = some maker) :
    r.create c props name = r.run (maker c props) := by
  rw [create, hFind]

theorem create_of_unknown (hFind : r.find? name = none) :
    r.create c props name = some (misconfigured (.unknownHandler name)) := by
  rw [create, hFind]

theorem run_bind_eq_ok_iff {f : α → Making β} {b : β} :
    r.run (m >>= f) = some (.ok b) ↔
      ∃ a, r.run m = some (.ok a) ∧ r.run (f a) = some (.ok b) := by
  have hBind : m >>= f = m.andThen (Making.onSuccess f) := rfl
  rw [hBind, run_andThen, Option.bind_eq_some_iff]
  constructor
  · rintro ⟨made, hFirst, hSecond⟩
    cases made with
    | error e =>
      rw [Making.onSuccess, run] at hSecond
      cases hSecond
    | ok a => exact ⟨a, hFirst, hSecond⟩
  · rintro ⟨a, hFirst, hSecond⟩
    exact ⟨.ok a, hFirst, hSecond⟩

/-! ## Programs that come to an end -/

/-- In this registry the program comes to an end. -/
def Ends (r : Registry) (m : Making α) : Prop :=
  ∃ result, r.Makes m result

theorem ends_iff : r.Ends m ↔ ∃ result, r.run m = some result :=
  exists_congr fun _ => makes_iff

theorem ends_done (result : Result α) : r.Ends (.done result) :=
  ⟨result, .done result⟩

theorem Ends.andThen {f : Result α → Making β} (h : r.Ends m)
    (h' : ∀ result, r.Makes m result → r.Ends (f result)) : r.Ends (m.andThen f) := by
  obtain ⟨made, hFirst⟩ := h
  obtain ⟨result, hSecond⟩ := h' made hFirst
  refine ⟨result, makes_iff.mpr ?_⟩
  rw [hFirst.run_andThen, hSecond.run_eq]

theorem Ends.bind {f : α → Making β} (h : r.Ends m)
    (h' : ∀ a, r.Makes m (.ok a) → r.Ends (f a)) : r.Ends (m >>= f) := by
  refine Ends.andThen h fun result hResult => ?_
  cases result with
  | error e => exact ends_done _
  | ok a => exact h' a hResult

theorem ends_create_iff :
    r.Ends (.create c props name) ↔ ∃ result, r.create c props name = some result := by
  rw [ends_iff, run_create]

theorem ends_of_direct (h : m.Direct) : r.Ends m := by
  induction h with
  | done result => exact ends_done result
  | asks rest ih =>
    obtain ⟨result, hRest⟩ := ih (r.contains _)
    exact ⟨result, .asks hRest⟩

/-- A set of kinds the making of each of which starts with the making of another one has no end. -/
theorem create_eq_none_of_circular {Circular : String → Prop}
    (hStart : ∀ name, Circular name → ∃ maker kind next, r.find? name = some maker ∧
      maker c props = .creates c props kind next ∧ Circular kind)
    (hName : Circular name) : r.create c props name = none := by
  have hNot : ∀ {α : Type} (m : Making α) (result : Result α), r.Makes m result →
      ∀ kind next, Circular kind → m ≠ .creates c props kind next := by
    intro α m result hMakes
    induction hMakes with
    | done result => simp
    | asks rest ih => simp
    | creates found call rest ihCall ihRest =>
      rintro kind next hKind ⟨⟩
      obtain ⟨maker, kind', next', hFind, hMaker, hKind'⟩ := hStart _ hKind
      rw [found, Option.some.injEq] at hFind
      subst hFind
      exact ihCall kind' next' hKind' hMaker
    | unknown found rest ih =>
      rintro kind next hKind ⟨⟩
      obtain ⟨maker, -, -, hFind, -⟩ := hStart _ hKind
      cases found.symm.trans hFind
  rw [Option.eq_none_iff_forall_ne_some]
  intro result hCreate
  rw [← run_create] at hCreate
  exact hNot _ result (makes_iff.mpr hCreate) name .done hName rfl

/-! ## What a program asks -/

/-- While the program runs in this registry, the name is looked up. -/
inductive Asks (r : Registry) : {α : Type} → Making α → String → Prop
  | known {α : Type} {name : String} {next : Bool → Making α} : Asks r (.asks name next) name
  | knownRest {α : Type} {name kind : String} {next : Bool → Making α}
      (rest : Asks r (next (r.contains name)) kind) : Asks r (.asks name next) kind
  | kind {α : Type} {c : Collaborators} {props : Properties} {name : String}
      {next : Result Handler → Making α} : Asks r (.creates c props name next) name
  | call {α : Type} {c : Collaborators} {props : Properties} {name kind : String} {maker : Maker}
      {next : Result Handler → Making α} (found : r.find? name = some maker)
      (inside : Asks r (maker c props) kind) : Asks r (.creates c props name next) kind
  | rest {α : Type} {c : Collaborators} {props : Properties} {name kind : String}
      {made : Result Handler} {next : Result Handler → Making α}
      (call : r.create c props name = some made) (rest : Asks r (next made) kind) :
      Asks r (.creates c props name next) kind

theorem not_asks_done {result : Result α} : ¬ r.Asks (.done result) name := by
  intro h
  cases h

/-- What two programs in a row ask is asked by one of them. -/
theorem Asks.of_andThen {f : Result α → Making β} (h : r.Asks (m.andThen f) name) :
    r.Asks m name ∨ ∃ made, r.Makes m made ∧ r.Asks (f made) name := by
  induction m with
  | done made => exact .inr ⟨made, .done made, h⟩
  | asks other next ih =>
    rw [Making.andThen] at h
    cases h with
    | known => exact .inl .known
    | knownRest rest =>
      refine (ih _ rest).imp .knownRest ?_
      rintro ⟨made, hFirst, hSecond⟩
      exact ⟨made, .asks hFirst, hSecond⟩
  | creates c props other next ih =>
    rw [Making.andThen] at h
    cases h with
    | kind => exact .inl .kind
    | call found inside => exact .inl (.call found inside)
    | rest call rest =>
      refine (ih _ rest).imp (.rest call) ?_
      rintro ⟨made, hFirst, hSecond⟩
      refine ⟨made, makes_iff.mpr ?_, hSecond⟩
      rw [run_creates, call, Option.bind_some, hFirst.run_eq]

theorem Asks.of_bind {f : α → Making β} (h : r.Asks (m >>= f) name) :
    r.Asks m name ∨ ∃ a, r.Makes m (.ok a) ∧ r.Asks (f a) name := by
  refine h.of_andThen.imp_right ?_
  rintro ⟨made, hFirst, hSecond⟩
  cases made with
  | error e => exact absurd hSecond not_asks_done
  | ok a => exact ⟨a, hFirst, hSecond⟩

section Agreement

variable {result : Result α}

theorem contains_congr (h : r'.find? name = r.find? name) :
    r'.contains name = r.contains name := by
  rw [contains, contains, h]

theorem Makes.congr (h : r.Makes m result)
    (hAsked : ∀ name, r.Asks m name → r'.find? name = r.find? name) : r'.Makes m result := by
  induction h with
  | done result => exact .done result
  | asks rest ih =>
    have hKnown := contains_congr (hAsked _ .known)
    exact .asks (hKnown ▸ ih fun kind hKind => hAsked kind (.knownRest hKind))
  | creates found call rest ihCall ihRest =>
    have hCreate := (create_of_find? found).trans call.run_eq
    exact .creates ((hAsked _ .kind).trans found)
      (ihCall fun kind hKind => hAsked kind (.call found hKind))
      (ihRest fun kind hKind => hAsked kind (.rest hCreate hKind))
  | unknown found rest ih =>
    exact .unknown ((hAsked _ .kind).trans found)
      (ih fun kind hKind => hAsked kind (.rest (create_of_unknown found) hKind))

/-- The other way round, with the same questions. -/
theorem Makes.of_congr (h : r'.Makes m result)
    (hAsked : ∀ name, r.Asks m name → r'.find? name = r.find? name) : r.Makes m result := by
  induction h with
  | done result => exact .done result
  | asks rest ih =>
    have hKnown := contains_congr (hAsked _ .known)
    rw [hKnown] at ih
    exact .asks (ih fun kind hKind => hAsked kind (.knownRest hKind))
  | creates found call rest ihCall ihRest =>
    have hFind := (hAsked _ .kind).symm.trans found
    have hCall := ihCall fun kind hKind => hAsked kind (.call hFind hKind)
    have hCreate := (create_of_find? hFind).trans hCall.run_eq
    exact .creates hFind hCall (ihRest fun kind hKind => hAsked kind (.rest hCreate hKind))
  | unknown found rest ih =>
    have hFind := (hAsked _ .kind).symm.trans found
    exact .unknown hFind
      (ih fun kind hKind => hAsked kind (.rest (create_of_unknown hFind) hKind))

/-- The result, or that there is none, depends on what is found under the names that are asked
for. -/
theorem run_congr (hAsked : ∀ name, r.Asks m name → r'.find? name = r.find? name) :
    r'.run m = r.run m := by
  ext result
  rw [← makes_iff, ← makes_iff]
  exact ⟨fun h => h.of_congr hAsked, fun h => h.congr hAsked⟩

end Agreement

end Registry

end SignOn
