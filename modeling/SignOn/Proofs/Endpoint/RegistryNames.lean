import Mathlib.Data.List.Induction
import SignOn.Proofs.Endpoint.Making
import SignOn.Proofs.Text.Blank

/-!
# The names of a registry

A registry is a map from names to ways of making handlers. Letter case does not count, and of
several registrations of a name the last one counts (`find?_registerAll_of_lastOf`). White space
around a name does not count where a name is looked up, but it counts where one is registered: a
way of making handlers that is registered under a name with white space around it is never found
(`find?_register_of_untrimmed`).

What is found under a name depends on the registrations under it only (`find?_congr_under`), and a
handler depends besides on what is found under the names that are asked for while it is made
(`create_congr`). `Registry.names_exact` puts these together.
-/

namespace SignOn

/-- Two names are the same up to the case of ASCII letters and white space around them. -/
def SameName (a b : String) : Prop :=
  Text.sameText (Text.trim a) (Text.trim b) = true

instance (a b : String) : Decidable (SameName a b) :=
  inferInstanceAs (Decidable (_ = true))

namespace Registry

/-- The registry after further registrations, in their order. -/
def registerAll (r : Registry) (added : List (String × Maker)) : Registry :=
  added.foldl (fun r entry => r.register entry.1 entry.2) r

/-- The registrations under a name, whatever its case and the white space around it. -/
def under (name : String) (added : List (String × Maker)) : List (String × Maker) :=
  added.filter fun entry => SameName entry.1 name

/-- The last registration of this name, in any letter case, is of this way of making handlers. -/
def LastOf (name : String) (added : List (String × Maker)) (maker : Maker) : Prop :=
  ∃ before given after, added = before ++ (given, maker) :: after ∧
    Text.sameText name given = true ∧ ∀ entry ∈ after, ¬ Text.sameText name entry.1 = true

variable {r r' : Registry} {c : Collaborators} {props : Properties} {name other : String}
  {maker : Maker} {added : List (String × Maker)}

/-! ## What is found -/

theorem find?_register (r : Registry) (name other : String) (maker : Maker) :
    (r.register name maker).find? other =
      if Text.sameText (Text.trim other) name = true then some maker else r.find? other := by
  rw [find?, register, List.lookup_cons, Text.sameText]
  cases Text.lowerAscii (Text.trim other) == Text.lowerAscii name <;> rfl

theorem sameName_of_sameText (h : Text.sameText (Text.trim name) other = true) :
    SameName other name := by
  rw [SameName, Text.trim_eq_of_sameText h, Text.sameText_iff]
  exact (Text.sameText_iff.mp h).symm

/-- What is looked up is a name in small letters. -/
theorem sameName_of_key (h : Text.lowerAscii (Text.trim name) = other) : SameName other name := by
  refine sameName_of_sameText (beq_iff_eq.mpr ?_)
  rw [← h, Text.lowerAscii_lowerAscii]

theorem registerAll_append (r : Registry) (added more : List (String × Maker)) :
    r.registerAll (added ++ more) = (r.registerAll added).registerAll more :=
  List.foldl_append

theorem registerAll_concat (r : Registry) (added : List (String × Maker))
    (entry : String × Maker) :
    r.registerAll (added ++ [entry]) = (r.registerAll added).register entry.1 entry.2 :=
  registerAll_append r added [entry]

theorem under_append (name : String) (added more : List (String × Maker)) :
    under name (added ++ more) = under name added ++ under name more :=
  List.filter_append ..

theorem under_singleton {entry : String × Maker} (h : SameName entry.1 name) :
    under name [entry] = [entry] := by
  simp [under, h]

theorem under_singleton_of_not {entry : String × Maker} (h : ¬ SameName entry.1 name) :
    under name [entry] = [] := by
  simp [under, h]

/-- Registrations under other names have no part in what is found. -/
theorem find?_registerAll_under (r : Registry) (name : String) (added : List (String × Maker)) :
    (r.registerAll added).find? name = (r.registerAll (under name added)).find? name := by
  -- From the last registration backwards, since that one counts.
  induction added using List.reverseRecOn with
  | nil => rfl
  | append_singleton added entry ih =>
    rw [registerAll_concat, find?_register, under_append]
    split
    · rename_i hSame
      rw [under_singleton (sameName_of_sameText hSame), registerAll_concat, find?_register,
        if_pos hSame]
    · rename_i hOther
      rw [ih]
      by_cases hUnder : SameName entry.1 name
      · rw [under_singleton hUnder, registerAll_concat, find?_register, if_neg hOther]
      · rw [under_singleton_of_not hUnder, List.append_nil]

theorem find?_registerAll_of_forall_not
    (h : ∀ entry ∈ added, ¬ Text.sameText (Text.trim name) entry.1 = true) :
    (r.registerAll added).find? name = r.find? name := by
  induction added using List.reverseRecOn with
  | nil => rfl
  | append_singleton added entry ih =>
    rw [List.forall_mem_append, List.forall_mem_singleton] at h
    rw [registerAll_concat, find?_register, if_neg h.2, ih h.1]

theorem exists_lastOf (h : ∃ entry ∈ added, Text.sameText name entry.1 = true) :
    ∃ maker, LastOf name added maker := by
  induction added using List.reverseRecOn with
  | nil => simp at h
  | append_singleton added entry ih =>
    by_cases hSame : Text.sameText name entry.1 = true
    · exact ⟨entry.2, added, entry.1, [], rfl, hSame, List.forall_mem_nil _⟩
    · obtain ⟨earlier, hMem, hEarlier⟩ := h
      have hMem' : earlier ∈ added := by
        rw [List.mem_append, List.mem_singleton] at hMem
        refine hMem.resolve_right ?_
        rintro rfl
        exact hSame hEarlier
      obtain ⟨maker, before, given, after, rfl, hGiven, hAfter⟩ := ih ⟨earlier, hMem', hEarlier⟩
      refine ⟨maker, before, given, after ++ [entry], ?_, hGiven, ?_⟩
      · rw [List.append_assoc, List.cons_append]
      · rw [List.forall_mem_append, List.forall_mem_singleton]
        exact ⟨hAfter, hSame⟩

theorem find?_registerAll_of_lastOf (h : LastOf (Text.trim name) added maker) :
    (r.registerAll added).find? name = some maker := by
  obtain ⟨before, given, after, rfl, hSame, hAfter⟩ := h
  have hSplit : r.registerAll (before ++ (given, maker) :: after) =
      ((r.registerAll before).register given maker).registerAll after := registerAll_append ..
  rw [hSplit, find?_registerAll_of_forall_not hAfter, find?_register, if_pos hSame]

theorem find?_eq_none_of_forall_not (h : ∀ entry ∈ r.entries, ¬ SameName entry.1 name) :
    r.find? name = none := by
  rw [find?, List.lookup_eq_none_iff]
  intro entry hEntry
  rw [bne_iff_ne]
  intro hKey
  exact h entry hEntry (sameName_of_key hKey)

/-- A registration under a name with white space around it has no effect. -/
theorem find?_register_of_untrimmed (hName : Text.trim name ≠ name) :
    (r.register name maker).find? other = r.find? other := by
  rw [find?_register, if_neg fun hSame => hName (Text.trim_eq_of_sameText hSame)]

theorem find?_eq_find?_under (r : Registry) (name : String) :
    r.find? name = (⟨under name r.entries⟩ : Registry).find? name := by
  obtain ⟨entries⟩ := r
  induction entries with
  | nil => rfl
  | cons entry entries ih =>
    have hUnder : under name (entry :: entries) = under name [entry] ++ under name entries :=
      under_append name [entry] entries
    rw [find?, find?, hUnder, List.lookup_cons]
    split
    · rename_i hKey
      have hSame : SameName entry.1 name := sameName_of_key (beq_iff_eq.mp hKey)
      rw [under_singleton hSame, List.singleton_append, List.lookup_cons, hKey]
    · rename_i hKey
      by_cases hSame : SameName entry.1 name
      · rw [under_singleton hSame, List.singleton_append, List.lookup_cons, hKey]
        exact ih
      · rw [under_singleton_of_not hSame, List.nil_append]
        exact ih

theorem find?_registerAll_congr (h : r.find? name = r'.find? name) :
    (r.registerAll added).find? name = (r'.registerAll added).find? name := by
  induction added using List.reverseRecOn with
  | nil => exact h
  | append_singleton added entry ih =>
    rw [registerAll_concat, registerAll_concat, find?_register, find?_register, ih]

theorem find?_congr_under {added' : List (String × Maker)}
    (hStart : under name r'.entries = under name r.entries)
    (hAdded : under name added' = under name added) :
    (r'.registerAll added').find? name = (r.registerAll added).find? name := by
  have hBefore : r'.find? name = r.find? name := by
    rw [find?_eq_find?_under, hStart, ← find?_eq_find?_under]
  rw [find?_registerAll_under, hAdded, find?_registerAll_congr hBefore, ← find?_registerAll_under]

/-- The handler that is made depends on what is found under the names that are asked for. -/
theorem create_congr
    (hAsked : ∀ kind, r.Asks (.create c props name) kind → r'.find? kind = r.find? kind) :
    r'.create c props name = r.create c props name := by
  rw [← run_create, ← run_create, run_congr hAsked]

theorem contains_of_find? (hFind : r.find? name = some maker) : r.contains name = true := by
  rw [contains, hFind]
  rfl

/-! ## The names of a registry -/

/-- **How a registry reads names.** Take any registry, any registrations and any name. If one of
the registrations is of the name without the white space around it, in any letter case, then the
registry contains the name and makes handlers in the way of the last such registration; if none is,
the registry finds what it found before. If every registration differs in more than letter case and
white space around it, the name is not contained, and making a handler fails with an error of the
configuration. Registrations that differ so have no part in what is found; they have a part in the
handler that is made only if it is made by asking the registry for them. A registration of a name
with white space around it is as good as none. -/
theorem names_exact (start : Registry) (added : List (String × Maker)) (name : String) :
    ((∃ entry ∈ added, Text.sameText (Text.trim name) entry.1 = true) →
      ∃ maker, LastOf (Text.trim name) added maker ∧
        (start.registerAll added).contains name = true ∧
        ∀ c props, (start.registerAll added).create c props name =
          (start.registerAll added).run (maker c props)) ∧
    ((∀ entry ∈ added, ¬ Text.sameText (Text.trim name) entry.1 = true) →
      (start.registerAll added).contains name = start.contains name ∧
      ∀ maker, start.find? name = some maker →
        ∀ c props, (start.registerAll added).create c props name =
          (start.registerAll added).run (maker c props)) ∧
    ((∀ entry ∈ start.entries ++ added, ¬ SameName entry.1 name) →
      (start.registerAll added).contains name = false ∧
      ∀ c props, (start.registerAll added).create c props name =
        some (misconfigured (.unknownHandler name))) ∧
    (∀ (start' : Registry) (added' : List (String × Maker)),
      under name start'.entries = under name start.entries →
      under name added' = under name added →
      (start'.registerAll added').find? name = (start.registerAll added).find? name ∧
      ∀ c props,
        (∀ kind, (start.registerAll added).Asks (.create c props name) kind →
          under kind start'.entries = under kind start.entries ∧
            under kind added' = under kind added) →
        (start'.registerAll added').create c props name =
          (start.registerAll added).create c props name) ∧
    ∀ before given maker after, added = before ++ (given, maker) :: after →
      Text.trim given ≠ given →
      (start.registerAll added).find? name = (start.registerAll (before ++ after)).find? name ∧
      ∀ c props, (start.registerAll added).create c props name =
        (start.registerAll (before ++ after)).create c props name := by
  refine ⟨fun hSame => ?_, fun hOther => ?_, fun hOther => ?_,
    fun start' added' hStart hAdded => ?_, fun before given maker after hEq hGiven => ?_⟩
  · obtain ⟨maker, hLast⟩ := exists_lastOf hSame
    have hFind : (start.registerAll added).find? name = some maker :=
      find?_registerAll_of_lastOf hLast
    exact ⟨maker, hLast, contains_of_find? hFind, fun c props => create_of_find? hFind⟩
  · have hFind : (start.registerAll added).find? name = start.find? name :=
      find?_registerAll_of_forall_not hOther
    refine ⟨?_, fun maker hMaker c props => create_of_find? (hFind.trans hMaker)⟩
    rw [contains, contains, hFind]
  · rw [List.forall_mem_append] at hOther
    have hAdded : ∀ entry ∈ added, ¬ Text.sameText (Text.trim name) entry.1 = true :=
      fun entry hEntry hSame => hOther.2 entry hEntry (sameName_of_sameText hSame)
    have hFind : (start.registerAll added).find? name = none := by
      rw [find?_registerAll_of_forall_not hAdded, find?_eq_none_of_forall_not hOther.1]
    constructor
    · rw [contains, hFind]
      rfl
    · intro c props
      rw [create, hFind]
  · refine ⟨find?_congr_under hStart hAdded, fun c props hAsked =>
      create_congr fun kind hKind => ?_⟩
    obtain ⟨hStartKind, hAddedKind⟩ := hAsked kind hKind
    exact find?_congr_under hStartKind hAddedKind
  · have hFind : ∀ other, (start.registerAll added).find? other =
        (start.registerAll (before ++ after)).find? other := by
      intro other
      have hSplit : start.registerAll (before ++ (given, maker) :: after) =
          ((start.registerAll before).register given maker).registerAll after :=
        registerAll_append ..
      rw [hEq, hSplit, registerAll_append]
      exact find?_registerAll_congr (find?_register_of_untrimmed hGiven)
    exact ⟨hFind name, fun c props => create_congr fun kind _ => hFind kind⟩

/-- Of two registrations in other letters the last one counts, one of a name with white space around
it does not, and neither do the usual kinds of handlers. -/
theorem names_exact_delegated :
    let first : Maker := fun _ _ => .done (.ok (PseudoHandler.handler {}))
    let last : Maker := fun _ _ => .done (.ok (PseudoHandler.handler { kind := "delegated" }))
    let added := [("Delegated", first), ("DELEGATED", last), (" delegated", first)]
    let r := usual.registerAll added
    r.contains " delegated" = true ∧
      (∀ c props, r.create c props " delegated" =
        some (.ok (PseudoHandler.handler { kind := "delegated" }))) ∧
      ((⟨[]⟩ : Registry).registerAll added).find? " delegated" = r.find? " delegated" ∧
      r.contains "ldap" = true ∧ r.contains "digest" = false := by
  intro first last added r
  obtain ⟨hFound, -, -, hOther, hUntrimmed⟩ := names_exact usual added " delegated"
  obtain ⟨-, hKept, -⟩ := names_exact usual added "ldap"
  obtain ⟨-, -, hAbsent, -⟩ := names_exact usual added "digest"
  obtain ⟨-, -, hContains, -⟩ := hFound ⟨("DELEGATED", last), by simp [added], by decide +kernel⟩
  refine ⟨hContains, fun c props => ?_, ?_, ?_, ?_⟩
  · have hTrimmed : Text.trim " delegated" ≠ " delegated" := by decide +kernel
    let counted := [("Delegated", first), ("DELEGATED", last)]
    obtain ⟨-, hWithout⟩ := hUntrimmed counted " delegated" first [] rfl hTrimmed
    have hLast : (usual.registerAll counted).find? " delegated" = some last :=
      find?_registerAll_of_lastOf
        ⟨[("Delegated", first)], "DELEGATED", [], rfl, by decide +kernel, List.forall_mem_nil _⟩
    have hRun : (usual.registerAll counted).run (last c props) =
        some (.ok (PseudoHandler.handler { kind := "delegated" })) := by
      rw [run]
    exact (hWithout c props).trans ((create_of_find? hLast).trans hRun)
  · have hUnder : under " delegated" usual.entries = [] := by
      rw [under, List.filter_eq_nil_iff]
      decide +kernel
    exact (hOther ⟨[]⟩ added hUnder.symm rfl).1
  · have hOthers : ∀ entry ∈ added, ¬ Text.sameText (Text.trim "ldap") entry.1 = true := by
      decide +kernel
    rw [(hKept hOthers).1]
    decide +kernel
  · exact (hAbsent (by decide +kernel)).1

/-- A way of making handlers that is registered under a name with white space around it is not found
under this name. -/
theorem not_names_exact_of_blank :
    let maker : Maker := fun _ _ => .done (.ok (PseudoHandler.handler { kind := "custom" }))
    let r := (⟨[]⟩ : Registry).register " custom " maker
    Text.sameText " custom " " custom " = true ∧ r.contains " custom " = false ∧
      ∀ c props, r.create c props " custom " =
        some (misconfigured (.unknownHandler " custom ")) := by
  intro maker r
  have hFind : r.find? " custom " = none := by
    have hTrimmed : Text.trim " custom " ≠ " custom " := by decide +kernel
    rw [find?_register_of_untrimmed hTrimmed]
    rfl
  refine ⟨by decide, ?_, fun c props => ?_⟩
  · rw [contains, hFind]
    rfl
  · rw [create, hFind]

end Registry

end SignOn
