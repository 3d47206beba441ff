import Mathlib.Tactic.Common
import SignOn.Kerberos.Name
import SignOn.Proofs.Text.Split

/-!
# Principal names and their texts

The parts of a name are not empty and hold neither a slash nor an at sign (`IsPart`). A text is of
the form of a name exactly if it is the text of a name with such parts, and then it is read as that
name (`readParts?_eq_some_iff`). Of the other texts those without an at sign are the name of a
service as they stand, and those with one are refused. Either way a name has the text from which it
was read (`parsing_lossless`).
-/

namespace SignOn.PrincipalName

/-! ## Parts -/

/-- What may be a part of a name. -/
def IsPart (part : String) : Prop :=
  part ≠ "" ∧ '/' ∉ part.toList ∧ '@' ∉ part.toList

/-- Every part of a name may be one. -/
structure Proper (n : PrincipalName) : Prop where
  service : IsPart n.service
  host : ∀ host, n.host = some host → IsPart host
  realm : ∀ realm, n.realm = some realm → IsPart realm

variable {cs rest : List Char} {part : String} {n : PrincipalName}

theorem isSeparator_iff {c : Char} : isSeparator c = true ↔ c = '/' ∨ c = '@' := by
  simp [isSeparator]

theorem isPart_iff :
    IsPart part ↔ part.toList ≠ [] ∧ ∀ c ∈ part.toList, (!isSeparator c) = true := by
  have hEmpty : part ≠ "" ↔ part.toList ≠ [] := not_congr String.toList_eq_nil_iff.symm
  have hFree : (∀ c ∈ part.toList, (!isSeparator c) = true) ↔
      '/' ∉ part.toList ∧ '@' ∉ part.toList := by
    simp only [Bool.not_eq_true', ← Bool.not_eq_true, isSeparator_iff, not_or]
    constructor
    · intro h
      exact ⟨fun hMem => (h _ hMem).1 rfl, fun hMem => (h _ hMem).2 rfl⟩
    · rintro ⟨hSlash, hAt⟩ c hc
      exact ⟨fun hEq => hSlash (hEq ▸ hc), fun hEq => hAt (hEq ▸ hc)⟩
  rw [IsPart, hEmpty, hFree]

/-- A part reaches up to the next separator. -/
theorem takePart?_eq_some_iff :
    takePart? cs = some (part, rest) ↔
      IsPart part ∧ cs = part.toList ++ rest ∧
        ∀ c, rest.head? = some c → c = '/' ∨ c = '@' := by
  have hCut : cs.takeWhile (!isSeparator ·) = part.toList ∧ cs.dropWhile (!isSeparator ·) = rest ↔
      _ := Text.takeWhile_and_dropWhile_iff
  simp only [Bool.not_eq_false', isSeparator_iff] at hCut
  rw [isPart_iff, takePart?]
  constructor
  · intro h
    split at h
    · cases h
    · rename_i hNe
      cases h
      rw [String.toList_ofList] at hCut ⊢
      obtain ⟨hText, hPart, hRest⟩ := hCut.mp ⟨rfl, rfl⟩
      exact ⟨⟨fun hNil => hNe (List.isEmpty_iff.mpr hNil), hPart⟩, hText, hRest⟩
  · rintro ⟨⟨hNe, hPart⟩, hText, hRest⟩
    obtain ⟨hTake, hDrop⟩ := hCut.mpr ⟨hText, hPart, hRest⟩
    rw [hTake, hDrop, if_neg (by simpa using hNe), String.ofList_toList]

/-! ## The form of a name -/

/-- The characters of a part that need not be there, with the sign in front of it. -/
def signed (sign : Char) : Option String → List Char
  | none => []
  | some part => sign :: part.toList

theorem text_toList (n : PrincipalName) :
    n.text.toList = n.service.toList ++ (signed '/' n.host ++ signed '@' n.realm) := by
  obtain ⟨service, host, realm⟩ := n
  cases host <;> cases realm <;> simp [text, signed]

theorem readRealm?_eq_some_iff {realm : Option String} :
    readRealm? cs = some realm ↔ (∀ r, realm = some r → IsPart r) ∧ cs = signed '@' realm := by
  have hPart : ∀ {cs r}, takePart? cs = some (r, []) ↔ IsPart r ∧ cs = r.toList := by
    intro cs r
    rw [takePart?_eq_some_iff, List.append_nil]
    simp
  constructor
  · intro h
    unfold readRealm? at h
    split at h
    · cases h
      exact ⟨nofun, rfl⟩
    · split at h
      · rename_i r hTake
        cases h
        obtain ⟨hProper, rfl⟩ := hPart.mp hTake
        exact ⟨fun _ h => Option.some.inj h ▸ hProper, rfl⟩
      · cases h
    · cases h
  · rintro ⟨hProper, rfl⟩
    cases realm with
    | none => rfl
    | some r => rw [signed, readRealm?, hPart.mpr ⟨hProper r rfl, rfl⟩]

/-- The texts of the form of a name are those of the names with proper parts. -/
theorem readParts?_eq_some_iff :
    readParts? cs = some n ↔ n.Proper ∧ cs = n.text.toList := by
  rw [text_toList]
  constructor
  · intro hRead
    obtain ⟨⟨service, behind⟩, hService, hBehind⟩ := Option.bind_eq_some_iff.mp hRead
    obtain ⟨hProper, rfl, -⟩ := takePart?_eq_some_iff.mp hService
    dsimp only at hBehind
    split at hBehind
    · obtain ⟨⟨host, ending⟩, hHost, hEnding⟩ := Option.bind_eq_some_iff.mp hBehind
      obtain ⟨hHostProper, rfl, -⟩ := takePart?_eq_some_iff.mp hHost
      obtain ⟨realm, hRealm, hName⟩ := Option.bind_eq_some_iff.mp hEnding
      obtain ⟨hRealmProper, rfl⟩ := readRealm?_eq_some_iff.mp hRealm
      cases hName
      exact ⟨⟨hProper, fun _ h => Option.some.inj h ▸ hHostProper, hRealmProper⟩, rfl⟩
    · obtain ⟨realm, hRealm, hName⟩ := Option.bind_eq_some_iff.mp hBehind
      obtain ⟨hRealmProper, rfl⟩ := readRealm?_eq_some_iff.mp hRealm
      cases hName
      exact ⟨⟨hProper, nofun, hRealmProper⟩, rfl⟩
  · obtain ⟨service, host, realm⟩ := n
    rintro ⟨⟨hProper, hHostProper, hRealmProper⟩, rfl⟩
    have hRealm : readRealm? (signed '@' realm) = some realm :=
      readRealm?_eq_some_iff.mpr ⟨hRealmProper, rfl⟩
    have hEnd : ∀ c, (signed '@' realm).head? = some c → c = '/' ∨ c = '@' := by
      cases realm <;> simp [signed, eq_comm]
    cases host with
    | none =>
      have hService : takePart? (service.toList ++ (signed '/' none ++ signed '@' realm)) =
          some (service, signed '@' realm) := takePart?_eq_some_iff.mpr ⟨hProper, rfl, hEnd⟩
      rw [readParts?, hService]
      cases realm with
      | none => rfl
      | some realm =>
        change (readRealm? (signed '@' (some realm))).bind _ = _
        rw [hRealm]
        rfl
    | some host =>
      have hService : takePart? (service.toList ++ (signed '/' (some host) ++ signed '@' realm)) =
          some (service, '/' :: (host.toList ++ signed '@' realm)) :=
        takePart?_eq_some_iff.mpr ⟨hProper, rfl, by simp [eq_comm]⟩
      have hHost := takePart?_eq_some_iff.mpr ⟨hHostProper host rfl, rfl, hEnd⟩
      rw [readParts?, hService]
      change (takePart? (host.toList ++ signed '@' realm)).bind _ = _
      rw [hHost]
      change (readRealm? (signed '@' realm)).bind _ = _
      rw [hRealm]
      rfl

/-! ## Every text -/

/-- The text is of the form service@realm or service/host@realm. -/
inductive Qualified : String → Prop
  | user {service realm : String} (hService : IsPart service) (hRealm : IsPart realm) :
      Qualified (service ++ "@" ++ realm)
  | endpoint {service host realm : String} (hService : IsPart service) (hHost : IsPart host)
      (hRealm : IsPart realm) : Qualified (service ++ "/" ++ host ++ "@" ++ realm)

theorem qualified_iff {s : String} :
    Qualified s ↔ '@' ∈ s.toList ∧ ∃ n : PrincipalName, n.Proper ∧ n.text = s := by
  constructor
  · rintro (@⟨service, realm, hService, hRealm⟩ | @⟨service, host, realm, hService, hHost, hRealm⟩)
    · refine ⟨by simp, { service, realm := some realm }, ⟨hService, nofun, ?_⟩, ?_⟩
      · rintro _ ⟨⟩
        exact hRealm
      · simp [text, String.append_assoc]
    · refine ⟨by simp, { service, host := some host, realm := some realm }, ⟨hService, ?_, ?_⟩, ?_⟩
      · rintro _ ⟨⟩
        exact hHost
      · rintro _ ⟨⟩
        exact hRealm
      · simp [text, String.append_assoc]
  · rintro ⟨hAt, ⟨service, host, realm⟩, ⟨hService, hHost, hRealm⟩, rfl⟩
    cases realm with
    | none =>
      -- Without a realm there is no part in which the at sign could stand.
      cases host with
      | none => simp [text, hService.2.2] at hAt
      | some host => simp [text, hService.2.2, (hHost host rfl).2.2] at hAt
    | some realm =>
      cases host with
      | none => simpa [text, String.append_assoc] using Qualified.user hService (hRealm realm rfl)
      | some host =>
        simpa [text, String.append_assoc] using
          Qualified.endpoint hService (hHost host rfl) (hRealm realm rfl)

/-- A text is a name with proper parts, or a service as it stands, or refused. -/
theorem parse_cases (s : String) :
    (∃ n : PrincipalName, n.Proper ∧ n.text = s ∧ parse s = .ok n) ∨
    (∀ n : PrincipalName, n.Proper → n.text ≠ s) ∧
      ('@' ∉ s.toList ∧ parse s = .ok { service := s } ∨
        '@' ∈ s.toList ∧ parse s = misconfigured (.malformedName s)) := by
  unfold parse
  cases hRead : readParts? s.toList with
  | some n =>
    obtain ⟨hProper, hText⟩ := readParts?_eq_some_iff.mp hRead
    exact .inl ⟨n, hProper, (String.toList_inj.mp hText).symm, rfl⟩
  | none =>
    refine .inr ⟨?_, ?_⟩
    · rintro n hProper rfl
      rw [readParts?_eq_some_iff.mpr ⟨hProper, rfl⟩] at hRead
      cases hRead
    · by_cases hAt : '@' ∈ s.toList
      · exact .inr ⟨hAt, if_pos (by simpa using hAt)⟩
      · exact .inl ⟨hAt, if_neg (by simpa using hAt)⟩

/-- **Reading a name loses nothing.** A text is refused exactly if it has an at sign and is not of
the form service/host@realm, with or without host. The name that is read from any other text has
this text; its host and its realm, if there are any, may be parts of a name; and if there are none,
the text is its service. -/
theorem parsing_lossless (s : String) :
    ((∃ e, parse s = .error e) ↔ '@' ∈ s.toList ∧ ¬ Qualified s) ∧
    ∀ n, parse s = .ok n →
      n.text = s ∧ (∀ host, n.host = some host → IsPart host) ∧
      (∀ realm, n.realm = some realm → IsPart realm) ∧
      (n.host = none → n.realm = none → n.service = s) := by
  rw [qualified_iff]
  obtain ⟨n, hProper, hText, hParse⟩ | ⟨hNone, ⟨hAt, hParse⟩ | ⟨hAt, hParse⟩⟩ := parse_cases s
  · rw [hParse]
    constructor
    · simp only [reduceCtorEq, exists_false, false_iff]
      rintro ⟨hAt, hNot⟩
      exact hNot ⟨hAt, n, hProper, hText⟩
    · rintro _ ⟨⟩
      refine ⟨hText, hProper.host, hProper.realm, ?_⟩
      intro hHost hRealm
      simpa [text, hHost, hRealm] using hText
  · rw [hParse]
    constructor
    · simp [hAt]
    · rintro _ ⟨⟩
      exact ⟨by simp [text], nofun, nofun, fun _ _ => rfl⟩
  · rw [hParse]
    constructor
    · simp only [misconfigured, Except.error.injEq, exists_eq', true_iff]
      exact ⟨hAt, fun ⟨_, n, hProper, hText⟩ => hNone n hProper hText⟩
    · rintro n ⟨⟩

/-- Too many parts in front of a realm are refused; without a realm they are a service as they
stand; and a name of three parts is the text from which it was read. -/
theorem parsing_lossless_odd :
    let path : PrincipalName := { service := "a//b/c\n" }
    let web : PrincipalName := { service := "HTTP", host := some "web", realm := some "R" }
    (parse "a/b/c@R" = misconfigured (.malformedName "a/b/c@R") ∧ ¬ Qualified "a/b/c@R") ∧
    (parse "a//b/c\n" = .ok path ∧ path.text = "a//b/c\n") ∧
    (parse "HTTP/web@R" = .ok web ∧ web.text = "HTTP/web@R" ∧ IsPart "web" ∧ IsPart "R") := by
  intro path web
  have hRefused : parse "a/b/c@R" = misconfigured (.malformedName "a/b/c@R") := by decide
  have hPath : parse "a//b/c\n" = .ok path := by decide
  have hWeb : parse "HTTP/web@R" = .ok web := by decide
  obtain ⟨hText, hHost, hRealm, -⟩ := (parsing_lossless "HTTP/web@R").2 web hWeb
  exact ⟨⟨hRefused, ((parsing_lossless "a/b/c@R").1.mp ⟨_, hRefused⟩).2⟩,
    ⟨hPath, ((parsing_lossless "a//b/c\n").2 path hPath).1⟩,
    ⟨hWeb, hText, hHost "web" rfl, hRealm "R" rfl⟩⟩

end SignOn.PrincipalName
