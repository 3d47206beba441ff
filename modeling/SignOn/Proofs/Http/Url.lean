import SignOn.Http.Target
import SignOn.Http.Url.Read
import SignOn.Proofs.Http.Form
import SignOn.Proofs.Http.Percent
import SignOn.Proofs.Result

/-!
# Where the query of a URL stands

In a URL of the web nothing in front of the query holds one of the marks of a query and of a
fragment, and the query does not hold that of a fragment (`Url.Ordered`): what a user writes there
is written in escapes, and hosts do not have it. So whoever reads the text of the URL as the target
of a request finds its query there, as it stands in the URL (`Url.Ordered.query_of_target`), and it
is also found when a pair has been added to it.
-/

namespace SignOn.Http

/-- The text holds neither the mark of a query nor that of a fragment. -/
def Unmarked (s : String) : Prop :=
  ∀ c ∈ s.toList, Url.endsPath c = false

instance (s : String) : Decidable (Unmarked s) :=
  List.decidableBAll _ s.toList

theorem unmarked_iff {s : String} : Unmarked s ↔ '?' ∉ s.toList ∧ '#' ∉ s.toList := by
  simp only [Unmarked, Url.endsPath, Bool.or_eq_false_iff, beq_eq_false_iff_ne]
  constructor
  · intro h
    exact ⟨fun hMem => (h _ hMem).1 rfl, fun hMem => (h _ hMem).2 rfl⟩
  · rintro ⟨hQuery, hFragment⟩ c hc
    exact ⟨fun hEq => hQuery (hEq ▸ hc), fun hEq => hFragment (hEq ▸ hc)⟩

theorem unmarked_append {s t : String} : Unmarked (s ++ t) ↔ Unmarked s ∧ Unmarked t := by
  simp only [Unmarked, String.toList_append, List.forall_mem_append]

theorem unmarked_intercalate {sep : String} {parts : List String} (hSep : Unmarked sep)
    (hParts : ∀ s ∈ parts, Unmarked s) : Unmarked (sep.intercalate parts) := by
  induction parts with
  | nil => exact List.forall_mem_nil _
  | cons first rest ih =>
    rw [List.forall_mem_cons] at hParts
    cases rest with
    | nil => simpa using hParts.1
    | cons second rest =>
      rw [String.intercalate_cons_cons, unmarked_append, unmarked_append]
      exact ⟨⟨hParts.1, hSep⟩, ih hParts.2⟩

theorem unmarked_join {parts : List String} (hParts : ∀ s ∈ parts, Unmarked s) :
    Unmarked (String.join parts) := by
  rw [Unmarked, String.toList_join]
  intro c hc
  obtain ⟨s, hs, hMem⟩ := List.mem_flatMap.mp hc
  exact hParts s hs c hMem

theorem unmarked_toDigits {base : Nat} (hBase : 1 < base) (hSmall : base ≤ 16) (n : Nat) :
    Unmarked (String.ofList (Nat.toDigits base n)) := by
  have hDigit : ∀ n < 16, Url.endsPath (Nat.digitChar n) = false := by decide
  rw [Unmarked, String.toList_ofList]
  induction n using Nat.strongRecOn with
  | ind n ih =>
    rw [Nat.toDigits_eq_if hBase]
    split
    · intro c hc
      rw [List.mem_singleton.mp hc]
      exact hDigit n (by omega)
    · have hLess : n / base < n := Nat.div_lt_self (by omega) hBase
      have hMod : n % base < base := Nat.mod_lt n (by omega)
      rw [List.forall_mem_append]
      refine ⟨ih _ hLess, fun c hc => ?_⟩
      rw [List.mem_singleton.mp hc]
      exact hDigit _ (by omega)

theorem unmarked_toString (n : Nat) : Unmarked (toString n) := by
  rw [Nat.toString_eq_repr, Nat.repr_eq_ofList_toDigits]
  exact unmarked_toDigits (by decide) (by decide) n

theorem unmarked_encode {keep : Char → Bool} (hQuery : keep '?' = false)
    (hFragment : keep '#' = false) (cs : List Char) :
    Unmarked (String.ofList (Percent.encode keep cs)) := by
  rw [unmarked_iff, String.toList_ofList]
  exact ⟨Percent.not_mem_encode hQuery (by decide) cs,
    Percent.not_mem_encode hFragment (by decide) cs⟩

/-! ## Hosts -/

namespace Host

theorem unmarked_fourText (address : Nat) : Unmarked (fourText address) := by
  refine unmarked_intercalate (by decide) fun s hs => ?_
  obtain ⟨scale, -, rfl⟩ := List.mem_map.mp hs
  exact unmarked_toString _

theorem unmarked_groupsText (groups : List Nat) : Unmarked (groupsText groups) := by
  refine unmarked_intercalate (by decide) fun s hs => ?_
  obtain ⟨g, -, rfl⟩ := List.mem_map.mp hs
  exact unmarked_toDigits (by decide) (by decide) g

theorem unmarked_sixText (groups : List Nat) : Unmarked (sixText groups) := by
  unfold sixText
  split
  · rw [unmarked_append, unmarked_append]
    exact ⟨⟨unmarked_groupsText _, by decide⟩, unmarked_groupsText _⟩
  · exact unmarked_groupsText groups

theorem unmarked_of_inBrackets {cs : List Char} {host : Host} (h : inBrackets cs = .ok host) :
    Unmarked host.text := by
  unfold inBrackets at h
  split at h
  · split at h
    · cases h
      rw [text, unmarked_append, unmarked_append]
      exact ⟨⟨by decide, unmarked_sixText _⟩, by decide⟩
    · cases h
  · cases h

theorem unmarked_of_ofDomain {domain : List Char} {host : Host} (h : ofDomain domain = .ok host) :
    Unmarked host.text := by
  unfold ofDomain at h
  split at h
  · cases h
  · rename_i hAllowed
    split at h
    · cases h
    · split at h
      · split at h
        · cases h
          exact unmarked_fourText _
        · cases h
      · cases h
        have hAbsent : ∀ c, isForbiddenInDomain c = true → c ∉ domain := by
          intro c hForbidden hc
          refine hAllowed ?_
          rw [Bool.or_eq_true, List.any_eq_true]
          exact .inl ⟨c, hc, hForbidden⟩
        rw [text, unmarked_iff, String.toList_ofList]
        exact ⟨hAbsent _ (by decide), hAbsent _ (by decide)⟩

theorem unmarked_of_ofWeb {cs : List Char} {host : Host} (h : ofWeb cs = .ok host) :
    Unmarked host.text := by
  unfold ofWeb at h
  split at h
  · exact unmarked_of_inBrackets h
  · exact unmarked_of_ofDomain h

end Host

/-! ## URLs of the web -/

namespace Url

/-- The scheme is HTTP or HTTPS, there is a host, no mark of a query or a fragment stands in front
of the query, and none of a fragment in the query. -/
structure Ordered (u : Url) : Prop where
  web : u.scheme = "http" ∨ u.scheme = "https"
  host : ∃ host, u.host = some host ∧ Unmarked host.text
  user : Unmarked u.user
  password : Unmarked u.password
  path : Unmarked (pathText u.path)
  query : ∀ query, u.query = some query → '#' ∉ query.toList

theorem unmarked_encodeUser (cs : List Char) : Unmarked (encodeUser cs) :=
  unmarked_encode (by decide) (by decide) cs

theorem unmarked_encodeSegment (cs : List Char) : Unmarked (encodeSegment cs) :=
  unmarked_encode (by decide) (by decide) cs

theorem unmarked_of_readCredentials {web : Bool} {cs rest : List Char} {user password : String}
    (h : readCredentials web cs = .ok ((user, password), rest)) :
    Unmarked user ∧ Unmarked password := by
  unfold readCredentials at h
  split at h
  · cases h
    decide
  · dsimp only at h
    split at h
    · cases h
    · rename_i credentials _ _ _
      have hUser : readUser credentials = (user, password) := (Prod.mk.inj (Except.ok.inj h)).1
      unfold readUser at hUser
      split at hUser
      · cases hUser
        exact ⟨unmarked_encodeUser _, unmarked_encodeUser _⟩
      · cases hUser
        exact ⟨unmarked_encodeUser _, by decide⟩

theorem mem_of_mem_above {done : List String} {s : String} (h : s ∈ above done) : s ∈ done := by
  unfold above at h
  split at h
  · exact h
  · split at h
    · exact h
    · exact List.mem_cons_of_mem _ h

/-- Where there are no drives, a segment of a path is one that was there or an empty one. -/
theorem forall_mem_resolve {P : String → Prop} (hEmpty : P "") {done segments : List String}
    (hDone : ∀ s ∈ done, P s) (hSegments : ∀ s ∈ segments, P s) :
    ∀ s ∈ resolve false done segments, P s := by
  induction segments generalizing done with
  | nil => exact fun s hs => hDone s (List.mem_reverse.mp hs)
  | cons segment rest ih =>
    rw [List.forall_mem_cons] at hSegments
    have hAbove : ∀ s ∈ above done, P s := fun s hs => hDone s (mem_of_mem_above hs)
    -- A path that ends in a directory ends in an empty segment.
    have hEnd : ∀ {done : List String}, (∀ s ∈ done, P s) → ∀ s ∈ ("" :: done).reverse, P s := by
      intro done h s hs
      rcases List.mem_cons.mp (List.mem_reverse.mp hs) with rfl | hs
      · exact hEmpty
      · exact h s hs
    rw [resolve]
    split
    · split
      · exact hEnd hAbove
      · exact ih hAbove hSegments.2
    · split
      · split
        · exact hEnd hDone
        · exact ih hDone hSegments.2
      · have hNext : ∀ s ∈ segment :: done, P s :=
          List.forall_mem_cons.mpr ⟨hSegments.1, hDone⟩
        exact ih hNext hSegments.2

theorem unmarked_readSegments (cs : List Char) : ∀ s ∈ readSegments false cs, Unmarked s := by
  refine forall_mem_resolve (by decide) (List.forall_mem_nil _) fun s hs => ?_
  obtain ⟨piece, -, rfl⟩ := List.mem_map.mp hs
  exact unmarked_encodeSegment piece

theorem not_mem_queryAndFragment {web : Bool} {cs : List Char} {query : String}
    (h : (queryAndFragment web cs).1 = some query) : '#' ∉ query.toList := by
  have hEncoded : ∀ cs, '#' ∉ (encodeQuery web cs).toList := by
    intro cs
    rw [encodeQuery, String.toList_ofList]
    exact Percent.not_mem_encode (by cases web <;> decide) (by decide) cs
  unfold queryAndFragment at h
  dsimp only at h
  split at h
  · cases h
    exact hEncoded _
  · cases h

theorem ordered_of_readAuthority {scheme : String} {cs : List Char} {u : Url}
    (hWeb : scheme = "http" ∨ scheme = "https") (h : readAuthority scheme cs = .ok u) :
    u.Ordered := by
  have hScheme : isWebScheme scheme = true := by
    rcases hWeb with rfl | rfl <;> decide
  unfold readAuthority at h
  rw [hScheme] at h
  obtain ⟨⟨⟨user, password⟩, rest⟩, hCredentials, h⟩ := bind_eq_ok_iff.mp h
  obtain ⟨hUser, hPassword⟩ := unmarked_of_readCredentials hCredentials
  simp only [Bool.true_and, if_true, guard_eq_ok_iff, bind_eq_ok_iff, Except.ok.injEq] at h
  obtain ⟨-, host, hHost, -, _, -, -, rfl⟩ := h
  refine ⟨hWeb, ⟨host, rfl, Host.unmarked_of_ofWeb hHost⟩, hUser, hPassword, ?_, ?_⟩
  · refine unmarked_join fun s hs => ?_
    obtain ⟨segment, hSegment, rfl⟩ := List.mem_map.mp hs
    exact unmarked_append.mpr ⟨by decide, unmarked_readSegments _ segment hSegment⟩
  · intro query hQuery
    exact not_mem_queryAndFragment hQuery

theorem scheme_of_readFile {cs : List Char} {u : Url} (h : readFile cs = .ok u) :
    u.scheme = "file" := by
  unfold readFile at h
  dsimp only at h
  split at h
  · cases h
    rfl
  · obtain ⟨_, -, h⟩ := bind_eq_ok_iff.mp h
    cases h
    rfl

theorem scheme_of_readAuthority {scheme : String} {cs : List Char} {u : Url}
    (h : readAuthority scheme cs = .ok u) : u.scheme = scheme := by
  unfold readAuthority at h
  simp only [guard_eq_ok_iff, bind_eq_ok_iff] at h
  obtain ⟨_, -, -, h⟩ := h
  split at h
  · obtain ⟨_, -, h⟩ := bind_eq_ok_iff.mp h
    simp only [guard_eq_ok_iff, bind_eq_ok_iff, Except.ok.injEq] at h
    obtain ⟨-, _, -, -, rfl⟩ := h
    rfl
  · obtain ⟨_, -, h⟩ := bind_eq_ok_iff.mp h
    simp only [guard_eq_ok_iff, bind_eq_ok_iff, Except.ok.injEq] at h
    obtain ⟨-, _, -, -, rfl⟩ := h
    rfl

/-- Whatever is read as a URL of the web is in order. -/
theorem ordered_of_parse {s : String} {u : Url} (h : parse s = .ok u)
    (hWeb : u.scheme = "http" ∨ u.scheme = "https") : u.Ordered := by
  unfold parse at h
  split at h
  · cases h
  · rename_i scheme rest _
    split at h
    · rw [scheme_of_readFile h] at hWeb
      exact absurd hWeb (by decide)
    · split at h
      · rw [scheme_of_readAuthority h] at hWeb
        exact ordered_of_readAuthority hWeb h
      · rename_i hOther
        have hScheme : u.scheme = scheme := by
          split at h
          · exact scheme_of_readAuthority h
          · cases h
            rfl
        rw [hScheme] at hWeb
        refine absurd ?_ hOther
        rcases hWeb with rfl | rfl <;> decide

theorem Ordered.withPair {u : Url} (h : u.Ordered) (name value : String) :
    (u.withPair name value).Ordered := by
  refine ⟨h.web, h.host, h.user, h.password, h.path, fun query hQuery => ?_⟩
  have hPair : '#' ∉ (Form.pair name value).toList :=
    Form.not_mem_pair (by decide) (by decide) name value
  rw [← Option.some.inj hQuery]
  split
  · rename_i earlier hEarlier
    split
    · exact hPair
    · rw [String.toList_append, String.toList_append, List.mem_append, List.mem_append, not_or,
        not_or]
      exact ⟨⟨h.query earlier hEarlier, by decide⟩, hPair⟩
  · exact hPair

/-- The pairs of the query, with the one that has been added at the end. -/
theorem exists_query_withPair (u : Url) (name value : String) :
    ∃ query, (u.withPair name value).query = some query ∧
      Form.pairs query = Form.pairs (u.query.getD "") ++ [(name, value)] := by
  refine ⟨_, rfl, ?_⟩
  rw [← Form.pairs_append_pair]
  cases u.query <;> rfl

end Url

/-! ## The query of a target -/

variable {target : Target}

theorem Target.cutScheme?_append {scheme : List Char}
    (hScheme : ∀ c ∈ scheme, isSchemeChar c = true) (rest : List Char) :
    cutScheme? (scheme ++ ':' :: '/' :: '/' :: rest) = some (scheme, rest) := by
  have hColon : isSchemeChar ':' = false := by decide
  rw [cutScheme?, List.takeWhile_append_of_pos hScheme, List.dropWhile_append_of_pos hScheme]
  simp [hColon]

/-- The query begins at the first mark of a query, and the first mark of a fragment ends it. -/
theorem Target.query_of_afterScheme? {scheme front query tail : List Char}
    (hFront : ∀ c ∈ front, Url.endsPath c = false) (hQuery : '#' ∉ query)
    (hTail : tail = [] ∨ ∃ rest, tail = '#' :: rest)
    (h : afterScheme? scheme (front ++ '?' :: (query ++ tail)) = some target) :
    target.query = some (String.ofList query) := by
  have hMark : endsAuthority '?' = true := by decide
  -- The authority ends at the mark of the query or somewhere in front of it.
  obtain ⟨path, hPath, hDrop⟩ : ∃ path, (∀ c ∈ path, Url.endsPath c = false) ∧
      (front ++ '?' :: (query ++ tail)).dropWhile (fun c => !endsAuthority c) =
        path ++ '?' :: (query ++ tail) := by
    refine ⟨front.dropWhile fun c => !endsAuthority c, ?_, ?_⟩
    · intro c hc
      exact hFront c ((List.dropWhile_sublist _).mem hc)
    · rw [List.dropWhile_append]
      split
      · rename_i hEmpty
        rw [List.isEmpty_iff.mp hEmpty]
        simp [hMark]
      · rfl
  have hHash : '#' ∉ path ++ '?' :: query := by
    rw [List.mem_append, List.mem_cons, not_or, not_or]
    exact ⟨fun hMem => absurd (hPath _ hMem) (by decide), by decide, hQuery⟩
  have hBefore : Text.before '#' (path ++ '?' :: (query ++ tail)) = path ++ '?' :: query := by
    rcases hTail with rfl | ⟨rest, rfl⟩
    · rw [List.append_nil, Text.before_of_not_mem hHash]
    · rw [← List.cons_append, ← List.append_assoc, Text.before_append hHash]
  have hCut : Text.cut? '?' (path ++ '?' :: query) = some (path, query) :=
    Text.cut?_append (fun hMem => absurd (hPath _ hMem) (by decide)) query
  unfold afterScheme? at h
  dsimp only at h
  rw [hDrop, hBefore] at h
  unfold pathAndQuery? at h
  rw [hCut] at h
  dsimp only at h
  split at h
  · cases h
  · split at h
    · cases h
      rfl
    · cases h

/-- Whoever reads the text of a URL as a target finds the query of the URL in it. -/
theorem Url.Ordered.query_of_target {u : Url} (hOrdered : u.Ordered) {query : String}
    (hQuery : u.query = some query) (h : Target.parse? u.text = some target) :
    target.query = some query := by
  obtain ⟨host, hHost, hHostText⟩ := hOrdered.host
  have hUser : Unmarked u.userText := by
    unfold userText
    split
    · decide
    · rw [unmarked_append, unmarked_append]
      refine ⟨⟨hOrdered.user, ?_⟩, by decide⟩
      split
      · decide
      · exact unmarked_append.mpr ⟨by decide, hOrdered.password⟩
  have hPort : Unmarked ((u.port.map fun n => ":" ++ toString n).getD "") := by
    cases u.port with
    | none => decide
    | some n => exact unmarked_append.mpr ⟨by decide, unmarked_toString n⟩
  -- Everything between the scheme and the query is free of marks.
  have hFront := unmarked_append.mpr ⟨unmarked_append.mpr ⟨unmarked_append.mpr
    ⟨hUser, hHostText⟩, hPort⟩, hOrdered.path⟩
  obtain ⟨tail, hTail, hFragment⟩ : ∃ tail, (tail = [] ∨ ∃ rest, tail = '#' :: rest) ∧
      ((u.fragment.map fun f => "#" ++ f).getD "").toList = tail := by
    cases u.fragment with
    | none => exact ⟨[], .inl rfl, rfl⟩
    | some f => exact ⟨_, .inr ⟨f.toList, rfl⟩, by simp⟩
  have hText : u.text.toList = u.scheme.toList ++ ':' :: '/' :: '/' ::
      ((u.userText ++ host.text ++ ((u.port.map fun n => ":" ++ toString n).getD "") ++
        pathText u.path).toList ++ '?' :: (query.toList ++ tail)) := by
    rw [← hFragment, text, authorityText, hHost, hQuery]
    simp
  have hScheme : ∀ c ∈ u.scheme.toList, Target.isSchemeChar c = true := by
    rcases hOrdered.web with hWeb | hWeb <;> rw [hWeb] <;> exact List.all_eq_true.mp (by decide)
  have hStar : u.text ≠ "*" := by
    intro hEq
    have hMem : '?' ∈ u.text.toList := by
      rw [hText]
      simp
    rw [hEq] at hMem
    exact absurd hMem (by decide)
  unfold Target.parse? at h
  by_cases hLong : Target.maxLength < u.text.utf8ByteSize
  · rw [if_pos hLong] at h
    cases h
  · rw [if_neg hLong, if_neg hStar, hText, Target.cutScheme?_append hScheme] at h
    rw [Target.query_of_afterScheme? hFront (hOrdered.query query hQuery) hTail h,
      String.ofList_toList]

end SignOn.Http
