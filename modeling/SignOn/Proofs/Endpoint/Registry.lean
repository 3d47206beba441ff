import Mathlib.Data.List.Forall2
import SignOn.Proofs.Endpoint.Dispatch
import SignOn.Proofs.Endpoint.RegistryNames
import SignOn.Proofs.Text.Case
import SignOn.Proofs.Text.Split

/-!
# Handlers made through a registry

A dispatcher is made by asking the registry for a handler for each scheme, and the registry makes
dispatchers too. The name that the configuration gives for a scheme is compared with that of
dispatchers before the registry is asked, and the registry would read it in the same way. So a
registry that knows dispatchers by their own name only is never asked for a dispatcher on the way to
one, unless by a way of making handlers that was added: a call for a dispatcher comes to an end if
the calls for the added kinds do (`Registry.ends_makeDispatcher`), and need not if they do not
(`Registry.create_dispatcher_unending`).

A dispatcher comes out exactly if the configuration lists schemes, each at most once, and names for
each a handler that is no dispatcher and can be made (`Registry.create_dispatcher_exact`).
-/

namespace SignOn

/-- The handler stands for several schemes. -/
def Handler.IsDispatcher (h : Handler) : Prop :=
  ∃ d : Dispatcher, h = d.handler

theorem Handler.not_isDispatcher_of_kind {h : Handler} (hKind : h.kind ≠ Dispatcher.usualKind) :
    ¬ h.IsDispatcher := by
  rintro ⟨d, rfl⟩
  exact hKind rfl

theorem Properties.require_eq_ok_iff {props : Properties} {key value : String} :
    props.require key = .ok value ↔
      ∃ text, props.get? key = some text ∧ Text.trim text ≠ "" ∧ value = Text.trim text := by
  unfold require getTrimmed?
  cases props.get? key with
  | none => simp [misconfigured]
  | some text =>
    rw [Option.map_some]
    dsimp only
    by_cases hBlank : Text.trim text = ""
    · simp [hBlank, misconfigured]
    · rw [if_neg hBlank, Except.ok.injEq]
      constructor
      · rintro rfl
        exact ⟨text, rfl, hBlank, rfl⟩
      · rintro ⟨_, hText, -, rfl⟩
        rw [Option.some.inj hText]

theorem Dispatcher.kindFor_eq_ok_iff {props : Properties} {item kind : String} :
    kindFor props item = .ok kind ↔
      ∃ text, props.get? (handlerKey item) = some text ∧ Text.trim text ≠ "" ∧
        ¬ Text.sameText (Text.trim text) usualKind = true ∧ kind = Text.trim text := by
  unfold kindFor
  simp only [SignOn.bind_eq_ok_iff, mapError_eq_ok_iff, misconfigured, guard_eq_ok_iff,
    Except.ok.injEq, Properties.require_eq_ok_iff]
  constructor
  · rintro ⟨_, ⟨text, hText, hBlank, rfl⟩, hOther, rfl⟩
    exact ⟨text, hText, hBlank, hOther, rfl⟩
  · rintro ⟨text, hText, hBlank, hOther, rfl⟩
    exact ⟨_, ⟨text, hText, hBlank, rfl⟩, hOther, rfl⟩

namespace Registry

open Dispatcher (kindFor bindPart schemeItems)

variable {r : Registry} {c : Collaborators} {props : Properties} {name item kind : String}
  {maker : Maker} {added : List (String × Maker)} {d : Dispatcher} {h : Handler}

/-! ## What a registry knows -/

/-- The registry comes from the usual one by adding ways of making handlers that are no dispatchers,
under names other than that of dispatchers. -/
structure Extends (r : Registry) (added : List (String × Maker)) : Prop where
  eq : r = usual.registerAll added
  other : ∀ entry ∈ added, ¬ Text.sameText entry.1 Dispatcher.usualKind = true
  plain : ∀ entry ∈ added, ∀ c props h, r.Makes (entry.2 c props) (.ok h) → ¬ h.IsDispatcher

/-- One of the usual ways of making handlers other than dispatchers. -/
inductive Usual : Maker → Prop
  | pseudo : Usual makePseudo
  | negotiator : Usual makeNegotiator
  | directory : Usual makeDirectory

theorem Usual.direct (h : Usual maker) : (maker c props).Direct := by
  cases h with
  | pseudo => exact .done _
  | negotiator =>
    unfold makeNegotiator
    split
    · exact .done _
    · exact .done _
  | directory =>
    unfold makeDirectory
    split
    · exact .done _
    · exact .done _

theorem Usual.not_isDispatcher (h' : Usual maker) (hMakes : r.Makes (maker c props) (.ok h)) :
    ¬ h.IsDispatcher := by
  cases h' with
  | pseudo =>
    rw [makePseudo, makes_done_iff] at hMakes
    obtain ⟨p, hRead, rfl⟩ := map_eq_ok_iff.mp hMakes
    obtain ⟨anonymous, -, hMade⟩ := bind_eq_ok_iff.mp hRead
    cases hMade
    have hKind : PseudoHandler.usualKind ≠ Dispatcher.usualKind := by decide
    exact Handler.not_isDispatcher_of_kind hKind
  | negotiator =>
    unfold makeNegotiator at hMakes
    split at hMakes
    · obtain ⟨n, -, rfl⟩ := map_eq_ok_iff.mp (makes_done_iff.mp hMakes)
      have hKind : Negotiator.usualKind ≠ Dispatcher.usualKind := by decide
      exact Handler.not_isDispatcher_of_kind hKind
    · cases makes_done_iff.mp hMakes
  | directory =>
    unfold makeDirectory at hMakes
    split at hMakes
    · obtain ⟨p, -, rfl⟩ := map_eq_ok_iff.mp (makes_done_iff.mp hMakes)
      have hKind : DirectoryHandler.usualKind ≠ Dispatcher.usualKind := by decide
      exact Handler.not_isDispatcher_of_kind hKind
    · cases makes_done_iff.mp hMakes

theorem usual_of_find? (hFind : usual.find? name = some maker)
    (hOther : ¬ Text.sameText (Text.trim name) Dispatcher.usualKind = true) : Usual maker := by
  rw [usual, find?_register, if_neg hOther, find?_register, find?_register, find?_register] at hFind
  split_ifs at hFind
  · cases hFind
    exact .directory
  · cases hFind
    exact .negotiator
  · cases hFind
    exact .pseudo
  · cases hFind

namespace Extends

/-- Dispatchers are known by their own name. -/
theorem find?_dispatcher (hr : r.Extends added)
    (hName : Text.sameText (Text.trim name) Dispatcher.usualKind = true) :
    r.find? name = some makeDispatcher := by
  have hOther : ∀ entry ∈ added, ¬ Text.sameText (Text.trim name) entry.1 = true := by
    intro entry hEntry hSame
    rw [Text.sameText_iff] at hName hSame
    exact hr.other entry hEntry (Text.sameText_iff.mpr (hSame.symm.trans hName))
  rw [hr.eq, find?_registerAll_of_forall_not hOther, usual, find?_register, if_pos hName]

/-- Under another name stands one of the other usual ways of making handlers, or one that was
added. -/
theorem usual_or_added (hr : r.Extends added)
    (hOther : ¬ Text.sameText (Text.trim name) Dispatcher.usualKind = true)
    (hFind : r.find? name = some maker) : Usual maker ∨ ∃ entry ∈ added, entry.2 = maker := by
  rw [hr.eq] at hFind
  by_cases hAdded : ∃ entry ∈ added, Text.sameText (Text.trim name) entry.1 = true
  · obtain ⟨last, hLast⟩ := exists_lastOf hAdded
    have hSame := (find?_registerAll_of_lastOf hLast).symm.trans hFind
    rw [Option.some.injEq] at hSame
    obtain ⟨before, given, after, rfl, -⟩ := hLast
    exact .inr ⟨(given, last), by simp, hSame⟩
  · rw [find?_registerAll_of_forall_not (by simpa using hAdded)] at hFind
    exact .inl (usual_of_find? hFind hOther)

theorem not_isDispatcher (hr : r.Extends added)
    (hOther : ¬ Text.sameText (Text.trim name) Dispatcher.usualKind = true)
    (hCreate : r.create c props name = some (.ok h)) : ¬ h.IsDispatcher := by
  cases hFind : r.find? name with
  | none =>
    rw [create_of_unknown hFind] at hCreate
    cases hCreate
  | some maker =>
    rw [create_of_find? hFind, ← makes_iff] at hCreate
    obtain hUsual | ⟨entry, hEntry, rfl⟩ := hr.usual_or_added hOther hFind
    · exact hUsual.not_isDispatcher hCreate
    · exact hr.plain entry hEntry c props h hCreate

end Extends

/-! ## Calls that come to an end -/

theorem Extends.ends_create (hr : r.Extends added)
    (hEnds : ∀ entry ∈ added, r.Ends (entry.2 c props))
    (hOther : ¬ Text.sameText (Text.trim name) Dispatcher.usualKind = true) :
    r.Ends (.create c props name) := by
  rw [ends_create_iff]
  cases hFind : r.find? name with
  | none => exact ⟨_, create_of_unknown hFind⟩
  | some maker =>
    rw [create_of_find? hFind, ← ends_iff]
    obtain hUsual | ⟨entry, hEntry, rfl⟩ := hr.usual_or_added hOther hFind
    · exact ends_of_direct hUsual.direct
    · exact hEnds entry hEntry

/-- A part is never a dispatcher, so the call for it comes to an end. -/
theorem ends_bindPart (hr : r.Extends added)
    (hEnds : ∀ entry ∈ added, r.Ends (entry.2 c props)) :
    r.Ends (bindPart c props d item) := by
  refine Ends.bind (ends_done _) fun kind hKind => ?_
  obtain ⟨text, -, -, hOther, rfl⟩ := Dispatcher.kindFor_eq_ok_iff.mp (makes_done_iff.mp hKind)
  rw [← Text.trim_trim] at hOther
  exact Ends.bind (hr.ends_create hEnds hOther) fun h _ => ends_done _

theorem ends_foldlM_bindPart (hr : r.Extends added)
    (hEnds : ∀ entry ∈ added, r.Ends (entry.2 c props)) {items : List String} :
    r.Ends (items.foldlM (bindPart c props) d) := by
  induction items generalizing d with
  | nil => exact ends_done _
  | cons item items ih =>
    rw [List.foldlM_cons]
    exact Ends.bind (ends_bindPart hr hEnds) fun next _ => ih

theorem ends_makeDispatcher (hr : r.Extends added)
    (hEnds : ∀ entry ∈ added, r.Ends (entry.2 c props)) :
    r.Ends (makeDispatcher c props) := by
  refine Ends.bind ?_ fun d _ => ends_done _
  unfold Dispatcher.ofProperties
  split
  · exact ends_done _
  · refine Ends.bind (ends_foldlM_bindPart hr hEnds) fun d _ => ?_
    split
    · exact ends_done _
    · exact ends_done _

/-! ## What the configuration has to say -/

/-- The text is a list of these schemes: between its commas stand their names, in any letter case
and perhaps with white space around them, and otherwise nothing but white space. -/
def Lists (text : String) (schemes : List Scheme) : Prop :=
  ∃ parts : List String, text = ",".intercalate parts ∧ (∀ part ∈ parts, ',' ∉ part.toList) ∧
    List.Forall₂ (fun part s => s.IsNamed part) (parts.filter fun part => Text.trim part != "")
      schemes

/-- The key under which the configuration names the handler for a scheme, in small letters. -/
def partKey (s : Scheme) : String :=
  Dispatcher.schemesKey ++ "." ++ Text.lowerAscii s.name ++ ".handler"

/-- The configuration names a kind of handler for the scheme, other than that of dispatchers, and
the registry makes this handler of the kind. -/
def Provides (r : Registry) (c : Collaborators) (props : Properties) (s : Scheme) (h : Handler) :
    Prop :=
  ∃ text, props.get? (partKey s) = some text ∧ Text.trim text ≠ "" ∧
    ¬ Text.sameText (Text.trim text) Dispatcher.usualKind = true ∧
    r.create c props (Text.trim text) = some (.ok h)

/-- The configuration describes a dispatcher for these schemes. -/
structure Describes (r : Registry) (c : Collaborators) (props : Properties)
    (schemes : List Scheme) : Prop where
  listed : ∃ text, props.get? Dispatcher.schemesKey = some text ∧ Lists text schemes
  notEmpty : schemes ≠ []
  distinct : schemes.Nodup
  provided : ∀ s ∈ schemes, ∃ h, r.Provides c props s h

theorem lists_iff {text : String} {schemes : List Scheme} :
    Lists text schemes ↔
      List.Forall₂ (fun item s => s.IsNamed item) (schemeItems text) schemes := by
  have hItems : ∀ parts : List String,
      List.Forall₂ (fun item s => s.IsNamed item)
        ((parts.map Text.trim).filter (· != "")) schemes ↔
      List.Forall₂ (fun part s => s.IsNamed part)
        (parts.filter fun part => Text.trim part != "") schemes := by
    intro parts
    rw [List.filter_map, List.forall₂_map_left_iff]
    simp only [Scheme.IsNamed, Text.trim_trim]
    rfl
  have hSep : ",".toList = [','] := rfl
  constructor
  · rintro ⟨parts, rfl, hParts, hNamed⟩
    rw [schemeItems, hItems]
    cases parts with
    | nil =>
      cases hNamed
      exact .nil
    | cons part parts =>
      rw [Text.splitText_intercalate hSep (List.cons_ne_nil _ _) hParts]
      exact hNamed
  · intro hNamed
    refine ⟨Text.splitText ',' text, (Text.intercalate_splitText hSep text).symm, ?_,
      (hItems _).mp hNamed⟩
    intro part hPart
    exact Text.not_mem_of_mem_splitText hPart

theorem Lists.unique {text : String} {schemes others : List Scheme} (h : Lists text schemes)
    (h' : Lists text others) : schemes = others := by
  have hUnique : Relator.RightUnique fun (item : String) (s : Scheme) => s.IsNamed item :=
    fun _ _ _ => Scheme.IsNamed.unique
  exact List.right_unique_forall₂' hUnique (lists_iff.mp h) (lists_iff.mp h')

/-- The names of keys do not depend on the letter case of the list. -/
theorem handlerKey_eq {s : Scheme} (hNamed : s.IsNamed item) (hTrim : Text.trim item = item) :
    Dispatcher.handlerKey item = partKey s := by
  have hSame : s.name.toList.map Char.toLower = item.toList.map Char.toLower := by
    rw [Scheme.IsNamed, hTrim] at hNamed
    exact Text.sameText_iff.mp hNamed
  have hName : Text.IsAscii (Text.lowerAscii s.name) := by
    cases s <;> decide
  -- An item with the small letters of the name is ASCII itself, so Unicode adds nothing.
  have hItem : Text.IsAscii item := by
    intro c hc
    have hSmall := hName c.toLower (by
      rw [Text.lowerAscii, String.toList_ofList, hSame]
      exact List.mem_map_of_mem hc)
    rw [Text.toNat_toLower] at hSmall
    split at hSmall <;> omega
  have hKey : Text.IsAscii Dispatcher.schemesKey := by decide +kernel
  have hDot : Text.IsAscii "." := by decide +kernel
  have hEnd : Text.IsAscii ".handler" := by decide +kernel
  have hAll : Text.IsAscii (Dispatcher.schemesKey ++ "." ++ item ++ ".handler") := by
    simp only [Text.isAscii_append]
    exact ⟨⟨⟨hKey, hDot⟩, hItem⟩, hEnd⟩
  have hFront : Dispatcher.schemesKey.toList.map Char.toLower = Dispatcher.schemesKey.toList := by
    decide +kernel
  have hMiddle : ".".toList.map Char.toLower = ".".toList := by decide +kernel
  have hBack : ".handler".toList.map Char.toLower = ".handler".toList := by decide +kernel
  have hChars : (Dispatcher.schemesKey ++ "." ++ item ++ ".handler").toList.map Char.toLower =
      Dispatcher.schemesKey.toList ++ ".".toList ++ s.name.toList.map Char.toLower ++
        ".handler".toList := by
    simp only [String.toList_append, List.map_append]
    rw [hFront, hMiddle, hSame, hBack]
  unfold Dispatcher.handlerKey partKey
  rw [Text.lowercase_of_ascii hAll, ← String.toList_inj]
  unfold Text.lowerAscii
  simp only [String.toList_append, String.toList_ofList] at hChars ⊢
  exact hChars

/-! ## Dispatchers -/

/-- An item of the list stands for a scheme and for the handler that is made for it. -/
def Stands (r : Registry) (c : Collaborators) (props : Properties) (item : String)
    (b : Scheme × Handler) : Prop :=
  b.1.IsNamed item ∧ ∃ kind, kindFor props item = .ok kind ∧ r.create c props kind = some (.ok b.2)

theorem run_bindPart_eq_ok_iff {e : Dispatcher} :
    r.run (bindPart c props d item) = some (.ok e) ↔
      ∃ b, r.Stands c props item b ∧ b.1 ∉ d.schemes ∧ e = ⟨d.bindings ++ [b]⟩ := by
  simp only [bindPart, run_bind_eq_ok_iff, run_lift, run_create, Option.some.injEq,
    Dispatcher.bind_eq_ok_iff]
  constructor
  · rintro ⟨kind, hKind, h, hMade, s, hNamed, hFree, rfl⟩
    exact ⟨(s, h), ⟨hNamed, kind, hKind, hMade⟩, hFree, rfl⟩
  · rintro ⟨⟨s, h⟩, ⟨hNamed, kind, hKind, hMade⟩, hFree, rfl⟩
    exact ⟨kind, hKind, h, hMade, s, hNamed, hFree, rfl⟩

theorem stands_iff {b : Scheme × Handler} (hTrim : Text.trim item = item) :
    r.Stands c props item b ↔ b.1.IsNamed item ∧ r.Provides c props b.1 b.2 := by
  unfold Stands Provides
  simp only [Dispatcher.kindFor_eq_ok_iff]
  refine and_congr_right fun hNamed => ?_
  rw [handlerKey_eq hNamed hTrim]
  constructor
  · rintro ⟨_, ⟨text, hText, hBlank, hOther, rfl⟩, hMade⟩
    exact ⟨text, hText, hBlank, hOther, hMade⟩
  · rintro ⟨text, hText, hBlank, hOther, hMade⟩
    exact ⟨_, ⟨text, hText, hBlank, hOther, rfl⟩, hMade⟩

theorem forall₂_stands_iff {items : List String} {bindings : List (Scheme × Handler)}
    (hTrim : ∀ item ∈ items, Text.trim item = item) :
    List.Forall₂ (r.Stands c props) items bindings ↔
      List.Forall₂ (fun item s => s.IsNamed item) items (bindings.map Prod.fst) ∧
        ∀ b ∈ bindings, r.Provides c props b.1 b.2 := by
  induction items generalizing bindings with
  | nil =>
    rw [List.forall₂_nil_left_iff, List.forall₂_nil_left_iff, List.map_eq_nil_iff]
    constructor
    · rintro rfl
      exact ⟨rfl, List.forall_mem_nil _⟩
    · exact And.left
  | cons item items ih =>
    rw [List.forall_mem_cons] at hTrim
    cases bindings with
    | nil => simp
    | cons b bindings =>
      rw [List.map_cons, List.forall₂_cons, List.forall₂_cons, List.forall_mem_cons,
        stands_iff hTrim.1, ih hTrim.2]
      exact and_and_and_comm

theorem trim_of_mem_schemeItems {text : String} (h : item ∈ schemeItems text) :
    Text.trim item = item := by
  obtain ⟨part, -, rfl⟩ := List.mem_map.mp (List.mem_of_mem_filter h)
  exact Text.trim_trim part

theorem exists_bindings {schemes : List Scheme}
    (h : ∀ s ∈ schemes, ∃ handler, r.Provides c props s handler) :
    ∃ d : Dispatcher, d.schemes = schemes ∧ ∀ b ∈ d.bindings, r.Provides c props b.1 b.2 := by
  induction schemes with
  | nil => exact ⟨{}, rfl, List.forall_mem_nil _⟩
  | cons s schemes ih =>
    rw [List.forall_mem_cons] at h
    obtain ⟨handler, hFirst⟩ := h.1
    obtain ⟨d, rfl, hRest⟩ := ih h.2
    exact ⟨⟨(s, handler) :: d.bindings⟩, rfl, List.forall_mem_cons.mpr ⟨hFirst, hRest⟩⟩

theorem run_foldlM_bindPart_eq_ok_iff {text : String} :
    r.run ((schemeItems text).foldlM (bindPart c props) {}) = some (.ok d) ↔
      Lists text d.schemes ∧ (∀ b ∈ d.bindings, r.Provides c props b.1 b.2) ∧
        d.schemes.Nodup := by
  let Gives (m : Making Dispatcher) (d : Dispatcher) : Prop := r.run m = some (.ok d)
  have hPure : ∀ d e, Gives (pure d) e ↔ d = e := by
    intro d e
    change r.run (.done (.ok d)) = some (.ok e) ↔ d = e
    rw [run, Option.some.injEq, Except.ok.injEq]
  have hNone : ({} : Dispatcher).schemes.Nodup := List.nodup_nil
  have hStep : ∀ (d : Dispatcher) (item : String) (e : Dispatcher),
      Gives (bindPart c props d item) e ↔
        ∃ b, r.Stands c props item b ∧ b.1 ∉ d.schemes ∧ e = ⟨d.bindings ++ [b]⟩ :=
    fun d item e => run_bindPart_eq_ok_iff
  have hAll : List.Forall₂ (r.Stands c props) (schemeItems text) d.bindings ↔
      Lists text d.schemes ∧ ∀ b ∈ d.bindings, r.Provides c props b.1 b.2 := by
    rw [lists_iff]
    exact forall₂_stands_iff fun item => trim_of_mem_schemeItems
  have hBind : ∀ (x : Making Dispatcher) (f : Dispatcher → Making Dispatcher) (e : Dispatcher),
      Gives (x >>= f) e ↔ ∃ d, Gives x d ∧ Gives (f d) e := fun _ _ _ => run_bind_eq_ok_iff
  refine (Dispatcher.foldlM_bind_iff Gives hPure hBind hStep hNone).trans ?_
  rw [← and_assoc, ← hAll]
  constructor
  · rintro ⟨more, hMore, rfl, hNodup⟩
    exact ⟨hMore, hNodup⟩
  · rintro ⟨hMore, hNodup⟩
    exact ⟨d.bindings, hMore, rfl, hNodup⟩

theorem run_ofProperties {list : String} (hList : props.get? Dispatcher.schemesKey = some list) :
    r.run (Dispatcher.ofProperties c props) = some (.ok d) ↔
      r.run ((schemeItems list).foldlM (bindPart c props) {}) = some (.ok d) ∧ d.schemes ≠ [] := by
  have hEmpty : ∀ d : Dispatcher, d.bindings.isEmpty = true ↔ d.schemes = [] := by
    intro d
    rw [List.isEmpty_iff, Dispatcher.schemes, List.map_eq_nil_iff]
  unfold Dispatcher.ofProperties
  rw [hList]
  dsimp only
  rw [run_bind_eq_ok_iff]
  constructor
  · rintro ⟨bound, hBound, hRest⟩
    split at hRest
    · obtain ⟨_, hFail, -⟩ := run_bind_eq_ok_iff.mp hRest
      rw [run_lift] at hFail
      cases hFail
    · rename_i hNotEmpty
      rw [run_pure] at hRest
      cases hRest
      exact ⟨hBound, fun hNone => hNotEmpty ((hEmpty d).mpr hNone)⟩
  · rintro ⟨hBound, hNotEmpty⟩
    refine ⟨d, hBound, ?_⟩
    rw [if_neg fun hNone => hNotEmpty ((hEmpty d).mp hNone)]
    exact run_pure d

/-- What comes out is the dispatcher with the handlers that the configuration describes. -/
theorem run_makeDispatcher_eq_ok_iff :
    r.run (makeDispatcher c props) = some (.ok h) ↔
      ∃ d : Dispatcher, h = d.handler ∧ r.Describes c props d.schemes ∧
        ∀ b ∈ d.bindings, r.Provides c props b.1 b.2 := by
  unfold makeDispatcher
  simp only [run_bind_eq_ok_iff, run_pure, Option.some.injEq, Except.ok.injEq]
  constructor
  · rintro ⟨d, hRun, rfl⟩
    cases hList : props.get? Dispatcher.schemesKey with
    | none =>
      rw [Dispatcher.ofProperties, hList] at hRun
      dsimp only at hRun
      rw [run_lift] at hRun
      cases hRun
    | some text =>
      obtain ⟨hBound, hNotEmpty⟩ := (run_ofProperties hList).mp hRun
      obtain ⟨hLists, hProvided, hDistinct⟩ := run_foldlM_bindPart_eq_ok_iff.mp hBound
      refine ⟨d, rfl, ⟨⟨text, hList, hLists⟩, hNotEmpty, hDistinct, fun s hs => ?_⟩, hProvided⟩
      obtain ⟨handler, hBinding⟩ := Dispatcher.mem_schemes_iff.mp hs
      exact ⟨handler, hProvided (s, handler) hBinding⟩
  · rintro ⟨d, rfl, ⟨⟨text, hList, hLists⟩, hNotEmpty, hDistinct, -⟩, hProvided⟩
    have hBound := run_foldlM_bindPart_eq_ok_iff.mpr ⟨hLists, hProvided, hDistinct⟩
    exact ⟨d, (run_ofProperties hList).mpr ⟨hBound, hNotEmpty⟩, rfl⟩

/-- **How dispatchers are made.** Take a registry that comes from the usual one by adding ways of
making handlers that are no dispatchers, under names other than that of dispatchers. They may ask
this registry for handlers themselves; if what they do with a configuration comes to an end, so does
the call for a dispatcher, whatever the configuration is. A dispatcher comes out exactly if the
configuration lists schemes, at least one and each once, and names for each of them a kind of
handler that is not the kind of dispatchers and can be made. It has the handlers that are made so,
bound to the schemes in the order of the list, and none of them is a dispatcher. -/
theorem create_dispatcher_exact (hr : r.Extends added)
    (hName : Text.sameText (Text.trim name) Dispatcher.usualKind = true) :
    ((∀ entry ∈ added, r.Ends (entry.2 c props)) →
      ∃ result, r.create c props name = some result) ∧
    (∀ result, r.Makes (.create c props name) result ↔ r.create c props name = some result) ∧
    ((∃ h, r.create c props name = some (.ok h)) ↔ ∃ schemes, r.Describes c props schemes) ∧
    ∀ h, r.create c props name = some (.ok h) →
      ∃ d : Dispatcher, h = d.handler ∧ r.Describes c props d.schemes ∧
        ∀ b ∈ d.bindings, r.Provides c props b.1 b.2 ∧ ¬ b.2.IsDispatcher := by
  have hCreate : r.create c props name = r.run (makeDispatcher c props) :=
    create_of_find? (hr.find?_dispatcher hName)
  refine ⟨fun hEnds => ?_, fun result => ?_, ?_, ?_⟩
  · rw [hCreate, ← ends_iff]
    exact ends_makeDispatcher hr hEnds
  · rw [makes_iff, run_create]
  · rw [hCreate]
    constructor
    · rintro ⟨h, hMade⟩
      obtain ⟨d, -, hDescribes, -⟩ := run_makeDispatcher_eq_ok_iff.mp hMade
      exact ⟨d.schemes, hDescribes⟩
    · rintro ⟨schemes, hDescribes⟩
      obtain ⟨d, rfl, hProvided⟩ := exists_bindings hDescribes.provided
      exact ⟨d.handler, run_makeDispatcher_eq_ok_iff.mpr ⟨d, rfl, hDescribes, hProvided⟩⟩
  · intro h hMade
    rw [hCreate] at hMade
    obtain ⟨d, rfl, hDescribes, hProvided⟩ := run_makeDispatcher_eq_ok_iff.mp hMade
    refine ⟨d, rfl, hDescribes, fun b hb => ⟨hProvided b hb, ?_⟩⟩
    obtain ⟨text, -, -, hOther, hPart⟩ := hProvided b hb
    rw [← Text.trim_trim] at hOther
    exact hr.not_isDispatcher hOther hPart

/-- A list with odd spellings and a blank item, and two kinds of handlers that were added, one of
which is made through the registry. -/
theorem create_dispatcher_exact_guests :
    let guest : Handler := PseudoHandler.handler {}
    let added : List (String × Maker) :=
      [("Guest", fun _ _ => .done (.ok guest)), ("Friend", fun c props => .create c props "guest")]
    let r := usual.registerAll added
    let props := Properties.ofList [
      ("multi-scheme-auth-handler.schemes", " Basic , ,NEGOTIATE"),
      ("multi-scheme-auth-handler.schemes.basic.handler", " guest "),
      ("multi-scheme-auth-handler.schemes.negotiate.handler", "FRIEND")]
    r.Extends added ∧ Text.sameText (Text.trim " Multi-Scheme") Dispatcher.usualKind = true ∧
    (∀ props, ∃ result, r.create {} props " Multi-Scheme" = some result) ∧
    ∃ d : Dispatcher, r.create {} props " Multi-Scheme" = some (.ok d.handler) ∧
      d.schemes = [.basic, .negotiate] := by
  intro guest added r props
  have hPlain : ¬ guest.IsDispatcher := by
    have hKind : PseudoHandler.usualKind ≠ Dispatcher.usualKind := by decide
    exact Handler.not_isDispatcher_of_kind hKind
  have hGuest : ∀ c props text, Text.sameText (Text.trim text) "Friend" = false →
      Text.sameText (Text.trim text) "Guest" = true → r.create c props text = some (.ok guest) := by
    intro c props text hOther hSame
    have hFind : r.find? text = some fun _ _ => .done (.ok guest) := by
      have hLast : LastOf (Text.trim text) added fun _ _ => .done (.ok guest) :=
        ⟨[], "Guest", _, rfl, hSame, by simp [hOther]⟩
      exact find?_registerAll_of_lastOf hLast
    rw [create_of_find? hFind, run]
  have hFriend : ∀ c props, r.run (.create c props "guest") = some (.ok guest) := fun c props =>
    run_create.trans (hGuest c props "guest" (by decide +kernel) (by decide +kernel))
  have hr : r.Extends added := by
    refine ⟨rfl, by decide, ?_⟩
    simp only [added, List.forall_mem_cons, List.not_mem_nil, false_imp_iff, implies_true, and_true]
    constructor
    · intro c props h hMakes
      cases makes_done_iff.mp hMakes
      exact hPlain
    · intro c props h hMakes
      cases hMakes.run_eq.symm.trans (hFriend c props)
      exact hPlain
  have hEnds : ∀ props, ∀ entry ∈ added, r.Ends (entry.2 {} props) := by
    intro props
    simp only [added, List.forall_mem_cons, List.not_mem_nil, false_imp_iff, implies_true, and_true]
    exact ⟨ends_of_direct (.done _), ends_iff.mpr ⟨_, hFriend {} props⟩⟩
  have hName : Text.sameText (Text.trim " Multi-Scheme") Dispatcher.usualKind = true := by
    decide +kernel
  have hList : props.get? Dispatcher.schemesKey = some " Basic , ,NEGOTIATE" := by decide +kernel
  have hLists : Lists " Basic , ,NEGOTIATE" [.basic, .negotiate] := by
    have hItems : schemeItems " Basic , ,NEGOTIATE" = ["Basic", "NEGOTIATE"] := by decide +kernel
    rw [lists_iff, hItems]
    exact .cons (by decide +kernel) (.cons (by decide +kernel) .nil)
  have hBasic : r.Provides {} props .basic guest :=
    ⟨" guest ", by decide +kernel, by decide +kernel, by decide +kernel,
      hGuest _ _ _ (by decide +kernel) (by decide +kernel)⟩
  have hNegotiate : r.Provides {} props .negotiate guest := by
    refine ⟨"FRIEND", by decide +kernel, by decide +kernel, by decide +kernel, ?_⟩
    have hLast : LastOf (Text.trim (Text.trim "FRIEND")) added fun c props =>
        .create c props "guest" := ⟨[_], "Friend", [], rfl, by decide +kernel, by simp⟩
    exact (create_of_find? (find?_registerAll_of_lastOf hLast)).trans (hFriend _ _)
  have hDescribes : r.Describes {} props [.basic, .negotiate] := by
    refine ⟨⟨_, hList, hLists⟩, by decide, by decide, ?_⟩
    simp only [List.forall_mem_cons]
    exact ⟨⟨guest, hBasic⟩, ⟨guest, hNegotiate⟩, List.forall_mem_nil _⟩
  have hCalls : ∀ props, ∃ result, r.create {} props " Multi-Scheme" = some result :=
    fun props => (create_dispatcher_exact hr hName).1 (hEnds props)
  obtain ⟨-, -, hSucceeds, hGives⟩ := @create_dispatcher_exact r {} props _ added hr hName
  obtain ⟨h, hCreate⟩ := hSucceeds.mpr ⟨_, hDescribes⟩
  obtain ⟨d, rfl, hParts, -⟩ := hGives h hCreate
  obtain ⟨text, hText, hSchemes⟩ := hParts.listed
  rw [hList, Option.some.injEq] at hText
  subst hText
  exact ⟨hr, hName, hCalls, d, hCreate, hSchemes.unique hLists⟩

/-! ## Calls without an end -/

/-- The making of a dispatcher starts with the making of the first part. -/
theorem makeDispatcher_eq_creates {list : String} {items : List String}
    (hList : props.get? Dispatcher.schemesKey = some list)
    (hItems : schemeItems list = item :: items) (hKind : kindFor props item = .ok kind) :
    ∃ next, makeDispatcher c props = .creates c props kind next := by
  have hLift : (liftM (kindFor props item) : Making String) = .done (.ok kind) :=
    congrArg Making.done hKind
  rw [makeDispatcher, Dispatcher.ofProperties, hList]
  dsimp only
  rw [hItems, List.foldlM_cons, bindPart, hLift]
  exact ⟨_, rfl⟩

/-- A kind of handler that is no dispatcher, but for which the registry is asked for one first. If
the configuration names it for a part, the call for the dispatcher has no end. -/
theorem create_dispatcher_unending :
    let added : List (String × Maker) := [("guest", fun c props => do
      let _ ← .create c props Dispatcher.usualKind
      return PseudoHandler.handler {})]
    let r := usual.registerAll added
    let props := Properties.ofList [
      ("multi-scheme-auth-handler.schemes", "Basic"),
      ("multi-scheme-auth-handler.schemes.basic.handler", "guest")]
    r.Extends added ∧ ∀ c, r.create c props Dispatcher.usualKind = none := by
  intro added r props
  have hr : r.Extends added := by
    refine ⟨rfl, by decide, ?_⟩
    simp only [added, List.forall_mem_singleton]
    intro c props h hMakes
    obtain ⟨_, -, hMade⟩ := run_bind_eq_ok_iff.mp hMakes.run_eq
    rw [run_pure] at hMade
    cases hMade
    have hKind : PseudoHandler.usualKind ≠ Dispatcher.usualKind := by decide
    exact Handler.not_isDispatcher_of_kind hKind
  refine ⟨hr, fun c => ?_⟩
  have hKind : kindFor props "Basic" = .ok "guest" := by
    rw [Dispatcher.kindFor_eq_ok_iff]
    exact ⟨"guest", by decide +kernel, by decide +kernel, by decide +kernel, by decide +kernel⟩
  have hGuest : LastOf (Text.trim "guest") added (added.head (List.cons_ne_nil _ _)).2 :=
    ⟨[], "guest", [], rfl, by decide +kernel, List.forall_mem_nil _⟩
  have hStart : ∀ name, name = Dispatcher.usualKind ∨ name = "guest" →
      ∃ maker kind next, r.find? name = some maker ∧ maker c props = .creates c props kind next ∧
        (kind = Dispatcher.usualKind ∨ kind = "guest") := by
    rintro name (rfl | rfl)
    · obtain ⟨next, hNext⟩ := @makeDispatcher_eq_creates c props "Basic" "guest" "Basic" []
        (by decide +kernel) (by decide +kernel) hKind
      exact ⟨_, _, next, hr.find?_dispatcher (by decide +kernel), hNext, .inr rfl⟩
    · exact ⟨_, _, _, find?_registerAll_of_lastOf hGuest, rfl, .inl rfl⟩
  exact create_eq_none_of_circular hStart (.inl rfl)

/-! ## What the making of a dispatcher asks -/

theorem asks_bindPart (h : r.Asks (bindPart c props d item) name) :
    ∃ kind, kindFor props item = .ok kind ∧ r.Asks (.create c props kind) name := by
  obtain hNone | ⟨kind, hKind, hRest⟩ := h.of_bind
  · exact absurd hNone not_asks_done
  · obtain hCall | ⟨handler, -, hNone⟩ := hRest.of_bind
    · exact ⟨kind, makes_done_iff.mp hKind, hCall⟩
    · exact absurd hNone not_asks_done

theorem asks_foldlM_bindPart {items : List String}
    (h : r.Asks (items.foldlM (bindPart c props) d) name) :
    ∃ item ∈ items, ∃ kind, kindFor props item = .ok kind ∧
      r.Asks (.create c props kind) name := by
  induction items generalizing d with
  | nil => exact absurd h not_asks_done
  | cons item items ih =>
    rw [List.foldlM_cons] at h
    obtain hPart | ⟨next, -, hRest⟩ := h.of_bind
    · exact ⟨item, List.mem_cons_self, asks_bindPart hPart⟩
    · obtain ⟨later, hLater, hAsked⟩ := ih hRest
      exact ⟨later, List.mem_cons_of_mem _ hLater, hAsked⟩

/-- The registry is asked for the kinds that the configuration names, and for what is asked on the
way to these. -/
theorem asks_makeDispatcher (h : r.Asks (makeDispatcher c props) name) :
    ∃ list item kind, props.get? Dispatcher.schemesKey = some list ∧ item ∈ schemeItems list ∧
      kindFor props item = .ok kind ∧ r.Asks (.create c props kind) name := by
  obtain hParts | ⟨d, -, hNone⟩ := h.of_bind
  · cases hList : props.get? Dispatcher.schemesKey with
    | none =>
      rw [Dispatcher.ofProperties, hList] at hParts
      exact absurd hParts not_asks_done
    | some list =>
      rw [Dispatcher.ofProperties, hList] at hParts
      obtain hFold | ⟨d, -, hNone⟩ := hParts.of_bind
      · obtain ⟨item, hItem, kind, hKind, hAsked⟩ := asks_foldlM_bindPart hFold
        exact ⟨list, item, kind, rfl, hItem, hKind, hAsked⟩
      · refine absurd hNone ?_
        split
        · exact not_asks_done
        · exact not_asks_done
  · exact absurd hNone not_asks_done

end Registry

end SignOn
