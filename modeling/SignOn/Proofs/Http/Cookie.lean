import SignOn.Http.Cookie
import SignOn.Proofs.Http.Plain
import SignOn.Proofs.Text.Blank
import SignOn.Proofs.Text.Split

/-!
# Writing cookies and reading them

Nothing in a cookie is escaped, so what can be said of a cookie depends on the semicolons in its
parts. Where the parts are free of them, the text of a cookie is cut into exactly these parts
(`pieces_encode_text`), and a client that sends back what stands in front of the first semicolon
sends name and value as they were (`before_encode_text`). Whatever is read from a cookie was sent
(`value?_isInfix`), and a value that begins and ends with something other than white space is read
as it is (`value?_of_sent`). Whoever gets the text of a cookie reads its attributes as well
(`parse?_text`).
-/

namespace SignOn.Http.Cookie

open SignOn.Text (Bytes)

variable {c : Cookie}

/-! ## Writing -/

theorem text_toList (c : Cookie) :
    c.text.toList =
      [';'].intercalate (c.pairText.toList :: c.attributes.map fun a => ' ' :: a.toList) := by
  rw [text, String.toList_intercalate, List.map_cons]
  generalize c.pairText = first
  induction c.attributes generalizing first with
  | nil => rfl
  | cons a rest ih =>
    rw [List.map_cons, List.intercalate_cons_cons, ih a, List.map_cons, List.intercalate_cons_cons,
      List.intercalate_cons_cons_left]
    simp

theorem isPlain_dropDot {s : String} (h : IsPlain s) : IsPlain (dropDot s) := by
  unfold dropDot
  split
  · rename_i rest hRest
    intro c hc
    rw [String.toList_ofList] at hc
    exact h c (hRest ▸ List.mem_cons_of_mem _ hc)
  · exact h

/-- All attributes but the path and the domain are plain by themselves. -/
theorem mem_attributes {a : String} (h : a ∈ c.attributes) :
    IsPlain a ∨ (∃ p, c.path = some p ∧ "Path=" ++ p = a) ∨
      ∃ d, c.domain = some d ∧ "Domain=" ++ dropDot d = a := by
  simp only [attributes, List.mem_append, Option.mem_toList, Option.map_eq_some_iff] at h
  rcases h with ((((h | h) | hPath) | hDomain) | ⟨n, -, rfl⟩) | ⟨s, hs, rfl⟩
  · split at h
    · rw [List.mem_singleton.mp h]
      exact .inl (by decide)
    · cases h
  · split at h
    · rw [List.mem_singleton.mp h]
      exact .inl (by decide)
    · cases h
  · exact .inr (.inl hPath)
  · exact .inr (.inr hDomain)
  · exact .inl (isPlain_append.mpr ⟨by decide, isPlain_print n⟩)
  · obtain ⟨seconds, -, hDate⟩ := Option.bind_eq_some_iff.mp hs
    exact .inl (isPlain_append.mpr ⟨by decide, isPlain_date hDate⟩)

theorem isPlain_of_mem_attributes (hPath : ∀ p, c.path = some p → IsPlain p)
    (hDomain : ∀ d, c.domain = some d → IsPlain d) : ∀ a ∈ c.attributes, IsPlain a := by
  intro a ha
  rcases mem_attributes ha with h | ⟨p, hp, rfl⟩ | ⟨d, hd, rfl⟩
  · exact h
  · exact isPlain_append.mpr ⟨by decide, hPath p hp⟩
  · exact isPlain_append.mpr ⟨by decide, isPlain_dropDot (hDomain d hd)⟩

theorem forall_mem_text_iff {P : Char → Prop} (hSemicolon : P ';') (hBlank : P ' ') :
    (∀ d ∈ c.text.toList, P d) ↔
      (∀ d ∈ c.pairText.toList, P d) ∧ ∀ a ∈ c.attributes, ∀ d ∈ a.toList, P d := by
  have hSep : ∀ d ∈ "; ".toList, P d := List.forall_mem_cons.mpr
    ⟨hSemicolon, List.forall_mem_singleton.mpr hBlank⟩
  rw [text]
  generalize c.pairText = first
  induction c.attributes generalizing first with
  | nil => simp
  | cons a rest ih =>
    have hRest := ih a
    simp only [String.intercalate_cons_cons, String.toList_append, List.forall_mem_append,
      List.forall_mem_cons, hRest]
    constructor
    · rintro ⟨⟨h, -⟩, h'⟩
      exact ⟨h, h'⟩
    · rintro ⟨h, h'⟩
      exact ⟨⟨h, hSep⟩, h'⟩

/-- The text of a cookie may stand in a header field exactly if all of its parts may. -/
theorem admits_text_iff :
    Headers.Admits c.text ↔
      Headers.Admits c.pairText ∧ ∀ a ∈ c.attributes, Headers.Admits a := by
  simp only [Headers.admits_iff]
  exact forall_mem_text_iff (by decide) (by decide)

theorem encode_text (c : Cookie) :
    Text.Utf8.encode c.text =
      [0x3B].intercalate (Text.Utf8.encode c.pairText ::
        c.attributes.map fun a => 0x20 :: Text.Utf8.encode a) := by
  have hSep : [';'].flatMap String.utf8EncodeChar = [0x3B] := rfl
  have hBlank : ∀ cs : List Char, (' ' :: cs).flatMap String.utf8EncodeChar =
      0x20 :: cs.flatMap String.utf8EncodeChar := fun _ => rfl
  rw [Text.Utf8.encode, text_toList, Text.Utf8.flatMap_intercalate, hSep, List.map_cons,
    List.map_map]
  simp only [Function.comp_def, hBlank, Text.Utf8.encode]

theorem semicolon_mem_encode_iff {s : String} :
    0x3B ∈ Text.Utf8.encode s ↔ ';' ∈ s.toList :=
  Text.Utf8.mem_encode_iff (d := ';') (by decide)

/-- Cut at its semicolons, the text of a cookie falls into the pair of name and value and, each
behind a blank, the attributes. -/
theorem pieces_encode_text (hPair : ';' ∉ c.pairText.toList)
    (hAttributes : ∀ a ∈ c.attributes, IsPlain a) :
    Text.pieces 0x3B (Text.Utf8.encode c.text) =
      Text.Utf8.encode c.pairText :: c.attributes.map fun a => 0x20 :: Text.Utf8.encode a := by
  rw [encode_text]
  refine Text.pieces_intercalate (List.cons_ne_nil _ _) ?_
  intro part hPart
  rcases List.mem_cons.mp hPart with rfl | hPart
  · exact fun h => hPair (semicolon_mem_encode_iff.mp h)
  · obtain ⟨a, ha, rfl⟩ := List.mem_map.mp hPart
    rw [List.mem_cons, semicolon_mem_encode_iff, not_or]
    exact ⟨by decide, (hAttributes a ha).not_mem⟩

/-- What stands in front of the first semicolon, in bytes as in characters. -/
theorem before_encode {s head : String} {rest : List Char} (hHead : ';' ∉ head.toList)
    (h : s.toList = head.toList ++ ';' :: rest) :
    Text.before 0x3B (Text.Utf8.encode s) = Text.Utf8.encode head := by
  have hBytes : Text.Utf8.encode s =
      Text.Utf8.encode head ++ 0x3B :: rest.flatMap String.utf8EncodeChar := by
    rw [Text.Utf8.encode, h, List.flatMap_append]
    rfl
  rw [hBytes]
  exact Text.before_append (fun hMem => hHead (semicolon_mem_encode_iff.mp hMem)) _

/-- A cookie that is kept from scripts goes on with a semicolon behind its value. -/
theorem text_toList_of_httpOnly (h : c.httpOnly = true) :
    ∃ rest, c.text.toList = c.pairText.toList ++ ';' :: rest := by
  have hAttributes : ∃ rest, c.attributes = "HttpOnly" :: rest := by
    simp [attributes, h]
  obtain ⟨rest, hRest⟩ := hAttributes
  rw [text_toList, hRest, List.map_cons, List.intercalate_cons_cons, List.append_assoc]
  exact ⟨_, rfl⟩

/-- Its name and value are sent back as they are if they are free of semicolons. -/
theorem before_encode_text (h : c.httpOnly = true) (hWhole : ';' ∉ c.pairText.toList) :
    Text.before 0x3B (Text.Utf8.encode c.text) = Text.Utf8.encode c.pairText := by
  obtain ⟨rest, hText⟩ := text_toList_of_httpOnly h
  exact before_encode hWhole hText

/-! ## Reading -/

theorem stripBy_isInfix {α : Type} (p : α → Bool) (xs : List α) : Text.stripBy p xs <:+: xs := by
  exact (Text.stripBy_isPrefix p xs).isInfix.trans (List.dropWhile_suffix p).isInfix

/-- The value of a cookie stands in the text that it is read from. -/
theorem ofPair?_isInfix {cs : List Char} (h : ofPair? cs = some c) : c.value.toList <:+: cs := by
  unfold ofPair? at h
  split at h
  · rename_i name value hCut
    split at h
    · cases h
    · cases h
      have hTrimmed : (trimmed value).toList <:+: value := by
        rw [trimmed, String.toList_ofList]
        exact stripBy_isInfix _ _
      rw [Text.eq_of_cut? hCut]
      exact hTrimmed.trans ⟨name ++ ['='], [], by simp⟩
  · cases h

/-- A value that is read stands in a readable field. -/
theorem value?_isInfix {headers : Headers} {name value : String}
    (h : value? headers name = some value) :
    ∃ field ∈ headers.getAll cookieField, ∃ s, Headers.readable? field = some s ∧
      value.toList <:+: s.toList := by
  obtain ⟨c, hFind, rfl⟩ := Option.map_eq_some_iff.mp h
  obtain ⟨s, hs, hSent⟩ := List.mem_flatMap.mp (List.mem_of_find?_eq_some hFind)
  obtain ⟨field, hField, hRead⟩ := List.mem_filterMap.mp hs
  obtain ⟨piece, hPiece, hPair⟩ := List.mem_filterMap.mp hSent
  exact ⟨field, hField, s, hRead,
    (ofPair?_isInfix hPair).trans (Text.isInfix_of_mem_pieces hPiece)⟩

theorem trimmed_of_ends {a b : Char} (ha : Text.isBlank a = false) (hb : Text.isBlank b = false)
    (cs : List Char) : trimmed (a :: (cs ++ [b])) = String.ofList (a :: (cs ++ [b])) := by
  simp [trimmed, Text.stripBy, ha, hb]

/-- A field with one pair in it is read as that pair. -/
theorem value?_of_sent {headers : Headers} {s : String}
    (hFields : headers.getAll cookieField = [Text.Utf8.encode s])
    (hRead : Headers.readable? (Text.Utf8.encode s) = some s) (hWhole : ';' ∉ s.toList)
    (hPair : ofPair? s.toList = some c) : value? headers c.name = some c.value := by
  simp [value?, Headers.texts, hFields, hRead, sent, Text.pieces_of_not_mem hWhole, hPair]

/-- A field with one pair in it that comes behind other fields is read if they have no cookie of
this name. -/
theorem value?_append_of_sent {headers : Headers} {s : String}
    (hNone : value? headers c.name = none)
    (hRead : Headers.readable? (Text.Utf8.encode s) = some s) (hWhole : ';' ∉ s.toList)
    (hPair : ofPair? s.toList = some c) :
    value? (headers.append cookieField (Text.Utf8.encode s)) c.name = some c.value := by
  rw [value?, Option.map_eq_none_iff] at hNone
  rw [value?, Headers.texts, Headers.getAll_append, List.filterMap_append, List.flatMap_append,
    List.find?_append]
  rw [Headers.texts] at hNone
  rw [hNone]
  simp [hRead, sent, Text.pieces_of_not_mem hWhole, hPair]

/-! ## Reading what was written -/

theorem isBlank_of_numeral {d : Char} (h : d.isDigit = true ∨ d = '-') :
    Text.isBlank d = false := by
  rcases h with hDigit | rfl
  · have hRange := Text.Decimal.toNat_of_isDigit hDigit
    exact Text.isBlank_of_visible (by omega) (by omega)
  · decide

theorem trimmed_print (n : Int64) :
    trimmed (Text.Decimal.print n).toList = Text.Decimal.print n := by
  have hVisible : ∀ d ∈ (Text.Decimal.print n).toList, Text.isBlank d = false :=
    fun d hd => isBlank_of_numeral (Text.Decimal.mem_print hd)
  rw [trimmed, Text.stripBy_of_forall_not hVisible, String.ofList_toList]

/-- A lifetime is read as it was written; one that is over is read as none at all. -/
theorem lifetime?_print (n : Int64) :
    lifetime? (Text.Decimal.print n) = some (if n < 0 then 0 else n) := by
  have hDigits : ∀ k, (Text.Decimal.printNat k).all Char.isDigit = true := fun k =>
    List.all_eq_true.mpr fun d => Text.Decimal.isDigit_of_mem_printNat
  have hChars : (Text.Decimal.print n).toList = Text.Decimal.printInt n.toInt := by
    rw [Text.Decimal.print, String.toList_ofList]
  rw [lifetime?, hChars]
  cases hn : n.toInt with
  | ofNat k =>
    have hHigh := n.toInt_lt
    have hk : n.toInt = k := hn
    have hNonneg : ¬ n < 0 := by
      simp [Int64.lt_iff_toInt_lt, hk]
    have hWord : Int64.ofNat k = n := by
      rw [← Int64.toInt_inj, Int64.toInt_ofNat_of_lt (by omega), hk]
    split
    rename_i negative digits hSign
    have hPlus : (negative, digits) = (false, Text.Decimal.printNat k) := by
      rw [← hSign]
      split
      · rename_i rest hRest
        have hChars : Text.Decimal.printNat k = '-' :: rest := hRest
        have hMinus := List.all_eq_true.mp (hDigits k) '-' (hChars ▸ List.mem_cons_self ..)
        exact absurd hMinus (by decide)
      · rfl
    cases hPlus
    simp [hDigits, Text.Decimal.natural?_printNat, hNonneg, hWord,
      show k ≤ 9223372036854775807 by omega]
  | negSucc k =>
    have hNegative : n < 0 := by
      simp [Int64.lt_iff_toInt_lt, hn]
    simp [Text.Decimal.printInt, hDigits, hNegative]

/-- Attributes as they stand in the text of a cookie, read one after the other. -/
def withAttributes (c : Cookie) (attributes : List String) : Cookie :=
  (attributes.map fun a => ' ' :: a.toList).foldl withAttribute c

theorem withAttributes_append (a b : List String) :
    c.withAttributes (a ++ b) = (c.withAttributes a).withAttributes b := by
  rw [withAttributes, List.map_append, List.foldl_append, withAttributes, withAttributes]

theorem withAttributes_toList {α : Type} (f : α → String) (o : Option α) :
    c.withAttributes (o.map f).toList =
      o.elim c fun x => c.withAttribute (' ' :: (f x).toList) := by
  cases o with
  | none => rfl
  | some x =>
    rw [Option.map_some, Option.toList_some, Option.elim_some, withAttributes, List.map_singleton,
      List.foldl_cons, List.foldl_nil]

theorem withAttributes_httpOnly (httpOnly : Bool) :
    c.withAttributes (if httpOnly then ["HttpOnly"] else []) =
      { c with httpOnly := httpOnly || c.httpOnly } := by
  have hSet : c.withAttributes ["HttpOnly"] = { c with httpOnly := true } := rfl
  cases httpOnly with
  | true => exact hSet
  | false => rfl

theorem withAttributes_secure (secure : Bool) :
    c.withAttributes (if secure then ["Secure"] else []) =
      { c with secure := secure || c.secure } := by
  have hSet : c.withAttributes ["Secure"] = { c with secure := true } := rfl
  cases secure with
  | true => exact hSet
  | false => rfl

theorem withAttributes_path (h : c.path = none) (path : Option String) :
    c.withAttributes (path.map fun p => "Path=" ++ p).toList =
      { c with path := path.map fun p => trimmed p.toList } := by
  rw [withAttributes_toList]
  cases path with
  | none =>
    cases c
    cases h
    rfl
  | some p =>
    have hCut : Text.cut? '=' (' ' :: ("Path=" ++ p).toList) = some (" Path".toList, p.toList) := by
      simp [Text.cut?]
    have hKey : Text.lowerAscii (trimmed " Path".toList) = "path" := by decide
    simp only [Option.elim_some, withAttribute, hCut, hKey, Option.map_some]

theorem withAttributes_domain (h : c.domain = none) (domain : Option String) :
    c.withAttributes (domain.map fun d => "Domain=" ++ dropDot d).toList =
      { c with domain := (domain.map fun d => trimmed (dropDot d).toList).filter (· ≠ "") } := by
  rw [withAttributes_toList]
  cases domain with
  | none =>
    cases c
    cases h
    rfl
  | some d =>
    have hCut : Text.cut? '=' (' ' :: ("Domain=" ++ dropDot d).toList) =
        some (" Domain".toList, (dropDot d).toList) := by
      simp [Text.cut?]
    have hKey : Text.lowerAscii (trimmed " Domain".toList) = "domain" := by decide
    simp only [Option.elim_some, withAttribute, hCut, hKey, Option.map_some, Option.filter_some]
    split
    · rename_i hBlank
      simp [hBlank, ← h]
    · rename_i hFull
      simp [hFull]

theorem withAttributes_maxAge (h : c.maxAge = none) (maxAge : Option Int64) :
    c.withAttributes (maxAge.map fun n => "Max-Age=" ++ Text.Decimal.print n).toList =
      { c with maxAge := maxAge.map fun n => if n < 0 then 0 else n } := by
  rw [withAttributes_toList]
  cases maxAge with
  | none =>
    cases c
    cases h
    rfl
  | some n =>
    have hCut : Text.cut? '=' (' ' :: ("Max-Age=" ++ Text.Decimal.print n).toList) =
        some (" Max-Age".toList, (Text.Decimal.print n).toList) := by
      simp [Text.cut?]
    have hKey : Text.lowerAscii (trimmed " Max-Age".toList) = "max-age" := by decide
    simp only [Option.elim_some, withAttribute, hCut, hKey, trimmed_print, lifetime?_print,
      Option.map_some]
    rfl

theorem withAttributes_expires (h : c.expires = none) (date : Option String) :
    c.withAttributes (date.map fun t => "Expires=" ++ t).toList =
      { c with expires := date.bind fun t => Date.parse? (trimmed t.toList) } := by
  rw [withAttributes_toList]
  cases date with
  | none =>
    cases c
    cases h
    rfl
  | some t =>
    have hCut : Text.cut? '=' (' ' :: ("Expires=" ++ t).toList) =
        some (" Expires".toList, t.toList) := by
      simp [Text.cut?]
    have hKey : Text.lowerAscii (trimmed " Expires".toList) = "expires" := by decide
    simp only [Option.elim_some, withAttribute, hCut, hKey, h, Option.bind_some]
    cases Date.parse? (trimmed t.toList) <;> rfl

/-- A cookie as it is read by whoever gets its text. -/
def reread (c : Cookie) : Cookie :=
  { c with
    path := c.path.map fun p => trimmed p.toList
    domain := (c.domain.map fun d => trimmed (dropDot d).toList).filter (· ≠ "")
    maxAge := c.maxAge.map fun n => if n < 0 then 0 else n
    expires := (c.expires.bind Date.text?).bind fun t => Date.parse? (trimmed t.toList) }

theorem withAttributes_attributes (c : Cookie) :
    ({ name := c.name, value := c.value } : Cookie).withAttributes c.attributes = c.reread := by
  rw [attributes, withAttributes_append, withAttributes_append, withAttributes_append,
    withAttributes_append, withAttributes_append, withAttributes_httpOnly, withAttributes_secure,
    withAttributes_path rfl, withAttributes_domain rfl, withAttributes_maxAge rfl,
    withAttributes_expires rfl, reread, Bool.or_false, Bool.or_false]

/-- A cookie whose name and value are read as they are is read with all of its attributes. -/
theorem parse?_text (hPair : ofPair? c.pairText.toList = some { name := c.name, value := c.value })
    (hWhole : ';' ∉ c.pairText.toList) (hAttributes : ∀ a ∈ c.attributes, IsPlain a) :
    parse? c.text = some c.reread := by
  have hPieces : Text.pieces ';' c.text.toList =
      c.pairText.toList :: c.attributes.map fun a => ' ' :: a.toList := by
    rw [text_toList]
    refine Text.pieces_intercalate (List.cons_ne_nil _ _) ?_
    intro part hPart
    rcases List.mem_cons.mp hPart with rfl | hPart
    · exact hWhole
    · obtain ⟨a, ha, rfl⟩ := List.mem_map.mp hPart
      rw [List.mem_cons, not_or]
      exact ⟨by decide, (hAttributes a ha).not_mem⟩
  rw [parse?, hPieces]
  dsimp only
  rw [hPair, Option.map_some, ← withAttributes_attributes, withAttributes]

end SignOn.Http.Cookie
