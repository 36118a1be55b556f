import IntentPolicy.Proofs.Web.PercentDecoding
import IntentPolicy.Web.Url

namespace IntentPolicy

/-!
# Segments behind a path

A text behind a path is one more segment that is decoded to the text, unless it is dots or
holds a tab or a line end: dots lead to another place, and tabs and line ends are dropped.
-/

namespace UrlPath

/-- A segment can stand for the text: it is neither one dot nor two, and nothing in it is
dropped. -/
def IsAddressable (text : String) : Prop :=
  text ≠ "." ∧ text ≠ ".." ∧
    ∀ character ∈ text.toList, character ≠ '\t' ∧ character ≠ '\n' ∧ character ≠ '\r'

/-- What a segment keeps of a text. -/
def keptInSegment (text : String) : List Char :=
  text.toList.filter fun character =>
    character != '\t' && character != '\n' && character != '\r'

/-- A text keeps everything exactly if it holds no tab and no line end. -/
theorem keptInSegment_eq_iff
    {text : String} :
    keptInSegment text = text.toList ↔
      ∀ character ∈ text.toList, character ≠ '\t' ∧ character ≠ '\n' ∧ character ≠ '\r' := by
  rw [keptInSegment, List.filter_eq_self]
  simp [and_assoc]

instance : DecidablePred IsAddressable := fun text =>
  decidable_of_iff (text ≠ "." ∧ text ≠ ".." ∧ keptInSegment text = text.toList) <| by
    rw [keptInSegment_eq_iff]
    rfl

/-- The segment that a text is encoded as. -/
def segmentOf (isSpecial : Bool) (text : String) : List Char :=
  percentEncode
    (fun character => escapedInSegment character || (isSpecial && character == '\\'))
    (keptInSegment text)

/-- The segments behind which others are put, without an empty one that is all there is. -/
def opened (segments : List String) : List String :=
  if segments = [""] then [] else segments

/-- The segments that stay in front of those that are appended to a path. -/
def standing (segments : List String) : List String :=
  opened (if 1 < segments.length && segments.getLast? == some "" then segments.dropLast
    else segments)

/-- A name that is its own segment and leaves nothing empty. -/
def IsPlainName (name : String) : Prop :=
  name ≠ "" ∧ IsAddressable name ∧
    ∀ isSpecial, String.ofList (segmentOf isSpecial name) = name

instance : DecidablePred IsPlainName := fun _ =>
  inferInstanceAs (Decidable (_ ≠ "" ∧ _ ∧ ∀ _ : Bool, _))

section Segments

variable {isSpecial : Bool} {text : String} {segment : List Char}

/-- A segment is decoded to what it has kept. -/
theorem percentDecode?_segmentOf
    (isSpecial : Bool)
    (text : String) :
    percentDecode? (segmentOf isSpecial text) = some (String.ofList (keptInSegment text)) :=
  percentDecode?_percentEncode rfl (keptInSegment text)

theorem percentDecode?_segmentOf_of_addressable
    (addressable : IsAddressable text) :
    percentDecode? (segmentOf isSpecial text) = some text := by
  rw [percentDecode?_segmentOf, keptInSegment_eq_iff.mpr addressable.2.2, String.ofList_toList]

/-- Texts that segments can stand for are one if their segments are. -/
theorem eq_of_segmentOf
    {other : String}
    (addressable : IsAddressable text)
    (otherAddressable : IsAddressable other)
    (sameSegment : segmentOf isSpecial text = segmentOf isSpecial other) :
    text = other := by
  have decoded : percentDecode? (segmentOf isSpecial text) = some text :=
    percentDecode?_segmentOf_of_addressable addressable
  rw [sameSegment, percentDecode?_segmentOf_of_addressable otherAddressable] at decoded
  exact (Option.some.inj decoded).symm

/-- A segment that stands for the place where it is is decoded to one dot. -/
theorem percentDecode?_of_isSingleDot
    (isDot : isSingleDot segment = true) :
    percentDecode? segment = some "." := by
  have everyForm : ∀ form ∈ [".", "%2e", "%2E"], percentBytes form.toList = [0x2E] := by decide
  have bytes := everyForm (String.ofList segment) (List.contains_iff_mem.mp isDot)
  rw [String.toList_ofList] at bytes
  exact percentDecode?_of_percentBytes bytes

/-- A segment that stands for one place up is decoded to two dots. -/
theorem percentDecode?_of_isDoubleDot
    (isDots : isDoubleDot segment = true) :
    percentDecode? segment = some ".." := by
  have everyForm : ∀ form ∈ ["..", "%2e%2e", "%2e%2E", "%2E%2e", "%2E%2E", "%2e.", "%2E.",
      ".%2e", ".%2E"], percentBytes form.toList = [0x2E, 0x2E] := by decide
  have bytes := everyForm (String.ofList segment) (List.contains_iff_mem.mp isDots)
  rw [String.toList_ofList] at bytes
  exact percentDecode?_of_percentBytes bytes

/-- What is put last is either empty or the segment itself. -/
theorem eq_of_pushSegment
    {newestFirst : List String}
    {last : String}
    (pushed : pushSegment true newestFirst segment = last :: newestFirst) :
    last = "" ∨ last = String.ofList segment := by
  rw [pushSegment] at pushed
  split at pushed
  · exact .inl (List.cons.inj pushed).1.symm
  · split at pushed
    · exact .inl (List.cons.inj pushed).1.symm
    · exact .inr (List.cons.inj pushed).1.symm

theorem appendSegment_of_ne_dots
    (notDot : text ≠ ".")
    (notDots : text ≠ "..")
    (segments : List String) :
    appendSegment isSpecial segments text =
      (pushSegment true (opened segments).reverse (segmentOf isSpecial text)).reverse :=
  if_neg (not_or.mpr ⟨notDot, notDots⟩)

/-- A text that a segment can stand for is put behind the segments. -/
theorem appendSegment_of_addressable
    (addressable : IsAddressable text)
    (segments : List String) :
    appendSegment isSpecial segments text =
      opened segments ++ [String.ofList (segmentOf isSpecial text)] := by
  have decoded : percentDecode? (segmentOf isSpecial text) = some text :=
    percentDecode?_segmentOf_of_addressable addressable
  obtain ⟨notDot, notDots, -⟩ := addressable
  have noDoubleDot : ¬ isDoubleDot (segmentOf isSpecial text) = true := fun isDots =>
    notDots (Option.some.inj (decoded.symm.trans (percentDecode?_of_isDoubleDot isDots)))
  have noSingleDot : ¬ isSingleDot (segmentOf isSpecial text) = true := fun isDot =>
    notDot (Option.some.inj (decoded.symm.trans (percentDecode?_of_isSingleDot isDot)))
  rw [appendSegment_of_ne_dots notDot notDots, pushSegment, if_neg noDoubleDot,
    if_neg noSingleDot, List.reverse_cons, List.reverse_reverse]

/-- Only a text that a segment can stand for becomes a segment of its own. -/
theorem isAddressable_of_appendSegment
    {segments : List String}
    {last : String}
    (settled : opened segments = segments)
    (appended : appendSegment isSpecial segments text = segments ++ [last])
    (decoded : percentDecode? last.toList = some text) :
    IsAddressable text := by
  by_cases dots : text = "." ∨ text = ".."
  · have sameLength := congrArg List.length appended
    rw [appendSegment, if_pos dots, List.length_append, List.length_singleton] at sameLength
    exact absurd sameLength (Nat.ne_of_lt (Nat.lt_succ_self _))
  · obtain ⟨notDot, notDots⟩ := not_or.mp dots
    refine ⟨notDot, notDots, keptInSegment_eq_iff.mp ?_⟩
    rw [appendSegment_of_ne_dots notDot notDots, settled, List.reverse_eq_iff,
      List.reverse_append, List.reverse_singleton, List.singleton_append] at appended
    rcases eq_of_pushSegment appended with rfl | rfl
    · obtain rfl : "" = text := Option.some.inj decoded
      rfl
    · rw [String.toList_ofList, percentDecode?_segmentOf] at decoded
      rw [← Option.some.inj decoded, String.toList_ofList]
      exact congrArg keptInSegment (Option.some.inj decoded)

end Segments

section Names

variable {isSpecial : Bool} {segments names : List String}

/-- Segments that are not all empty are settled. -/
theorem opened_of_mem
    {name : String}
    (member : name ∈ segments)
    (nonempty : name ≠ "") :
    opened segments = segments := by
  refine if_neg ?_
  rintro rfl
  exact nonempty (List.mem_singleton.mp member)

/-- Plain names are put behind segments as they stand. -/
theorem foldl_appendSegment
    (settled : opened segments = segments)
    (plain : ∀ name ∈ names, IsPlainName name) :
    names.foldl (appendSegment isSpecial) segments = segments ++ names := by
  induction names generalizing segments with
  | nil => exact (List.append_nil segments).symm
  | cons name names inductionHypothesis =>
      obtain ⟨⟨nonempty, addressable, itself⟩, plainBehind⟩ := List.forall_mem_cons.mp plain
      have settledBehind : opened (segments ++ [name]) = segments ++ [name] :=
        opened_of_mem (List.mem_append_right _ List.mem_cons_self) nonempty
      rw [List.foldl_cons, appendSegment_of_addressable addressable, settled, itself,
        inductionHypothesis settledBehind plainBehind, List.append_assoc, List.singleton_append]

/-- A text is appended behind plain names. -/
theorem appending_names
    (nonempty : names ≠ [])
    (plain : ∀ name ∈ names, IsPlainName name)
    (segments : List String)
    (text : String) :
    appending (.hierarchical segments) isSpecial (names ++ [text]) =
      .hierarchical (appendSegment isSpecial (standing segments ++ names) text) := by
  obtain ⟨name, behind, rfl⟩ := List.exists_cons_of_ne_nil nonempty
  obtain ⟨⟨nameNonempty, addressable, itself⟩, plainBehind⟩ := List.forall_mem_cons.mp plain
  have settled : opened (standing segments ++ [name]) = standing segments ++ [name] :=
    opened_of_mem (List.mem_append_right _ List.mem_cons_self) nameNonempty
  rw [appending, List.foldl_append, List.foldl_cons, List.foldl_nil, List.foldl_cons,
    appendSegment_of_addressable addressable, itself]
  change UrlPath.hierarchical (appendSegment isSpecial
    (behind.foldl (appendSegment isSpecial) (standing segments ++ [name])) text) = _
  rw [foldl_appendSegment settled plainBehind, List.append_assoc, List.singleton_append]

theorem opened_standing_append
    (nonempty : names ≠ [])
    (plain : ∀ name ∈ names, IsPlainName name) :
    opened (standing segments ++ names) = standing segments ++ names := by
  obtain ⟨name, behind, rfl⟩ := List.exists_cons_of_ne_nil nonempty
  exact opened_of_mem (List.mem_append_right _ List.mem_cons_self) (plain name List.mem_cons_self).1

/-- A text that a segment can stand for is the one segment behind plain names. -/
theorem appending_of_addressable
    {text : String}
    (nonempty : names ≠ [])
    (plain : ∀ name ∈ names, IsPlainName name)
    (addressable : IsAddressable text) :
    appending (.hierarchical segments) isSpecial (names ++ [text]) =
      .hierarchical (standing segments ++ names ++ [String.ofList (segmentOf isSpecial text)]) := by
  rw [appending_names nonempty plain, appendSegment_of_addressable addressable,
    opened_standing_append nonempty plain]

/-- The one segment behind plain names is decoded to the text exactly if it can stand for it. -/
theorem exists_appending_iff
    {text : String}
    (nonempty : names ≠ [])
    (plain : ∀ name ∈ names, IsPlainName name) :
    (∃ last, appending (.hierarchical segments) isSpecial (names ++ [text]) =
        .hierarchical (standing segments ++ names ++ [last]) ∧
      percentDecode? last.toList = some text) ↔ IsAddressable text := by
  constructor
  · rintro ⟨last, appended, decoded⟩
    rw [appending_names nonempty plain] at appended
    exact isAddressable_of_appendSegment (opened_standing_append nonempty plain)
      (UrlPath.hierarchical.inj appended) decoded
  · intro addressable
    refine ⟨_, appending_of_addressable nonempty plain addressable, ?_⟩
    rw [String.toList_ofList]
    exact percentDecode?_segmentOf_of_addressable addressable

end Names

end UrlPath

/-- The last segment of a path stands in the written form between parts that do not depend on
it, where something that is not empty stands in front of it. -/
theorem Url.exists_text_around
    {front : List String}
    {name : String}
    (url : Url)
    (member : name ∈ front)
    (nonempty : name ≠ "") :
    ∃ opening closing, ∀ last,
      { url with path := .hierarchical (front ++ [last]) }.text = opening ++ last ++ closing := by
  -- A URL without an authority is marked where its path opens with two marks of segments, so
  -- those have to be in front of the last segment.
  have pathText (last : String) : (UrlPath.hierarchical (front ++ [last])).text =
      (UrlPath.hierarchical front).text ++ "/" ++ last := by
    simp [UrlPath.text, String.join_append, String.append_assoc]
  have long : 2 ≤ (UrlPath.hierarchical front).text.toList.length := by
    obtain ⟨before, behind, rfl⟩ := List.append_of_mem member
    have nameLength : 0 < name.toList.length :=
      List.length_pos_iff.mpr (mt String.toList_eq_nil_iff.mp nonempty)
    simp only [UrlPath.text, List.map_append, List.map_cons, String.join_append,
      String.join_cons, String.toList_append, List.length_append]
    change _ ≤ _ + (1 + _ + _)
    omega
  have opensAlike (last : String) :
      ((UrlPath.hierarchical front).text ++ "/" ++ last).startsWith "//" =
        (UrlPath.hierarchical front).text.startsWith "//" := by
    rw [Bool.eq_iff_iff, String.startsWith_string_iff, String.startsWith_string_iff,
      String.append_assoc, String.toList_append]
    constructor
    · exact fun opens => List.prefix_of_prefix_length_le opens (List.prefix_append _ _) long
    · exact fun opens => opens.trans (List.prefix_append _ _)
  have regroup (scheme authority front last query fragment : String) :
      scheme ++ ":" ++ authority ++ (front ++ "/" ++ last ++ query) ++ fragment =
        scheme ++ ":" ++ authority ++ front ++ "/" ++ last ++ (query ++ fragment) := by
    simp only [String.append_assoc]
  -- Both parts are read off the written form.
  apply Exists.intro
  apply Exists.intro
  intro last
  rw [text, target, queryText]
  dsimp only
  rw [pathText, opensAlike]
  exact regroup _ _ _ _ _ _

end IntentPolicy
