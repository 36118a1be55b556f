import IntentPolicy.DecisionPoint.Client
import IntentPolicy.Proofs.Web.Appending

namespace IntentPolicy

/-!
# Addresses of users and policies

The decision point knows a user and a policy by the last segment of a path.  The address of
any text differs from the base URL in its path alone, but only a text that a segment can stand
for is what the last segment is decoded to.
-/

namespace DecisionPoint

variable {State : Type} {client : DecisionPoint State} {segments names : List String}

/-- An address is below the base URL: nothing but the path is other than in that one. -/
theorem endpoint_eq_of_base
    (hierarchicalBase : client.baseUrl.path = .hierarchical segments)
    (names : List String) :
    client.endpoint names =
      { client.endpoint [] with
        path := (UrlPath.hierarchical segments).appending
          (isSpecialScheme client.baseUrl.scheme) names } := by
  rw [← hierarchicalBase]
  rfl

/-- Hiding the user of the base URL hides neither its host nor its port. -/
theorem endpoint_host
    (client : DecisionPoint State)
    (names : List String) :
    (client.endpoint names).authority.map (fun authority => (authority.host, authority.port)) =
      client.baseUrl.authority.map fun authority => (authority.host, authority.port) := by
  change (client.baseUrl.authority.map _).map _ = _
  rw [Option.map_map]
  refine Option.map_congr fun authority _ => ?_
  dsimp only [Function.comp_apply]
  split <;> rfl

/-- Two texts that segments can stand for have the same address only if they are one. -/
theorem eq_of_endpoint_text
    {text other : String}
    (hierarchicalBase : client.baseUrl.path = .hierarchical segments)
    (nonempty : names ≠ [])
    (plain : ∀ name ∈ names, UrlPath.IsPlainName name)
    (addressable : UrlPath.IsAddressable text)
    (otherAddressable : UrlPath.IsAddressable other)
    (sameAddress : (client.endpoint (names ++ [text])).text =
      (client.endpoint (names ++ [other])).text) :
    text = other := by
  obtain ⟨name, member⟩ := List.exists_mem_of_ne_nil names nonempty
  obtain ⟨opening, closing, around⟩ := (client.endpoint []).exists_text_around
    (List.mem_append_right (UrlPath.standing segments) member) (plain name member).1
  have written {text : String} (addressable : UrlPath.IsAddressable text) :
      (client.endpoint (names ++ [text])).text =
        opening ++ String.ofList (UrlPath.segmentOf (isSpecialScheme client.baseUrl.scheme) text) ++
          closing := by
    rw [endpoint_eq_of_base hierarchicalBase (names ++ [text]),
      UrlPath.appending_of_addressable nonempty plain addressable]
    exact around _
  rw [written addressable, written otherAddressable, String.append_left_inj,
    String.append_right_inj] at sameAddress
  exact UrlPath.eq_of_segmentOf addressable otherAddressable (String.ofList_inj.mp sameAddress)

end DecisionPoint

/--
Whatever the text of a user or a policy is, its address has the scheme, the host, the query and
the fragment of the base URL.  The path is that of the base URL with the fixed names and one
more segment that is decoded to the text exactly if a segment can stand for the text, that is if
it is neither one dot nor two and holds no tab and no line end.  Among such texts different ones
have different addresses.
-/
theorem addressed_by_own_segment_iff
    {State : Type}
    (client : DecisionPoint State)
    {segments names : List String}
    (hierarchicalBase : client.baseUrl.path = .hierarchical segments)
    (resource : names = ["policies"] ∨ names = ["api", "policy"])
    (text : String) :
    let url := client.endpoint (names ++ [text])
    url.scheme = client.baseUrl.scheme ∧
    (url.authority.map fun authority => (authority.host, authority.port)) =
      (client.baseUrl.authority.map fun authority => (authority.host, authority.port)) ∧
    url.query = client.baseUrl.query ∧
    url.fragment = client.baseUrl.fragment ∧
    ((∃ last, url.path = .hierarchical (UrlPath.standing segments ++ names ++ [last]) ∧
      percentDecode? last.toList = some text) ↔ UrlPath.IsAddressable text) ∧
    (UrlPath.IsAddressable text → ∀ other, UrlPath.IsAddressable other →
      url.text = (client.endpoint (names ++ [other])).text → text = other) := by
  intro url
  have nonempty : names ≠ [] := by
    rcases resource with rfl | rfl <;> exact List.cons_ne_nil _ _
  have plain : ∀ name ∈ names, UrlPath.IsPlainName name := by
    rcases resource with rfl | rfl <;> decide +kernel
  have pathEq : url.path = (UrlPath.hierarchical segments).appending
      (isSpecialScheme client.baseUrl.scheme) (names ++ [text]) :=
    congrArg Url.path (DecisionPoint.endpoint_eq_of_base hierarchicalBase _)
  refine ⟨rfl, client.endpoint_host _, rfl, rfl, ?_, ?_⟩
  · rw [pathEq]
    exact UrlPath.exists_appending_iff nonempty plain
  · exact fun addressable other otherAddressable =>
      DecisionPoint.eq_of_endpoint_text hierarchicalBase nonempty plain addressable
        otherAddressable

/-- A user whose name holds the marks of paths, percent signs and queries. -/
theorem addressed_by_own_segment_of_marks :
    let client : DecisionPoint Unit :=
      { baseUrl := ⟨"http", some ⟨"", none, "pdp", none⟩, .hierarchical ["root", ""], some "q",
          none⟩
        token := none
        windows := {}
        transport := fun _ => pure none }
    let url := client.endpoint ["policies", "../%2e?x=1#"]
    UrlPath.IsAddressable "../%2e?x=1#" ∧
      ∃ last, url.path = .hierarchical ["root", "policies", last] ∧
        percentDecode? last.toList = some "../%2e?x=1#" := by
  intro client url
  have addressable : UrlPath.IsAddressable "../%2e?x=1#" := by decide +kernel
  have hierarchicalBase : client.baseUrl.path = .hierarchical ["root", ""] := rfl
  obtain ⟨-, -, -, -, ownSegmentIff, -⟩ :=
    addressed_by_own_segment_iff client hierarchicalBase (.inl rfl) "../%2e?x=1#"
  exact ⟨addressable, ownSegmentIff.mpr addressable⟩

/-- Users whose names are dots are looked up at one address, and dots around a tab lead out of
the list of all users; with a tab in its identifier one policy is addressed as another. -/
theorem addressed_alike_with_dots_and_tabs :
    let client : DecisionPoint Unit :=
      { baseUrl := ⟨"http", some ⟨"", none, "pdp", none⟩, .hierarchical [""], none, none⟩
        token := none
        windows := {}
        transport := fun _ => pure none }
    (client.endpoint ["policies", ".."]).text = "http://pdp/policies" ∧
      (client.endpoint ["policies", "."]).text = "http://pdp/policies" ∧
      (client.endpoint ["policies", ".\t."]).text = "http://pdp/" ∧
      (client.endpoint ["api", "policy", "a\tb"]).text = "http://pdp/api/policy/ab" ∧
      (client.endpoint ["api", "policy", "ab"]).text = "http://pdp/api/policy/ab" := by
  decide +kernel

end IntentPolicy
