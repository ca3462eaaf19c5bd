import Mathlib.Data.List.TakeWhile
import ResourceGuard.VirtualResource

/-! # Which URIs are secure

The path of a URI is its longest beginning without a question mark. A URI designates a
virtual resource exactly if it is the resource's canonical URI, alone or with a query after
it; so no query makes a difference, nor does the order in which the eleven are gone through,
since no two share a URI. -/
namespace ResourceGuard

/-- The URI is this path, alone or with a query after it. -/
def Designates (uri path : String) : Prop := uri = path ∨ ∃ query, uri = path ++ "?" ++ query

namespace VirtualResource

/-- The resource that a URI designates, looked for in this order. -/
def classifyBy (table : List VirtualResource) (uri : String) : Option VirtualResource :=
  table.find? fun k => k.uri == pathOf uri

/-- The URI names security data, looked for in this order. -/
def isSecurityUriBy (table : List VirtualResource) (uri : String) : Bool :=
  (classifyBy table uri).isSome || pathOf uri == provisioningCrlUri

/-- The URI is taken for what it is, to the character. -/
structure ReadsExactly (uri : String) : Prop where
  classify_iff : ∀ k, classify uri = some k ↔ Designates uri k.uri
  /-- Whatever is not a canonical URI, with or without a query, is ordinary. -/
  ordinary_iff : classify uri = none ↔ ∀ k : VirtualResource, ¬ Designates uri k.uri
  security_iff : isSecurityUri uri = true ↔
    (classify uri).isSome = true ∨ Designates uri "/oic/credprov/crl"
  /-- Neither taking a query off makes a difference, -/
  classify_path : classify (pathOf uri) = classify uri
  security_path : isSecurityUri (pathOf uri) = isSecurityUri uri
  /-- nor putting one on. -/
  classify_query : ∀ query, classify (uri ++ "?" ++ query) = classify uri
  security_query : ∀ query, isSecurityUri (uri ++ "?" ++ query) = isSecurityUri uri
  /-- The path is what the URI begins with, -/
  path_prefix : ∃ rest, uri = pathOf uri ++ rest
  path_clean : '?' ∉ (pathOf uri).toList
  /-- as far as that goes without a question mark. -/
  path_longest : ∀ start rest, uri = start ++ rest → '?' ∉ start.toList →
    ∃ more, pathOf uri = start ++ more
  classify_order : ∀ table : List VirtualResource, table.Perm Vocabulary.all →
    classifyBy table uri = classify uri
  security_order : ∀ table : List VirtualResource, table.Perm Vocabulary.all →
    isSecurityUriBy table uri = isSecurityUri uri

end VirtualResource

/-! ## The path -/

theorem toList_pathOf (uri : String) : (pathOf uri).toList = uri.toList.takeWhile (· != '?') :=
  String.toList_ofList

theorem pathOf_pathOf (uri : String) : pathOf (pathOf uri) = pathOf uri := by
  unfold pathOf
  rw [String.toList_ofList, List.takeWhile_idem]

theorem not_mem_pathOf (uri : String) : '?' ∉ (pathOf uri).toList := by
  intro h
  rw [toList_pathOf] at h
  simpa using List.mem_takeWhile_imp h

theorem pathOf_append {start : String} (h : '?' ∉ start.toList) (rest : String) :
    pathOf (start ++ rest) = start ++ pathOf rest := by
  rw [← String.toList_inj, String.toList_append, toList_pathOf, toList_pathOf,
    String.toList_append]
  refine List.takeWhile_append_of_pos fun c hc => ?_
  rw [bne_iff_ne]
  rintro rfl
  exact h hc

theorem pathOf_query (query : String) : pathOf ("?" ++ query) = "" := by
  rw [← String.toList_inj, toList_pathOf, String.toList_append]
  rfl

/-- A URI is its path and, if there is more, a query. -/
theorem designates_pathOf (uri : String) : Designates uri (pathOf uri) := by
  have hsplit : uri.toList = (pathOf uri).toList ++ uri.toList.dropWhile (· != '?') := by
    rw [toList_pathOf, List.takeWhile_append_dropWhile]
  have hhead := List.head?_dropWhile_not (· != '?') uri.toList
  cases hrest : uri.toList.dropWhile (· != '?') with
  | nil =>
    rw [hrest, List.append_nil] at hsplit
    exact .inl (String.toList_inj.mp hsplit)
  | cons c query =>
    rw [hrest] at hsplit hhead
    obtain rfl : c = '?' := by simpa using hhead
    refine .inr ⟨String.ofList query, String.toList_inj.mp ?_⟩
    simpa using hsplit

theorem pathOf_eq_of_designates {uri path : String} (hclean : '?' ∉ path.toList)
    (h : Designates uri path) : pathOf uri = path := by
  rcases h with rfl | ⟨query, rfl⟩
  · simpa [pathOf] using pathOf_append hclean ""
  · rw [String.append_assoc, pathOf_append hclean, pathOf_query, String.append_empty]

theorem pathOf_eq_iff {uri path : String} (hclean : '?' ∉ path.toList) :
    pathOf uri = path ↔ Designates uri path := by
  refine ⟨?_, pathOf_eq_of_designates hclean⟩
  rintro rfl
  exact designates_pathOf uri

theorem pathOf_append_query (uri query : String) : pathOf (uri ++ "?" ++ query) = pathOf uri := by
  refine pathOf_eq_of_designates (not_mem_pathOf uri) (.inr ?_)
  rcases designates_pathOf uri with huri | ⟨first, huri⟩
  · exact ⟨query, by rw [← huri]⟩
  · refine ⟨first ++ "?" ++ query, ?_⟩
    simpa [String.append_assoc] using congrArg (· ++ "?" ++ query) huri

/-! ## The table -/

namespace VirtualResource

theorem uri_injective (a b : VirtualResource) : a.uri = b.uri → a = b := by
  cases a <;> cases b <;> decide

theorem not_mem_uri (k : VirtualResource) : '?' ∉ k.uri.toList := by
  cases k <;> decide

theorem classifyBy_eq_some_iff {table : List VirtualResource} {uri : String}
    {k : VirtualResource} : classifyBy table uri = some k ↔ k ∈ table ∧ pathOf uri = k.uri := by
  constructor
  · intro h
    have hfound : k.uri = pathOf uri := by simpa using List.find?_some h
    exact ⟨List.mem_of_find?_eq_some h, hfound.symm⟩
  · rintro ⟨hk, hpath⟩
    cases h : classifyBy table uri with
    | none => exact absurd (List.find?_eq_none.mp h k hk) (by simp [hpath])
    | some found =>
      have hfound : found.uri = pathOf uri := by simpa using List.find?_some h
      rw [uri_injective found k (hfound.trans hpath)]

theorem classify_eq_some_iff {uri : String} {k : VirtualResource} :
    classify uri = some k ↔ Designates uri k.uri := by
  rw [← pathOf_eq_iff (not_mem_uri k)]
  exact classifyBy_eq_some_iff.trans (and_iff_right (Vocabulary.mem_all k))

theorem classify_eq_none_iff {uri : String} :
    classify uri = none ↔ ∀ k : VirtualResource, ¬ Designates uri k.uri := by
  rw [Option.eq_none_iff_forall_ne_some]
  exact forall_congr' fun k => not_congr classify_eq_some_iff

/-- What a URI is taken for depends on its path alone. -/
theorem classify_congr {uri other : String} (h : pathOf uri = pathOf other) :
    classify uri = classify other := by
  unfold classify
  rw [h]

theorem isSecurityUri_congr {uri other : String} (h : pathOf uri = pathOf other) :
    isSecurityUri uri = isSecurityUri other := by
  rw [isSecurityUri, isSecurityUri, classify_congr h, h]

theorem classifyBy_perm {table : List VirtualResource} (h : table.Perm Vocabulary.all)
    (uri : String) : classifyBy table uri = classify uri := by
  refine Option.ext fun k => ?_
  rw [classifyBy_eq_some_iff, h.mem_iff]
  exact classifyBy_eq_some_iff.symm

theorem isSecurityUri_iff {uri : String} : isSecurityUri uri = true ↔
    (classify uri).isSome = true ∨ Designates uri provisioningCrlUri := by
  rw [isSecurityUri, Bool.or_eq_true, beq_iff_eq, pathOf_eq_iff (by decide)]

/-- **A URI is recognised to the character.** Every URI is taken for the virtual resource
whose canonical URI it is, with or without a query, and for an ordinary one if there is no
such resource; and it counts as a security URI in these cases and in that of the address at
which revocation lists are provisioned. The path of a URI is its longest beginning without a
question mark, and nothing but the path matters. -/
theorem readsExactly (uri : String) : ReadsExactly uri where
  classify_iff _ := classify_eq_some_iff
  ordinary_iff := classify_eq_none_iff
  security_iff := isSecurityUri_iff
  classify_path := classify_congr (pathOf_pathOf uri)
  security_path := isSecurityUri_congr (pathOf_pathOf uri)
  classify_query query := classify_congr (pathOf_append_query uri query)
  security_query query := isSecurityUri_congr (pathOf_append_query uri query)
  path_prefix := by
    rcases designates_pathOf uri with huri | ⟨query, huri⟩
    · exact ⟨"", by rw [String.append_empty, ← huri]⟩
    · exact ⟨"?" ++ query, by rw [← String.append_assoc, ← huri]⟩
  path_clean := not_mem_pathOf uri
  path_longest start rest h hclean := ⟨pathOf rest, by rw [h, pathOf_append hclean]⟩
  classify_order _ h := classifyBy_perm h uri
  security_order _ h := by rw [isSecurityUriBy, classifyBy_perm h, isSecurityUri]

example : classify "/oic/sec/sacl?a?b" = some .sacl ∧ classify "?/oic/sec/acl" = none ∧
    classify "/oic/sec/acl/" = none := by decide

end VirtualResource

end ResourceGuard
