import GridAccess.Proofs.Name.Reading
import GridAccess.Storage.Element
import GridAccess.Storage.Location
import Mathlib.Data.List.TakeWhile

/-!
# Storage paths below endpoints

A location by path is an endpoint followed by a path of the catalogue. The storage path of such a
location is found again behind the authority of the endpoint, since no double slash comes after it,
but it ends before the first hash sign, even if that is part of the path.

## Main definitions

- `Endpoint` — a scheme and an authority
- `StorageElement.IsAt` — an element at an endpoint, whose text may end with slashes

## Main statements

- `storagePath_endpoint`, `storagePath_endpoint_slash` — the storage path of an endpoint with a path,
  after one slash or two
- `storagePath_pathLocation` — the storage path of a location by path
-/

namespace GridAccess

open Text

/-! ## Endpoints -/

/-- A scheme and an authority, which hold no slash and no hash sign. -/
structure Endpoint where
  scheme : List Char
  authority : List Char
  scheme_ne_nil : scheme ≠ []
  authority_ne_nil : authority ≠ []
  slash_not_mem : '/' ∉ scheme ++ authority
  hash_not_mem : '#' ∉ scheme ++ authority

namespace Endpoint

variable (endpoint : Endpoint)

/-- The text of an endpoint. -/
def chars : List Char :=
  endpoint.scheme ++ ':' :: ['/', '/'] ++ endpoint.authority

theorem hash_not_mem_chars : '#' ∉ endpoint.chars := by
  have hhash := endpoint.hash_not_mem
  simp only [List.mem_append, not_or] at hhash
  simp [chars, hhash.1, hhash.2]

/-- The text of an endpoint does not end with a slash. -/
theorem exists_chars_eq_concat : ∃ front c, endpoint.chars = front ++ [c] ∧ c ≠ '/' := by
  obtain ⟨front, c, hauthority⟩ :=
    List.eq_nil_or_concat endpoint.authority |>.resolve_left endpoint.authority_ne_nil
  rw [List.concat_eq_append] at hauthority
  refine ⟨endpoint.scheme ++ ':' :: ['/', '/'] ++ front, c, ?_, ?_⟩
  · rw [chars, hauthority, List.append_assoc, List.append_assoc, List.append_assoc]
  · rintro rfl
    apply endpoint.slash_not_mem
    simp [hauthority]

end Endpoint

/-- Slashes put at the end of a text are removed, with those that stood there before. -/
theorem withoutTrailingSlashes_eq {text : String} {front : List Char} {slashes : Nat}
    (h : text.toList = front ++ List.replicate slashes '/') :
    StorageElement.withoutTrailingSlashes text = dropEnd (· == '/') front := by
  rw [StorageElement.withoutTrailingSlashes, h]
  apply dropEnd_append
  intro c hc
  rw [List.eq_of_mem_replicate hc, beq_self_eq_true]

/-- An element at an endpoint, whose text may end with slashes. -/
def StorageElement.IsAt (element : StorageElement) (endpoint : Endpoint) : Prop :=
  ∃ slashes, element.endpoint.toList = endpoint.chars ++ List.replicate slashes '/'

theorem StorageElement.IsAt.withoutTrailingSlashes {element : StorageElement}
    {endpoint : Endpoint} (h : element.IsAt endpoint) :
    withoutTrailingSlashes element.endpoint = endpoint.chars := by
  obtain ⟨slashes, hslashes⟩ := h
  obtain ⟨front, c, hchars, hc⟩ := endpoint.exists_chars_eq_concat
  rw [withoutTrailingSlashes_eq hslashes, hchars]
  exact dropEnd_concat_of_not _ front (beq_eq_false_iff_ne.2 hc)

/-! ## Storage paths -/

theorem withoutAnchor_append {front : List Char} (h : '#' ∉ front) (back : List Char) :
    withoutAnchor (front ++ back) = front ++ withoutAnchor back := by
  apply List.takeWhile_append_of_pos
  intro c hc
  exact bne_iff_ne.2 fun heq => h (heq ▸ hc)

theorem withoutAnchor_eq_self_iff {text : List Char} : withoutAnchor text = text ↔ '#' ∉ text := by
  rw [withoutAnchor, List.takeWhile_eq_self_iff]
  simp only [bne_iff_ne, ne_eq]
  constructor
  · intro h hhash
    exact h _ hhash rfl
  · rintro h c hc rfl
    exact h hc

/-- The first double slash of a location is that of the endpoint. -/
theorem cut_endpoint (endpoint : Endpoint) (rest : List Char) :
    cut ['/', '/'] (endpoint.chars ++ rest) =
      some (endpoint.scheme ++ [':'], endpoint.authority ++ rest) := by
  have hscheme : ¬['/', '/'] <:+: endpoint.scheme := fun hoccurs =>
    endpoint.slash_not_mem (List.mem_append_left _ (hoccurs.subset List.mem_cons_self))
  have hcut := cut_append_cons (by simp : ['/', '/'] ≠ []) (by decide : ':' ∉ ['/', '/'])
    hscheme (endpoint.authority ++ rest)
  simpa [Endpoint.chars] using hcut

/-- The storage path of an endpoint with a path behind it, if no double slash stands in the path. -/
theorem storagePath_endpoint (endpoint : Endpoint) {rest : List Char}
    (h : ¬['/', '/'] <:+: '/' :: rest) :
    storagePath (endpoint.chars ++ '/' :: rest) = withoutAnchor ('/' :: rest) := by
  have hslash := endpoint.slash_not_mem
  simp only [List.mem_append, not_or] at hslash
  let path := withoutAnchor rest
  have hpath : withoutAnchor ('/' :: rest) = '/' :: path :=
    withoutAnchor_append (by decide : '#' ∉ ['/']) rest
  -- Neither the authority nor the path holds another double slash.
  have hsecond : cut ['/', '/'] (endpoint.authority ++ '/' :: path) = none := by
    rw [← Option.not_isSome_iff_eq_none, cut_isSome_iff_isInfix,
      isInfix_append_iff_right (by simp)]
    · intro hoccurs
      rw [← hpath] at hoccurs
      exact h (hoccurs.trans (List.takeWhile_prefix _).isInfix)
    · intro c hc hmark
      rw [List.mem_pair, or_self] at hmark
      exact hslash.2 (hmark ▸ hc)
  have hdrop : (endpoint.authority ++ '/' :: path).dropWhile (· != '/') = '/' :: path := by
    rw [List.dropWhile_append_of_pos]
    · rfl
    · intro c hc
      exact bne_iff_ne.2 fun heq => hslash.2 (heq ▸ hc)
  simp only [storagePath, withoutAnchor_append endpoint.hash_not_mem_chars, hpath, cut_endpoint,
    hsecond, hdrop]

/-- The storage path of an endpoint with a double slash behind it is what follows, with one slash in
front. -/
theorem storagePath_endpoint_slash (endpoint : Endpoint) (rest : List Char) :
    storagePath (endpoint.chars ++ '/' :: '/' :: rest) = '/' :: withoutAnchor rest := by
  have hslash : '/' ∉ endpoint.authority := fun hmem =>
    endpoint.slash_not_mem (List.mem_append_right _ hmem)
  have hplain : withoutAnchor ('/' :: '/' :: rest) = '/' :: '/' :: withoutAnchor rest :=
    withoutAnchor_append (by decide : '#' ∉ ['/', '/']) rest
  have hsecond : cut ['/', '/'] (endpoint.authority ++ '/' :: '/' :: withoutAnchor rest) =
      some (endpoint.authority, withoutAnchor rest) := by
    simpa using cut_append_of_head_not_mem hslash ['/'] (withoutAnchor rest)
  simp only [storagePath, withoutAnchor_append endpoint.hash_not_mem_chars, hplain, cut_endpoint,
    hsecond]

/-- The storage path of a location by path is that path, up to its first hash sign. -/
theorem storagePath_pathLocation {element : StorageElement} {endpoint : Endpoint}
    (h : element.IsAt endpoint) (path : LogicalPath) :
    storagePath (element.pathLocation path).toList = withoutAnchor path.chars := by
  rw [StorageElement.pathLocation, String.toList_ofList, h.withoutTrailingSlashes]
  exact storagePath_endpoint endpoint path.not_isInfix_chars

end GridAccess
