import GridAccess.Catalogue.Query

/-!
# Proximity

Storage elements are ranked for a client: those at its own site come first, then those it prefers in
the order of its preference, then those that are closer. Elements of equal rank keep the order of
the catalogue.

## Main definitions

- `ProximityCriteria` — the client's site, the elements it prefers and those it rules out
- `Rank` — the place of an element, compared by `Rank.le`
- `ProximityCriteria.sort` — the items that are not ruled out, sorted by the rank of their elements
- `Catalogue.nearestReplicas` — the replicas of known elements, sorted

## Main statements

- `Rank.le_total`, `Rank.le_trans` — ranks are totally preordered
-/

namespace GridAccess

open Text

/-- Where a client is, and by name which storage elements it prefers and which it rules out. -/
structure ProximityCriteria where
  site : Option String
  preferred : List String
  excluded : List String
  deriving DecidableEq, Repr

/-- The place of a storage element. -/
structure Rank where
  remote : Bool
  preference : Nat
  distance : Binary64
  deriving DecidableEq, Repr

namespace Rank

/-- Whether an element comes before another one or has the same rank. -/
def le (a b : Rank) : Bool :=
  if a.remote ≠ b.remote then b.remote
  else if a.preference ≠ b.preference then a.preference < b.preference
  else a.distance.position ≤ b.distance.position

/-- Of two ranks one is at most the other. -/
theorem le_total (a b : Rank) : (a.le b || b.le a) = true := by
  unfold le
  cases a.remote <;> cases b.remote <;> grind

theorem le_trans (a b c : Rank) (hab : a.le b = true) (hbc : b.le c = true) : a.le c = true := by
  obtain ⟨aRemote, aPreference, aDistance⟩ := a
  obtain ⟨bRemote, bPreference, bDistance⟩ := b
  obtain ⟨cRemote, cPreference, cDistance⟩ := c
  unfold le at *
  cases aRemote <;> cases bRemote <;> cases cRemote <;> grind

end Rank

namespace ProximityCriteria

def excludes (criteria : ProximityCriteria) (element : StorageElement) : Bool :=
  criteria.excluded.any element.isNamed

/-- The position of an element among those preferred. It is behind all of them if it is not one. -/
def preference (criteria : ProximityCriteria) (element : StorageElement) : Nat :=
  criteria.preferred.findIdx element.isNamed

/-- Whether an element is known not to be at the client's site. -/
def isRemote (criteria : ProximityCriteria) (element : StorageElement) : Bool :=
  criteria.site.any fun site => !eqIgnoringCase element.site.toList site.toList

/-- How far an element is from the client. An unknown distance counts as the largest number. -/
def distance (criteria : ProximityCriteria) (catalogue : Catalogue) (element : StorageElement) :
    Binary64 :=
  match criteria.site with
  | some site => (catalogue.distance site element).getD .largest
  | none => .zero

/-- The rank of an element. The penalty for reading from it counts as distance. -/
def rank (criteria : ProximityCriteria) (catalogue : Catalogue) (element : StorageElement) :
    Rank where
  remote := criteria.isRemote element
  preference := criteria.preference element
  distance := criteria.distance catalogue element + element.readPenalty

/-- The items whose elements are not ruled out, sorted by rank. Items of equal rank keep their
order. -/
def sort {α : Type} (criteria : ProximityCriteria) (catalogue : Catalogue)
    (elementOf : α → StorageElement) (items : List α) : List α :=
  (items.filter fun item => !criteria.excludes (elementOf item)).mergeSort fun a b =>
    (criteria.rank catalogue (elementOf a)).le (criteria.rank catalogue (elementOf b))

end ProximityCriteria

namespace Catalogue

/-- The replicas that lie on known elements, those of elements ruled out left away, nearest first. -/
def nearestReplicas (catalogue : Catalogue) (criteria : ProximityCriteria)
    (replicas : List Replica) : Except CatalogueFailure (List LocatedReplica) := do
  let located ← catalogue.locateAll replicas
  return criteria.sort catalogue LocatedReplica.element located

/-- The elements that are not ruled out, nearest first. -/
def nearestElements (catalogue : Catalogue) (criteria : ProximityCriteria)
    (elements : List StorageElement) : List StorageElement :=
  criteria.sort catalogue id elements

end Catalogue

end GridAccess
