import GridAccess.Selection.Grant
import GridAccess.Selection.Quality

/-!
# Writing

New replicas are put on the preferred storage elements and on the nearest ones that have the tags
asked for. Elements that are ruled out, that hold the file or that were chosen before are passed
over. The path has to be bound to the file, or to be free in a directory where the requester may
create entries.

## Main definitions

- `Selector.forWrite` — the tickets for writing replicas of a file
- `chooseUpTo` — a number of elements chosen from a list
- `Selector.candidates` — the elements that new replicas are put on
- `Selector.mayBind` — whether a path may name the file

## Main statements

- `chooseUpTo_numbers_nodup` — no element is chosen twice
-/

namespace GridAccess

open SelectionError (ofQuery)

def isChosen (chosen : List StorageElement) (element : StorageElement) : Bool :=
  chosen.any fun other => other.number = element.number

/-- Choose up to so many elements of a list that are allowed and not chosen yet. -/
def chooseUpTo (allowed : StorageElement → Bool) :
    Nat → List StorageElement → List StorageElement → List StorageElement
  | 0, chosen, _ => chosen
  | _, chosen, [] => chosen
  | count + 1, chosen, element :: rest =>
    if allowed element && !isChosen chosen element then
      chooseUpTo allowed count (chosen ++ [element]) rest
    else chooseUpTo allowed (count + 1) chosen rest

theorem chooseUpTo_numbers_nodup {allowed : StorageElement → Bool} {count : Nat}
    {chosen elements : List StorageElement} (h : (chosen.map StorageElement.number).Nodup) :
    ((chooseUpTo allowed count chosen elements).map StorageElement.number).Nodup := by
  induction elements generalizing count chosen with
  | nil =>
    cases count <;> simpa [chooseUpTo] using h
  | cons element rest ih =>
    cases count with
    | zero => simpa [chooseUpTo] using h
    | succ count =>
      unfold chooseUpTo
      split
      · next hnew =>
        apply ih
        simp only [Bool.and_eq_true, Bool.not_eq_true', isChosen, List.any_eq_false,
          decide_eq_true_eq] at hnew
        rw [List.map_append, List.nodup_append]
        refine ⟨h, by simp, ?_⟩
        intro number hnumber other hother
        obtain ⟨held, hheld, rfl⟩ := List.mem_map.1 hnumber
        simp only [List.map_cons, List.map_nil, List.mem_singleton] at hother
        rw [hother]
        exact hnew.2 held hheld
      · exact ih h

namespace Selector

/-- Whether a path may name a file: it names it already, or it is free and the requester may create
entries in the directory it lies in. -/
def mayBind (selector : Selector) (requester : Requester) (path : LogicalPath) (guid : Guid) :
    Except CatalogueFailure Bool := do
  match ← selector.catalogue.entry path with
  | some entry => return entry.guid = some guid
  | none =>
    match path.parent? with
    | none => return false
    | some parent =>
      match ← selector.catalogue.entry parent with
      | none => return false
      | some directory =>
        return (selector.authorization.create requester.principal directory).isNone

/-- The preferred elements that are known by their names, in the order of the names. -/
def choosePreferred (selector : Selector) (allowed : StorageElement → Bool)
    (names : List String) : Except CatalogueFailure (List StorageElement) :=
  names.foldlM (fun chosen name => do
    let found ← selector.catalogue.elementNamed name
    return chooseUpTo allowed 1 chosen found.toList) []

/-- With the elements chosen before, the nearest elements for each tag. -/
def chooseTagged (selector : Selector) (allowed : StorageElement → Bool)
    (criteria : ProximityCriteria) (requirements : QualityRequirements)
    (chosen : List StorageElement) : Except CatalogueFailure (List StorageElement) :=
  requirements.counts.foldlM (fun chosen (tag, count) => do
    let elements ← selector.catalogue.elementsTagged tag
    return chooseUpTo allowed count.toNat chosen
      (selector.catalogue.nearestElements criteria elements)) chosen

/-- The elements that new replicas of a file are put on, if this is not denied. -/
def candidates (selector : Selector) (requester : Requester) (preferences : ElementPreferences)
    (requirements : QualityRequirements) (guid : Guid) :
    Except CatalogueFailure (List StorageElement) := do
  let replicas ← selector.catalogue.replicas guid
  let criteria := requester.criteria { preferences with preferred := [] }
  let allowed (element : StorageElement) : Bool :=
    !criteria.excludes element && !(replicas.map Replica.element).contains element.number
  let preferred ← selector.choosePreferred allowed preferences.preferred
  selector.chooseTagged allowed criteria requirements preferred

/-- A new replica of a file on an element, as the target of an envelope. -/
def newTarget (file : FileRecord) (path : LogicalPath) (element : StorageElement) :
    EnvelopeTarget :=
  ⟨file, ⟨file.guid, element.number, element.newLocation file.guid⟩, element, some path⟩

/-- The tickets for writing new replicas of a file that a path names or is to name. -/
def forWrite (selector : Selector) (requester : Requester) (preferences : ElementPreferences)
    (requirements : QualityRequirements) (path : LogicalPath) (file : FileRecord) :
    Except SelectionError (List Grant) := do
  if ← ofQuery (selector.mayBind requester path file.guid) then
    let elements ← ofQuery <|
      selector.candidates requester preferences requirements file.guid
    let grants ← selector.grantAll requester .write none (elements.map (newTarget file path))
    return Grant.firstOfLocations grants
  else return []

end Selector

end GridAccess
