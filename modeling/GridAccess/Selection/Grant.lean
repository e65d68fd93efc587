import GridAccess.Access.Authorization
import GridAccess.Catalogue.Proximity
import GridAccess.Envelope.Grant
import GridAccess.Selection.Reference
import GridAccess.Ticket.Issue

/-!
# Grants

A selection grants tickets for replicas. A replica that is denied or whose ticket cannot be made is
left out, and the others are still granted. What is not found gives an empty selection; only a
catalogue that fails, or a lifetime that ends beyond all times, ends a selection with an error.

## Main definitions

- `Selector` — what selections are made with
- `Requester` — who asks, and when
- `Grant` — a ticket with the replica and the envelope it was made for
- `Grant.firstOfLocations` — one grant for each location
- `Selector.grant?`, `Selector.grantAll` — the grants of replicas that are not denied
- `Catalogue.resolve` — the file that a reference stands for

## Main statements

- `Grant.firstOfLocations_sublist` — the grants that stay keep their order
- `Grant.pairwise_firstOfLocations` — they have different locations
- `Grant.exists_mem_firstOfLocations` — no location is lost
-/

namespace GridAccess

/-- What selections are made with. Two tickets of one envelope have one location and only one of them
is granted, so that what is chosen at random may depend on the envelope. -/
structure Selector where
  catalogue : Catalogue
  authorization : Authorization
  issuer : TicketIssuer
  random : Envelope → TicketRandomness

/-- Who asks for a selection, and the time at which the tickets are issued. -/
structure Requester where
  principal : Principal
  now : UInt64
  deriving DecidableEq, Repr

/-- By name the storage elements that are preferred and those that are ruled out. -/
structure ElementPreferences where
  preferred : List String
  excluded : List String
  deriving DecidableEq, Repr

/-- Why a selection ends without a result. -/
inductive SelectionError where
  | catalogue (failure : CatalogueFailure)
  | expiryOverflow
  deriving DecidableEq, Repr

/-- A ticket with the replica, its storage element and the envelope it was made for. -/
structure Grant where
  replica : Replica
  element : StorageElement
  envelope : Envelope
  ticket : Ticket

/-- The criteria by which replicas are sorted for a requester. -/
def Requester.criteria (requester : Requester) (preferences : ElementPreferences) :
    ProximityCriteria :=
  ⟨requester.principal.site, preferences.preferred, preferences.excluded⟩

/-- The answer to a query as a step of a selection. -/
def SelectionError.ofQuery {α : Type} (answer : Except CatalogueFailure α) :
    Except SelectionError α :=
  answer.mapError .catalogue

namespace Grant

/-- The location to transfer. -/
def location (grant : Grant) : String :=
  (grant.envelope.get? .turl).getD ""

/-- The first grant of each location. -/
def firstOfLocations : List Grant → List Grant
  | [] => []
  | grant :: rest =>
    grant :: (firstOfLocations rest).filter fun other => other.location ≠ grant.location

theorem firstOfLocations_sublist (grants : List Grant) :
    (firstOfLocations grants).Sublist grants := by
  induction grants with
  | nil => exact .slnil
  | cons grant rest ih => exact (List.filter_sublist.trans ih).cons_cons grant

theorem pairwise_firstOfLocations (grants : List Grant) :
    (firstOfLocations grants).Pairwise fun a b => a.location ≠ b.location := by
  induction grants with
  | nil => exact .nil
  | cons grant rest ih =>
    refine .cons ?_ (ih.filter _)
    intro other hother
    have := (List.mem_filter.1 hother).2
    simpa using Ne.symm (by simpa using this)

theorem exists_mem_firstOfLocations {grants : List Grant} {grant : Grant} (h : grant ∈ grants) :
    ∃ kept ∈ firstOfLocations grants, kept.location = grant.location := by
  induction grants with
  | nil => cases h
  | cons first rest ih =>
    by_cases hfirst : first.location = grant.location
    · exact ⟨first, by simp [firstOfLocations], hfirst⟩
    · rcases List.mem_cons.1 h with rfl | h
      · exact absurd rfl hfirst
      · obtain ⟨kept, hkept, hlocation⟩ := ih h
        refine ⟨kept, List.mem_cons_of_mem _ (List.mem_filter.2 ⟨hkept, ?_⟩), hlocation⟩
        rw [hlocation]
        simpa using Ne.symm hfirst

end Grant

namespace Catalogue

/-- The file that a reference stands for, and the path that envelopes name. -/
def resolve (catalogue : Catalogue) :
    FileReference → Except CatalogueFailure (Option (FileRecord × Option LogicalPath))
  | .content guid => do
    let paths ← catalogue.paths guid
    let found ← catalogue.file guid
    return found.map fun file => (file, paths.head?)
  | .name path => do
    match ← catalogue.entry path with
    | none => return none
    | some entry =>
      match entry.guid with
      | none => return none
      | some guid =>
        let found ← catalogue.file guid
        return found.map fun file => (file, some entry.path)

end Catalogue

namespace Selector

/-- The grant of a replica, unless it is denied or its ticket cannot be made. -/
def grant? (selector : Selector) (requester : Requester) (kind : AccessKind)
    (anchor : Option ArchiveAnchor) (target : EnvelopeTarget) :
    Except SelectionError (Option Grant) :=
  match selector.authorization.access requester.principal
      ⟨target.file, target.replica, target.element, kind⟩ with
  | some _ => .ok none
  | none =>
    let envelope := Envelope.build kind target anchor
    match selector.issuer.issueFor target.element ⟨requester.now, requester.principal.name⟩
        (selector.random envelope) envelope with
    | .ok ticket => .ok (some ⟨target.replica, target.element, envelope, ticket⟩)
    | .error .expiryOverflow => .error .expiryOverflow
    | .error _ => .ok none

def grantAll (selector : Selector) (requester : Requester) (kind : AccessKind)
    (anchor : Option ArchiveAnchor) (targets : List EnvelopeTarget) :
    Except SelectionError (List Grant) := do
  let grants ← targets.mapM (selector.grant? requester kind anchor)
  return grants.filterMap id

end Selector

def SelectionError.message : SelectionError → String
  | .catalogue failure => failure.message
  | .expiryOverflow => SealError.expiryOverflow.message

end GridAccess
