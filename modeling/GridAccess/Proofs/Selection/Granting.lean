import GridAccess.Proofs.Catalogue.Nearest
import GridAccess.Proofs.Ticket.RoundTrip
import GridAccess.Selection.Grant

/-!
# Granting

A selection ends with an error only if a lifetime ends beyond all times. Otherwise each replica is
granted or left out on its own: it is granted if it is not denied and its ticket can be made.

## Main definitions

- `TicketIssuer.IsInTime` — no lifetime that starts now ends beyond all times
- `Selector.Yields` — the result that a selection gives in time
- `Selector.permits`, `Selector.seal?` — the two conditions for the grant of a replica
- `Selector.granted` — the grants of those replicas that meet both
- `Grant.Keeps` — the grants that are kept, one for each location
- `Inventory.Resolves` — the file that a reference stands for in an inventory
- `Selector.on` — selecting from an inventory

## Main statements

- `Selector.yields_grantAll` — the grants are exactly these
- `Selector.granted_filter` — leaving out a replica that is not granted changes nothing
- `Grant.firstOfLocations_append` — more grants do not change those that stand before them
- `Grant.keeps_nil_iff` — the first grants of each location are kept
-/

namespace GridAccess

/-! ## Tickets in time -/

/-- No lifetime that starts at this time ends beyond all times. -/
structure TicketIssuer.IsInTime (issuer : TicketIssuer) (now : UInt64) : Prop where
  ticket : now.toNat + issuer.settings.lifetime.toNat < UInt64.size
  token : now.toNat + issuer.settings.tokenLifetime.toNat < UInt64.size

theorem expiry?_eq_some {issued lifetime : UInt64}
    (h : issued.toNat + lifetime.toNat < UInt64.size) :
    expiry? issued lifetime = some (issued + lifetime) :=
  if_pos h

/-- A ticket that expires in time is not refused for its expiry. -/
theorem TicketIssuer.issue_ne_expiryOverflow {issuer : TicketIssuer} {request : TicketRequest}
    (h : issuer.IsInTime request.issued) (policy : TicketPolicy) (random : TicketRandomness)
    (envelope : Envelope) :
    issuer.issue policy request random envelope ≠ .error .expiryOverflow := by
  cases policy with
  | signed =>
    simp only [issue, signed, expiry?_eq_some h.ticket]
    split <;> simp
  | encrypted =>
    simp only [issue, encrypted]
    split
    · simp
    · split <;> simp
  | token =>
    have hclaims : issuer.claims request random.tokenId envelope ≠ .error .expiryOverflow := by
      rw [claims, audience, expiry?_eq_some h.token]
      cases envelope.get? .turl with
      | none => simp [bind, Except.bind]
      | some location =>
        cases issuer.settings.tokenAudience with
        | some audience => simp [bind, Except.bind, pure, Except.pure]
        | none => cases envelope.get? .se <;> simp [bind, Except.bind, pure, Except.pure]
    rw [issue, TicketIssuer.token]
    cases hresult : issuer.claims request random.tokenId envelope with
    | error e =>
      rw [hresult] at hclaims
      simpa [bind, Except.bind] using hclaims
    | ok claims =>
      simp only [bind, Except.bind]
      split <;> simp [pure, Except.pure]

/-! ## Selections in time -/

/-- A selection gives this result, unless a lifetime ends beyond all times. -/
def Selector.Yields {α : Type} (selector : Selector) (requester : Requester)
    (run : Except SelectionError α) (result : α) : Prop :=
  run = .ok result ∨ ¬selector.issuer.IsInTime requester.now ∧ run = .error .expiryOverflow

namespace Selector.Yields

variable {α β : Type} {selector : Selector} {requester : Requester}
  {run : Except SelectionError α} {result : α}

theorem ok (result : α) : selector.Yields requester (.ok result) result :=
  Or.inl rfl

theorem eq_ok (h : selector.Yields requester run result)
    (htime : selector.issuer.IsInTime requester.now) : run = .ok result :=
  h.resolve_right fun hlate => hlate.1 htime

/-- Whatever a selection gave is the result. -/
theorem eq_of_ok (h : selector.Yields requester run result) {given : α} (hrun : run = .ok given) :
    given = result := by
  rcases h with hok | ⟨-, herror⟩
  · exact Except.ok.inj (hrun.symm.trans hok)
  · rw [hrun] at herror
    cases herror

theorem bind (h : selector.Yields requester run result)
    {next : α → Except SelectionError β} {final : β}
    (hnext : selector.Yields requester (next result) final) :
    selector.Yields requester (run >>= next) final := by
  rcases h with rfl | ⟨hlate, rfl⟩
  · exact hnext
  · exact Or.inr ⟨hlate, rfl⟩

theorem mapM {runOf : β → Except SelectionError α} {resultOf : β → α}
    (h : ∀ item, selector.Yields requester (runOf item) (resultOf item)) (items : List β) :
    selector.Yields requester (items.mapM runOf) (items.map resultOf) := by
  induction items with
  | nil => exact .ok []
  | cons item items ih =>
    rw [List.mapM_cons]
    exact (h item).bind (ih.bind (.ok _))

end Selector.Yields

/-! ## Replicas that are granted -/

/-- The replica that was granted, with its storage element. -/
def Grant.located (grant : Grant) : LocatedReplica :=
  ⟨grant.replica, grant.element⟩

/-- The envelope of a grant says where to transfer. -/
def Grant.HasLocation (grant : Grant) : Prop :=
  ∃ location, grant.envelope.get? .turl = some location

/-- The replica of a target with its storage element. -/
def EnvelopeTarget.located (target : EnvelopeTarget) : LocatedReplica :=
  ⟨target.replica, target.element⟩

namespace Selector

variable {selector : Selector} {requester : Requester} {kind : AccessKind}
  {anchor : Option ArchiveAnchor} {target : EnvelopeTarget} {targets : List EnvelopeTarget}
  {grant : Grant}

/-- Whether an access to a replica is not denied. -/
def permits (selector : Selector) (requester : Requester) (kind : AccessKind)
    (target : EnvelopeTarget) : Bool :=
  (selector.authorization.access requester.principal
    ⟨target.file, target.replica, target.element, kind⟩).isNone

/-- The grant of a replica, if its ticket can be made. -/
def seal? (selector : Selector) (requester : Requester) (kind : AccessKind)
    (anchor : Option ArchiveAnchor) (target : EnvelopeTarget) : Option Grant :=
  let envelope := Envelope.build kind target anchor
  match selector.issuer.issueFor target.element ⟨requester.now, requester.principal.name⟩
      (selector.random envelope) envelope with
  | .ok ticket => some ⟨target.replica, target.element, envelope, ticket⟩
  | .error _ => none

/-- The grants of those replicas that are not denied and whose tickets can be made. -/
def granted (selector : Selector) (requester : Requester) (kind : AccessKind)
    (anchor : Option ArchiveAnchor) (targets : List EnvelopeTarget) : List Grant :=
  (targets.filter (selector.permits requester kind)).filterMap
    (selector.seal? requester kind anchor)

theorem permits_eq_true_iff : selector.permits requester kind target = true ↔
    selector.authorization.access requester.principal
      ⟨target.file, target.replica, target.element, kind⟩ = none :=
  Option.isNone_iff_eq_none

/-- A grant is for its replica, with the envelope of the replica and a ticket of the envelope. -/
theorem seal?_eq_some_iff : selector.seal? requester kind anchor target = some grant ↔
    grant.replica = target.replica ∧ grant.element = target.element ∧
      grant.envelope = Envelope.build kind target anchor ∧
      selector.issuer.issueFor target.element ⟨requester.now, requester.principal.name⟩
        (selector.random grant.envelope) grant.envelope = .ok grant.ticket := by
  obtain ⟨replica, element, envelope, ticket⟩ := grant
  rw [seal?]
  constructor
  · intro h
    split at h
    · next made hmade =>
      cases h
      exact ⟨rfl, rfl, rfl, hmade⟩
    · cases h
  · rintro ⟨rfl, rfl, rfl, hticket⟩
    simp only [hticket]

/-- A ticket is of the kind that its storage element asks for. -/
theorem policy_of_seal? (h : selector.seal? requester kind anchor target = some grant) :
    grant.ticket.policy = target.element.policy := by
  obtain ⟨-, -, -, hticket⟩ := seal?_eq_some_iff.1 h
  exact TicketIssuer.policy_of_issue hticket

theorem mem_granted : grant ∈ selector.granted requester kind anchor targets ↔
    ∃ target ∈ targets, selector.permits requester kind target = true ∧
      selector.seal? requester kind anchor target = some grant := by
  simp only [granted, List.mem_filterMap, List.mem_filter, and_assoc]

theorem get?_turl_of_seal? (h : selector.seal? requester kind anchor target = some grant) :
    grant.envelope.get? .turl = some (target.transferLocation anchor) := by
  obtain ⟨-, -, henvelope, -⟩ := seal?_eq_some_iff.1 h
  rw [henvelope]
  exact Envelope.get?_build kind target anchor .turl

theorem location_of_seal? (h : selector.seal? requester kind anchor target = some grant) :
    grant.location = target.transferLocation anchor := by
  rw [Grant.location, get?_turl_of_seal? h, Option.getD_some]

theorem hasLocation_of_mem_granted (h : grant ∈ selector.granted requester kind anchor targets) :
    grant.HasLocation := by
  obtain ⟨_, -, -, hseal⟩ := mem_granted.1 h
  exact ⟨_, get?_turl_of_seal? hseal⟩

/-- The replicas that are granted keep their order. -/
theorem located_granted_sublist (selector : Selector) (requester : Requester) (kind : AccessKind)
    (anchor : Option ArchiveAnchor) (targets : List EnvelopeTarget) :
    ((selector.granted requester kind anchor targets).map Grant.located).Sublist
      (targets.map EnvelopeTarget.located) := by
  have hsealed : ∀ sealed : List EnvelopeTarget,
      ((sealed.filterMap (selector.seal? requester kind anchor)).map Grant.located).Sublist
        (sealed.map EnvelopeTarget.located) := by
    intro sealed
    induction sealed with
    | nil => exact .slnil
    | cons target sealed ih =>
      rw [List.filterMap_cons]
      cases hgrant : selector.seal? requester kind anchor target with
      | none => exact ih.cons _
      | some grant =>
        obtain ⟨hreplica, helement, -, -⟩ := seal?_eq_some_iff.1 hgrant
        rw [List.map_cons, List.map_cons, Grant.located, hreplica, helement]
        exact ih.cons_cons _
  exact (hsealed _).trans (List.filter_sublist.map _)

/-- Whether a replica is granted depends on nothing but the two conditions. -/
theorem yields_grant? (selector : Selector) (requester : Requester) (kind : AccessKind)
    (anchor : Option ArchiveAnchor) (target : EnvelopeTarget) :
    selector.Yields requester (selector.grant? requester kind anchor target)
      (if selector.permits requester kind target then
        selector.seal? requester kind anchor target else none) := by
  rw [grant?, permits]
  cases selector.authorization.access requester.principal
      ⟨target.file, target.replica, target.element, kind⟩ with
  | some denial => exact .ok none
  | none =>
    rw [seal?]
    simp only [Option.isNone_none, if_true]
    split
    · next ticket hticket =>
      rw [hticket]
      exact .ok _
    · next hexpiry =>
      refine Or.inr ⟨?_, rfl⟩
      intro htime
      exact TicketIssuer.issue_ne_expiryOverflow htime _ _ _ hexpiry
    · next error hne herror =>
      rw [herror]
      exact .ok none

/-- The grants of replicas are those that meet both conditions. -/
theorem yields_grantAll (selector : Selector) (requester : Requester) (kind : AccessKind)
    (anchor : Option ArchiveAnchor) (targets : List EnvelopeTarget) :
    selector.Yields requester (selector.grantAll requester kind anchor targets)
      (selector.granted requester kind anchor targets) := by
  have hgrants := Yields.mapM (selector.yields_grant? requester kind anchor) targets
  rw [grantAll]
  refine hgrants.bind (Or.inl ?_)
  simp [granted, List.filterMap_map, List.filterMap_filter, pure, Except.pure]

/-- Leaving out replicas that are not granted does not change the grants. -/
theorem granted_filter (keep : EnvelopeTarget → Bool)
    (h : ∀ target ∈ targets, keep target = false →
      selector.permits requester kind target = false ∨
        selector.seal? requester kind anchor target = none) :
    selector.granted requester kind anchor (targets.filter keep) =
      selector.granted requester kind anchor targets := by
  simp only [granted, List.filterMap_filter]
  apply List.filterMap_congr
  intro target htarget
  by_cases hkeep : keep target = true
  · rw [if_pos hkeep]
  · rw [if_neg hkeep]
    rcases h target htarget (by simpa using hkeep) with hdenied | hunsealed
    · simp [hdenied]
    · simp [hunsealed]

end Selector

/-! ## One grant for each location -/

namespace Grant

variable {front back : List Grant}

/-- More grants do not change those that stand before them. -/
theorem firstOfLocations_append (front back : List Grant) :
    firstOfLocations (front ++ back) = firstOfLocations front ++
      (firstOfLocations back).filter fun grant => grant.location ∉ front.map location := by
  induction front with
  | nil => simp [firstOfLocations]
  | cons grant front ih =>
    rw [List.cons_append, firstOfLocations, firstOfLocations, ih, List.filter_append,
      List.filter_filter, List.cons_append]
    -- A grant behind stays if its location is neither that of the first grant nor one of the rest.
    congr 3
    funext other
    simp [not_or]

/-- The grants behind others that stay are some of them, in their order. -/
theorem exists_firstOfLocations_append (front back : List Grant) :
    ∃ rest : List Grant, firstOfLocations (front ++ back) = firstOfLocations front ++ rest ∧
      rest.Sublist back :=
  ⟨_, firstOfLocations_append front back,
    List.filter_sublist.trans (firstOfLocations_sublist back)⟩

/-- Which of some grants are kept behind others: one after the other, each whose location is not that
of one that is kept already. -/
inductive Keeps : List Grant → List Grant → List Grant → Prop
  | nil {held : List Grant} : Keeps held [] []
  | keep {held rest kept : List Grant} {grant : Grant}
      (hnew : ∀ other ∈ held, other.envelope.get? .turl ≠ grant.envelope.get? .turl)
      (h : Keeps (held ++ [grant]) rest kept) : Keeps held (grant :: rest) (grant :: kept)
  | drop {held rest kept : List Grant} {grant other : Grant} (hother : other ∈ held)
      (hsame : other.envelope.get? .turl = grant.envelope.get? .turl) (h : Keeps held rest kept) :
      Keeps held (grant :: rest) kept

theorem mem_map_location_iff {held : List Grant} {grant : Grant}
    (hheld : ∀ other ∈ held, other.HasLocation) (h : grant.HasLocation) :
    grant.location ∈ held.map location ↔
      ∃ other ∈ held, other.envelope.get? .turl = grant.envelope.get? .turl := by
  rw [List.mem_map]
  refine exists_congr fun other => and_congr_right fun hother => ?_
  obtain ⟨found, hfound⟩ := hheld other hother
  obtain ⟨asked, hasked⟩ := h
  simp [location, hfound, hasked]

/-- A grant goes if its location was seen before. -/
theorem filter_firstOfLocations_of_mem {seen : List String} {grant : Grant}
    (h : grant.location ∈ seen) (rest : List Grant) :
    (firstOfLocations (grant :: rest)).filter (fun next => next.location ∉ seen) =
      (firstOfLocations rest).filter fun next => next.location ∉ seen := by
  rw [firstOfLocations, List.filter_cons_of_neg (by simpa using h), List.filter_filter]
  refine List.filter_congr ?_
  intro next _
  rw [← Bool.decide_and, decide_eq_decide, and_iff_left_iff_imp]
  rintro hnext heq
  exact hnext (heq ▸ h)

/-- Otherwise it stays, and its location has been seen. -/
theorem filter_firstOfLocations_of_not_mem {seen : List String} {grant : Grant}
    (h : grant.location ∉ seen) (rest : List Grant) :
    (firstOfLocations (grant :: rest)).filter (fun next => next.location ∉ seen) =
      grant :: (firstOfLocations rest).filter fun next =>
        next.location ∉ seen ++ [grant.location] := by
  rw [firstOfLocations, List.filter_cons_of_pos (by simpa using h), List.filter_filter]
  congr 2
  funext next
  rw [← Bool.decide_and, decide_eq_decide, List.mem_append, List.mem_singleton, not_or]

/-- Those that are kept are the first of each location, without those that are held already. -/
theorem keeps_iff {held grants kept : List Grant} (hheld : ∀ grant ∈ held, grant.HasLocation)
    (hgrants : ∀ grant ∈ grants, grant.HasLocation) : Keeps held grants kept ↔
      (firstOfLocations grants).filter (fun grant => grant.location ∉ held.map location) =
        kept := by
  induction grants generalizing held kept with
  | nil =>
    constructor
    · rintro ⟨⟩
      rfl
    · rintro rfl
      exact .nil
  | cons grant rest ih =>
    obtain ⟨hgrant, hrest⟩ := List.forall_mem_cons.1 hgrants
    have hseen := mem_map_location_iff hheld hgrant
    by_cases hknown : grant.location ∈ held.map location
    · obtain ⟨other, hother, hsame⟩ := hseen.1 hknown
      rw [filter_firstOfLocations_of_mem hknown, ← ih hheld hrest]
      constructor
      · rintro (_ | ⟨hnew, -⟩ | ⟨-, -, h⟩)
        · exact absurd hsame (hnew other hother)
        · exact h
      · exact .drop hother hsame
    · have hmore : ∀ other ∈ held ++ [grant], other.HasLocation := by
        rw [List.forall_mem_append, List.forall_mem_singleton]
        exact ⟨hheld, hgrant⟩
      have hlocations : held.map location ++ [grant.location] = (held ++ [grant]).map location := by
        rw [List.map_append, List.map_singleton]
      rw [filter_firstOfLocations_of_not_mem hknown, hlocations]
      constructor
      · rintro (_ | ⟨-, h⟩ | ⟨hother, hsame, -⟩)
        · rw [(ih hmore hrest).1 h]
        · exact absurd (hseen.2 ⟨_, hother, hsame⟩) hknown
      · rintro rfl
        refine .keep ?_ ((ih hmore hrest).2 rfl)
        intro other hother hsame
        exact hknown (hseen.2 ⟨other, hother, hsame⟩)

/-- Behind none, the first of each location are kept. -/
theorem keeps_nil_iff {grants kept : List Grant} (h : ∀ grant ∈ grants, grant.HasLocation) :
    Keeps [] grants kept ↔ firstOfLocations grants = kept := by
  simpa using keeps_iff (List.forall_mem_nil _) h

end Grant

/-! ## Selecting from an inventory -/

/-- Selecting from an inventory. -/
def Selector.on (selector : Selector) (inventory : Inventory) : Selector :=
  { selector with catalogue := inventory.catalogue }

@[simp] theorem Selector.catalogue_on (selector : Selector) (inventory : Inventory) :
    (selector.on inventory).catalogue = inventory.catalogue :=
  rfl

/-- A query that is answered does not end a selection. -/
@[simp] theorem SelectionError.ofQuery_ok_bind {α β : Type} (a : α)
    (next : α → Except SelectionError β) : (ofQuery (.ok a) >>= next) = next a :=
  rfl

namespace Inventory

@[simp] theorem replicas_catalogue (inventory : Inventory) (guid : Guid) :
    inventory.catalogue.replicas guid = .ok (inventory.replicasOf guid) :=
  rfl

@[simp] theorem paths_catalogue (inventory : Inventory) (guid : Guid) :
    inventory.catalogue.paths guid = .ok (inventory.pathsOf guid) :=
  rfl

@[simp] theorem element_catalogue (inventory : Inventory) (number : ElementNumber) :
    inventory.catalogue.element number = .ok (inventory.element? number) :=
  rfl

end Inventory

/-- The file that a reference stands for, and the path that envelopes name: the first of its paths,
or the path that it is asked for by. -/
inductive Inventory.Resolves (inventory : Inventory) :
    FileReference → FileRecord → Option LogicalPath → Prop where
  | content {guid : Guid} {file : FileRecord} (hfile : inventory.file? guid = some file) :
      Resolves inventory (.content guid) file (inventory.pathsOf guid).head?
  | name {path : LogicalPath} {entry : CatalogueEntry} {guid : Guid} {file : FileRecord}
      (hentry : inventory.entry? path = some entry) (hguid : entry.guid = some guid)
      (hfile : inventory.file? guid = some file) :
      Resolves inventory (.name path) file (some entry.path)

/-- An inventory answers exactly what a reference stands for. -/
theorem Inventory.resolve_catalogue (inventory : Inventory) (reference : FileReference) :
    ∃ found, inventory.catalogue.resolve reference = .ok found ∧
      ∀ file path, found = some (file, path) ↔ inventory.Resolves reference file path := by
  cases reference with
  | content guid =>
    refine ⟨_, rfl, ?_⟩
    intro file path
    rw [Option.map_eq_some_iff]
    constructor
    · rintro ⟨found, hfile, heq⟩
      cases heq
      exact .content hfile
    · rintro ⟨hfile⟩
      exact ⟨file, hfile, rfl⟩
  | name path =>
    have hresolve : inventory.catalogue.resolve (.name path) =
        .ok ((inventory.entry? path).bind fun entry => entry.guid.bind fun guid =>
          (inventory.file? guid).map fun file => (file, some entry.path)) := by
      simp only [Catalogue.resolve, catalogue]
      cases inventory.entry? path with
      | none => rfl
      | some entry =>
        obtain ⟨path, kind, guid, owner, group, permissions⟩ := entry
        cases guid with
        | none => rfl
        | some guid => rfl
    refine ⟨_, hresolve, ?_⟩
    intro file found
    simp only [Option.bind_eq_some_iff, Option.map_eq_some_iff]
    constructor
    · rintro ⟨entry, hentry, guid, hguid, record, hfile, heq⟩
      cases heq
      exact .name hentry hguid hfile
    · rintro (_ | ⟨hentry, hguid, hfile⟩)
      exact ⟨_, hentry, _, hguid, _, hfile, rfl⟩

/-! ## A selector to try -/

/-- A selector with keys that nobody may use the third storage element with. -/
def sampleSelector : Selector where
  catalogue := Inventory.empty.catalogue
  authorization := {
    access := fun _ request =>
      if request.element.number = 3 then some (.other "closed") else none
    create := fun _ _ => none }
  issuer := sampleIssuer
  random := fun _ => ⟨⟨[], [], []⟩, ⟨0⟩⟩

/-- A client that asks when time begins. -/
def sampleRequester : Requester :=
  ⟨.account "alice", 0⟩

theorem isInTime_sample : sampleSelector.issuer.IsInTime sampleRequester.now :=
  ⟨by decide, by decide⟩

/-- Signed tickets of the issuer can be made when time begins. -/
theorem exists_seal?_of_sampleIssuer {selector : Selector} {requester : Requester}
    (hissuer : selector.issuer = sampleIssuer) (hnow : requester.now = 0) (kind : AccessKind)
    (anchor : Option ArchiveAnchor) (target : EnvelopeTarget)
    (hpolicy : target.element.policy = .signed) :
    ∃ grant, selector.seal? requester kind anchor target = some grant := by
  have hend : (0 : UInt64).toNat + sampleIssuer.settings.lifetime.toNat < UInt64.size := by decide
  obtain ⟨ticket, hticket⟩ : ∃ ticket, sampleIssuer.signed ⟨0, requester.principal.name⟩
      (Envelope.build kind target anchor) = .ok ticket :=
    TicketIssuer.exists_signed size_sampleIssuer hend _
  refine ⟨⟨_, _, _, ticket⟩, Selector.seal?_eq_some_iff.2 ⟨rfl, rfl, rfl, ?_⟩⟩
  rw [TicketIssuer.issueFor, hpolicy, hissuer, hnow]
  exact hticket

/-- So all replicas that are not denied are granted, if their elements ask for signed tickets. -/
theorem forall₂_granted_of_sampleIssuer {selector : Selector} {requester : Requester}
    (hissuer : selector.issuer = sampleIssuer) (hnow : requester.now = 0) (kind : AccessKind)
    (anchor : Option ArchiveAnchor) {targets : List EnvelopeTarget}
    (hpolicy : ∀ target ∈ targets, target.element.policy = .signed) :
    List.Forall₂ (fun target grant => selector.seal? requester kind anchor target = some grant)
      (targets.filter (selector.permits requester kind))
      (selector.granted requester kind anchor targets) := by
  rw [Selector.granted]
  have hpermitted : ∀ target ∈ targets.filter (selector.permits requester kind),
      target.element.policy = .signed :=
    fun target htarget => hpolicy target (List.mem_filter.1 htarget).1
  generalize targets.filter (selector.permits requester kind) = permitted at hpermitted ⊢
  induction permitted with
  | nil => exact .nil
  | cons target permitted ih =>
    obtain ⟨htarget, hrest⟩ := List.forall_mem_cons.1 hpermitted
    obtain ⟨grant, hgrant⟩ := exists_seal?_of_sampleIssuer hissuer hnow kind anchor target htarget
    rw [List.filterMap_cons_some hgrant]
    exact .cons hgrant (ih hrest)

theorem exists_seal?_sample (kind : AccessKind) (anchor : Option ArchiveAnchor)
    (target : EnvelopeTarget) (hpolicy : target.element.policy = .signed) :
    ∃ grant, sampleSelector.seal? sampleRequester kind anchor target = some grant := by
  have hissuer : sampleSelector.issuer = sampleIssuer := rfl
  exact exists_seal?_of_sampleIssuer hissuer rfl kind anchor target hpolicy

end GridAccess
