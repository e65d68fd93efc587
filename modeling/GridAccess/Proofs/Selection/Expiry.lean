import GridAccess.Proofs.Selection.Reading
import GridAccess.Proofs.Ticket.Bearer
import GridAccess.Proofs.Ticket.Unsealing
import GridAccess.Settings.Basic

/-!
# Lifetimes that end beyond all times

A ticket expires exactly at the end of its lifetime. A lifetime may be so long that it ends beyond
64 bits, and settings with such lifetimes make sense like others. Then the ticket is not just left
out: its selection ends, with the tickets of all other storage elements.

## Main definitions

- `LifetimeOutcome` — what comes of making a ticket with a lifetime
- `TicketIssuer.IsLate` — a lifetime that starts now ends beyond all times

## Main statements

- `TicketIssuer.issueFor_eq_expiryOverflow_iff` — which tickets are refused for their expiry
- `Selector.grantAll_eq_expiryOverflow_iff` — which grants end with one of them
- `Selector.forRead_eq_expiryOverflow` — a single late ticket ends a selection for reading
- `ticket_expiry` — when tickets expire, and what becomes of those that expire too late
-/

namespace GridAccess

open Crypto

variable {issuer : TicketIssuer} {request : TicketRequest} {access : AccessKind}
  {target : EnvelopeTarget} {anchor : Option ArchiveAnchor}

/-! ## Tickets -/

/-- What comes of making a ticket with a lifetime: a ticket that expires exactly at its end, if the
key can sign it. An end beyond all times comes before the signature. -/
inductive LifetimeOutcome (issued lifetime : UInt64) (canSign : Prop) :
    Except SealError Ticket → Prop where
  | made {ticket : Ticket} {expires : UInt64} (hsign : canSign)
      (hexpires : ticket.expires = some expires)
      (hend : expires.toNat = issued.toNat + lifetime.toNat) :
      LifetimeOutcome issued lifetime canSign (.ok ticket)
  | unsigned (hsign : ¬canSign) (hend : issued.toNat + lifetime.toNat < UInt64.size) :
      LifetimeOutcome issued lifetime canSign (.error (.signature .signingFailed))
  | late (hend : UInt64.size ≤ issued.toNat + lifetime.toNat) :
      LifetimeOutcome issued lifetime canSign (.error .expiryOverflow)

namespace LifetimeOutcome

variable {issued lifetime : UInt64} {canSign : Prop} {result : Except SealError Ticket}

/-- A ticket whose lifetime ends in range is made exactly if the key signs it. -/
theorem of_sign {key : RsaPrivateKey} {digest : SignatureDigest} {message : List UInt8}
    {policy : TicketPolicy} {textOf : List UInt8 → String} {expires : UInt64}
    (hend : expires.toNat = issued.toNat + lifetime.toNat) :
    LifetimeOutcome issued lifetime (digest.leastSize ≤ key.publicKey.size)
      (match key.sign digest message with
      | .ok signature => .ok ⟨policy, textOf signature, some expires⟩
      | .error e => .error (.signature e)) := by
  split
  · next signature hsign =>
    exact .made (RsaPrivateKey.exists_signature_iff.1 ⟨signature, hsign⟩) rfl hend
  · next e hsign =>
    obtain ⟨rfl, hsize⟩ := RsaPrivateKey.sign_eq_error_iff.1 hsign
    exact .unsigned (Nat.not_le.2 hsize) (hend ▸ expires.toNat_lt)

theorem eq_expiryOverflow_iff (h : LifetimeOutcome issued lifetime canSign result) :
    result = .error .expiryOverflow ↔ UInt64.size ≤ issued.toNat + lifetime.toNat := by
  cases h with
  | @made ticket expires _ _ hend =>
    have hfits := expires.toNat_lt
    simp only [reduceCtorEq, false_iff, Nat.not_le, UInt64.size]
    omega
  | unsigned _ hend =>
    simp only [Except.error.injEq, reduceCtorEq, false_iff, Nat.not_le]
    exact hend
  | late hend => simp only [hend]

/-- A ticket with a lifetime expires after it was issued. -/
theorem issued_lt (h : LifetimeOutcome issued lifetime canSign result) (hlifetime : lifetime ≠ 0)
    {ticket : Ticket} {expires : UInt64} (hticket : result = .ok ticket)
    (hexpires : ticket.expires = some expires) : issued < expires := by
  have hpos : lifetime.toNat ≠ 0 := fun hnat => hlifetime (UInt64.toNat_inj.1 hnat)
  cases h with
  | made _ hends hend =>
    cases hticket
    rw [hends, Option.some.injEq] at hexpires
    rw [UInt64.lt_iff_toNat_lt, ← hexpires, hend]
    omega
  | unsigned => cases hticket
  | late => cases hticket

end LifetimeOutcome

theorem expiry?_eq_none_iff {issued lifetime : UInt64} :
    expiry? issued lifetime = none ↔ UInt64.size ≤ issued.toNat + lifetime.toNat := by
  simp [expiry?]

namespace TicketIssuer

theorem signed_outcome (issuer : TicketIssuer) (request : TicketRequest) (envelope : Envelope) :
    LifetimeOutcome request.issued issuer.settings.lifetime
      (SignatureDigest.sha384.leastSize ≤ issuer.keys.signing.publicKey.size)
      (issuer.signed request envelope) := by
  rw [signed]
  cases hexpiry : expiry? request.issued issuer.settings.lifetime with
  | none => exact .late (expiry?_eq_none_iff.1 hexpiry)
  | some expires => exact .of_sign (expiry?_eq_some_iff.1 hexpiry)

theorem token_outcome (issuer : TicketIssuer) (request : TicketRequest) (identifier : Guid)
    (access : AccessKind) (target : EnvelopeTarget) (anchor : Option ArchiveAnchor) :
    LifetimeOutcome request.issued issuer.settings.tokenLifetime
      (SignatureDigest.sha256.leastSize ≤ issuer.keys.signing.publicKey.size)
      (issuer.token request identifier (Envelope.build access target anchor)) := by
  obtain ⟨audience, -, hclaims⟩ :=
    issuer.exists_claims_build_eq request identifier access target anchor
  rw [token, hclaims]
  cases hexpiry : expiry? request.issued issuer.settings.tokenLifetime with
  | none => exact .late (expiry?_eq_none_iff.1 hexpiry)
  | some expires => exact .of_sign (expiry?_eq_some_iff.1 hexpiry)

/-- A ticket of this kind would end beyond all times if it were issued now. Encrypted tickets do not
expire. -/
def IsLate (issuer : TicketIssuer) (policy : TicketPolicy) (now : UInt64) : Prop :=
  match policy with
  | .signed => UInt64.size ≤ now.toNat + issuer.settings.lifetime.toNat
  | .encrypted => False
  | .token => UInt64.size ≤ now.toNat + issuer.settings.tokenLifetime.toNat

/-- The ticket of a granted replica is refused for its expiry exactly if it would end beyond all
times. -/
theorem issueFor_eq_expiryOverflow_iff (issuer : TicketIssuer) (request : TicketRequest)
    (random : TicketRandomness) (access : AccessKind) (target : EnvelopeTarget)
    (anchor : Option ArchiveAnchor) :
    issuer.issueFor target.element request random (Envelope.build access target anchor) =
        .error .expiryOverflow ↔ issuer.IsLate target.element.policy request.issued := by
  rw [issueFor]
  cases target.element.policy with
  | signed => exact (issuer.signed_outcome request _).eq_expiryOverflow_iff
  | token => exact (issuer.token_outcome request _ access target anchor).eq_expiryOverflow_iff
  | encrypted =>
    simp only [issue, IsLate, iff_false, encrypted]
    split
    · simp
    · split <;> simp

/-- Encrypted tickets depend on nothing but the keys. -/
theorem encrypted_eq_of_keys_eq {other : TicketIssuer} (h : issuer.keys = other.keys)
    (random : HybridRandomness) (envelope : Envelope) :
    issuer.encrypted random envelope = other.encrypted random envelope := by
  rw [encrypted, encrypted, h]

end TicketIssuer

/-! ## Selections -/

namespace Selector

variable {selector : Selector} {requester : Requester} {targets : List EnvelopeTarget}

/-- The grant of a replica ends with an error exactly if it is not denied and its ticket is late. -/
theorem grant?_eq_error_iff {e : SelectionError} :
    selector.grant? requester access anchor target = .error e ↔ e = .expiryOverflow ∧
      selector.permits requester access target = true ∧
        selector.issuer.IsLate target.element.policy requester.now := by
  have hlate := selector.issuer.issueFor_eq_expiryOverflow_iff
    ⟨requester.now, requester.principal.name⟩
    (selector.random (Envelope.build access target anchor)) access target anchor
  rw [grant?, permits]
  cases selector.authorization.access requester.principal
      ⟨target.file, target.replica, target.element, access⟩ with
  | some denial => simp
  | none =>
    -- Other faults of a ticket leave the replica out.
    simp only [Option.isNone_none, true_and, ← hlate]
    split
    · next ticket hticket => simp [hticket]
    · next hexpiry => simp [hexpiry, eq_comm]
    · next error hne herror => simp [herror, show error ≠ .expiryOverflow from hne]

/-- Replicas are granted exactly if none of those that are not denied has a late ticket. -/
theorem exists_grantAll_eq_ok_iff :
    (∃ grants, selector.grantAll requester access anchor targets = .ok grants) ↔
      ∀ target ∈ targets, selector.permits requester access target = true →
        ¬selector.issuer.IsLate target.element.policy requester.now := by
  have hgrant : ∀ target,
      (∃ grant, selector.grant? requester access anchor target = .ok grant) ↔
        (selector.permits requester access target = true →
          ¬selector.issuer.IsLate target.element.policy requester.now) := by
    intro target
    constructor
    · rintro ⟨grant, hgrant⟩ hpermits hlate
      rw [grant?_eq_error_iff.2 ⟨rfl, hpermits, hlate⟩] at hgrant
      cases hgrant
    · intro htime
      cases hgrant : selector.grant? requester access anchor target with
      | ok grant => exact ⟨grant, rfl⟩
      | error e =>
        obtain ⟨-, hpermits, hlate⟩ := grant?_eq_error_iff.1 hgrant
        exact absurd hlate (htime hpermits)
  have hrun : (∃ grants, selector.grantAll requester access anchor targets = .ok grants) ↔
      ∃ grants, targets.mapM (selector.grant? requester access anchor) = .ok grants := by
    simp only [grantAll, bind_eq_ok_iff]
    constructor
    · rintro ⟨_, grants, hgrants, -⟩
      exact ⟨grants, hgrants⟩
    · rintro ⟨grants, hgrants⟩
      exact ⟨_, grants, hgrants, rfl⟩
  rw [hrun, exists_mapM_eq_ok_iff]
  exact forall₂_congr fun target _ => hgrant target

/-- If none of them has, the grants are those of the replicas that meet both conditions. -/
theorem grantAll_eq_ok (h : ∀ target ∈ targets, selector.permits requester access target = true →
      ¬selector.issuer.IsLate target.element.policy requester.now) :
    selector.grantAll requester access anchor targets =
      .ok (selector.granted requester access anchor targets) := by
  obtain ⟨grants, hgrants⟩ := exists_grantAll_eq_ok_iff.2 h
  rw [hgrants, (selector.yields_grantAll requester access anchor targets).eq_of_ok hgrants]

/-- Otherwise there are no grants at all. -/
theorem grantAll_eq_expiryOverflow_iff :
    selector.grantAll requester access anchor targets = .error .expiryOverflow ↔
      ∃ target ∈ targets, selector.permits requester access target = true ∧
        selector.issuer.IsLate target.element.policy requester.now := by
  constructor
  · intro herror
    refine Classical.byContradiction fun hnone => ?_
    rw [grantAll_eq_ok] at herror
    · cases herror
    · intro target htarget hpermits hlate
      exact hnone ⟨target, htarget, hpermits, hlate⟩
  · rintro ⟨target, htarget, hpermits, hlate⟩
    refine ((selector.yields_grantAll requester access anchor targets).resolve_left ?_).2
    intro hgrants
    exact exists_grantAll_eq_ok_iff.1 ⟨_, hgrants⟩ target htarget hpermits hlate

/-- A single replica whose ticket is late ends a selection for reading, unless the replica is denied
or ruled out. -/
theorem forRead_eq_expiryOverflow {inventory : Inventory} {preferences : ElementPreferences}
    {reference : FileReference} {file : FileRecord} {path : Option LogicalPath}
    {located : LocatedReplica} (hresolves : inventory.Resolves reference file path)
    (hreplica : located.replica ∈ inventory.replicasOf file.guid)
    (hplain : located.replica.isPlain = true)
    (helement : inventory.element? located.replica.element = some located.element)
    (hexcluded : (requester.criteria preferences).excludes located.element = false)
    (hpermits : selector.permits requester .read (located.target file path) = true)
    (hlate : selector.issuer.IsLate located.element.policy requester.now) :
    (selector.on inventory).forRead requester preferences reference = .error .expiryOverflow := by
  obtain ⟨nearest, hnearest⟩ := inventory.exists_isNearest (requester.criteria preferences)
    ((inventory.replicasOf file.guid).filter Replica.isPlain)
  have hmem : located ∈ nearest :=
    hnearest.mem_iff.2 ⟨List.mem_filter.2 ⟨hreplica, hplain⟩, helement, hexcluded⟩
  have hgrants : (selector.on inventory).grantAll requester .read none
      (nearest.map fun located => located.target file path) = .error .expiryOverflow :=
    grantAll_eq_expiryOverflow_iff.2 ⟨_, List.mem_map_of_mem hmem, hpermits, hlate⟩
  obtain ⟨found, hfound, hiff⟩ := inventory.resolve_catalogue reference
  rw [(hiff file path).2 hresolves] at hfound
  simp only [forRead, plainGrants, catalogue_on, hfound, Inventory.replicas_catalogue,
    Inventory.nearestReplicas_catalogue hnearest, SelectionError.ofQuery_ok_bind, hgrants]
  rfl

end Selector

/-- Settings make sense whatever the lengths of the lifetimes are, if they have any. -/
theorem Settings.validate_eq_ok_iff {settings : Settings} : settings.validate = .ok settings ↔
    Text.trim settings.issuer.name.toList ≠ [] ∧ settings.envelopeLifetime ≠ 0 ∧
      settings.token.lifetime ≠ 0 := by
  simp only [validate]
  split
  · next hname => simp [hname]
  · next hname =>
    split
    · next hlifetime => simp [hlifetime]
    · next hlifetime =>
      split
      · next htoken => simp [htoken]
      · next htoken => simp [hname, hlifetime, htoken]

/-- Tickets of settings that make sense expire exactly at the end of their lifetime, after they were
issued, if the key is large enough to sign them and the lifetime does not end beyond all times. The
replicas that are not denied are granted if their tickets can be made; but if the ticket of only one
of them would end beyond all times, none of them is. -/
theorem ticket_expiry {settings : Settings} (hvalid : settings.validate = .ok settings)
    (hissuer : issuer.settings = settings.tickets) (request : TicketRequest) (identifier : Guid)
    (access : AccessKind) (target : EnvelopeTarget) (anchor : Option ArchiveAnchor) :
    let envelope := Envelope.build access target anchor
    LifetimeOutcome request.issued settings.envelopeLifetime
      (SignatureDigest.sha384.leastSize ≤ issuer.keys.signing.publicKey.size)
      (issuer.signed request envelope) ∧
    LifetimeOutcome request.issued settings.token.lifetime
      (SignatureDigest.sha256.leastSize ≤ issuer.keys.signing.publicKey.size)
      (issuer.token request identifier envelope) ∧
    (∀ ticket expires, issuer.signed request envelope = .ok ticket ∨
        issuer.token request identifier envelope = .ok ticket →
      ticket.expires = some expires → request.issued < expires) ∧
    ∀ (selector : Selector) (requester : Requester) (kind : AccessKind)
      (member : Option ArchiveAnchor) (targets : List EnvelopeTarget), selector.issuer = issuer →
      ((∃ target ∈ targets, selector.permits requester kind target = true ∧
          issuer.IsLate target.element.policy requester.now) ↔
        selector.grantAll requester kind member targets = .error .expiryOverflow) ∧
      ((∀ target ∈ targets, selector.permits requester kind target = true →
          ¬issuer.IsLate target.element.policy requester.now) →
        selector.grantAll requester kind member targets =
          .ok (selector.granted requester kind member targets)) := by
  intro envelope
  obtain ⟨-, hlifetime, htoken⟩ := Settings.validate_eq_ok_iff.1 hvalid
  have hsignedOutcome := issuer.signed_outcome request envelope
  have htokenOutcome := issuer.token_outcome request identifier access target anchor
  rw [hissuer] at hsignedOutcome htokenOutcome
  refine ⟨hsignedOutcome, htokenOutcome, ?_, ?_⟩
  · rintro ticket expires (hticket | hticket) hexpires
    · exact hsignedOutcome.issued_lt hlifetime hticket hexpires
    · exact htokenOutcome.issued_lt htoken hticket hexpires
  · rintro selector requester kind member targets rfl
    exact ⟨Selector.grantAll_eq_expiryOverflow_iff.symm, Selector.grantAll_eq_ok⟩

theorem ticket_expiry_sample : ∃ ticket,
    sampleIssuer.signed ⟨5, "alice"⟩ sampleEnvelope = .ok ticket ∧ ticket.expires = some 86405 := by
  have hissuer : sampleIssuer.settings = Settings.standard.tickets := by decide
  obtain ⟨houtcome, -, -, -⟩ :=
    ticket_expiry rfl hissuer ⟨5, "alice"⟩ ⟨1⟩ .read sampleTarget none
  obtain ⟨ticket, hticket⟩ : ∃ ticket, sampleIssuer.signed ⟨5, "alice"⟩ sampleEnvelope =
      .ok ticket :=
    TicketIssuer.exists_signed size_sampleIssuer (by decide) sampleEnvelope
  refine ⟨ticket, hticket, ?_⟩
  rw [← sampleEnvelope, hticket] at houtcome
  cases houtcome with
  | made _ hexpires hend =>
    rw [hexpires]
    exact congrArg some (UInt64.toNat_inj.1 hend)

/-- Settings with lifetimes that end beyond all times, unless they begin with time. -/
def endlessSettings : Settings where
  issuer := .standard
  envelopeLifetime := 18446744073709551615
  token := ⟨TicketSettings.standardTokenIssuer, 18446744073709551615, none⟩
  keys := .unset

/-- A replica on a storage element that wants encrypted tickets. -/
def vaultReplica : LocatedReplica where
  replica := ⟨⟨1⟩, 2, "root://vault.example:1094//data/file"⟩
  element :=
    { StorageElement.basic 2 "ALICE::EXAMPLE::VAULT" "root://vault.example:1094" "/data" with
      wantsEncryption := true }

/-- A catalogue with this replica, and another one of the same file. -/
def vaultInventory : Inventory where
  files := [sampleTarget.file]
  replicas := [vaultReplica.replica, sampleTarget.replica]
  entries := []
  elements := [sampleTarget.element, vaultReplica.element]
  distances := []

/-- A selector with endless lifetimes that denies nothing. -/
def endlessSelector : Selector where
  catalogue := Inventory.empty.catalogue
  authorization := ⟨fun _ _ => none, fun _ _ => none⟩
  issuer := ⟨mersenneRing, endlessSettings.tickets⟩
  random := fun _ => ⟨zeroRandomness, ⟨0⟩⟩

/-- With settings that make sense and a key that is large enough, no ticket can be made that
expires. An encrypted one can be made for a replica of a file; but another replica wants a signed
ticket, so that nothing is granted for the file. -/
theorem late_ticket_ends_selection :
    endlessSettings.validate = .ok endlessSettings ∧
    SignatureDigest.sha384.leastSize ≤ mersenneRing.signing.publicKey.size ∧
    endlessSelector.issuer.signed ⟨1, "alice"⟩ sampleEnvelope = .error .expiryOverflow ∧
    endlessSelector.issuer.token ⟨1, "alice"⟩ ⟨1⟩ sampleEnvelope = .error .expiryOverflow ∧
    (∃ grant, endlessSelector.grantAll ⟨.account "alice", 1⟩ .read none
      [vaultReplica.target sampleTarget.file none] = .ok [grant]) ∧
    (endlessSelector.on vaultInventory).forRead ⟨.account "alice", 1⟩ ⟨[], []⟩ (.content ⟨1⟩) =
      .error .expiryOverflow := by
  have hlate : UInt64.size ≤ (1 : UInt64).toNat + (18446744073709551615 : UInt64).toNat := by decide
  have hsigned := (endlessSelector.issuer.signed_outcome ⟨1, "alice"⟩
    sampleEnvelope).eq_expiryOverflow_iff.2 hlate
  have htoken := (endlessSelector.issuer.token_outcome ⟨1, "alice"⟩ ⟨1⟩ .read sampleTarget
    none).eq_expiryOverflow_iff.2 hlate
  rw [← sampleEnvelope] at htoken
  refine ⟨by decide, size_sampleIssuer, hsigned, htoken, ?_, ?_⟩
  · let target := vaultReplica.target sampleTarget.file none
    have hkeys : endlessSelector.issuer.keys = sampleIssuer.keys := rfl
    obtain ⟨ticket, hticket⟩ := exists_encrypted_sample (Envelope.build .read target none)
    rw [← TicketIssuer.encrypted_eq_of_keys_eq hkeys] at hticket
    obtain ⟨grant, hgrant⟩ : ∃ grant,
        endlessSelector.seal? ⟨.account "alice", 1⟩ .read none target = some grant :=
      ⟨⟨_, _, _, ticket⟩, Selector.seal?_eq_some_iff.2 ⟨rfl, rfl, rfl, hticket⟩⟩
    have hgranted :
        endlessSelector.granted ⟨.account "alice", 1⟩ .read none [target] = [grant] := by
      rw [Selector.granted, List.filter_cons_of_pos rfl, List.filter_nil]
      exact List.filterMap_cons_some hgrant
    refine ⟨grant, hgranted ▸ Selector.grantAll_eq_ok ?_⟩
    rintro _ hmem - hvault
    cases List.mem_singleton.1 hmem
    exact hvault
  · have hresolves : vaultInventory.Resolves (.content ⟨1⟩) sampleTarget.file none := .content rfl
    have hreplica : sampleTarget.located.replica ∈ vaultInventory.replicasOf ⟨1⟩ := by decide
    exact Selector.forRead_eq_expiryOverflow hresolves hreplica (by decide) rfl rfl rfl hlate

end GridAccess
