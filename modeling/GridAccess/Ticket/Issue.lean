import GridAccess.Ticket.Bearer
import GridAccess.Ticket.Encrypted
import GridAccess.Ticket.Signed

/-!
# Issuing tickets

A storage element gets the kind of ticket it asks for.

## Main definitions

- `TicketIssuer.issue` — the ticket of an envelope, of a given kind
- `TicketIssuer.issueFor` — the ticket of an envelope for a storage element

## Main statements

- `TicketIssuer.policy_of_issue` — a ticket is of the kind asked for
-/

namespace GridAccess

namespace TicketIssuer

/-- The ticket of an envelope, of a given kind. -/
def issue (issuer : TicketIssuer) (policy : TicketPolicy) (request : TicketRequest)
    (random : TicketRandomness) (envelope : Envelope) : Except SealError Ticket :=
  match policy with
  | .signed => issuer.signed request envelope
  | .encrypted => issuer.encrypted random.encryption envelope
  | .token => issuer.token request random.tokenId envelope

/-- The ticket of an envelope for a storage element. -/
def issueFor (issuer : TicketIssuer) (element : StorageElement) (request : TicketRequest)
    (random : TicketRandomness) (envelope : Envelope) : Except SealError Ticket :=
  issuer.issue element.policy request random envelope

/-- A ticket is of the kind that was asked for. -/
theorem policy_of_issue {issuer : TicketIssuer} {policy : TicketPolicy} {request : TicketRequest}
    {random : TicketRandomness} {envelope : Envelope} {ticket : Ticket}
    (h : issuer.issue policy request random envelope = .ok ticket) : ticket.policy = policy := by
  cases policy with
  | signed =>
    simp only [issue, signed] at h
    split at h
    · cases h
    · split at h
      · cases h
        rfl
      · cases h
  | encrypted =>
    simp only [issue, encrypted] at h
    split at h
    · cases h
    · split at h
      · cases h
        rfl
      · cases h
  | token =>
    simp only [issue, token] at h
    cases hclaims : issuer.claims request random.tokenId envelope with
    | error e =>
      rw [hclaims] at h
      cases h
    | ok claims =>
      rw [hclaims] at h
      simp only [bind, Except.bind] at h
      split at h
      · cases h
        rfl
      · cases h

end TicketIssuer

end GridAccess
