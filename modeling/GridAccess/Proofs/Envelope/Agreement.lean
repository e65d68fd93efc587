import GridAccess.Proofs.Envelope.Document
import GridAccess.Proofs.Ticket.Form

/-!
# Agreement of the written forms

An envelope is written as a line with percent escapes or as a document with entities. Each form has
its own order, its own spelling of the access and its own reader, and only the document names the
path of the replica. Both are read as the same access and the same values, and the path that the
line does not name is found again from the location, if that is not one by path.

## Main definitions

- `Envelope.Tells` — what a reader learns of an envelope from a text, and the path it learns

## Main statements

- `Envelope.IsCanonical.linePairs_eq` — a line holds the values in the order of all keys
- `Envelope.tells_line`, `Envelope.tells_document` — what is learned from each form
- `Envelope.written_forms_agree` — both forms tell the same
-/

namespace GridAccess

open Text

namespace Envelope

variable {envelope : Envelope}

/-- A received text tells the access and every value of an envelope, and a path of the replica. -/
def Tells (received : ReceivedEnvelope) (envelope : Envelope) (path : Option String) : Prop :=
  ∃ told, ofReceived received = .ok told ∧ told.access = envelope.access ∧
    (∀ key, told.get? key = envelope.get? key) ∧ told.storagePath = path

/-- The line of an envelope tells the path of its replica as far as its location does. -/
theorem tells_line (h : envelope.IsCanonical) :
    Tells ⟨.delimited, envelope.linePairs.map EnvelopeField.ofPair⟩ envelope
      envelope.deliveredPath :=
  ⟨_, ofReceived_linePairs h, rfl, fun _ => rfl, rfl⟩

/-- The document of an envelope tells all of it. -/
theorem tells_document (h : envelope.Obtainable) :
    Tells ⟨.markup, envelope.elements.map .ofElement⟩ envelope envelope.storagePath :=
  ⟨_, ofReceived_elements h, rfl, fun _ => rfl, rfl⟩

/-- A line holds the values in the order of all keys, and the list of those keys behind them. -/
theorem IsCanonical.linePairs_eq (h : envelope.IsCanonical) :
    envelope.linePairs =
      envelope.elementsOf EnvelopeKey.canonical ++ [(keyListName, envelope.keyList)] := by
  rw [linePairs, h.pairs_eq]

/-- An envelope whose line holds no mark of documents is read from both of its forms: from the line
as its values in the order of all keys with the list of the keys behind them, and from both as the
same access with the same values. The document names the path of the replica, and so does the
location in the line of a built envelope, unless it is a location by path. -/
theorem written_forms_agree (h : envelope.Obtainable) (hplain : IsUnmarked envelope.delimited) :
    ∃ line document,
      ReceivedEnvelope.parse (String.ofList envelope.delimited) = .ok line ∧
      ReceivedEnvelope.parse (String.ofList envelope.markup) = .ok document ∧
      line.format = .delimited ∧
      line.fields = (envelope.elementsOf EnvelopeKey.canonical ++
        [(keyListName, envelope.keyList)]).map EnvelopeField.ofPair ∧
      Tells line envelope envelope.deliveredPath ∧
      Tells document envelope envelope.storagePath ∧
      ∀ access target anchor, envelope = build access target anchor →
        envelope.deliveredPath =
          if (envelope.get? .xurl).isSome then none else envelope.storagePath := by
  have hcanonical := h.isCanonical
  refine ⟨_, _, parse_delimited hcanonical (isUnmarked_delimited_iff.1 hplain),
    envelope.parse_markup, rfl, ?_, tells_line hcanonical, tells_document h, ?_⟩
  · exact congrArg (List.map EnvelopeField.ofPair) hcanonical.linePairs_eq
  · rintro access target anchor rfl
    exact deliveredPath_build access target anchor

/-- A replica with a location that holds every delimiter of the line and of the document. -/
def delimitedTarget : EnvelopeTarget where
  file := .register ⟨1⟩ 42 none "alice" "alice"
  replica := ⟨⟨1⟩, 1, "root://disk.example:1094//data/a&b=c%20d<e>#f"⟩
  element := .basic 1 "ALICE::EXAMPLE::DISK" "root://disk.example:1094" "/data"
  path := none

/-- A member of an archive with a hash sign in its name. -/
def hashMember : ArchiveAnchor where
  memberGuid := ⟨2⟩
  memberName := "run#1.root"
  archivePath := none

theorem written_forms_agree_sample : ∃ line document,
    ReceivedEnvelope.parse
      (String.ofList (build .delete delimitedTarget (some hashMember)).delimited) = .ok line ∧
    ReceivedEnvelope.parse
      (String.ofList (build .delete delimitedTarget (some hashMember)).markup) = .ok document ∧
    line.get? EnvelopeKey.turl.name =
      some "root://disk.example:1094//data/a&b=c%20d<e>#f#run#1.root" ∧
    Tells line (build .delete delimitedTarget (some hashMember))
      (some "/data/a&b=c%20d<e>") ∧
    Tells document (build .delete delimitedTarget (some hashMember))
      (some "/data/a&b=c%20d<e>") := by
  let envelope := build .delete delimitedTarget (some hashMember)
  have hplain : IsUnmarked envelope.delimited :=
    isUnmarked_delimited_iff.2 (by decide +kernel)
  have hstored : envelope.storagePath = some "/data/a&b=c%20d<e>" := by decide +kernel
  have hturl : envelope.get? .turl =
      some "root://disk.example:1094//data/a&b=c%20d<e>#f#run#1.root" := by decide +kernel
  obtain ⟨line, document, hline, hdocument, -, -, htells, htold, hpath⟩ :=
    written_forms_agree (.build .delete delimitedTarget (some hashMember)) hplain
  have hxurl : ¬(envelope.get? .xurl).isSome = true := by decide +kernel
  rw [hpath _ _ _ rfl, if_neg hxurl, hstored] at htells
  obtain ⟨told, hreceived, -, hvalues, -⟩ := id htells
  refine ⟨line, document, hline, hdocument, ?_, htells, hstored ▸ htold⟩
  rw [← get?_of_ofReceived_eq hreceived (by decide : EnvelopeKey.turl ≠ .access), hvalues]
  exact hturl

end Envelope

end GridAccess
