/-!
# Keys of envelopes

An envelope describes a granted access by values of nine keys. They are written and signed in one
order, the canonical one.

## Main definitions

- `EnvelopeKey` — the nine keys
- `EnvelopeKey.canonical` — all keys in their order
- `EnvelopeKey.rank` — the place of a key in that order
- `EnvelopeKey.name`, `EnvelopeKey.parse` — the names of the keys

## Main statements

- `EnvelopeKey.rank_injective`, `EnvelopeKey.name_injective` — places and names tell keys apart
- `EnvelopeKey.mem_canonical` — every key has a place
- `EnvelopeKey.parse_eq_ok_iff` — names are read back, and nothing else is read
-/

namespace GridAccess

/-- The keys of an envelope: the location to transfer, the location without an archive member, the
kind of access, the path, the identifier of the file and that of an archive member, the size, the
checksum and the storage element. -/
inductive EnvelopeKey where
  | turl
  | xurl
  | access
  | lfn
  | guid
  | zguid
  | size
  | md5
  | se
  deriving DecidableEq, Repr

/-- A text that names no key. -/
structure UnknownEnvelopeKey where
  text : String
  deriving DecidableEq, Repr

namespace EnvelopeKey

/-- All keys in the order in which they are written. -/
def canonical : List EnvelopeKey :=
  [turl, xurl, access, lfn, guid, zguid, size, md5, se]

/-- The place of a key in the canonical order. -/
def rank : EnvelopeKey → Nat
  | turl => 0
  | xurl => 1
  | access => 2
  | lfn => 3
  | guid => 4
  | zguid => 5
  | size => 6
  | md5 => 7
  | se => 8

def name : EnvelopeKey → String
  | turl => "turl"
  | xurl => "xurl"
  | access => "access"
  | lfn => "lfn"
  | guid => "guid"
  | zguid => "zguid"
  | size => "size"
  | md5 => "md5"
  | se => "se"

def ofName? (name : String) : Option EnvelopeKey :=
  canonical.find? fun key => key.name == name

/-- The key with a name, or the text that names none. -/
def parse (text : String) : Except UnknownEnvelopeKey EnvelopeKey :=
  match ofName? text with
  | some key => .ok key
  | none => .error ⟨text⟩

theorem mem_canonical (key : EnvelopeKey) : key ∈ canonical := by
  cases key <;> decide

/-- A key stands at its place in the canonical order. -/
theorem getElem?_rank (key : EnvelopeKey) : canonical[key.rank]? = some key := by
  cases key <;> rfl

/-- No two keys have one place in the canonical order. -/
theorem rank_injective {a b : EnvelopeKey} (h : a.rank = b.rank) : a = b :=
  Option.some.inj (by rw [← getElem?_rank a, ← getElem?_rank b, h])

/-- The key with a name is found by it. -/
theorem ofName?_name (key : EnvelopeKey) : ofName? key.name = some key := by
  cases key <;> rfl

theorem name_injective {a b : EnvelopeKey} (h : a.name = b.name) : a = b :=
  Option.some.inj (by rw [← ofName?_name a, ← ofName?_name b, h])

/-- Names are read as their keys, and nothing else is read. -/
theorem parse_eq_ok_iff {text : String} {key : EnvelopeKey} :
    parse text = .ok key ↔ key.name = text := by
  unfold parse
  constructor
  · intro h
    split at h
    · next found hfound =>
      cases h
      simpa using List.find?_some hfound
    · cases h
  · rintro rfl
    rw [ofName?_name]

end EnvelopeKey

def UnknownEnvelopeKey.message (error : UnknownEnvelopeKey) : String :=
  s!"unknown envelope key '{error.text}'"

end GridAccess
