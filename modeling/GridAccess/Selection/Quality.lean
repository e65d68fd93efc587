import GridAccess.Text.Blank
import GridAccess.Text.Casing
import GridAccess.Text.Decimal
import GridAccess.Text.Search

/-!
# Quality requirements

New replicas are asked for by tags of storage elements: so many replicas on elements with one tag, so
many on elements with another.

## Main definitions

- `QualityRequirements` — how many replicas are wanted for each tag
- `QualityRequirements.parse` — the requirements in a text such as `disk=2, tape=1`
- `QualityRequirements.wanted` — the number for one tag
-/

namespace GridAccess

open Text

/-- How many replicas are wanted for each tag, in ascending order of the tags, none of them zero. -/
structure QualityRequirements where
  counts : List (String × UInt64)
  deriving DecidableEq, Repr

/-- Why a text states no requirements: a piece is not a tag with a number, or the numbers of one tag
add up to more than 64 bits hold. Such a sum is not a fault that is reported of the text: it ends
whatever the text is read for. -/
inductive QualityError where
  | malformed (piece : String)
  | overflow (tag : String)
  deriving DecidableEq, Repr

namespace QualityRequirements

def none : QualityRequirements := ⟨[]⟩

/-- How many replicas are wanted for a tag. -/
def wanted (requirements : QualityRequirements) (tag : String) : UInt64 :=
  (requirements.counts.lookup tag).getD 0

/-- Add to the number of a tag in an ascending list, if the sum is a 64-bit number. -/
def addCount? (tag : String) (count : UInt64) :
    List (String × UInt64) → Option (List (String × UInt64))
  | [] => some [(tag, count)]
  | (other, present) :: rest =>
    if tag < other then some ((tag, count) :: (other, present) :: rest)
    else if tag = other then
      if present.toNat + count.toNat < UInt64.size then some ((tag, present + count) :: rest) else .none
    else (addCount? tag count rest).map ((other, present) :: ·)

/-- Ask for more replicas with a tag, whose case is ignored. -/
def add (requirements : QualityRequirements) (tag : String) (count : UInt64) :
    Except QualityError QualityRequirements :=
  let name := String.ofList (lowercase tag.toList)
  if count = 0 then .ok requirements
  else
    match addCount? name count requirements.counts with
    | some counts => .ok ⟨counts⟩
    | .none => .error (.overflow name)

/-- The tag and the number in a piece. -/
def readPiece (piece : List Char) : Except QualityError (String × UInt64) :=
  match cut ['='] piece with
  | .none => .error (.malformed (String.ofList piece))
  | some (tag, count) =>
    match Decimal.toUInt64? (trim count) with
    | some n => .ok (String.ofList (trim tag), n)
    | .none => .error (.malformed (String.ofList piece))

/-- The pieces between commas, without white space around them, that are not empty. -/
def pieces (text : List Char) : List (List Char) :=
  ((text.splitOn ',').map trim).filter fun piece => piece ≠ []

def addPiece (requirements : QualityRequirements) (piece : List Char) :
    Except QualityError QualityRequirements :=
  match readPiece piece with
  | .ok (tag, count) => requirements.add tag count
  | .error e => .error e

/-- The requirements in a text of pieces between commas. -/
def parse (text : String) : Except QualityError QualityRequirements :=
  (pieces text.toList).foldlM addPiece none

end QualityRequirements

def QualityError.message : QualityError → String
  | .malformed piece => s!"invalid quality-of-service requirement '{piece}'"
  | .overflow _ => "attempt to add with overflow"

end GridAccess
