import GridAccess.Text.CaseTable

/-!
# Lower and upper case

Case is changed with the full mappings: a character may become several, and a capital sigma at the
end of a word becomes the final small one. Names are compared without regard to the case of ASCII
letters only.

## Main definitions

- `lowercase`, `uppercase` — a text in lower or upper case
- `eqIgnoringCase` — equality up to the case of ASCII letters
-/

namespace GridAccess.Text

/-- The image of a character under the first run that covers it. -/
def shiftBy (runs : List CaseRun) (c : Char) : Char :=
  match runs.find? fun run => run.covers c.toNat with
  | some run => Char.ofNat (c.toNat + run.shift).toNat
  | none => c

/-- The lower case of a single character: one character, or two for a capital I with a dot. -/
def lowerChar (c : Char) : List Char :=
  if c.toNat < 0x80 then [c.toLower]
  else if c.toNat = 0x130 then ['i', Char.ofNat 0x307]
  else [shiftBy lowerRuns c]

/-- The upper case of a single character. -/
def upperChar (c : Char) : List Char :=
  if c.toNat < 0x80 then [c.toUpper]
  else
    match upperExpansions.lookup c.toNat with
    | some codes => codes.map Char.ofNat
    | none => [shiftBy upperRuns c]

/-- Whether the characters that are not ignored begin with a cased one. -/
def startsCased (text : List Char) : Bool :=
  match text.dropWhile fun c => inRanges caseIgnorableRanges c.toNat with
  | c :: _ => inRanges casedRanges c.toNat
  | [] => false

/-- The lower case of a text whose preceding characters, last one first, are `before`. A capital
sigma is final if a cased character comes before it and none after it. -/
def lowerAfter (before : List Char) : List Char → List Char
  | [] => []
  | c :: rest =>
    let image :=
      if c.toNat = 0x3A3 then
        [Char.ofNat (if startsCased before && !startsCased rest then 0x3C2 else 0x3C3)]
      else lowerChar c
    image ++ lowerAfter (c :: before) rest

def lowercase (text : List Char) : List Char :=
  lowerAfter [] text

def uppercase (text : List Char) : List Char :=
  text.flatMap upperChar

/-- Whether two texts are equal up to the case of ASCII letters. -/
def eqIgnoringCase (a b : List Char) : Bool :=
  a.map Char.toLower == b.map Char.toLower

end GridAccess.Text
