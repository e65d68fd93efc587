import GridAccess.Data.Basic
import GridAccess.Toml.Trivia

/-!
# Dates and times

A date, a time of day, or both with or without an offset. Nothing in the settings is a date, so
only the form is checked; as data a date is a table without fields of interest.

## Main definitions

- `Toml.date?`, `Toml.time?` — a date and a time of day
- `Toml.moment?` — a date, a time or both
-/

namespace GridAccess.Toml

/-- A number of so many digits, and the text after it. -/
def fixedDigits? (places : Nat) (text : List Char) : Option (Nat × List Char) :=
  let digits := text.take places
  if places ≤ text.length ∧ digits.all Char.isDigit then
    some (Nat.ofDigitChars 10 digits 0, text.drop places)
  else none

/-- A number of two digits in a range, and the text after it. -/
def twoDigits? (least most : Nat) (text : List Char) : Option (Nat × List Char) :=
  match fixedDigits? 2 text with
  | some (n, rest) => if least ≤ n ∧ n ≤ most then some (n, rest) else none
  | none => none

def after? (mark : Char) : List Char → Option (List Char)
  | c :: rest => if c = mark then some rest else none
  | [] => none

def daysInMonth (year month : Nat) : Nat :=
  if month = 2 then
    if year % 4 = 0 ∧ (year % 100 ≠ 0 ∨ year % 400 = 0) then 29 else 28
  else if month = 4 ∨ month = 6 ∨ month = 9 ∨ month = 11 then 30
  else 31

def date? (text : List Char) : Option (List Char) := do
  let (year, afterYear) ← fixedDigits? 4 text
  let (month, afterMonth) ← twoDigits? 1 12 (← after? '-' afterYear)
  let (day, rest) ← twoDigits? 1 31 (← after? '-' afterMonth)
  if day ≤ daysInMonth year month then some rest else none

/-- The text after the fraction of a second, if there is one. -/
def afterFraction (text : List Char) : List Char :=
  match text with
  | '.' :: c :: rest => if c.isDigit then rest.dropWhile Char.isDigit else text
  | _ => text

/-- The text after a time of day. A minute may have a leap second. -/
def time? (text : List Char) : Option (List Char) := do
  let (_, afterHour) ← twoDigits? 0 23 text
  let (_, afterMinute) ← twoDigits? 0 59 (← after? ':' afterHour)
  let (_, afterSecond) ← twoDigits? 0 60 (← after? ':' afterMinute)
  return afterFraction afterSecond

/-- The text after an offset, if there is one. -/
def offset? (text : List Char) : Option (List Char) :=
  match text with
  | c :: rest =>
    if c = 'Z' ∨ c = 'z' then some rest
    else if c = '+' ∨ c = '-' then do
      let (_, afterHour) ← twoDigits? 0 23 rest
      let (_, after) ← twoDigits? 0 59 (← after? ':' afterHour)
      return after
    else some text
  | [] => some []

def looksLikeDate (text : List Char) : Bool :=
  (fixedDigits? 4 text).any fun found => found.2.head? == some '-'

/-- Whether a text starts like a time of day. -/
def looksLikeTime (text : List Char) : Bool :=
  (fixedDigits? 2 text).any fun found => found.2.head? == some ':'

/-- The text after a date, or after a date and a time. -/
def dateAndTime? (text : List Char) : Option (List Char) := do
  let rest ← date? text
  match rest with
  | c :: more =>
    if (c = 'T' ∨ c = 't' ∨ c = ' ') ∧ looksLikeTime more then offset? (← time? more) else some rest
  | [] => some []

/-- A date, a time or both as data, and the text after it. -/
def moment? (text : List Char) : Option (Data × List Char) :=
  let rest := if looksLikeDate text then dateAndTime? text else time? text
  rest.map fun rest => (.table [], rest)

end GridAccess.Toml
