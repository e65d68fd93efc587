import GridAccess.Text.Search

/-!
# Storage paths of locations

A location is an endpoint followed by a path. Tickets name the path: what follows the second
double slash, with one slash in front, without the anchor of an archive member.

## Main definitions

- `storagePath` — the path part of a location
-/

namespace GridAccess

open Text

/-- A location without its anchor. -/
def withoutAnchor (location : List Char) : List Char :=
  location.takeWhile (· != '#')

/-- The path part of a location. Without a double slash it is the whole location; with one only,
it starts at the next slash, and is a slash if there is none. -/
def storagePath (location : List Char) : List Char :=
  let plain := withoutAnchor location
  match cut ['/', '/'] plain with
  | none => plain
  | some (_, rest) =>
    match cut ['/', '/'] rest with
    | some (_, path) => '/' :: path
    | none =>
      match rest.dropWhile (· != '/') with
      | [] => ['/']
      | path => path

end GridAccess
