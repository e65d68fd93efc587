import GridAccess.Storage.Element

/-!
# Storage elements with derived endpoints

For trying things out, a storage element gets an endpoint that follows from its name.

## Main definitions

- `StorageElement.derivedHost` — the host named by the last two parts of a name
- `StorageElement.derived` — a storage element on that host
-/

namespace GridAccess.StorageElement

open Text

/-- The last part of a name and the part before it, in lower case with a point between them. -/
def derivedHost (name : List Char) : List Char :=
  match cutLast [':', ':'] name with
  | none => lowercase name
  | some (front, last) =>
    match cutLast [':', ':'] front with
    | none => lowercase last ++ '.' :: lowercase front
    | some (_, middle) => lowercase last ++ '.' :: lowercase middle

/-- A storage element on the host that its name stands for. -/
def derived (number : ElementNumber) (name : String) : StorageElement :=
  let host := String.ofList (derivedHost name.toList)
  basic number name s!"root://{host}.example.org:1094" "/data"

end GridAccess.StorageElement
