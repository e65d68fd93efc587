import GridAccess.Proofs.Text.Occurrence
import GridAccess.Storage.Element

/-!
# Names, sites and tags of storage elements

A client says by name which storage elements it prefers and which it rules out, by name as well where
it is, and by tags what it wants to write to. Here it is said what these names and tags mean. The
case of ASCII letters makes no difference in them.

## Main definitions

- `StorageElement.GoesBy` — a storage element has a name
- `StorageElement.IsSitePart` — the part of a name that tells the site
- `StorageElement.IsAtSite` — a storage element is at a site
- `StorageElement.Carries` — a storage element has a tag

## Main statements

- `StorageElement.goesBy_iff`, `StorageElement.isAtSite_iff`, `StorageElement.carries_iff` — names,
  sites and tags are compared in this way
-/

namespace GridAccess

open Text

/-- Two texts are one but for the case of ASCII letters. -/
def Text.SameLetters (a b : List Char) : Prop :=
  a.map Char.toLower = b.map Char.toLower

theorem Text.sameLetters_iff {a b : List Char} : SameLetters a b ↔ eqIgnoringCase a b = true :=
  beq_iff_eq.symm

namespace StorageElement

variable {element : StorageElement}

/-- An element goes by a name that is its own with white space around it. -/
def GoesBy (element : StorageElement) (name : String) : Prop :=
  ∃ front own back, name.toList = front ++ own ++ back ∧
    (∀ c ∈ front, isBlank c = true) ∧ (∀ c ∈ back, isBlank c = true) ∧ IsTrimmed own ∧
    SameLetters element.name.toList own

theorem goesBy_iff {name : String} : element.GoesBy name ↔ element.isNamed name = true := by
  rw [isNamed, ← sameLetters_iff]
  constructor
  · rintro ⟨front, own, back, hname, hfront, hback, hown, hsame⟩
    rwa [hname, trim_append_append hfront hback hown]
  · intro hsame
    obtain ⟨front, back, hname, hfront, hback⟩ := exists_append_trim_append name.toList
    exact ⟨front, _, back, hname, hfront, hback, isTrimmed_trim _, hsame⟩

instance (element : StorageElement) : DecidablePred element.GoesBy :=
  fun _ => decidable_of_iff _ goesBy_iff.symm

/-- The part of a name that tells the site: the whole of a name that has no parts, the first of two
parts, and the second of more. -/
inductive IsSitePart : List Char → List Char → Prop
  | whole {name : List Char} (h : ¬[':', ':'] <:+: name) : IsSitePart name name
  | first {site rest : List Char} (hsite : ¬[':', ':'] <:+: site ++ [':'])
      (hrest : ¬[':', ':'] <:+: rest) : IsSitePart (site ++ [':', ':'] ++ rest) site
  | second {first site rest : List Char} (hfirst : ¬[':', ':'] <:+: first ++ [':'])
      (hsite : ¬[':', ':'] <:+: site ++ [':']) :
      IsSitePart (first ++ [':', ':'] ++ (site ++ [':', ':'] ++ rest)) site

theorem nameParts_of_cut_eq_none {name : List Char} (h : cut [':', ':'] name = none) :
    nameParts name = [name] := by
  rw [nameParts]
  split
  · next hcut => rw [h] at hcut; cases hcut
  · rfl

theorem nameParts_of_cut_eq_some {name part rest : List Char}
    (h : cut [':', ':'] name = some (part, rest)) : nameParts name = part :: nameParts rest := by
  rw [nameParts]
  split
  · next hcut => rw [h] at hcut; cases hcut; rfl
  · next hcut => rw [h] at hcut; cases hcut

theorem nameParts_ne_nil (name : List Char) : nameParts name ≠ [] := by
  rw [nameParts]
  split <;> exact List.cons_ne_nil _ _

/-- What a site part is, by where the name and its rest are cut. -/
theorem isSitePart_iff_cut {name site : List Char} : IsSitePart name site ↔
    cut [':', ':'] name = none ∧ site = name ∨
    ∃ first rest, cut [':', ':'] name = some (first, rest) ∧
      (cut [':', ':'] rest = none ∧ site = first ∨
        ∃ more, cut [':', ':'] rest = some (site, more)) := by
  have hmark : [':', ':'] ≠ [] := List.cons_ne_nil _ _
  simp only [cut_eq_some_iff hmark, cut_eq_none_iff]
  constructor
  · rintro (h | ⟨hsite, hrest⟩ | ⟨hfirst, hsite⟩)
    · exact Or.inl ⟨h, rfl⟩
    · exact Or.inr ⟨_, _, ⟨rfl, hsite⟩, Or.inl ⟨hrest, rfl⟩⟩
    · exact Or.inr ⟨_, _, ⟨rfl, hfirst⟩, Or.inr ⟨_, rfl, hsite⟩⟩
  · rintro (⟨h, rfl⟩ | ⟨first, rest, ⟨rfl, hfirst⟩, ⟨hrest, rfl⟩ | ⟨more, rfl, hsite⟩⟩)
    · exact .whole h
    · exact .first hfirst hrest
    · exact .second hfirst hsite

/-- The site of an element is that part of its name, and no other part is. -/
theorem isSitePart_iff {site : List Char} :
    IsSitePart element.name.toList site ↔ site = element.site.toList := by
  rw [isSitePart_iff_cut, StorageElement.site]
  cases hname : cut [':', ':'] element.name.toList with
  | none => simp [nameParts_of_cut_eq_none hname]
  | some parts =>
    obtain ⟨first, rest⟩ := parts
    rw [nameParts_of_cut_eq_some hname]
    cases hrest : cut [':', ':'] rest with
    | none => simp [hrest, nameParts_of_cut_eq_none hrest]
    | some others =>
      obtain ⟨second, more⟩ := others
      rw [nameParts_of_cut_eq_some hrest]
      obtain ⟨third, last, hmore⟩ := List.exists_cons_of_ne_nil (nameParts_ne_nil more)
      simp [hmore, hrest, eq_comm]

/-- An element is at a site that the site part of its name tells. -/
def IsAtSite (element : StorageElement) (site : String) : Prop :=
  ∃ part, IsSitePart element.name.toList part ∧ SameLetters part site.toList

theorem isAtSite_iff {site : String} :
    element.IsAtSite site ↔ eqIgnoringCase element.site.toList site.toList = true := by
  simp only [IsAtSite, isSitePart_iff, exists_eq_left, sameLetters_iff]

/-- An element carries a tag that is one of its own. -/
def Carries (element : StorageElement) (tag : String) : Prop :=
  ∃ own ∈ element.tags, SameLetters own.toList tag.toList

theorem carries_iff {tag : String} : element.Carries tag ↔ element.hasTag tag = true := by
  simp only [Carries, hasTag, List.any_eq_true, sameLetters_iff]

instance (element : StorageElement) : DecidablePred element.Carries :=
  fun _ => decidable_of_iff _ carries_iff.symm

end StorageElement

end GridAccess
