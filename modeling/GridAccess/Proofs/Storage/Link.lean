import GridAccess.Proofs.Identity.Guid
import GridAccess.Proofs.Text.Occurrence
import GridAccess.Storage.Replica
import Mathlib.Data.List.TakeWhile

/-!
# Links into archives

What a location says about an archive is told by the first member mark in it and by the scheme of
identifiers at its start. The rules for reading a location are given as a relation, one for each way
in which a location can be written; reading follows these rules and no others.

## Main definitions

- `ArchiveLink.IsFurther` — what may stand behind the name of a member
- `ArchiveLink.Reads` — the rules for reading locations

## Main statements

- `ArchiveLink.parse_eq_iff` — reading follows the rules
- `ArchiveLink.parse_eq_ok_none_iff` — the locations that are no links
- `archive_links_recognised` — which locations are links, to which archives, and which name no member
-/

namespace GridAccess

open Text

namespace ArchiveLink

/-- What may stand behind the name of a member: nothing, or further parameters. -/
def IsFurther (tail : List Char) : Prop :=
  tail = [] ∨ ∃ more, tail = '&' :: more

/-- The name of a member, with what stands behind it. -/
structure NamesMember (member tail : List Char) : Prop where
  ne_nil : member ≠ []
  amp_not_mem : '&' ∉ member
  isFurther : IsFurther tail

/-- A location with a member mark behind that of an archive. -/
def markedText (target member tail : List Char) : List Char :=
  target ++ memberMark ++ (member ++ tail)

/-- The location of a registered archive, with any number of slashes behind the scheme. -/
def guidText (slashes : Nat) (spelling : List Char) : List Char :=
  guidScheme ++ (List.replicate slashes '/' ++ spelling)

/-- The rules for reading locations. The archive stands in front of the first member mark, and it is
a registered one exactly if it starts with the scheme of identifiers. -/
inductive Reads : List Char → Except LinkError (Option ArchiveLink) → Prop
  | plain {text : List Char} (hmark : ¬memberMark <:+: text) (hscheme : ¬guidScheme <+: text) :
      Reads text (.ok none)
  | unmarked {text : List Char} (hmark : ¬memberMark <:+: text) (hscheme : guidScheme <+: text) :
      Reads text (.error (.missingMember (String.ofList text)))
  | unnamed {target tail : List Char} (htarget : ¬memberMark <:+: target)
      (htail : IsFurther tail) :
      Reads (markedText target [] tail)
        (.error (.missingMember (String.ofList (markedText target [] tail))))
  | location {target member tail : List Char} (htarget : ¬memberMark <:+: target)
      (hscheme : ¬guidScheme <+: target) (hmember : NamesMember member tail) :
      Reads (markedText target member tail)
        (.ok (some ⟨.location (String.ofList target), String.ofList member⟩))
  | registered {slashes : Nat} {spelling member tail : List Char} {guid : Guid}
      (hspelling : ¬memberMark <:+: spelling) (hslash : spelling.head? ≠ some '/')
      (hguid : Guid.parse (String.ofList spelling) = .ok guid)
      (hmember : NamesMember member tail) :
      Reads (markedText (guidText slashes spelling) member tail)
        (.ok (some ⟨.registered guid, String.ofList member⟩))
  | invalidGuid {slashes : Nat} {spelling member tail : List Char} {e : GuidError}
      (hspelling : ¬memberMark <:+: spelling) (hslash : spelling.head? ≠ some '/')
      (hguid : Guid.parse (String.ofList spelling) = .error e)
      (hmember : NamesMember member tail) :
      Reads (markedText (guidText slashes spelling) member tail) (.error .invalidGuid)

variable {text target spelling member tail : List Char}

/-! ## Parts of a location -/

/-- A location is cut at its first member mark. -/
theorem cut_memberMark_eq_some_iff {query : List Char} :
    cut memberMark text = some (target, query) ↔
      text = target ++ memberMark ++ query ∧ ¬memberMark <:+: target :=
  cut_concat_eq_some_iff (by decide : '=' ∉ "?ZIP".toList)

theorem cut_memberMark_eq_none (h : ¬memberMark <:+: text) : cut memberMark text = none := by
  rwa [← Option.not_isSome_iff_eq_none, cut_isSome_iff_isInfix]

theorem firstParameter_append (hmember : '&' ∉ member) (htail : IsFurther tail) :
    firstParameter (member ++ tail) = member := by
  have hnone : tail.takeWhile (· != '&') = [] := by
    rcases htail with rfl | ⟨more, rfl⟩ <;> rfl
  rw [firstParameter, List.takeWhile_append_of_pos, hnone, List.append_nil]
  intro c hc
  exact bne_iff_ne.2 fun heq => hmember (heq ▸ hc)

/-- What stands behind a member mark is the name of a member with further parameters, or with none.
-/
theorem exists_query_eq (query : List Char) :
    ∃ member tail, query = member ++ tail ∧ '&' ∉ member ∧ IsFurther tail := by
  refine ⟨query.takeWhile (· != '&'), query.dropWhile (· != '&'),
    List.takeWhile_append_dropWhile.symm, ?_, ?_⟩
  · intro hamp
    simpa using List.mem_takeWhile_imp hamp
  · cases htail : query.dropWhile (· != '&') with
    | nil => exact Or.inl rfl
    | cons c more =>
      have hc := List.head?_dropWhile_not (· != '&') query
      rw [htail] at hc
      have hamp : c = '&' := by simpa using hc
      exact Or.inr ⟨more, by rw [hamp]⟩

/-- Slashes behind the scheme are skipped. -/
theorem dropWhile_replicate_append (slashes : Nat) (h : spelling.head? ≠ some '/') :
    (List.replicate slashes '/' ++ spelling).dropWhile (· == '/') = spelling := by
  rw [List.dropWhile_append_of_pos]
  · cases spelling with
    | nil => rfl
    | cons c rest =>
      have hc : ¬(c == '/') = true := fun heq => h (by rw [beq_iff_eq.1 heq]; rfl)
      exact List.dropWhile_cons_of_neg hc
  · intro c hc
    exact beq_iff_eq.2 (List.eq_of_mem_replicate hc)

/-- A location with the scheme of identifiers has slashes behind it, and then a spelling. -/
theorem exists_guidText_eq (h : guidScheme <+: target) :
    ∃ slashes spelling, target = guidText slashes spelling ∧ spelling.head? ≠ some '/' := by
  obtain ⟨rest, rfl⟩ := h
  have hslashes : rest.takeWhile (· == '/') =
      List.replicate (rest.takeWhile (· == '/')).length '/' := by
    apply List.eq_replicate_of_mem
    intro c hc
    simpa using List.mem_takeWhile_imp hc
  refine ⟨(rest.takeWhile (· == '/')).length, rest.dropWhile (· == '/'), ?_, ?_⟩
  · rw [guidText, ← hslashes, List.takeWhile_append_dropWhile]
  · intro hhead
    have hnot := List.head?_dropWhile_not (· == '/') rest
    rw [hhead] at hnot
    cases hnot

/-- Neither the scheme nor slashes take part in a member mark. -/
theorem memberMark_isInfix_guidText_iff {slashes : Nat} :
    memberMark <:+: guidText slashes spelling ↔ memberMark <:+: spelling := by
  have hall : guidScheme.all (fun c => !memberMark.contains c) = true := by decide
  have hscheme : ∀ c ∈ guidScheme, c ∉ memberMark := by simpa using hall
  rw [guidText, isInfix_append_iff_right (by decide) hscheme, isInfix_append_iff_right (by decide)]
  intro c hc
  rw [List.eq_of_mem_replicate hc]
  decide

theorem stripStart?_guidText (slashes : Nat) (spelling : List Char) :
    stripStart? guidScheme (guidText slashes spelling) =
      some (List.replicate slashes '/' ++ spelling) :=
  stripStart?_append guidScheme _

theorem stripStart?_eq_none (h : ¬guidScheme <+: target) : stripStart? guidScheme target = none := by
  rw [Option.eq_none_iff_forall_ne_some]
  intro rest hrest
  exact h ⟨rest, (stripStart?_eq_some_iff.1 hrest).symm⟩

/-! ## Reading -/

/-- Every location can be read by one of the rules. -/
theorem exists_reads (text : List Char) : ∃ result, Reads text result := by
  cases hcut : cut memberMark text with
  | none =>
    have hmark : ¬memberMark <:+: text := by
      rw [← cut_isSome_iff_isInfix, hcut]
      exact Bool.false_ne_true
    by_cases hscheme : guidScheme <+: text
    · exact ⟨_, .unmarked hmark hscheme⟩
    · exact ⟨_, .plain hmark hscheme⟩
  | some parts =>
    obtain ⟨htext, htarget⟩ := cut_memberMark_eq_some_iff.1 hcut
    obtain ⟨member, tail, hquery, hamp, htail⟩ := exists_query_eq parts.2
    rw [hquery] at htext
    subst htext
    by_cases hmember : member = []
    · rw [hmember]
      exact ⟨_, .unnamed htarget htail⟩
    · have hnames : NamesMember member tail := ⟨hmember, hamp, htail⟩
      by_cases hscheme : guidScheme <+: parts.1
      · obtain ⟨slashes, spelling, hspelled, hslash⟩ := exists_guidText_eq hscheme
        rw [hspelled, memberMark_isInfix_guidText_iff] at htarget
        rw [hspelled]
        cases hguid : Guid.parse (String.ofList spelling) with
        | ok guid => exact ⟨_, .registered htarget hslash hguid hnames⟩
        | error e => exact ⟨_, .invalidGuid htarget hslash hguid hnames⟩
      · exact ⟨_, .location htarget hscheme hnames⟩

/-- A location is read as the rules say. -/
theorem Reads.parse_eq {result : Except LinkError (Option ArchiveLink)} (h : Reads text result) :
    parse (String.ofList text) = result := by
  -- The mark is found behind the archive, and the name ends before further parameters.
  have hcut : ∀ {target member tail : List Char}, ¬memberMark <:+: target →
      cut memberMark (markedText target member tail) = some (target, member ++ tail) :=
    fun htarget => cut_memberMark_eq_some_iff.2 ⟨rfl, htarget⟩
  rw [parse]
  cases h with
  | plain hmark hscheme =>
    simp only [String.toList_ofList, cut_memberMark_eq_none hmark, stripStart?_eq_none hscheme]
  | unmarked hmark hscheme =>
    obtain ⟨rest, rfl⟩ := hscheme
    simp only [String.toList_ofList, cut_memberMark_eq_none hmark, stripStart?_append]
  | unnamed htarget htail =>
    simp only [String.toList_ofList, hcut htarget, firstParameter_append List.not_mem_nil htail]
  | location htarget hscheme hmember =>
    obtain ⟨c, rest, rfl⟩ := List.exists_cons_of_ne_nil hmember.ne_nil
    simp only [String.toList_ofList, hcut htarget, stripStart?_eq_none hscheme,
      firstParameter_append hmember.amp_not_mem hmember.isFurther]
  | registered hspelling hslash hguid hmember =>
    obtain ⟨c, rest, rfl⟩ := List.exists_cons_of_ne_nil hmember.ne_nil
    simp only [String.toList_ofList, hcut (memberMark_isInfix_guidText_iff.not.2 hspelling),
      stripStart?_guidText, firstParameter_append hmember.amp_not_mem hmember.isFurther,
      dropWhile_replicate_append _ hslash, hguid]
  | invalidGuid hspelling hslash hguid hmember =>
    obtain ⟨c, rest, rfl⟩ := List.exists_cons_of_ne_nil hmember.ne_nil
    simp only [String.toList_ofList, hcut (memberMark_isInfix_guidText_iff.not.2 hspelling),
      stripStart?_guidText, firstParameter_append hmember.amp_not_mem hmember.isFurther,
      dropWhile_replicate_append _ hslash, hguid]

/-- Reading follows the rules: the result is the one that a rule gives for the location. -/
theorem parse_eq_iff {location : String} {result : Except LinkError (Option ArchiveLink)} :
    parse location = result ↔ Reads location.toList result := by
  have hof : String.ofList location.toList = location := String.ofList_toList
  constructor
  · rintro rfl
    obtain ⟨result, hreads⟩ := exists_reads location.toList
    have hresult := hreads.parse_eq
    rw [hof] at hresult
    rwa [hresult]
  · intro hreads
    rw [← hreads.parse_eq, hof]

/-- A location is no link exactly if it has neither a member mark nor the scheme of identifiers. -/
theorem parse_eq_ok_none_iff {location : String} :
    parse location = .ok none ↔
      ¬memberMark <:+: location.toList ∧ ¬guidScheme <+: location.toList := by
  rw [parse_eq_iff]
  generalize location.toList = text
  constructor
  · intro hreads
    cases hreads with
    | plain hmark hscheme => exact ⟨hmark, hscheme⟩
  · rintro ⟨hmark, hscheme⟩
    exact .plain hmark hscheme

/-- The canonical spelling of an identifier holds no member mark and starts with no slash. -/
theorem plain_chars (guid : Guid) :
    ¬memberMark <:+: guid.chars ∧ guid.chars.head? ≠ some '/' := by
  refine ⟨?_, ?_⟩
  · intro hmark
    have hmem : '?' ∈ '-' :: Guid.lowerDigits := Guid.mem_chars (hmark.subset (by decide))
    exact absurd hmem (by decide)
  · intro hhead
    exact (Guid.plain_of_mem_chars (List.mem_of_mem_head? hhead)).2.1 rfl

end ArchiveLink

open ArchiveLink

/-- Which locations are links into archives. A location is none exactly if it has neither a member
mark nor the scheme of identifiers. Otherwise the archive is what stands before the first mark, and
the member is named by what stands behind it, up to further parameters: the archive is a registered
one if its identifier follows the scheme, with any number of slashes between, and the file at the
location else. Without a name, or without a mark behind the scheme, no member is named. -/
theorem archive_links_recognised :
    (∀ location : String, parse location = .ok none ↔
      ¬memberMark <:+: location.toList ∧ ¬guidScheme <+: location.toList) ∧
    (∀ (guid : Guid) (slashes : Nat) (member tail : List Char), NamesMember member tail →
      parse (String.ofList (markedText (guidText slashes guid.chars) member tail)) =
        .ok (some ⟨.registered guid, String.ofList member⟩)) ∧
    (∀ target member tail : List Char, ¬memberMark <:+: target → ¬guidScheme <+: target →
      NamesMember member tail →
      parse (String.ofList (markedText target member tail)) =
        .ok (some ⟨.location (String.ofList target), String.ofList member⟩)) ∧
    (∀ (guid : Guid) (slashes : Nat) (tail : List Char), IsFurther tail →
      parse (String.ofList (markedText (guidText slashes guid.chars) [] tail)) =
        .error (.missingMember
          (String.ofList (markedText (guidText slashes guid.chars) [] tail)))) ∧
    (∀ target tail : List Char, ¬memberMark <:+: target → IsFurther tail →
      parse (String.ofList (markedText target [] tail)) =
        .error (.missingMember (String.ofList (markedText target [] tail)))) ∧
    ∀ location : String, guidScheme <+: location.toList → ¬memberMark <:+: location.toList →
      parse location = .error (.missingMember location) := by
  refine ⟨fun _ => parse_eq_ok_none_iff, ?_, ?_, ?_, ?_, ?_⟩
  · intro guid slashes member tail hmember
    obtain ⟨hmark, hslash⟩ := plain_chars guid
    exact (Reads.registered hmark hslash guid.parse_text hmember).parse_eq
  · intro target member tail hmark hscheme hmember
    exact (Reads.location hmark hscheme hmember).parse_eq
  · intro guid slashes tail htail
    have hmark : ¬memberMark <:+: guidText slashes guid.chars :=
      memberMark_isInfix_guidText_iff.not.2 (plain_chars guid).1
    exact (Reads.unnamed hmark htail).parse_eq
  · intro target tail hmark htail
    exact (Reads.unnamed hmark htail).parse_eq
  · intro location hscheme hmark
    rw [parse_eq_iff]
    have hreads := Reads.unmarked hmark hscheme
    rwa [String.ofList_toList] at hreads

/-- A link that names a member with a mark and a hash sign in its name, and has a further parameter.
-/
theorem archive_links_recognised_sample :
    parse "guid:////00000000-0000-0000-0000-00000000002a?ZIP=a?ZIP=b#c&x=1" =
      .ok (some ⟨.registered ⟨42⟩, "a?ZIP=b#c"⟩) ∧
    parse "root://disk.example:1094//a.zip?ZIP=a?ZIP=b#c&x=1" =
      .ok (some ⟨.location "root://disk.example:1094//a.zip", "a?ZIP=b#c"⟩) ∧
    parse "guid://00000000-0000-0000-0000-00000000002a" =
      .error (.missingMember "guid://00000000-0000-0000-0000-00000000002a") := by
  obtain ⟨-, hregistered, hlocation, -, -, hunmarked⟩ := archive_links_recognised
  have hmember : NamesMember "a?ZIP=b#c".toList "&x=1".toList :=
    ⟨by decide, by decide, Or.inr ⟨_, rfl⟩⟩
  have hmark : ∀ text : List Char, contains memberMark text = false → ¬memberMark <:+: text := by
    intro text hfalse
    rw [← contains_iff_isInfix, hfalse]
    exact Bool.false_ne_true
  have hguid : markedText (guidText 2 (Guid.chars ⟨42⟩)) "a?ZIP=b#c".toList "&x=1".toList =
      "guid:////00000000-0000-0000-0000-00000000002a?ZIP=a?ZIP=b#c&x=1".toList := by decide
  have hfile : markedText "root://disk.example:1094//a.zip".toList "a?ZIP=b#c".toList
      "&x=1".toList = "root://disk.example:1094//a.zip?ZIP=a?ZIP=b#c&x=1".toList := by decide
  have hmemberOfGuid := hregistered ⟨42⟩ 2 _ _ hmember
  have hmemberOfFile :=
    hlocation "root://disk.example:1094//a.zip".toList _ _ (hmark _ (by decide)) (by decide) hmember
  rw [hguid] at hmemberOfGuid
  rw [hfile] at hmemberOfFile
  simp only [String.ofList_toList] at hmemberOfGuid hmemberOfFile
  exact ⟨hmemberOfGuid, hmemberOfFile, hunmarked _ ⟨_, rfl⟩ (hmark _ (by decide))⟩

end GridAccess
