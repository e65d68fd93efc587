import GridAccess.Data.Basic

/-!
# Sound data

Data that is skipped may hold anything. Data that is kept has to denote something throughout: its
texts are there, its numbers are not too large, and it is not nested too deep.

## Main definitions

- `Data.isSound` — whether data denotes something, with a bound on its depth

## Main statements

- `Data.isSound_mono` — a greater bound admits the same data
-/

namespace GridAccess.Data

mutual

/-- Whether texts and numbers denote something and lists and tables are at most `depth` deep. -/
def isSound (depth : Nat) : Data → Bool
  | .null => true
  | .bool _ => true
  | .number numeral => numeral.toFloat?.isSome
  | .text content => content.isSome
  | .list items => 0 < depth && areSound (depth - 1) items
  | .table fields => 0 < depth && areSoundFields (depth - 1) fields

def areSound (depth : Nat) : List Data → Bool
  | [] => true
  | item :: items => isSound depth item && areSound depth items

/-- Whether all fields have names and are sound. -/
def areSoundFields (depth : Nat) : List (Option String × Data) → Bool
  | [] => true
  | (name, value) :: fields =>
    name.isSome && isSound depth value && areSoundFields depth fields

end

mutual

/-- Sound data stays sound if it may be deeper. -/
theorem isSound_mono {a b : Nat} (h : a ≤ b) :
    (data : Data) → data.isSound a = true → data.isSound b = true
  | .null, _ => rfl
  | .bool _, _ => rfl
  | .number _, hs => by simpa only [isSound] using hs
  | .text _, hs => by simpa only [isSound] using hs
  | .list items, hs => by
    simp only [isSound, Bool.and_eq_true, decide_eq_true_eq] at hs ⊢
    exact ⟨Nat.lt_of_lt_of_le hs.1 h, areSound_mono (Nat.sub_le_sub_right h 1) items hs.2⟩
  | .table fields, hs => by
    simp only [isSound, Bool.and_eq_true, decide_eq_true_eq] at hs ⊢
    exact ⟨Nat.lt_of_lt_of_le hs.1 h, areSoundFields_mono (Nat.sub_le_sub_right h 1) fields hs.2⟩

theorem areSound_mono {a b : Nat} (h : a ≤ b) :
    (items : List Data) → areSound a items = true → areSound b items = true
  | [], _ => rfl
  | item :: items, hs => by
    simp only [areSound, Bool.and_eq_true] at hs ⊢
    exact ⟨isSound_mono h item hs.1, areSound_mono h items hs.2⟩

theorem areSoundFields_mono {a b : Nat} (h : a ≤ b) :
    (fields : List (Option String × Data)) → areSoundFields a fields = true →
      areSoundFields b fields = true
  | [], _ => rfl
  | (_, value) :: fields, hs => by
    simp only [areSoundFields, Bool.and_eq_true] at hs ⊢
    exact ⟨⟨hs.1.1, isSound_mono h value hs.1.2⟩, areSoundFields_mono h fields hs.2⟩

end

end GridAccess.Data
