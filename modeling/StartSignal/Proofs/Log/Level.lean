/-
# StartSignal.Proofs.Log.Level -- which texts name a level

A text names a level by its English name in any mix of ASCII cases or by its rank, a numeral
from 1 to 5 (`Level.NamedBy`); no text does both, for a name is made of letters and a numeral is
not (`Level.lower_ne_lowerName`).  What is read as a level is what names it
(`Level.parse?_eq_some_iff`), the rank being tried before the name.
-/
import StartSignal.Log.Level
import StartSignal.Proofs.Text.Numeral

namespace StartSignal.Log

/-- A text names a level, by its name or by its rank. -/
def Level.NamedBy (l : Level) (s : String) : Prop :=
  Text.lower s = l.lowerName ∨ Text.Spells s.toList l.rank

/-- A text names one of the levels. -/
def NamesLevel (s : String) : Prop := ∃ l : Level, l.NamedBy s

namespace Level

theorem ofRank?_eq_some_iff {n : Nat} {l : Level} : ofRank? n = some l ↔ n = l.rank := by
  constructor
  · intro found
    unfold ofRank? at found
    split at found <;> cases found <;> rfl
  · rintro rfl
    cases l <;> rfl

theorem ofLowerName?_eq_some_iff {s : String} {l : Level} :
    ofLowerName? s = some l ↔ s = l.lowerName := by
  unfold ofLowerName?
  cases l <;> grind [lowerName]

/-- A numeral is no name. -/
theorem lower_ne_lowerName {s : String} {n : Nat} (spells : Text.Spells s.toList n) (l : Level) :
    Text.lower s ≠ l.lowerName := by
  have plain : ∀ c ∈ (Text.lower s).toList, c.isAlpha = false := by
    intro c member
    rw [Text.lower, String.toList_ofList] at member
    obtain ⟨d, among, rfl⟩ := List.mem_map.mp member
    rcases (Text.isNumeral_iff.mpr spells).isDigit_or_plus d among with digit | rfl
    · obtain ⟨k, below, rfl⟩ := Text.isDigit_iff.mp digit
      have each : ∀ e < 10, (Text.lowerChar (Text.digitChar e)).isAlpha = false := by decide
      exact each k below
    · decide
  have letter : ∃ c ∈ l.lowerName.toList, c.isAlpha = true := by
    apply List.any_eq_true.mp
    cases l <;> decide
  intro same
  obtain ⟨c, member, alpha⟩ := letter
  rw [← same] at member
  rw [plain c member] at alpha
  cases alpha

/-- What is read as a level is what names it. -/
theorem parse?_eq_some_iff {s : String} {l : Level} : parse? s = some l ↔ l.NamedBy s := by
  have ranked : (Text.unsigned? s.toList).bind ofRank? = some l ↔ Text.Spells s.toList l.rank := by
    simp only [Option.bind_eq_some_iff, ofRank?_eq_some_iff, exists_eq_right,
      Text.unsigned?_eq_some_iff, Text.isNumeral_iff]
  rw [parse?, Option.or_eq_some_iff, ranked, ofLowerName?_eq_some_iff, NamedBy, or_comm]
  constructor
  · rintro (⟨-, name⟩ | numeral)
    · exact .inl name
    · exact .inr numeral
  · rintro (name | numeral)
    · refine .inl ⟨Option.eq_none_iff_forall_ne_some.mpr fun l' found => ?_, name⟩
      obtain ⟨n, read, -⟩ := Option.bind_eq_some_iff.mp found
      rw [Text.unsigned?_eq_some_iff, Text.isNumeral_iff] at read
      exact lower_ne_lowerName read l name
    · exact .inr numeral

theorem isSome_parse?_iff {s : String} : (parse? s).isSome = true ↔ NamesLevel s := by
  simp only [Option.isSome_iff_exists, parse?_eq_some_iff, NamesLevel]

theorem parse?_eq_none_iff {s : String} : parse? s = none ↔ ¬ NamesLevel s := by
  rw [← isSome_parse?_iff, Option.not_isSome_iff_eq_none]

/-- What names a level has no equals sign in it. -/
theorem NamedBy.equals_notMem {l : Level} {s : String} (named : l.NamedBy s) :
    '=' ∉ s.toList := by
  intro member
  rcases named with name | numeral
  · have kept : '=' ∈ (Text.lower s).toList := by
      rw [Text.lower, String.toList_ofList]
      exact List.mem_map.mpr ⟨'=', member, by decide⟩
    rw [name] at kept
    revert kept
    cases l <;> decide
  · rcases (Text.isNumeral_iff.mpr numeral).isDigit_or_plus '=' member with digit | plus
    · revert digit
      decide
    · revert plus
      decide

end Level

end StartSignal.Log
