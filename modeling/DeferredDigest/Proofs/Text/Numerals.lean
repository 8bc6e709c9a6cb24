import DeferredDigest.Text.Decimal

/-!
# Reading unsigned numerals

What `Decimal.parseBounded?` accepts, said without its code.  A text *spells* `n` when it is an
optional single `+` followed by one or more ASCII digits whose value in base ten, as the standard
library reads digits (`Nat.ofDigitChars`), is `n`.  Main statements:

* `Decimal.parseBounded?_eq_some_iff`: the reader returns `n` exactly on the spellings of `n`,
  when `n` is within the bound.  So it refuses the empty text, a sign alone, a minus sign, blanks
  or any other character, and a value past the bound, and it takes leading zeros.
* `Decimal.parseBounded?_toString`: the canonical decimal text of a value within the bound reads
  back as that value, so reading inverts printing.
-/

namespace DeferredDigest.Decimal

/-- A text spells `n`: an optional single `+`, then one or more ASCII digits whose value in base
ten is `n`. -/
def Spells (q : String) (n : Nat) : Prop :=
  ∃ ds : List Char, (q.toList = ds ∨ q.toList = '+' :: ds) ∧ ds ≠ [] ∧
    (∀ c ∈ ds, c.isDigit = true) ∧ Nat.ofDigitChars 10 ds 0 = n

/-- The value of a run of digits is their reading in base ten. -/
theorem valueOf_eq_ofDigitChars (cs : List Char) : valueOf cs = Nat.ofDigitChars 10 cs 0 := by
  simp only [valueOf, Nat.ofDigitChars, digitValue, Nat.mul_comm]

theorem isDigits_iff {cs : List Char} :
    isDigits cs = true ↔ cs ≠ [] ∧ ∀ c ∈ cs, c.isDigit = true := by
  simp [isDigits]

/-- Taking the sign off removes one leading `+`, or nothing. -/
theorem eq_or_eq_plus_unsigned (cs : List Char) :
    cs = unsigned cs ∨ cs = '+' :: unsigned cs := by
  unfold unsigned
  split <;> simp

/-- A run of digits has no sign to take off. -/
theorem unsigned_of_digits {cs : List Char} (h : ∀ c ∈ cs, c.isDigit = true) :
    unsigned cs = cs := by
  unfold unsigned
  split
  · -- a `+` is not a digit
    have hplus := h '+' List.mem_cons_self
    simp at hplus
  · rfl

/-- The reader returns `n` exactly when the text spells `n` and `n` is within the bound. -/
theorem parseBounded?_eq_some_iff {bound n : Nat} {q : String} :
    parseBounded? bound q = some n ↔ Spells q n ∧ n ≤ bound := by
  constructor
  · intro h
    simp only [parseBounded?] at h
    split at h
    · rename_i hds
      split at h
      · rename_i hv
        cases h
        obtain ⟨hne, hdig⟩ := isDigits_iff.mp hds
        exact ⟨⟨unsigned q.toList, eq_or_eq_plus_unsigned q.toList, hne, hdig,
          (valueOf_eq_ofDigitChars _).symm⟩, hv⟩
      · cases h
    · cases h
  · rintro ⟨⟨ds, hq, hne, hdig, rfl⟩, hb⟩
    have hu : unsigned q.toList = ds := by
      rcases hq with hq | hq
      · rw [hq, unsigned_of_digits hdig]
      · rw [hq]
        rfl
    simp [parseBounded?, hu, isDigits_iff.mpr ⟨hne, hdig⟩, valueOf_eq_ofDigitChars, hb]

example : parseU64? "" = none ∧ parseU64? "+" = none ∧ parseU64? "-1" = none ∧
    parseU64? " 1" = none ∧ parseU64? "1a" = none ∧ parseU64? "18446744073709551616" = none ∧
    parseU64? "+007" = some 7 := by
  decide

/-- The canonical decimal text of a value is made of digits only. -/
theorem isDigit_of_mem_toString {n : Nat} {c : Char} (hc : c ∈ (toString n).toList) :
    c.isDigit = true := by
  have hc' : c ∈ Nat.toDigits 10 n := by simpa using hc
  exact Nat.isDigit_of_mem_toDigits (by decide) (by decide) hc'

/-- The canonical decimal text of a value within the bound reads back as that value. -/
theorem parseBounded?_toString {bound n : Nat} (h : n ≤ bound) :
    parseBounded? bound (toString n) = some n := by
  refine parseBounded?_eq_some_iff.mpr ⟨⟨Nat.toDigits 10 n, .inl (by simp), Nat.toDigits_ne_nil,
    fun c hc => isDigit_of_mem_toString (by simpa using hc), ?_⟩, h⟩
  exact Nat.ofDigitChars_ten_toDigits

theorem parseU64?_toString {n : Nat} (h : n ≤ u64Max) : parseU64? (toString n) = some n :=
  parseBounded?_toString h

end DeferredDigest.Decimal
