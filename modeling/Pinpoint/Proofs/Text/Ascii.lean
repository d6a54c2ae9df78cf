import Pinpoint.LetterCase

/-!
# Letters of ASCII texts

The case of an ASCII character is the one that `Char` knows, and the case of an ASCII text is
changed character by character.
-/

namespace Pinpoint

namespace Text

/-- A text of ASCII characters. -/
def IsAscii (text : Text) : Prop :=
  ∀ c ∈ text, c.toNat < 128

instance (text : Text) : Decidable text.IsAscii :=
  decidable_of_iff (text.all fun c => c.toNat < 128) (by simp [IsAscii])

/-! ### Characters -/

section Characters

variable {c : Char}

theorem isUpper_iff_toNat : c.isUpper = true ↔ 65 ≤ c.toNat ∧ c.toNat ≤ 90 :=
  decide_eq_true_iff

theorem isLower_iff_toNat : c.isLower = true ↔ 97 ≤ c.toNat ∧ c.toNat ≤ 122 :=
  Bool.and_eq_true_iff.trans (and_congr decide_eq_true_iff decide_eq_true_iff)

theorem isDigit_iff_toNat : c.isDigit = true ↔ 48 ≤ c.toNat ∧ c.toNat ≤ 57 :=
  Char.isDigit_iff_toNat

theorem isAlpha_iff : c.isAlpha = true ↔ c.isUpper = true ∨ c.isLower = true :=
  Bool.or_eq_true_iff

theorem isAlphanum_iff : c.isAlphanum = true ↔ c.isAlpha = true ∨ c.isDigit = true :=
  Bool.or_eq_true_iff

theorem isUpper_of_ascii (ascii : c.toNat < 128) : isUpper c = c.isUpper :=
  if_pos ascii

theorem isLower_of_ascii (ascii : c.toNat < 128) : isLower c = c.isLower :=
  if_pos ascii

theorem isAlphanumeric_of_ascii (ascii : c.toNat < 128) : isAlphanumeric c = c.isAlphanum :=
  if_pos ascii

theorem upperOfChar_of_ascii (ascii : c.toNat < 128) : upperOfChar c = [c.toUpper] :=
  if_pos ascii

theorem lowerOfChar_of_ascii (ascii : c.toNat < 128) : lowerOfChar c = [c.toLower] :=
  if_pos ascii

/-- What holds of every ASCII code holds of an ASCII character. -/
theorem of_forall_codes {p : Char → Prop} (codes : ∀ code < 128, p (Char.ofNat code))
    (ascii : c.toNat < 128) : p c :=
  Char.ofNat_toNat c ▸ codes c.toNat ascii

theorem toNat_toLower_lt (ascii : c.toNat < 128) : c.toLower.toNat < 128 :=
  of_forall_codes (p := fun c => c.toLower.toNat < 128) (by decide) ascii

theorem toNat_lt_of_isAlphanum (alphanumeric : c.isAlphanum = true) : c.toNat < 128 := by
  rw [isAlphanum_iff, isAlpha_iff, isUpper_iff_toNat, isLower_iff_toNat,
    isDigit_iff_toNat] at alphanumeric
  omega

theorem isDigit_eq_false_of_isAlpha (letter : c.isAlpha = true) : c.isDigit = false := by
  rw [isAlpha_iff, isUpper_iff_toNat, isLower_iff_toNat] at letter
  rw [← Bool.not_eq_true, isDigit_iff_toNat]
  omega

theorem toUpper_of_not_isLower (notSmall : ¬ c.isLower = true) : c.toUpper = c :=
  dif_neg (mt isLower_iff_toNat.2 notSmall)

theorem toLower_of_not_isUpper (notCapital : ¬ c.isUpper = true) : c.toLower = c :=
  dif_neg (mt isUpper_iff_toNat.2 notCapital)

/-- Outside ASCII there are no letters, and the case of nothing is changed. -/
theorem letters_of_not_ascii (notAscii : ¬ c.toNat < 128) :
    c.isUpper = false ∧ c.isLower = false ∧ c.toUpper = c ∧ c.toLower = c := by
  have noCapital : ¬ c.isUpper = true := by
    rw [isUpper_iff_toNat]
    omega
  have noSmall : ¬ c.isLower = true := by
    rw [isLower_iff_toNat]
    omega
  exact ⟨Bool.eq_false_iff.mpr noCapital, Bool.eq_false_iff.mpr noSmall,
    toUpper_of_not_isLower noSmall, toLower_of_not_isUpper noCapital⟩

/-- What holds of every ASCII code, and of every character without a case, holds of all
characters. -/
theorem forall_letters {p : Char → Prop} (codes : ∀ code < 128, p (Char.ofNat code))
    (others : ∀ c : Char, c.isUpper = false → c.isLower = false → c.toUpper = c →
      c.toLower = c → p c) (c : Char) : p c := by
  by_cases ascii : c.toNat < 128
  · exact of_forall_codes codes ascii
  · obtain ⟨noCapital, noSmall, upperEq, lowerEq⟩ := letters_of_not_ascii ascii
    exact others c noCapital noSmall upperEq lowerEq

theorem isUpper_toUpper : ∀ c : Char, c.toUpper.isUpper = c.isAlpha :=
  forall_letters (by decide) fun c noCapital noSmall upperEq _ => by
    rw [upperEq, Bool.eq_iff_iff, isAlpha_iff, noCapital, noSmall, or_self]

theorem isLower_toLower : ∀ c : Char, c.toLower.isLower = c.isAlpha :=
  forall_letters (by decide) fun c noCapital noSmall _ lowerEq => by
    rw [lowerEq, Bool.eq_iff_iff, isAlpha_iff, noCapital, noSmall, or_self]

theorem isUpper_toLower : ∀ c : Char, c.toLower.isUpper = false :=
  forall_letters (by decide) fun c noCapital _ _ lowerEq => by rw [lowerEq, noCapital]

theorem isAlpha_toLower : ∀ c : Char, c.toLower.isAlpha = c.isAlpha :=
  forall_letters (by decide) fun c _ _ _ lowerEq => by rw [lowerEq]

theorem toUpper_toLower : ∀ c : Char, c.toLower.toUpper = c.toUpper :=
  forall_letters (by decide) fun c _ _ _ lowerEq => by rw [lowerEq]

theorem toLower_toUpper : ∀ c : Char, c.toUpper.toLower = c.toLower :=
  forall_letters (by decide) fun c _ _ upperEq _ => by rw [upperEq]

theorem toUpper_of_isUpper : ∀ c : Char, c.isUpper = true → c.toUpper = c :=
  forall_letters (by decide) fun _ _ _ upperEq _ _ => upperEq

theorem toLower_toLower : ∀ c : Char, c.toLower.toLower = c.toLower :=
  forall_letters (by decide) fun c _ _ _ lowerEq => by rw [lowerEq, lowerEq]

theorem isDigit_toUpper : ∀ c : Char, c.toUpper.isDigit = c.isDigit :=
  forall_letters (by decide) fun c _ _ upperEq _ => by rw [upperEq]

theorem isDigit_toLower : ∀ c : Char, c.toLower.isDigit = c.isDigit :=
  forall_letters (by decide) fun c _ _ _ lowerEq => by rw [lowerEq]

theorem isAlphanum_toUpper : ∀ c : Char, c.toUpper.isAlphanum = c.isAlphanum :=
  forall_letters (by decide) fun c _ _ upperEq _ => by rw [upperEq]

theorem isAlphanum_toLower : ∀ c : Char, c.toLower.isAlphanum = c.isAlphanum :=
  forall_letters (by decide) fun c _ _ _ lowerEq => by rw [lowerEq]

end Characters

/-! ### Texts -/

namespace IsAscii

variable {text : Text}

theorem toUpper_eq (ascii : text.IsAscii) : toUpper text = text.map Char.toUpper := by
  induction text with
  | nil => rfl
  | cons c rest ih =>
      obtain ⟨first, others⟩ := List.forall_mem_cons.mp ascii
      rw [toUpper, List.flatMap_cons, upperOfChar_of_ascii first, ← toUpper, ih others]
      rfl

theorem lowerAfter_eq (ascii : text.IsAscii) (before : Text) :
    lowerAfter before text = text.map Char.toLower := by
  induction text generalizing before with
  | nil => rfl
  | cons c rest ih =>
      obtain ⟨first, others⟩ := List.forall_mem_cons.mp ascii
      -- Only the sigma looks at its neighbours, which is outside ASCII.
      have plain : c ≠ 'Σ' := by
        rintro rfl
        exact absurd first (by decide)
      rw [lowerAfter, if_neg plain, lowerOfChar_of_ascii first, ih others]
      rfl

theorem toLower_eq (ascii : text.IsAscii) : toLower text = text.map Char.toLower :=
  ascii.lowerAfter_eq []

end IsAscii

end Text

end Pinpoint
