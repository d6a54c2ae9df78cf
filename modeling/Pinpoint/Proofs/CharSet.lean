import Mathlib.Data.List.Sort
import Pinpoint.CharSet
import Pinpoint.Lookup.Vocabulary

/-!
# Members of a set of characters

However its intervals overlap and in whichever order they are given, a set that is made of
intervals has the code points of each of them, and no others.
-/

namespace Pinpoint

namespace CharSet

/-- An interval holds a code point. -/
def Holds (interval : Nat × Nat) (code : Nat) : Prop :=
  interval.1 ≤ code ∧ code ≤ interval.2

/-- Joining intervals that come in order of their starts loses no code point and adds none. -/
theorem within_joined {first last code : Nat} {rest : List (Nat × Nat)}
    (ordered : ((first, last) :: rest).Pairwise fun left right => left.1 ≤ right.1) :
    within (joined first last rest) code = true ↔
      ∃ interval ∈ (first, last) :: rest, Holds interval code := by
  induction rest generalizing first last with
  | nil => simp [joined, within, Holds]
  | cons next rest ih =>
      obtain ⟨start, stop⟩ := next
      obtain ⟨startsBehind, restOrdered⟩ := List.pairwise_cons.mp ordered
      have startGe : first ≤ start := startsBehind (start, stop) List.mem_cons_self
      rw [joined]
      split
      · -- The next interval starts before the first one has ended, or right behind it.
        rename_i meets
        have widened : ((first, max last stop) :: rest).Pairwise
            fun left right => left.1 ≤ right.1 := by
          refine List.pairwise_cons.mpr ⟨fun interval member => ?_, restOrdered.of_cons⟩
          exact startsBehind interval (List.mem_cons_of_mem _ member)
        have whole : Holds (first, max last stop) code ↔
            Holds (first, last) code ∨ Holds (start, stop) code := by
          simp only [Holds]
          omega
        rw [ih widened]
        simp only [List.mem_cons, exists_eq_or_imp, whole, or_assoc]
      · have later := ih restOrdered
        have startsLater : (∃ interval ∈ (start, stop) :: rest, Holds interval code) →
            first ≤ code := by
          rintro ⟨interval, member, holds⟩
          exact (startsBehind interval member).trans holds.1
        rw [← later] at startsLater
        rw [List.exists_mem_cons_iff, ← later]
        simp only [within, Holds, Bool.and_eq_true, Bool.or_eq_true, decide_eq_true_eq]
        constructor
        · rintro ⟨firstLe, leLast | behind⟩
          · exact Or.inl ⟨firstLe, leLast⟩
          · exact Or.inr behind
        · rintro (⟨firstLe, leLast⟩ | behind)
          · exact ⟨firstLe, Or.inl leLast⟩
          · exact ⟨startsLater behind, Or.inr behind⟩

/-- A set has the code points of the intervals it is made of. -/
theorem hasCode_ofIntervals {intervals : List (Nat × Nat)} {code : Nat} :
    (ofIntervals intervals).hasCode code = true ↔
      ∃ interval ∈ intervals, Holds interval code := by
  have ordered : (intervals.mergeSort fun left right => left.1 ≤ right.1).Pairwise
      fun left right => left.1 ≤ right.1 := by
    have starts : (intervals.mergeSort fun left right => left.1 ≤ right.1).Pairwise
        fun left right => decide (left.1 ≤ right.1) = true := by
      refine List.pairwise_mergeSort (fun first second third => ?_) (fun left right => ?_) intervals
      · simpa using Nat.le_trans
      · simpa using Nat.le_total left.1 right.1
    simpa using starts
  have members : ∀ interval, interval ∈ intervals.mergeSort
      (fun left right => left.1 ≤ right.1) ↔ interval ∈ intervals :=
    fun interval => List.mem_mergeSort
  rw [ofIntervals, hasCode]
  simp only [← members]
  split
  · rename_i none
    simp [none, within]
  · rename_i first last rest sorted
    rw [sorted] at ordered
    rw [sorted, within_joined ordered]

theorem hasCode_anyOf {sets : List CharSet} {code : Nat} :
    (anyOf sets).hasCode code = true ↔
      ∃ set ∈ sets, ∃ interval ∈ set.intervals, Holds interval code := by
  rw [anyOf, hasCode_ofIntervals]
  simp only [List.mem_flatMap]
  constructor
  · rintro ⟨interval, ⟨set, member, inSet⟩, holds⟩
    exact ⟨set, member, interval, inSet, holds⟩
  · rintro ⟨set, member, interval, inSet, holds⟩
    exact ⟨interval, ⟨set, member, inSet⟩, holds⟩

/-- A set that lacks one character has all others. -/
theorem has_complement_only (d c : Char) : (only d).complement.has c = (c != d) := by
  have most : c.toNat ≤ 0x10FFFF := by
    have valid : c.toNat.isValidChar := c.valid
    rcases valid with low | high <;> omega
  have same : c = d ↔ c.toNat = d.toNat := Char.toNat_inj.symm
  rw [Bool.eq_iff_iff, bne_iff_ne, ne_eq, same]
  simp only [has, hasCode, complement, only, gaps]
  split
  · split
    all_goals
      simp only [within, Bool.and_eq_true, Bool.or_eq_true, decide_eq_true_eq, Bool.false_eq_true,
        or_false]
      omega
  · have more : d.toNat + 1 ≤ 0x10FFFF := by omega
    simp only [if_pos more, within, Bool.and_eq_true, Bool.or_eq_true, decide_eq_true_eq,
      Bool.false_eq_true, or_false]
    omega

theorem has_complement_only_of_notMem {d : Char} {text : Text} (absent : d ∉ text) :
    ∀ c ∈ text, (only d).complement.has c = true := by
  intro c member
  rw [has_complement_only, bne_iff_ne]
  rintro rfl
  exact absent member

end CharSet

namespace Vocabulary

/-! ### The letters of identifiers -/

theorem identifierStart_eq : identifierStart = ⟨[(65, 90), (95, 95), (97, 122)]⟩ := by
  simp [identifierStart, CharSet.anyOf, CharSet.interval, CharSet.only, CharSet.ofIntervals,
    List.mergeSort, List.MergeSort.Internal.splitInTwo, CharSet.joined]

theorem identifierPart_eq :
    identifierPart = ⟨[(48, 57), (65, 90), (95, 95), (97, 122)]⟩ := by
  simp [identifierPart, CharSet.anyOf, CharSet.interval, CharSet.only, CharSet.ofIntervals,
    List.mergeSort, List.MergeSort.Internal.splitInTwo, CharSet.joined]

/-- The pattern of an identifier with its sets written out, so that it can be matched inside a
proof. -/
theorem bareIdentifier_eq : bareIdentifier = Pattern.concat
    [.one ⟨[(65, 90), (95, 95), (97, 122)]⟩,
      .star true (.one ⟨[(48, 57), (65, 90), (95, 95), (97, 122)]⟩)] := by
  rw [bareIdentifier, identifierStart_eq, identifierPart_eq]

end Vocabulary

end Pinpoint
