import Pinpoint.Proofs.Lookup.Moves

/-!
# Recorded tokens by kind

A lookup records the tokens on the way to its target in the order of discovery, each
under its kind.  Where no kind has more than one token, what is recorded can be read kind
by kind, and shows the same tokens in the same order.
-/

namespace Pinpoint

namespace TokenMap

theorem get_cons (entry : TokenKind × Token) (rest : List (TokenKind × Token))
    (kind : TokenKind) :
    (TokenMap.mk (entry :: rest)).get kind =
      if entry.1 = kind then entry.2 :: (TokenMap.mk rest).get kind
      else (TokenMap.mk rest).get kind := by
  by_cases same : entry.1 = kind
  · simp [get, same]
  · simp [get, same]

theorem mem_get {tokens : TokenMap} {kind : TokenKind} {token : Token} :
    token ∈ tokens.get kind ↔ (kind, token) ∈ tokens.entries := by
  obtain ⟨entries⟩ := tokens
  induction entries with
  | nil => simp [get]
  | cons entry rest ih =>
      rw [get_cons]
      by_cases same : entry.1 = kind
      · subst same
        rw [if_pos rfl, List.mem_cons, List.mem_cons, ih, Prod.ext_iff]
        simp
      · have other : (kind, token) ≠ entry := fun entryEq => same (entryEq ▸ rfl)
        rw [if_neg same, ih, List.mem_cons]
        simp [other]

theorem get_eq_nil_iff {tokens : TokenMap} {kind : TokenKind} :
    tokens.get kind = [] ↔ kind ∉ tokens.entries.map (·.1) := by
  rw [List.eq_nil_iff_forall_not_mem]
  simp [mem_get]

/-- If every kind has one token at most, there is nothing else under the kind of a token. -/
theorem get_eq_singleton {tokens : TokenMap} (distinct : (tokens.entries.map (·.1)).Nodup)
    {kind : TokenKind} {token : Token} (member : (kind, token) ∈ tokens.entries) :
    tokens.get kind = [token] := by
  obtain ⟨entries⟩ := tokens
  induction entries with
  | nil => simp at member
  | cons entry rest ih =>
      rw [List.map_cons, List.nodup_cons] at distinct
      rw [get_cons]
      rcases List.mem_cons.mp member with rfl | later
      · have none : (TokenMap.mk rest).get kind = [] := get_eq_nil_iff.mpr distinct.1
        rw [if_pos rfl, none]
      · have other : entry.1 ≠ kind := by
          rintro rfl
          exact distinct.1 (List.mem_map.mpr ⟨_, later, rfl⟩)
        rw [if_neg other]
        exact ih distinct.2 later

theorem length_get_le {tokens : TokenMap} (distinct : (tokens.entries.map (·.1)).Nodup)
    (kind : TokenKind) : (tokens.get kind).length ≤ 1 := by
  cases found : tokens.get kind with
  | nil => exact Nat.zero_le 1
  | cons token rest =>
      have member : (kind, token) ∈ tokens.entries := by
        rw [← mem_get, found]
        exact List.mem_cons_self
      rw [← found, get_eq_singleton distinct member]
      exact Nat.le_refl 1

/-- Tokens of kinds that were recorded in a given order, read kind by kind in this
order. -/
theorem flatMap_get {tokens : TokenMap} {kinds : List TokenKind} (distinct : kinds.Nodup)
    (inOrder : (tokens.entries.map (·.1)).Sublist kinds) :
    kinds.flatMap tokens.get = tokens.entries.map (·.2) := by
  obtain ⟨entries⟩ := tokens
  induction kinds generalizing entries with
  | nil =>
      obtain rfl := List.map_eq_nil_iff.mp (List.sublist_nil.mp inOrder)
      rfl
  | cons kind later ih =>
      rw [List.nodup_cons] at distinct
      rw [List.flatMap_cons]
      -- Either nothing was recorded under the first kind, or the first token was.
      rcases List.sublist_cons_iff.mp inOrder with skipped | ⟨keys, keysEq, taken⟩
      · have none : (TokenMap.mk entries).get kind = [] :=
          get_eq_nil_iff.mpr fun member => distinct.1 (skipped.subset member)
        rw [none, List.nil_append]
        exact ih distinct.2 entries skipped
      · obtain ⟨entry, rest, rfl, rfl, rfl⟩ := List.map_eq_cons_iff.mp keysEq
        have none : (TokenMap.mk rest).get entry.1 = [] :=
          get_eq_nil_iff.mpr fun member => distinct.1 (taken.subset member)
        have others : later.flatMap (TokenMap.mk (entry :: rest)).get =
            later.flatMap (TokenMap.mk rest).get := by
          apply List.flatMap_congr
          intro kind member
          have other : entry.1 ≠ kind := by
            rintro rfl
            exact distinct.1 member
          rw [get_cons, if_neg other]
        rw [get_cons, if_pos rfl, none, others, ih distinct.2 rest taken]
        rfl

end TokenMap

namespace Lookup

/-- The tokens recorded on the way to the target, with their kinds, in the order of
discovery. -/
def recorded (lookup : Lookup) : List (TokenKind × Token) :=
  lookup.tokens.entries.filter fun entry => entry.1 ≠ .comment

theorem mem_recorded {lookup : Lookup} {entry : TokenKind × Token} :
    entry ∈ lookup.recorded ↔ entry ∈ lookup.tokens.entries ∧ entry.1 ≠ .comment := by
  simp [recorded]

theorem entries_record (lookup : Lookup) (kind : TokenKind) (found : Match) :
    (lookup.record (kind, found)).tokens.entries =
      lookup.tokens.entries ++ [(kind, ⟨found, true⟩)] := rfl

theorem entries_scanComments (lookup : Lookup) (home : Line) :
    (lookup.scanComments home).tokens.entries =
      lookup.tokens.entries ++ (Comment.scan home lookup.comments).1.map (.comment, ·) := rfl

theorem recorded_record (lookup : Lookup) {kind : TokenKind} (other : kind ≠ .comment)
    (found : Match) :
    (lookup.record (kind, found)).recorded = lookup.recorded ++ [(kind, ⟨found, true⟩)] := by
  rw [recorded, entries_record, List.filter_append]
  simp [recorded, other]

theorem recorded_scanComments (lookup : Lookup) (home : Line) :
    (lookup.scanComments home).recorded = lookup.recorded := by
  rw [recorded, entries_scanComments, List.filter_append]
  simp [recorded]

/-- Comments do not matter for the other kinds. -/
theorem get_recorded (lookup : Lookup) {kind : TokenKind} (other : kind ≠ .comment) :
    (TokenMap.mk lookup.recorded).get kind = lookup.tokens.get kind := by
  have entriesEq : ∀ entries : List (TokenKind × Token),
      (TokenMap.mk (entries.filter fun entry => entry.1 ≠ .comment)).get kind =
        (TokenMap.mk entries).get kind := by
    intro entries
    induction entries with
    | nil => rfl
    | cons entry rest ih =>
        by_cases isComment : entry.1 = .comment
        · have apart : entry.1 ≠ kind := fun same => other (same ▸ isComment)
          rw [TokenMap.get_cons, if_neg apart, ← ih, List.filter_cons_of_neg (by simp [isComment])]
        · rw [List.filter_cons_of_pos (by simp [isComment]), TokenMap.get_cons,
            TokenMap.get_cons, ih]
  exact entriesEq lookup.tokens.entries

end Lookup

end Pinpoint
