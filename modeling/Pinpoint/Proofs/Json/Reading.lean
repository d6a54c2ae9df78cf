import Pinpoint.Proofs.Json.Numbers
import Pinpoint.Proofs.Json.Strings

/-!
# Reading values

The reader takes every value of the grammar up to its end, whatever follows it, as long as
no number goes on there.  How often it may step down into a value is bounded by the length
of the text, which is enough.
-/

namespace Pinpoint

namespace Json

/-! ### Blanks and ends -/

theorem isSpace_iff {c : Char} :
    isSpace c = true ↔ c = ' ' ∨ c = '\t' ∨ c = '\n' ∨ c = '\r' := by
  simp [isSpace, or_assoc]

theorem skipSpace_append {spaces : Text} (isSpaces : Spaces spaces) (text : Text) :
    skipSpace (spaces ++ text) = skipSpace text :=
  List.dropWhile_append_of_pos fun c member => isSpace_iff.mpr (isSpaces c member)

theorem skipSpace_cons {c : Char} (notSpace : isSpace c = false) (text : Text) :
    skipSpace (c :: text) = c :: text := by
  rw [skipSpace, List.dropWhile_cons_of_neg (by simp [notSpace])]

theorem ends_nil : Ends [] :=
  ⟨by simp [EndsDigits], by simp, by simp⟩

/-- A value ends at a blank, a comma or a closing bracket. -/
theorem ends_cons {c : Char} (isEnd : isSpace c = true ∨ c = ',' ∨ c = ']' ∨ c = '\x7d')
    (text : Text) : Ends (c :: text) := by
  have known : c.isDigit = false ∧ c ≠ '.' ∧ c ≠ 'e' ∧ c ≠ 'E' := by
    rw [isSpace_iff] at isEnd
    rcases isEnd with (rfl | rfl | rfl | rfl) | rfl | rfl | rfl <;> decide
  obtain ⟨notDigit, notPoint, notMark⟩ := known
  refine ⟨endsDigits_cons notDigit text, by simpa using notPoint, ?_⟩
  intro d member
  obtain rfl := Option.mem_some.mp member
  exact notMark

theorem ends_append {spaces text : Text} (isSpaces : Spaces spaces) (ends : Ends text) :
    Ends (spaces ++ text) := by
  cases spaces with
  | nil => exact ends
  | cons c others =>
      exact ends_cons (Or.inl (isSpace_iff.mpr (isSpaces c List.mem_cons_self))) _

theorem readValue?_spaces {spaces : Text} (isSpaces : Spaces spaces) (depth : Nat)
    (text : Text) : readValue? depth (spaces ++ text) = readValue? depth text := by
  cases depth with
  | zero => rw [readValue?_zero, readValue?_zero]
  | succ depth => rw [readValue?, readValue?, skipSpace_append isSpaces]

theorem readMembers?_spaces {spaces : Text} (isSpaces : Spaces spaces) (depth : Nat)
    (text : Text) : readMembers? depth (spaces ++ text) = readMembers? depth text := by
  cases depth with
  | zero => rw [readMembers?_zero, readMembers?_zero]
  | succ depth => rw [readMembers?, readMembers?, skipSpace_append isSpaces]

/-! ### Texts that are read -/

/-- A text is read as a value that means something, wherever a value may end. -/
def Reads (means : Json → Prop) (text : Text) : Prop :=
  ∀ depth rest, text.length ≤ depth → Ends rest →
    ∃ json, means json ∧ readValue? depth (text ++ rest) = some (json, rest)

/-- A text is read as the name of a member. -/
def ReadsName (means : Option Text → Prop) (text : Text) : Prop :=
  ∃ body, text = '"' :: body ∧
    ∀ rest, ∃ name, means name ∧ readString? (body ++ rest) = some (name, rest)

theorem readsName_spellsText {value text : Text} (spells : SpellsText value text) :
    ReadsName (· = some value) text := by
  obtain ⟨parts, partsEq, rfl⟩ := spells
  refine ⟨_, rfl, fun rest => ⟨_, rfl, ?_⟩⟩
  rw [List.append_assoc]
  exact readString?_spells partsEq rest

theorem readsName_isString {text : Text} (isString : IsString text) :
    ReadsName (fun _ => True) text := by
  obtain ⟨parts, pieces, rfl⟩ := isString
  refine ⟨_, rfl, fun rest => ?_⟩
  obtain ⟨name, readEq⟩ := exists_readString? pieces rest
  rw [List.append_assoc]
  exact ⟨name, trivial, readEq⟩

/-- A text that can be a name can be a value as well. -/
theorem ReadsName.reads {means : Option Text → Prop} {text : Text}
    (reads : ReadsName means text) :
    Reads (fun json => ∃ name, means name ∧ json = str name) text := by
  obtain ⟨body, rfl, bodyRead⟩ := reads
  intro depth rest enough _
  obtain ⟨name, meansName, readEq⟩ := bodyRead rest
  cases depth with
  | zero => simp at enough
  | succ depth =>
      refine ⟨str name, ⟨name, meansName, rfl⟩, ?_⟩
      rw [List.cons_append, readValue?, skipSpace_cons (by decide)]
      simp only [readEq]
      rfl

theorem Reads.imp {means means' : Json → Prop} {text : Text} (reads : Reads means text)
    (weaker : ∀ json, means json → means' json) : Reads means' text := by
  intro depth rest enough ends
  obtain ⟨json, meansJson, readEq⟩ := reads depth rest enough ends
  exact ⟨json, weaker json meansJson, readEq⟩

/-! ### Words and numbers -/

theorem reads_null : Reads (· = null) "null".toList := by
  intro depth rest enough _
  cases depth with
  | zero => simp at enough
  | succ depth => exact ⟨null, rfl, by rw [readValue?]; rfl⟩

theorem reads_bool (value : Bool) : Reads (· = bool value)
    (if value then "true".toList else "false".toList) := by
  intro depth rest enough _
  cases depth with
  | zero => cases value <;> simp at enough
  | succ depth => exact ⟨bool value, rfl, by cases value <;> rw [readValue?] <;> rfl⟩

/-- What starts with a digit or a minus sign is read as a number. -/
theorem readValue?_number {c : Char} (starts : c.isDigit = true ∨ c = '-') (depth : Nat)
    (text : Text) : readValue? (depth + 1) (c :: text) = readNumber? (c :: text) := by
  have differs : ∀ d : Char, d.isDigit = false ∧ d ≠ '-' → c ≠ d := by
    rintro d ⟨notDigit, notMinus⟩ rfl
    rcases starts with isDigit | isMinus
    · exact Bool.false_ne_true (notDigit.symm.trans isDigit)
    · exact notMinus isMinus
  have notSpace : isSpace c = false := by
    rw [← Bool.not_eq_true, isSpace_iff]
    rintro (isSpace | isTab | isFeed | isReturn)
    · exact differs ' ' (by decide) isSpace
    · exact differs '\t' (by decide) isTab
    · exact differs '\n' (by decide) isFeed
    · exact differs '\r' (by decide) isReturn
  rw [readValue?, skipSpace_cons notSpace]
  split
  -- No other kind of value starts with this character.
  case h_7 => rfl
  all_goals
    rename_i textEq
    exact absurd (List.cons.inj textEq).1 (differs _ (by decide))

theorem IsNumber.exists_cons {text : Text} (isNumber : IsNumber text) :
    ∃ c others, text = c :: others ∧ (c.isDigit = true ∨ c = '-') := by
  obtain ⟨isSign, isWhole, -, -⟩ := isNumber
  rcases isSign with rfl | rfl
  · obtain ⟨c, digits, rfl⟩ := List.exists_cons_of_ne_nil isWhole.1.1
    exact ⟨c, _, rfl, Or.inl (isWhole.1.2 c List.mem_cons_self)⟩
  · exact ⟨'-', _, rfl, Or.inr rfl⟩

theorem reads_isNumber {text : Text} (isNumber : IsNumber text) :
    Reads (fun _ => True) text := by
  intro depth rest enough ends
  obtain ⟨json, readEq⟩ := exists_readNumber? isNumber ends
  obtain ⟨c, others, rfl, starts⟩ := isNumber.exists_cons
  cases depth with
  | zero => simp at enough
  | succ depth =>
      refine ⟨json, trivial, ?_⟩
      rw [List.cons_append, readValue?_number starts]
      exact readEq

theorem reads_spellsNat {n : Nat} {text : Text} (spells : SpellsNat n text)
    (fits : n < Nat.pow 2 64) : Reads (· = nat n) text := by
  intro depth rest enough ends
  have readEq := readNumber?_spellsNat spells fits ends
  obtain ⟨c, digits, rfl⟩ := List.exists_cons_of_ne_nil spells.1.1.1
  have starts : c.isDigit = true := spells.1.1.2 c List.mem_cons_self
  cases depth with
  | zero => simp at enough
  | succ depth =>
      refine ⟨nat n, rfl, ?_⟩
      rw [List.cons_append, readValue?_number (Or.inl starts)]
      exact readEq

/-! ### Arrays -/

/-- No value starts with a closing bracket. -/
theorem readItems?_bracket {text others : Text} (closes : skipSpace text = ']' :: others)
    (depth : Nat) : readItems? depth text = none := by
  have noValue : ∀ depth, readValue? depth text = none := by
    intro depth
    cases depth with
    | zero => exact readValue?_zero text
    | succ depth =>
        rw [readValue?, closes]
        rfl
  cases depth with
  | zero => exact readItems?_zero text
  | succ depth => rw [readItems?, noValue]

theorem skipSpace_spaces_cons {spaces : Text} (isSpaces : Spaces spaces) {c : Char}
    (notSpace : isSpace c = false) (text : Text) :
    skipSpace (spaces ++ c :: text) = c :: text := by
  rw [skipSpace_append isSpaces, skipSpace_cons notSpace]

section Lists

variable {α : Type} {means : α → Json → Prop}

theorem readItems?_listed {items : List Text} {text : Text} (listed : Listed items text)
    {values : List α}
    (reads : List.Forall₂ (fun item value => Reads (means value) item) items values)
    (depth : Nat) (rest : Text) (enough : text.length < depth) :
    ∃ jsons, List.Forall₂ means values jsons ∧
      readItems? depth (text ++ ']' :: rest) = some (jsons, rest) := by
  induction listed generalizing values depth with
  | @last before item behind spacesBefore spacesBehind =>
      obtain ⟨value, others, itemReads, noneLeft, rfl⟩ := List.forall₂_cons_left_iff.mp reads
      obtain rfl := List.forall₂_nil_left_iff.mp noneLeft
      cases depth with
      | zero => simp at enough
      | succ depth =>
          have itemEnough : item.length ≤ depth := by
            simp only [List.length_append] at enough
            omega
          obtain ⟨json, meansJson, readEq⟩ := itemReads depth (behind ++ ']' :: rest) itemEnough
            (ends_append spacesBehind (ends_cons (by simp) rest))
          refine ⟨[json], .cons meansJson .nil, ?_⟩
          rw [List.append_assoc, List.append_assoc, readItems?, readValue?_spaces spacesBefore,
            readEq]
          simp only [skipSpace_spaces_cons spacesBehind (by decide : isSpace ']' = false)]
  | @next before item behind text items spacesBefore spacesBehind later ih =>
      obtain ⟨value, others, itemReads, othersRead, rfl⟩ := List.forall₂_cons_left_iff.mp reads
      cases depth with
      | zero => simp at enough
      | succ depth =>
          simp only [List.length_append, List.length_cons] at enough
          obtain ⟨json, meansJson, readEq⟩ :=
            itemReads depth (behind ++ ',' :: (text ++ ']' :: rest))
            (by omega) (ends_append spacesBehind (ends_cons (by simp) _))
          obtain ⟨jsons, meansJsons, othersEq⟩ := ih othersRead depth (by omega)
          refine ⟨json :: jsons, .cons meansJson meansJsons, ?_⟩
          simp only [List.append_assoc, List.cons_append]
          rw [readItems?, readValue?_spaces spacesBefore, readEq]
          simp only [skipSpace_spaces_cons spacesBehind (by decide : isSpace ',' = false), othersEq]
          rfl

/-- An array is read item by item. -/
theorem reads_isArray {items : List Text} {text : Text} (isArray : IsArray items text)
    {values : List α}
    (reads : List.Forall₂ (fun item value => Reads (means value) item) items values) :
    Reads (fun json => ∃ jsons, List.Forall₂ means values jsons ∧ json = arr jsons) text := by
  intro depth rest enough _
  cases depth with
  | zero => cases isArray <;> simp at enough
  | succ depth =>
      cases isArray with
      | none isSpaces =>
          obtain rfl := List.forall₂_nil_left_iff.mp reads
          refine ⟨arr [], ⟨[], .nil, rfl⟩, ?_⟩
          rw [List.cons_append, readValue?, skipSpace_cons (by decide), List.append_assoc]
          simp only [List.singleton_append,
            skipSpace_spaces_cons isSpaces (by decide : isSpace ']' = false)]
      | @some _ inner listed =>
          obtain ⟨jsons, meansJsons, readEq⟩ := readItems?_listed listed reads depth rest
            (by simp at enough; omega)
          refine ⟨arr jsons, ⟨jsons, meansJsons, rfl⟩, ?_⟩
          rw [List.cons_append, readValue?, skipSpace_cons (by decide), List.append_assoc,
            List.singleton_append]
          simp only
          split
          · rename_i closes
            simp [readItems?_bracket closes] at readEq
          · rw [readEq]
            rfl

/-! ### Objects -/

/-- No member starts with a closing brace. -/
theorem readMembers?_brace {text others : Text} (closes : skipSpace text = '\x7d' :: others)
    (depth : Nat) : readMembers? depth text = none := by
  cases depth with
  | zero => exact readMembers?_zero text
  | succ depth =>
      rw [readMembers?, closes]
      rfl

/-- The names and values of members are read, and mean something together. -/
def ReadsMember (names : α → Option Text → Prop) (means : α → Json → Prop)
    (member : Text × Text) (value : α) : Prop :=
  ReadsName (names value) member.1 ∧ Reads (means value) member.2

variable {names : α → Option Text → Prop}

/-- The members from a given one on, of which the text behind it is still to be read. -/
def membersFrom? (depth : Nat) (entry : Option Text × Json) (following : Text) :
    Option (List (Option Text × Json) × Text) :=
  match skipSpace following with
  | '\x7d' :: rest => some ([entry], rest)
  | ',' :: rest => (readMembers? depth rest).map fun (members, rest) => (entry :: members, rest)
  | _ => none

/-- A member and the comma or brace behind it. -/
theorem readMembers?_member {member : Text × Text} {value : α}
    (reads : ReadsMember names means member value) {written before following : Text}
    (spells : SpellsMember member.1 member.2 written) (spacesBefore : Spaces before)
    (ends : Ends following) {depth : Nat} (enough : written.length ≤ depth) :
    ∃ name json, names value name ∧ means value json ∧
      readMembers? (depth + 1) (before ++ (written ++ following)) =
        membersFrom? depth (name, json) following := by
  obtain ⟨nameText, valueText⟩ := member
  obtain ⟨⟨body, nameEq, nameReads⟩, valueReads⟩ := reads
  cases spells with
  | @parts behindName beforeValue spacesBehindName spacesBeforeValue =>
      obtain ⟨name, meansName, nameEq'⟩ :=
        nameReads (behindName ++ ':' :: (beforeValue ++ (valueText ++ following)))
      have valueEnough : valueText.length ≤ depth := by
        simp only [List.length_append, List.length_cons] at enough
        omega
      obtain ⟨json, meansJson, valueEq⟩ := valueReads depth following valueEnough ends
      refine ⟨name, json, meansName, meansJson, ?_⟩
      obtain rfl : nameText = '"' :: body := nameEq
      simp only [List.append_assoc, List.cons_append]
      rw [readMembers?_spaces spacesBefore, readMembers?, skipSpace_cons (by decide)]
      simp only [nameEq', skipSpace_spaces_cons spacesBehindName (by decide : isSpace ':' = false),
        readValue?_spaces spacesBeforeValue, valueEq]
      rfl

theorem readMembers?_listed {members : List (Text × Text)} {parts : List Text} {text : Text}
    (listed : Listed parts text)
    (spells : List.Forall₂ (fun member part => SpellsMember member.1 member.2 part) members parts)
    {values : List α} (reads : List.Forall₂ (ReadsMember names means) members values)
    (depth : Nat) (rest : Text) (enough : text.length < depth) :
    ∃ entries, List.Forall₂ (fun value (entry : Option Text × Json) =>
        names value entry.1 ∧ means value entry.2) values entries ∧
      readMembers? depth (text ++ '\x7d' :: rest) = some (entries, rest) := by
  induction listed generalizing members values depth with
  | @last before part behind spacesBefore spacesBehind =>
      obtain ⟨member, others, spellsMember, noneLeft, rfl⟩ := List.forall₂_cons_right_iff.mp spells
      obtain rfl := List.forall₂_nil_right_iff.mp noneLeft
      obtain ⟨value, others, memberReads, noneLeft, rfl⟩ := List.forall₂_cons_left_iff.mp reads
      obtain rfl := List.forall₂_nil_left_iff.mp noneLeft
      cases depth with
      | zero => simp at enough
      | succ depth =>
          obtain ⟨name, json, meansName, meansJson, readEq⟩ :=
            readMembers?_member memberReads spellsMember spacesBefore
              (ends_append spacesBehind (ends_cons (by simp) rest) :
                Ends (behind ++ '\x7d' :: rest))
              (by simp only [List.length_append] at enough; omega : part.length ≤ depth)
          refine ⟨[(name, json)], .cons ⟨meansName, meansJson⟩ .nil, ?_⟩
          rw [List.append_assoc, List.append_assoc, readEq, membersFrom?,
            skipSpace_spaces_cons spacesBehind (by decide)]
          rfl
  | @next before part behind text parts spacesBefore spacesBehind later ih =>
      obtain ⟨member, others, spellsMember, othersSpell, rfl⟩ :=
        List.forall₂_cons_right_iff.mp spells
      obtain ⟨value, otherValues, memberReads, othersRead, rfl⟩ :=
        List.forall₂_cons_left_iff.mp reads
      cases depth with
      | zero => simp at enough
      | succ depth =>
          simp only [List.length_append, List.length_cons] at enough
          obtain ⟨name, json, meansName, meansJson, readEq⟩ :=
            readMembers?_member memberReads spellsMember spacesBefore
              (ends_append spacesBehind (ends_cons (by simp) _) :
                Ends (behind ++ ',' :: (text ++ '\x7d' :: rest)))
              (by omega : part.length ≤ depth)
          obtain ⟨entries, meansEntries, othersEq⟩ := ih othersSpell othersRead depth (by omega)
          refine ⟨(name, json) :: entries, .cons ⟨meansName, meansJson⟩ meansEntries, ?_⟩
          simp only [List.append_assoc, List.cons_append]
          rw [readEq, membersFrom?, skipSpace_spaces_cons spacesBehind (by decide)]
          simp only [othersEq]
          rfl

/-- An object stands between braces. -/
theorem IsObject.exists_braces {members : List (Text × Text)} {text : Text}
    (isObject : IsObject members text) : ∃ inner, text = '{' :: (inner ++ ['}']) := by
  obtain ⟨parts, -, enclosed⟩ := isObject
  cases enclosed <;> exact ⟨_, rfl⟩

/-- An object is read member by member. -/
theorem reads_isObject {members : List (Text × Text)} {text : Text}
    (isObject : IsObject members text) {values : List α}
    (reads : List.Forall₂ (ReadsMember names means) members values) :
    Reads (fun json => ∃ entries, List.Forall₂ (fun value (entry : Option Text × Json) =>
      names value entry.1 ∧ means value entry.2) values entries ∧ json = obj entries) text := by
  obtain ⟨parts, spells, enclosed⟩ := isObject
  intro depth rest enough _
  cases depth with
  | zero => cases enclosed <;> simp at enough
  | succ depth =>
      cases enclosed with
      | none isSpaces =>
          obtain rfl := List.forall₂_nil_right_iff.mp spells
          obtain rfl := List.forall₂_nil_left_iff.mp reads
          refine ⟨obj [], ⟨[], .nil, rfl⟩, ?_⟩
          rw [List.cons_append, readValue?, skipSpace_cons (by decide), List.append_assoc]
          simp only [List.singleton_append,
            skipSpace_spaces_cons isSpaces (by decide : isSpace '\x7d' = false)]
      | @some _ inner listed =>
          obtain ⟨entries, meansEntries, readEq⟩ := readMembers?_listed listed spells reads depth
            rest (by simp at enough; omega)
          refine ⟨obj entries, ⟨entries, meansEntries, rfl⟩, ?_⟩
          rw [List.cons_append, readValue?, skipSpace_cons (by decide), List.append_assoc,
            List.singleton_append]
          simp only
          split
          · rename_i closes
            simp [readMembers?_brace closes] at readEq
          · rw [readEq]
            rfl

end Lists

/-- Every value of the grammar is read. -/
theorem reads_isValue {text : Text} (isValue : IsValue text) : Reads (fun _ => True) text := by
  induction isValue with
  | null => exact reads_null.imp fun _ _ => trivial
  | true => exact (reads_bool true).imp fun _ _ => trivial
  | false => exact (reads_bool false).imp fun _ _ => trivial
  | number isNumber => exact reads_isNumber isNumber
  | string isString => exact (readsName_isString isString).reads.imp fun _ _ => trivial
  | @array items text isArray _ ih =>
      have reads : List.Forall₂ (fun item (_ : Text) => Reads (fun _ => True) item) items items :=
        List.forall₂_same.mpr ih
      exact (reads_isArray isArray reads).imp fun _ _ => trivial
  | @object members text isObject areNames _ ih =>
      have reads : List.Forall₂ (ReadsMember (fun _ _ => True) fun _ _ => True) members members :=
        List.forall₂_same.mpr fun member isMember =>
          ⟨readsName_isString (areNames member isMember), ih member isMember⟩
      exact (reads_isObject isObject reads).imp fun _ _ => trivial

/-- An object of members with known names is read as these members. -/
theorem reads_spellsObject {members : List (Text × Text)} {text : Text}
    {means : Text × Text → Json → Prop} (spells : SpellsObject members text)
    (reads : ∀ member ∈ members, Reads (means member) member.2) :
    Reads (fun json => ∃ entries, List.Forall₂ (fun member (entry : Option Text × Json) =>
      entry.1 = some member.1 ∧ means member entry.2) members entries ∧ json = obj entries)
      text := by
  obtain ⟨written, spelled, isObject⟩ := spells
  have writtenRead : List.Forall₂ (ReadsMember (fun member name => name = some member.1) means)
      written members := by
    refine (List.forall₂_iff_get.mpr ⟨spelled.length_eq.symm, fun i inWritten inMembers => ?_⟩)
    obtain ⟨nameSpelled, valueEq⟩ := spelled.get inMembers inWritten
    refine ⟨readsName_spellsText nameSpelled, ?_⟩
    rw [valueEq]
    exact reads _ (List.get_mem members ⟨i, inMembers⟩)
  exact reads_isObject isObject writtenRead

end Json

end Pinpoint
