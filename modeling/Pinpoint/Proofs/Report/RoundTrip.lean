import Mathlib.Data.List.Nodup
import Mathlib.Data.List.TakeWhile
import Pinpoint.Proofs.Json.Reading
import Pinpoint.Report

/-!
# Reports round-trip

Whatever way a list of findings is written as a report, reading the report gives the list
back.  The members of an object may stand in any order and between others, strings may be
escaped in any way, and blanks may stand around every token.
-/

namespace Pinpoint

namespace Report

open Json

/-! ### Members in any order -/

/-- How often a name occurs among members. -/
def occurrences (name : String) (members : List (Text × Text)) : Nat :=
  (members.map Prod.fst).count name.toList

section Members

variable {α : Type}

/-- Members give named parts: each part once, or not at all if it is absent.  Members of
other names may have any values. -/
structure Gives (spells : α → Text → Prop) (Absent : α → Prop) (parts : List (String × α))
    (members : List (Text × Text)) : Prop where
  once : ∀ part ∈ parts, occurrences part.1 members = 1 ∨
    Absent part.2 ∧ occurrences part.1 members = 0
  known : ∀ part ∈ parts, ∀ member ∈ members, member.1 = part.1.toList → spells part.2 member.2
  unknown : ∀ member ∈ members, (∀ part ∈ parts, member.1 ≠ part.1.toList) → IsValue member.2

/-- An object has a part as its only value of a name, or no such value if it is absent. -/
def Has (means : α → Json → Prop) (Absent : α → Prop) (part : String × α)
    (entries : List (Option Text × Json)) : Prop :=
  (∃ json, means part.2 json ∧ valuesOf part.1 entries = [json]) ∨
    Absent part.2 ∧ valuesOf part.1 entries = []

/-- The value of a member gives the part of its name, if there is one. -/
def GivesPart (means : α → Json → Prop) (parts : List (String × α)) (member : Text × Text)
    (json : Json) : Prop :=
  ∀ part ∈ parts, member.1 = part.1.toList → means part.2 json

variable {spells : α → Text → Prop} {Absent : α → Prop} {parts : List (String × α)}
  {members : List (Text × Text)} {means : α → Json → Prop}

/-- An object has as many values of a name as there are members of that name. -/
theorem valuesOf_read {name : String} {value : Json → Prop}
    {entries : List (Option Text × Json)}
    (read : List.Forall₂ (fun member (entry : Option Text × Json) =>
      entry.1 = some member.1 ∧ (member.1 = name.toList → value entry.2)) members entries) :
    (valuesOf name entries).length = occurrences name members ∧
      ∀ json ∈ valuesOf name entries, value json := by
  induction read with
  | nil => simp [valuesOf, occurrences]
  | @cons member entry members entries memberRead othersRead ih =>
      obtain ⟨nameEq, valueOf⟩ := memberRead
      obtain ⟨countEq, values⟩ := ih
      by_cases isName : member.1 = name.toList
      · have split : valuesOf name (entry :: entries) = entry.2 :: valuesOf name entries := by
          simp [valuesOf, nameEq, isName]
        rw [split]
        refine ⟨by simp [countEq, occurrences, isName], ?_⟩
        rintro json (_ | ⟨_, member⟩)
        · exact valueOf isName
        · exact values json member
      · have split : valuesOf name (entry :: entries) = valuesOf name entries := by
          simp [valuesOf, nameEq, isName]
        rw [split]
        exact ⟨by simp [countEq, occurrences, isName], values⟩

theorem allNamed_read {entries : List (Option Text × Json)}
    (read : List.Forall₂ (fun member (entry : Option Text × Json) => entry.1 = some member.1)
      members entries) : allNamed entries = true := by
  induction read with
  | nil => rfl
  | cons nameEq _ ih =>
      rw [allNamed, List.all_cons, nameEq]
      exact ih

/-- The value of a member is read as the part of its name, or as anything. -/
theorem Gives.reads_member (gives : Gives spells Absent parts members)
    (distinct : (parts.map Prod.fst).Nodup)
    (partRead : ∀ part ∈ parts, ∀ written, spells part.2 written → Reads (means part.2) written)
    {member : Text × Text} (isMember : member ∈ members) :
    Reads (GivesPart means parts member) member.2 := by
  by_cases known : ∃ part ∈ parts, member.1 = part.1.toList
  · obtain ⟨part, isPart, nameEq⟩ := known
    have valueRead := partRead part isPart _ (gives.known part isPart member isMember nameEq)
    refine valueRead.imp fun json meansPart other isOther otherEq => ?_
    have samePart : part = other := List.inj_on_of_nodup_map distinct isPart isOther
      (String.toList_inj.mp (nameEq.symm.trans otherEq))
    exact samePart ▸ meansPart
  · refine (reads_isValue (gives.unknown member isMember ?_)).imp ?_
    · exact fun part isPart nameEq => known ⟨part, isPart, nameEq⟩
    · exact fun json _ part isPart nameEq => absurd ⟨part, isPart, nameEq⟩ known

/-- The entries that are read from members have the parts that the members give. -/
theorem Gives.has {entries : List (Option Text × Json)} (gives : Gives spells Absent parts members)
    (read : List.Forall₂ (fun member (entry : Option Text × Json) =>
      entry.1 = some member.1 ∧ GivesPart means parts member entry.2) members entries)
    {part : String × α} (isPart : part ∈ parts) : Has means Absent part entries := by
  have partRead : List.Forall₂ (fun member (entry : Option Text × Json) =>
      entry.1 = some member.1 ∧ (member.1 = part.1.toList → means part.2 entry.2))
      members entries :=
    read.imp fun _ _ memberRead => ⟨memberRead.1, memberRead.2 part isPart⟩
  obtain ⟨lengthEq, values⟩ := valuesOf_read partRead
  rcases gives.once part isPart with once | ⟨absent, none⟩
  · obtain ⟨json, valuesEq⟩ := List.length_eq_one_iff.mp (lengthEq.trans once)
    exact Or.inl ⟨json, values json (valuesEq ▸ List.mem_singleton_self json), valuesEq⟩
  · exact Or.inr ⟨absent, List.length_eq_zero_iff.mp (lengthEq.trans none)⟩

/-- An object whose members give some parts is read as an object that has them. -/
theorem Gives.reads {text : Text} (gives : Gives spells Absent parts members)
    (distinct : (parts.map Prod.fst).Nodup)
    (partRead : ∀ part ∈ parts, ∀ written, spells part.2 written → Reads (means part.2) written)
    (spelled : SpellsObject members text) :
    Reads (fun json => ∃ entries, (allNamed entries = true ∧
      ∀ part ∈ parts, Has means Absent part entries) ∧ json = obj entries) text := by
  have memberRead : ∀ member ∈ members, Reads (GivesPart means parts member) member.2 :=
    fun _ isMember => gives.reads_member distinct partRead isMember
  refine (reads_spellsObject spelled memberRead).imp ?_
  rintro json ⟨entries, entriesRead, rfl⟩
  have named : allNamed entries = true := allNamed_read (entriesRead.imp fun _ _ read => read.1)
  exact ⟨entries, ⟨named, fun _ isPart => gives.has entriesRead isPart⟩, rfl⟩

end Members

/-! ### Findings -/

/-- A part of a finding. -/
inductive Part where
  | text (value : Text)
  | number (n : Nat)
  | optional (value : Option Text)

namespace Part

/-- The ways to write a part. -/
def Spells : Part → Text → Prop
  | text value, written => SpellsText value written
  | number n, written => SpellsNat n written
  | optional (some value), written => SpellsText value written
  | optional none, written => written = "null".toList

/-- Whether a part may be left out. -/
def Absent (part : Part) : Prop :=
  part = optional none

/-- A line or column that is too large is not read. -/
def Fits : Part → Prop
  | number n => n < numberLimit
  | _ => True

/-- The value that gives a part. -/
def Means : Part → Json → Prop
  | text value, json => json = ofText value
  | number n, json => json = nat n
  | optional (some value), json => json = ofText value
  | optional none, json => json = null

theorem Spells.reads {part : Part} {written : Text} (spells : part.Spells written)
    (fits : part.Fits) : Reads part.Means written := by
  have textReads : ∀ {value}, SpellsText value written → Reads (· = ofText value) written := by
    intro value spells
    refine (readsName_spellsText spells).reads.imp ?_
    rintro json ⟨name, rfl, rfl⟩
    rfl
  match part with
  | text value => exact textReads spells
  | number n => exact reads_spellsNat spells fits
  | optional (some value) => exact textReads spells
  | optional none =>
      obtain rfl : written = "null".toList := spells
      exact reads_null

end Part

/-- The parts of a finding under their names. -/
def partsOf (finding : Finding) : List (String × Part) :=
  [("filename", .text finding.filename), ("line", .number finding.line),
    ("column", .number finding.column), ("message", .text finding.message),
    ("rule", .text finding.rule), ("severity", .optional finding.severity)]

/-- The ways to write a finding. -/
def SpellsFinding (finding : Finding) (text : Text) : Prop :=
  ∃ members, Gives Part.Spells Part.Absent (partsOf finding) members ∧ SpellsObject members text

/-- The line and the column of a finding are below 2 ^ 64. -/
def Fits (finding : Finding) : Prop :=
  finding.line < numberLimit ∧ finding.column < numberLimit

theorem once?_of_has {name : String} {part : Part} {entries : List (Option Text × Json)}
    (has : Has Part.Means Part.Absent (name, part) entries) (present : ¬ part.Absent) :
    ∃ json, part.Means json ∧ once? name entries = some json := by
  rcases has with ⟨json, meansPart, valuesEq⟩ | ⟨absent, -⟩
  · exact ⟨json, meansPart, by simp [once?, atMostOnce?, valuesEq]⟩
  · exact absurd absent present

theorem severity?_of_has {severity : Option Text} {entries : List (Option Text × Json)}
    (has : Has Part.Means Part.Absent ("severity", .optional severity) entries) :
    (atMostOnce? "severity" entries = some none ∧ severity = none) ∨
      ∃ json, atMostOnce? "severity" entries = some (some json) ∧
        severity? json = some severity := by
  rcases has with ⟨json, meansPart, valuesEq⟩ | ⟨absent, valuesEq⟩
  · refine Or.inr ⟨json, by rw [atMostOnce?, valuesEq], ?_⟩
    cases severity with
    | none =>
        obtain rfl : json = null := meansPart
        rfl
    | some value =>
        obtain rfl : json = ofText value := meansPart
        rfl
  · exact Or.inl ⟨by rw [atMostOnce?, valuesEq], Part.optional.inj absent⟩

theorem place?_nat {n : Nat} (fits : n < numberLimit) : place? (nat n) = some n := by
  simp [place?, nat, asNat?, fits]

/-- An object with the parts of a finding is this finding. -/
theorem finding?_of_has {finding : Finding} (fits : Fits finding)
    {entries : List (Option Text × Json)} (named : allNamed entries = true)
    (has : ∀ part ∈ partsOf finding, Has Part.Means Part.Absent part entries) :
    finding? (obj entries) = some finding := by
  simp only [partsOf, List.forall_mem_cons] at has
  obtain ⟨filename, line, column, message, rule, severity, -⟩ := has
  obtain ⟨_, rfl, filenameEq⟩ := once?_of_has filename nofun
  obtain ⟨_, rfl, lineEq⟩ := once?_of_has line nofun
  obtain ⟨_, rfl, columnEq⟩ := once?_of_has column nofun
  obtain ⟨_, rfl, messageEq⟩ := once?_of_has message nofun
  obtain ⟨_, rfl, ruleEq⟩ := once?_of_has rule nofun
  rw [finding?, if_pos named, filenameEq, lineEq, columnEq, messageEq, ruleEq]
  rcases severity?_of_has severity with ⟨severityEq, absent⟩ | ⟨json, severityEq, valueEq⟩
  · simp only [severityEq, Option.bind_eq_bind, Option.bind_some, findingOf?, place?_nat fits.1,
      place?_nat fits.2, asText?]
    rw [← absent]
    rfl
  · simp only [severityEq, Option.bind_eq_bind, Option.bind_some, findingOf?, place?_nat fits.1,
      place?_nat fits.2, asText?, valueEq]
    rfl

/-- A finding is read from every way to write it. -/
theorem reads_spellsFinding {finding : Finding} {text : Text} (fits : Fits finding)
    (spells : SpellsFinding finding text) :
    Reads (fun json => finding? json = some finding) text := by
  obtain ⟨members, gives, spelled⟩ := spells
  have distinct : ((partsOf finding).map Prod.fst).Nodup := by
    simp [partsOf]
  have partFits : ∀ part ∈ partsOf finding, part.2.Fits := by
    simp only [partsOf, List.forall_mem_cons]
    exact ⟨trivial, fits.1, fits.2, trivial, trivial, trivial, nofun⟩
  refine (gives.reads distinct (fun part isPart written spells =>
    spells.reads (partFits part isPart)) spelled).imp ?_
  rintro json ⟨entries, ⟨named, has⟩, rfl⟩
  exact finding?_of_has fits named has

/-! ### Reports -/

/-- The ways to write a list of findings. -/
def SpellsFindings (findings : List Finding) (text : Text) : Prop :=
  ∃ items, IsArray items text ∧ List.Forall₂ SpellsFinding findings items

/-- The ways to write a report. -/
def SpellsReport (findings : List Finding) (text : Text) : Prop :=
  ∃ before members object behind, Spaces before ∧ Spaces behind ∧
    Gives SpellsFindings (fun _ => False) [("lints", findings)] members ∧
    SpellsObject members object ∧ text = before ++ (object ++ behind)

/-- The value that gives a list of findings. -/
def MeansFindings (findings : List Finding) (json : Json) : Prop :=
  findings? json = some findings

theorem findings?_arr {findings : List Finding} {items : List Json}
    (read : List.Forall₂ (fun finding json => finding? json = some finding) findings items) :
    MeansFindings findings (arr items) := by
  rw [MeansFindings, findings?]
  induction read with
  | nil => rfl
  | cons findingEq _ ih => simp [List.mapM_cons, findingEq, ih]

theorem reads_spellsFindings {findings : List Finding} {text : Text}
    (fits : ∀ finding ∈ findings, Fits finding) (spells : SpellsFindings findings text) :
    Reads (MeansFindings findings) text := by
  obtain ⟨items, isArray, spelled⟩ := spells
  have itemsRead : List.Forall₂ (fun item finding =>
      Reads (fun json => finding? json = some finding) item) items findings := by
    refine .flip (((List.forall₂_and_left _ _).mpr ⟨fits, spelled⟩).imp ?_)
    exact fun finding item ⟨fits, spells⟩ => reads_spellsFinding fits spells
  refine (reads_isArray isArray itemsRead).imp ?_
  rintro json ⟨jsons, read, rfl⟩
  exact findings?_arr read

/-- A list of findings is read from every report of it. -/
theorem reads_spellsReport {findings : List Finding} {members : List (Text × Text)} {text : Text}
    (fits : ∀ finding ∈ findings, Fits finding)
    (gives : Gives SpellsFindings (fun _ => False) [("lints", findings)] members)
    (spelled : SpellsObject members text) :
    Reads (fun json => ofJson? json = some findings) text := by
  have lintsRead : ∀ part ∈ [("lints", findings)], ∀ written, SpellsFindings part.2 written →
      Reads (MeansFindings part.2) written := by
    rintro part isLints written spells
    obtain rfl := List.mem_singleton.mp isLints
    exact reads_spellsFindings fits spells
  refine (gives.reads (List.nodup_singleton _) lintsRead spelled).imp ?_
  rintro json ⟨entries, ⟨named, has⟩, rfl⟩
  obtain ⟨lints, lintsEq, valuesEq⟩ | ⟨absent, -⟩ := has _ (List.mem_singleton_self _)
  · rw [ofJson?, if_pos named, atMostOnce?, valuesEq]
    exact lintsEq
  · exact absent.elim

/-! ### What stands around a report -/

theorem isBlank_of_isSpace {c : Char} (isSpace : isSpace c = true) : Text.isBlank c = true := by
  rcases isSpace_iff.mp isSpace with rfl | rfl | rfl | rfl <;> decide

theorem dropWhile_append_cons {p : Char → Bool} {c : Char} (stops : p c = false)
    (front rest : Text) : (front ++ c :: rest).dropWhile p = front.dropWhile p ++ c :: rest := by
  rw [List.dropWhile_append]
  split
  · rename_i isEmpty
    rw [List.isEmpty_iff.mp isEmpty, List.dropWhile_cons_of_neg (by simp [stops]), List.nil_append]
  · rfl

/-- What stands in front of an object and behind it is trimmed on its own. -/
theorem trim_around (front behind inner : Text) :
    Text.trim (front ++ ('{' :: (inner ++ ['}']) ++ behind)) =
      Text.trimStart front ++ ('{' :: (inner ++ ['}']) ++ Text.trimEnd behind) := by
  have started : Text.trimStart (front ++ ('{' :: (inner ++ ['}']) ++ behind)) =
      Text.trimStart front ++ ('{' :: (inner ++ ['}']) ++ behind) :=
    dropWhile_append_cons (by decide) front _
  have turned : (Text.trimStart front ++ ('{' :: (inner ++ ['}']) ++ behind)).reverse =
      behind.reverse ++ '}' :: (Text.trimStart front ++ '{' :: inner).reverse := by
    simp
  rw [Text.trim, started, Text.trimEnd, turned, dropWhile_append_cons (by decide)]
  simp [Text.trimEnd]

/-- Blanks around a report are trimmed. -/
theorem trim_braces {before behind : Text} (spacesBefore : Spaces before)
    (spacesBehind : Spaces behind) (inner : Text) :
    Text.trim (before ++ ('{' :: (inner ++ ['}']) ++ behind)) =
      '{' :: (inner ++ ['}']) := by
  have blank : ∀ {spaces : Text}, Spaces spaces → ∀ c ∈ spaces, Text.isBlank c = true :=
    fun isSpaces c member => isBlank_of_isSpace (isSpace_iff.mpr (isSpaces c member))
  have noneBefore : Text.trimStart before = [] :=
    List.dropWhile_eq_nil_iff.mpr (blank spacesBefore)
  have noneBehind : Text.trimEnd behind = [] := by
    rw [Text.trimEnd, List.reverse_eq_nil_iff, List.dropWhile_eq_nil_iff]
    exact fun c member => blank spacesBehind c (List.mem_reverse.mp member)
  rw [trim_around, noneBefore, noneBehind, List.append_nil, List.nil_append]

theorem exists_braces {members : List (Text × Text)} {text : Text}
    (spelled : SpellsObject members text) : ∃ inner, text = '{' :: (inner ++ ['}']) := by
  obtain ⟨written, -, isObject⟩ := spelled
  exact isObject.exists_braces

/-- Reading a report gives the findings that it was written for, whatever way it was
written. -/
theorem parse?_spellsReport {findings : List Finding} {text : Text}
    (fits : ∀ finding ∈ findings, Fits finding) (spells : SpellsReport findings text) :
    parse? text = some findings := by
  obtain ⟨before, members, object, behind, spacesBefore, spacesBehind, gives, spelled, rfl⟩ :=
    spells
  obtain ⟨json, jsonEq, readEq⟩ :=
    reads_spellsReport fits gives spelled (object.length + 1) [] (by omega) ends_nil
  rw [List.append_nil] at readEq
  obtain ⟨inner, rfl⟩ := exists_braces spelled
  have bodyEq : body ('{' :: (inner ++ ['}'])) = '{' :: (inner ++ ['}']) := by
    rw [body, if_pos (by simp), List.dropWhile_cons_of_neg (by simp)]
  rw [parse?, trim_braces spacesBefore spacesBehind]
  simp only [bodyEq, read?, readEq]
  exact jsonEq

/-! ### A report with escapes -/

theorem spellsText_plain {value : Text} (plain : value.all fun c => Plain c) :
    SpellsText value ('"' :: (value ++ ['"'])) := by
  refine ⟨value.map fun c => [c], ?_, by simp [← List.flatMap_def]⟩
  rw [List.forall₂_map_right_iff]
  refine List.forall₂_same.mpr fun c member => .plain ?_
  exact of_decide_eq_true (List.all_eq_true.mp plain c member)

theorem listed_intercalate {items : List Text} (nonempty : items ≠ []) :
    Listed items ([','].intercalate items) := by
  induction items with
  | nil => exact absurd rfl nonempty
  | cons item items ih =>
      cases items with
      | nil => simpa using @Listed.last [] item [] nofun nofun
      | cons next items =>
          rw [List.intercalate_cons_cons, List.append_assoc]
          exact @Listed.next [] item [] _ _ nofun nofun (ih nofun)

theorem isObject_intercalate {written : List (Text × Text)} (nonempty : written ≠ []) :
    IsObject written ('\x7b' :: ([','].intercalate
      (written.map fun member => member.1 ++ ':' :: member.2) ++ ['\x7d'])) := by
  refine ⟨_, ?_, .some (listed_intercalate (by simpa using nonempty))⟩
  rw [List.forall₂_map_right_iff]
  exact List.forall₂_same.mpr fun member _ => @SpellsMember.parts _ _ [] [] nofun nofun

/-- A finding without severity whose column is as large as it may be. -/
def farFinding : Finding :=
  ⟨[], 0, 18446744073709551615, "😀".toList, "r".toList, none⟩

/-- The finding with its members in another order, with escapes in a name and in a value,
and with a member between them that stands for no text. -/
def farText : Text :=
  "\x7b\"x\":[\"\x7d\\ud800\"],\"\\u006cine\":0,".toList ++ ("\"severity\":null,".toList ++
    ("\"filename\":\"\",\"message\":\"\\ud83d\\uDe00\",".toList ++
      "\"rule\":\"r\",\"column\":18446744073709551615\x7d".toList))

theorem spellsFinding_farText : SpellsFinding farFinding farText := by
  refine ⟨[("x".toList, "[\"\x7d\\ud800\"]".toList), ("line".toList, "0".toList),
    ("severity".toList, "null".toList), ("filename".toList, "\"\"".toList),
    ("message".toList, "\"\\ud83d\\uDe00\"".toList), ("rule".toList, "\"r\"".toList),
    ("column".toList, "18446744073709551615".toList)], ⟨?once, ?known, ?unknown⟩, ?object⟩
  case once =>
    simp only [partsOf, List.forall_mem_cons]
    exact ⟨.inl (by decide), .inl (by decide), .inl (by decide), .inl (by decide),
      .inl (by decide), .inl (by decide), nofun⟩
  case known =>
    have pair : List.Forall₂ UnitEscape (units '😀') ["\\ud83d".toList, "\\uDe00".toList] :=
      .cons (@UnitEscape.digits 13 8 3 13 _ _ _ _ (.inl rfl) (.inl rfl) (.inl rfl) (.inl rfl))
        (.cons (@UnitEscape.digits 13 14 0 0 _ _ _ _ (.inr rfl) (.inl rfl) (.inl rfl) (.inl rfl))
          .nil)
    have message : SpellsText "😀".toList "\"\\ud83d\\uDe00\"".toList :=
      ⟨_, .cons (.units pair) .nil, rfl⟩
    have filename : SpellsText [] "\"\"".toList := spellsText_plain (by decide)
    have rule : SpellsText "r".toList "\"r\"".toList := spellsText_plain (by decide)
    have line : SpellsNat 0 "0".toList :=
      ⟨⟨⟨by decide, List.all_eq_true.mp (by decide)⟩, by decide⟩, rfl⟩
    have column : SpellsNat 18446744073709551615 "18446744073709551615".toList :=
      ⟨⟨⟨by decide, List.all_eq_true.mp (by decide)⟩, by decide⟩, rfl⟩
    simpa [partsOf, farFinding, Part.Spells] using ⟨filename, line, column, message, rule⟩
  case unknown =>
    have isString : IsString "\"\x7d\\ud800\"".toList := by
      refine ⟨[['\x7d'], "\\ud800".toList], ?_, rfl⟩
      simp only [List.forall_mem_cons]
      exact ⟨.plain (by decide), .unit (@UnitEscape.digits 13 8 0 0 _ _ _ _ (.inl rfl) (.inl rfl)
        (.inl rfl) (.inl rfl)), nofun⟩
    have isArray : IsArray ["\"\x7d\\ud800\"".toList] "[\"\x7d\\ud800\"]".toList :=
      .some (listed_intercalate (List.cons_ne_nil _ _))
    simpa [partsOf] using IsValue.array isArray (by simpa using .string isString)
  case object =>
    have escape : List.Forall₂ UnitEscape (units 'l') ["\\u006c".toList] :=
      .cons (@UnitEscape.digits 0 0 6 12 _ _ _ _ (.inl rfl) (.inl rfl) (.inl rfl) (.inl rfl)) .nil
    have line : SpellsText "line".toList "\"\\u006cine\"".toList :=
      ⟨_, .cons (.units escape) (.cons (.plain (by decide)) (.cons (.plain (by decide))
        (.cons (.plain (by decide)) .nil))), rfl⟩
    refine ⟨[(_, _), (_, _), (_, _), (_, _), (_, _), (_, _), (_, _)],
      .cons ⟨spellsText_plain (by decide), rfl⟩ (.cons ⟨line, rfl⟩
      (.cons ⟨spellsText_plain (by decide), rfl⟩ (.cons ⟨spellsText_plain (by decide), rfl⟩
      (.cons ⟨spellsText_plain (by decide), rfl⟩ (.cons ⟨spellsText_plain (by decide), rfl⟩
      (.cons ⟨spellsText_plain (by decide), rfl⟩ .nil)))))), ?_⟩
    convert isObject_intercalate (List.cons_ne_nil _ _) using 1
    decide +kernel

/-- Blanks around the report and its findings do not matter. -/
theorem parse?_spellsReport_farText :
    parse? ("\n\x7b\"lints\":[ ".toList ++ (farText ++ "]\x7d ".toList)) = some [farFinding] := by
  refine parse?_spellsReport (List.forall_mem_singleton.mpr ⟨by decide, by decide⟩) ?_
  have lints : SpellsFindings [farFinding] ('[' :: (([' '] ++ (farText ++ [])) ++ [']'])) :=
    ⟨[farText], .some (.last (by simp [Spaces]) nofun), .cons spellsFinding_farText .nil⟩
  have name : SpellsText "lints".toList "\"lints\"".toList := spellsText_plain (by decide)
  have gives : Gives SpellsFindings (fun _ => False) [("lints", [farFinding])]
      [("lints".toList, '[' :: (([' '] ++ (farText ++ [])) ++ [']']))] :=
    ⟨by simp [occurrences], by simpa using lints, by simp⟩
  exact ⟨['\n'], _, _, [' '], by simp [Spaces], by simp [Spaces], gives,
    ⟨[("\"lints\"".toList, _)], .cons ⟨name, rfl⟩ .nil,
      isObject_intercalate (List.cons_ne_nil _ _)⟩, by simp⟩

end Report

end Pinpoint
