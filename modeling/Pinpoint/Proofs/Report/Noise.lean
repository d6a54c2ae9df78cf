import Pinpoint.Linter
import Pinpoint.Proofs.Json.Extension
import Pinpoint.Proofs.Report.RoundTrip
import Pinpoint.Proofs.Text.Bytes

/-!
# Noise around a report

The linter may print other text in front of its report and behind it.  Whatever stands
there, as long as no brace stands in front, the findings are those of the report alone, on
either stream.
-/

namespace Pinpoint

namespace Report

open Json

/-- A JSON text that is one object, maybe with blanks around it. -/
def IsObjectText (text : Text) : Prop :=
  ∃ before members object behind, Spaces before ∧ Spaces behind ∧ IsObject members object ∧
    (∀ member ∈ members, IsString member.1 ∧ IsValue member.2) ∧
    text = before ++ (object ++ behind)

theorem brace_notMem_of_spaces {spaces : Text} (isSpaces : Spaces spaces) : '{' ∉ spaces := by
  intro member
  rcases isSpaces _ member with brace | brace | brace | brace <;> cases brace

/-- An object is read as one, and nothing of it is left. -/
theorem exists_read?_isObject {members : List (Text × Text)} {object : Text}
    (isObject : IsObject members object)
    (wellFormed : ∀ member ∈ members, IsString member.1 ∧ IsValue member.2) :
    ∃ entries, read? object = some (obj entries, []) := by
  have reads : List.Forall₂ (ReadsMember (fun _ _ => True) fun _ _ => True) members members :=
    List.forall₂_same.mpr fun member isMember =>
      ⟨readsName_isString (wellFormed member isMember).1,
        reads_isValue (wellFormed member isMember).2⟩
  obtain ⟨json, ⟨entries, -, rfl⟩, readEq⟩ :=
    reads_isObject isObject reads (object.length + 1) [] (by omega) ends_nil
  rw [List.append_nil] at readEq
  exact ⟨entries, readEq⟩

/-- Only the object counts, whatever stands around it. -/
theorem parse?_around {members : List (Text × Text)} {object : Text}
    {entries : List (Option Text × Json)} (isObject : IsObject members object)
    (readEq : read? object = some (obj entries, [])) {front : Text} (quiet : '{' ∉ front)
    (behind : Text) : parse? (front ++ (object ++ behind)) = ofJson? (obj entries) := by
  obtain ⟨inner, rfl⟩ := isObject.exists_braces
  have quietStart : '{' ∉ Text.trimStart front := fun member =>
    quiet ((List.dropWhile_suffix _).mem member)
  have bodyEq : body (Text.trimStart front ++ ('{' :: (inner ++ ['}']) ++ Text.trimEnd behind)) =
      '{' :: (inner ++ ['}']) ++ Text.trimEnd behind := by
    rw [body, if_pos (by simp), List.dropWhile_append_of_pos]
    · exact List.dropWhile_cons_of_neg (by simp)
    · rintro c member
      simp only [bne_iff_ne, ne_eq]
      rintro rfl
      exact quietStart member
  have extended := read?_append readEq (fun isNumeric => isNumeric) (Text.trimEnd behind)
  rw [parse?, trim_around]
  simp only [bodyEq, extended]
  simp

/-! ### The stream of the report -/

section Streams

variable {around : Surroundings} {command : Command} {content : Option Bytes} {code : Nat}
  {printed other : Bytes} {findings : List Finding}

theorem outcome_run {reply : Reply} (replyEq : around.reply command content = .ok reply) :
    (Linter.run around command content).outcome = Linter.readReply reply := by
  rw [Linter.run, replyEq]

theorem succeeded_exited (done : code = 0 ∨ code = 1) :
    Linter.succeeded (.exited code) = true := by
  rcases done with rfl | rfl <;> rfl

/-- A report among what is printed regularly is read there. -/
theorem readReply_of_stdout (done : code = 0 ∨ code = 1) (braced : '{' ∈ printed.decodeLossy)
    (parsed : parse? printed.decodeLossy = some findings) :
    Linter.readReply ⟨printed, other, .exited code⟩ = .ok findings := by
  have isBraced : printed.decodeLossy.contains '{' = true := List.contains_iff_mem.mpr braced
  simp only [Linter.readReply, succeeded_exited done, isBraced, if_true, parsed]

/-- Without a brace there, the report is read among the errors. -/
theorem readReply_of_stderr (done : code = 0 ∨ code = 1) (bare : '{' ∉ other.decodeLossy)
    (parsed : parse? printed.decodeLossy = some findings) :
    Linter.readReply ⟨other, printed, .exited code⟩ = .ok findings := by
  have notBraced : ¬ other.decodeLossy.contains '{' = true := fun braced =>
    bare (List.contains_iff_mem.mp braced)
  simp only [Linter.readReply, succeeded_exited done, if_true, if_neg notBraced, parsed]

end Streams

/-- Text around a report is ignored: the findings are those of the report alone, and the
linter may print it on either stream. -/
theorem noise_ignored {noise object following : Text} (quiet : '{' ∉ noise)
    (isObject : IsObjectText object) :
    parse? (noise ++ object ++ following) = parse? object ∧
    ∀ findings, parse? object = some findings →
    ∀ (around : Surroundings) (command : Command) (content : Option Bytes) (other : Bytes)
      (code : Nat), code = 0 ∨ code = 1 →
      (around.reply command content =
          .ok ⟨Bytes.ofText (noise ++ object ++ following), other, .exited code⟩ →
        (Linter.run around command content).outcome = .ok findings) ∧
      ('{' ∉ other.decodeLossy → around.reply command content =
          .ok ⟨other, Bytes.ofText (noise ++ object ++ following), .exited code⟩ →
        (Linter.run around command content).outcome = .ok findings) := by
  obtain ⟨before, members, braces, behind, spacesBefore, -, isBraces, wellFormed, rfl⟩ := isObject
  obtain ⟨entries, readEq⟩ := exists_read?_isObject isBraces wellFormed
  have alone := parse?_around isBraces readEq (brace_notMem_of_spaces spacesBefore) behind
  have quietFront : '{' ∉ noise ++ before := by
    rw [List.mem_append]
    exact not_or.mpr ⟨quiet, brace_notMem_of_spaces spacesBefore⟩
  have framed := parse?_around isBraces readEq quietFront (behind ++ following)
  have textEq : noise ++ (before ++ (braces ++ behind)) ++ following =
      noise ++ before ++ (braces ++ (behind ++ following)) := by
    simp
  rw [textEq, framed, alone]
  refine ⟨rfl, fun findings parsed around command content other code done => ?_⟩
  have decoded := Bytes.decodeLossy_ofText (noise ++ before ++ (braces ++ (behind ++ following)))
  have found := decoded.symm ▸ (framed.trans parsed)
  have braced : '{' ∈ noise ++ before ++ (braces ++ (behind ++ following)) := by
    obtain ⟨inner, rfl⟩ := isBraces.exists_braces
    simp
  constructor
  · intro replyEq
    rw [outcome_run replyEq]
    exact readReply_of_stdout done (decoded.symm ▸ braced) found
  · intro bare replyEq
    rw [outcome_run replyEq]
    exact readReply_of_stderr done bare found

/-! ### A report with braces in a string -/

theorem isString_plain {value : Text} (plain : value.all fun c => Plain c) :
    IsString ('"' :: (value ++ ['"'])) := by
  refine ⟨value.map fun c => [c], ?_, by simp [← List.flatMap_def]⟩
  intro part isPart
  obtain ⟨c, member, rfl⟩ := List.mem_map.mp isPart
  exact .plain (of_decide_eq_true (List.all_eq_true.mp plain c member))

/-- A finding whose message is not balanced. -/
def bracedFinding : Finding :=
  ⟨"a".toList, 1, 1, "\x7d\x7b".toList, "r".toList, none⟩

/-- A report of this finding. -/
def bracedReport : Text :=
  "\x7b\"lints\":[[\"a\",1,1,\"\x7d\x7b\",\"r\"]]\x7d ".toList

theorem isObjectText_bracedReport : IsObjectText bracedReport := by
  have number : IsValue "1".toList :=
    .number (@IsNumber.parts [] "1".toList [] [] (.inl rfl)
      ⟨⟨by decide, List.all_eq_true.mp (by decide)⟩, by decide⟩ .none .none)
  have string : ∀ value : Text, (value.all fun c => Plain c) = true →
      IsValue ('"' :: (value ++ ['"'])) := fun value plain => .string (isString_plain plain)
  have items : IsValue "[\"a\",1,1,\"\x7d\x7b\",\"r\"]".toList := by
    refine @IsValue.array ["\"a\"".toList, "1".toList, "1".toList, "\"\x7d\x7b\"".toList,
      "\"r\"".toList] _ (.some (listed_intercalate (List.cons_ne_nil _ _))) ?_
    simp only [List.forall_mem_cons]
    exact ⟨string "a".toList (by decide), number, number, string "\x7d\x7b".toList (by decide),
      string "r".toList (by decide), nofun⟩
  have lints : IsValue "[[\"a\",1,1,\"\x7d\x7b\",\"r\"]]".toList :=
    @IsValue.array ["[\"a\",1,1,\"\x7d\x7b\",\"r\"]".toList] _
      (.some (listed_intercalate (List.cons_ne_nil _ _))) (List.forall_mem_singleton.mpr items)
  refine ⟨[], [("\"lints\"".toList, "[[\"a\",1,1,\"\x7d\x7b\",\"r\"]]".toList)], _, " ".toList,
    nofun, by simp [Spaces], isObject_intercalate (List.cons_ne_nil _ _), ?_, rfl⟩
  exact List.forall_mem_singleton.mpr ⟨@isString_plain "lints".toList (by decide), lints⟩

/-- Surroundings without files, in which every command gets the same reply. -/
def answering (reply : Reply) : Surroundings where
  read _ := .error .notFound
  isFile _ := false
  standIn _ _ := .error .notFound
  reply _ _ := .ok reply

/-- The report behind a warning and in front of the start of another one, first among what
is printed regularly and then among the errors. -/
theorem noise_ignored_behind_warning :
    let printed := "\x7d warning\n".toList ++ bracedReport ++ "\x7b\"".toList
    let command : Command := ⟨"protolint".toList, []⟩
    '{' ∉ "\x7d warning\n".toList ∧ IsObjectText bracedReport ∧
      parse? printed = some [bracedFinding] ∧
      (Linter.run (answering ⟨Bytes.ofText printed, [0xFF], .exited 1⟩) command none).outcome =
        .ok [bracedFinding] ∧
      '{' ∉ Bytes.decodeLossy [0xFF] ∧
      (Linter.run (answering ⟨[0xFF], Bytes.ofText printed, .exited 0⟩) command none).outcome =
        .ok [bracedFinding] := by
  have quiet : '{' ∉ "\x7d warning\n".toList := by decide
  have parsed : parse? bracedReport = some [bracedFinding] := by decide +kernel
  have bare : '{' ∉ Bytes.decodeLossy [0xFF] := by decide
  obtain ⟨sameReport, streams⟩ :=
    @noise_ignored _ _ "\x7b\"".toList quiet isObjectText_bracedReport
  have runs := streams _ parsed
  exact ⟨quiet, isObjectText_bracedReport, sameReport.trans parsed,
    (runs _ _ none [0xFF] 1 (.inr rfl)).1 rfl, bare,
    (runs _ _ none [0xFF] 0 (.inl rfl)).2 bare rfl⟩

end Report

end Pinpoint
