import Pinpoint.Proofs.CharSet
import Pinpoint.Proofs.Pattern.Preferred
import Pinpoint.Proofs.Text.Ascii
import Pinpoint.Rule

/-!
# Reading what the linter writes

The messages of the linter put tokens, and what they expect in their place, between quotes.
What a rule reads in such a message is what was put there: the token ends at the next quote,
and the words that announce what is expected are the first ones behind it that match.
-/

namespace Pinpoint

namespace Rule

open Pattern

/-! ### Messages -/

/-- A text with another one in quotes behind it, and a third one behind that. -/
def quoting (before quoted behind : Text) : Text :=
  before ++ '"' :: (quoted ++ '"' :: behind)

/-- A text that can stand between the quotes of a message as it is: it is not empty, has no
quote, and nothing in it stands for a tab. -/
structure IsPlain (text : Text) : Prop where
  nonempty : text ≠ []
  noQuote : '"' ∉ text
  noTab : ¬ ['\\', 't'] <:+: text

/-- A text with a backslash and a `t` in the place of every tab. -/
def withoutTabs (text : Text) : Text :=
  text.flatMap fun c => if c = '\t' then ['\\', 't'] else [c]

theorem withTabs_eq_self {text : Text} (noTab : ¬ ['\\', 't'] <:+: text) :
    withTabs text = text := by
  induction text using withTabs.induct with
  | case1 => rfl
  | case2 rest _ => exact absurd ⟨[], rest, rfl⟩ noTab
  | case3 c rest notTab ih =>
      rw [withTabs]
      · have restNoTab : ¬ ['\\', 't'] <:+: rest :=
          fun within => noTab (within.trans (List.suffix_cons c rest).isInfix)
        rw [ih restNoTab]
      · exact notTab

theorem withTabs_withoutTabs {text : Text} (blank : ∀ c ∈ text, c = ' ' ∨ c = '\t') :
    withTabs (withoutTabs text) = text := by
  induction text with
  | nil => rfl
  | cons c rest ih =>
      obtain ⟨here, later⟩ := List.forall_mem_cons.mp blank
      have restEq := ih later
      rcases here with rfl | rfl
      · exact congrArg (' ' :: ·) restEq
      · exact congrArg ('\t' :: ·) restEq

theorem noQuote_withoutTabs {text : Text} (blank : ∀ c ∈ text, c = ' ' ∨ c = '\t') :
    '"' ∉ withoutTabs text := by
  intro member
  obtain ⟨c, inText, inside⟩ := List.mem_flatMap.mp member
  rcases blank c inText with rfl | rfl <;> simp at inside

/-! ### What a pattern finds in a message -/

theorem notQuote_has {text : Text} (noQuote : '"' ∉ text) : ∀ c ∈ text, notQuote.has c = true :=
  CharSet.has_complement_only_of_notMem noQuote

theorem notQuote_has_quote : notQuote.has '"' = false := by
  rw [notQuote, CharSet.has_complement_only]
  rfl

theorem blank_has_blank : ∀ c ∈ [' '], CharSet.blank.has c = true :=
  List.forall_mem_singleton.mpr rfl

theorem prefers_blank {behind : Text} {trail : Trail} (follows : trail.cursor.rest = ' ' :: behind)
    (stops : ∀ c ∈ behind.head?, CharSet.blank.has c = false) :
    Prefers (plus true (one .blank)) trail (trail.past [' '] behind) :=
  .ofRun follows blank_has_blank stops (Nat.le_refl 1)

/-- The trail behind a text in quotes that it keeps under a name. -/
def quotedTrail (name : String) (quoted behind : Text) (trail : Trail) : Trail :=
  ((trail.past ['"'] (quoted ++ '"' :: behind)).kept name quoted ('"' :: behind)).past ['"'] behind

theorem prefers_quoted {least : Nat} (name : String) {quoted behind : Text} {trail : Trail}
    (follows : trail.cursor.rest = '"' :: (quoted ++ '"' :: behind)) (noQuote : '"' ∉ quoted)
    (enough : least ≤ quoted.length) :
    Prefers (concat [char '"', capture name (times true least none (one notQuote)), char '"'])
      trail (quotedTrail name quoted behind trail) := by
  refine Prefers.followedBy (.ofLiteral follows) ?_
  refine Prefers.followedBy
    (.ofKept name rfl (notQuote_has noQuote) (stops_at notQuote_has_quote _) enough) ?_
  exact Prefers.followedBy (.ofLiteral rfl) (.done _)

theorem prefers_quotedText (name : String) {quoted behind : Text} {trail : Trail}
    (follows : trail.cursor.rest = '"' :: (quoted ++ '"' :: behind)) (plain : IsPlain quoted) :
    Prefers (quotedText name) trail (quotedTrail name quoted behind trail) :=
  prefers_quoted name follows plain.noQuote (List.length_pos_iff.mpr plain.nonempty)

theorem needs_quotedText (name : String) : Needs ['"'] (quotedText name) :=
  (needs_literal ['"']).concat_cons _

/-- Words that are first met behind a piece of a line, where a word starts. -/
structure Announces (words gap : Text) : Prop where
  line : '\n' ∉ gap
  first : Text.FirstBehind words gap
  separated : (gap.getLast?.any CharSet.word.has != words.head?.any CharSet.word.has) = true

/-- The trail behind a quoted token, the words that announce what is expected and a blank. -/
def announcedTrail (token gap words behind : Text) (trail : Trail) : Trail :=
  (((quotedTrail "token" token (gap ++ (words ++ ' ' :: behind)) trail).past gap
    (words ++ ' ' :: behind)).past words (' ' :: behind)).past [' '] behind

/-- A word starts where the words follow that announce what is expected. -/
theorem Announces.wordEdge_holds {words gap behind : Text} (announces : Announces words gap)
    {trail : Trail} (quoted : trail.cursor.before = some '"') :
    Assertion.wordEdge.holds (trail.past gap (words ++ ' ' :: behind)).cursor = true := by
  have before : (trail.past gap (words ++ ' ' :: behind)).cursor.before.any CharSet.word.has =
      gap.getLast?.any CharSet.word.has := by
    simp only [Trail.past, Trail.moved, Cursor.past, quoted]
    cases gap.getLast? <;> rfl
  have after : (words ++ ' ' :: behind).head?.any CharSet.word.has =
      words.head?.any CharSet.word.has := by
    cases words <;> rfl
  have edge := announces.separated
  rw [← before, ← after] at edge
  exact edge

theorem prefers_tokenThen {words : String} {expected : Pattern} {token gap behind : Text}
    {trail last : Trail} (announces : Announces words.toList gap)
    (follows : trail.cursor.rest =
      '"' :: (token ++ '"' :: (gap ++ (words.toList ++ ' ' :: behind))))
    (plain : IsPlain token) (stops : ∀ c ∈ behind.head?, CharSet.blank.has c = false)
    (others : Prefers expected (announcedTrail token gap words.toList behind trail) last) :
    Prefers (tokenThen words expected) trail last := by
  have onLine : ∀ c ∈ gap, (CharSet.only '\n').complement.has c = true :=
    CharSet.has_complement_only_of_notMem announces.line
  have needs : Needs words.toList (concat [assert .wordEdge, literal words.toList,
      plus true (one .blank), expected]) :=
    ((needs_literal words.toList).concat_cons _).behind_assert _
  refine Prefers.followedBy (prefers_quotedText "token" follows plain) ?_
  refine Prefers.ofLazy rfl onLine needs announces.first (List.prefix_append _ _) ?_
  refine Prefers.followedBy (.ofAssert (announces.wordEdge_holds rfl)) ?_
  refine Prefers.followedBy (.ofLiteral rfl) ?_
  exact Prefers.followedBy (prefers_blank rfl stops) (Prefers.followedBy others (.done _))

/-! ### What a rule reads -/

/-- A rule reads what its pattern keeps at the first place where words follow that the pattern
needs. -/
theorem readMessage_eq {rule : Rule} {pattern : Pattern} {words before more : Text}
    {after : Trail} (message : rule.message = some pattern) (proper : pattern.isProper = true)
    (solid : pattern.canBeEmpty = false) (needs : Needs words pattern)
    (first : Text.FirstBehind words before) (follow : words <+: more)
    (prefers : Prefers pattern (.start ((Cursor.start (before ++ more)).past before more)) after) :
    rule.readMessage (before ++ more) =
      ⟨(after.captures.lookup "token").map withTabs,
        (after.captures.lookup "expected").map withTabs⟩ := by
  rw [readMessage, message, Option.bind_some,
    firstOccurrence?_eq proper needs solid first follow prefers]
  rfl

theorem quote_follows (quoted behind : Text) : ['"'] <+: '"' :: (quoted ++ '"' :: behind) :=
  List.prefix_append ['"'] _

/-- A rule that asks for nothing reads the first text in quotes. -/
theorem readMessage_namesToken {rule : Rule} (message : rule.message = some namesToken)
    {before token : Text} (noQuote : '"' ∉ before) (plain : IsPlain token) (behind : Text) :
    rule.readMessage (quoting before token behind) = ⟨some token, none⟩ := by
  have read := readMessage_eq message rfl rfl (needs_quotedText "token")
    (Text.firstBehind_of_notMem noQuote []) (quote_follows token behind)
    (prefers_quotedText "token" rfl plain)
  refine read.trans ?_
  have token_eq : withTabs token = token := withTabs_eq_self plain.noTab
  exact congrArg (fun token => (⟨some token, none⟩ : Captures)) token_eq

/-- Where a text follows, the preferred match of a pattern keeps what is expected, if anything
is, and nothing else. -/
def Yields (pattern : Pattern) (behind : Text) (expected : Option Text) : Prop :=
  ∀ trail : Trail, trail.cursor.rest = behind → ∃ last, Prefers pattern trail last ∧
    last.captures = (expected.map ("expected", ·)).toList ++ trail.captures

theorem yields_quotedText {expected : Text} (plain : IsPlain expected) (behind : Text) :
    Yields (quotedText "expected") ('"' :: (expected ++ '"' :: behind)) (some expected) :=
  fun _ follows => ⟨_, prefers_quotedText "expected" follows plain, rfl⟩

theorem identifierPart_has (c : Char) :
    Vocabulary.identifierPart.has c = true ↔ c.isAlphanum = true ∨ c = '_' := by
  have underscore : c = '_' ↔ c.toNat = 95 := Char.toNat_inj.symm
  rw [Vocabulary.identifierPart_eq, underscore]
  simp only [Text.isAlphanum_iff, Text.isAlpha_iff, Text.isUpper_iff_toNat,
    Text.isLower_iff_toNat, Text.isDigit_iff_toNat]
  simp [CharSet.has, CharSet.hasCode, CharSet.within]
  omega

/-- A word that no text follows can stand without quotes. -/
theorem yields_word {word : Text} (nonempty : word ≠ [])
    (letters : ∀ c ∈ word, c.isAlphanum = true ∨ c = '_') :
    Yields (concat [opt true (char '"'),
      capture "expected" (plus true (one Vocabulary.identifierPart)), opt true (char '"')])
      word (some word) := by
  intro trail follows
  have inside : ∀ c ∈ word, Vocabulary.identifierPart.has c = true :=
    fun c member => (identifierPart_has c).mpr (letters c member)
  have noQuote : ¬ ['"'] <+: trail.cursor.rest := by
    rintro ⟨rest, wordEq⟩
    have quote := letters '"' (by rw [← follows, ← wordEq]; exact List.mem_cons_self)
    simp at quote
  have whole : trail.cursor.rest = word ++ [] := by rw [follows, List.append_nil]
  have enough : 1 ≤ word.length := List.length_pos_iff.mpr nonempty
  refine ⟨trail.kept "expected" word [], ?_, rfl⟩
  refine Prefers.followedBy (.ofOpt_none (needs_literal ['"'] trail noQuote)) ?_
  refine Prefers.followedBy (.ofKept "expected" whole inside (by simp) enough) ?_
  exact Prefers.followedBy (.ofOpt_none (needs_literal ['"'] _ (by simp [Trail.kept]))) (.done _)

/-- A rule that asks for something reads the first text in quotes, and what is expected behind
the first words that announce it. -/
theorem readMessage_tokenThen {rule : Rule} {words : String} {pattern : Pattern}
    (message : rule.message = some (tokenThen words pattern))
    (proper : (tokenThen words pattern).isProper = true)
    {before token gap behind expected : Text} (noQuote : '"' ∉ before) (plain : IsPlain token)
    (announces : Announces words.toList gap)
    (stops : ∀ c ∈ behind.head?, CharSet.blank.has c = false)
    (yields : Yields pattern behind (some expected)) (noTab : ¬ ['\\', 't'] <:+: expected) :
    rule.readMessage (quoting before token (gap ++ (words.toList ++ ' ' :: behind))) =
      ⟨some token, some expected⟩ := by
  obtain ⟨last, others, captures⟩ := yields (announcedTrail token gap words.toList behind
    (.start ((Cursor.start (quoting before token (gap ++ (words.toList ++ ' ' :: behind)))).past
      before ('"' :: (token ++ '"' :: (gap ++ (words.toList ++ ' ' :: behind))))))) rfl
  have read := readMessage_eq message proper rfl ((needs_quotedText "token").concat_cons _)
    (Text.firstBehind_of_notMem noQuote []) (quote_follows token _)
    (prefers_tokenThen announces rfl plain stops others)
  refine read.trans ?_
  have token_eq : withTabs token = token := withTabs_eq_self plain.noTab
  have expected_eq : withTabs expected = expected := withTabs_eq_self noTab
  rw [captures]
  exact congrArg₂ (fun token expected => (⟨some token, some expected⟩ : Captures)) token_eq
    expected_eq

/-! ### Indentation -/

/-- The words in front of a quoted indentation, together with its first quote. -/
def indentationWords : Text :=
  "incorrect indentation style \"".toList

/-- The part of a message that quotes what the indentation should be. -/
def wantedIndentation : Pattern :=
  concat [star true (one .blank), char '"', capture "expected" (star true (one notQuote)),
    char '"']

theorem quotesIndentation_eq : quotesIndentation = concat [literal indentationWords,
    capture "token" (star true (one notQuote)), char '"', opt true (char '.'),
    opt true wantedIndentation] :=
  rfl

/-- The trail behind a quoted indentation that it keeps, and the full stop behind it. -/
def indentedTrail (got behind : Text) (trail : Trail) : Trail :=
  ((((trail.past indentationWords (got ++ '"' :: '.' :: behind)).kept "token" got
    ('"' :: '.' :: behind)).past ['"'] ('.' :: behind)).past ['.'] behind)

theorem prefers_quotesIndentation {got behind : Text} {trail last : Trail} (noQuote : '"' ∉ got)
    (follows : trail.cursor.rest = indentationWords ++ (got ++ '"' :: '.' :: behind))
    (others : Prefers (opt true wantedIndentation) (indentedTrail got behind trail) last) :
    Prefers quotesIndentation trail last := by
  rw [quotesIndentation_eq]
  refine Prefers.followedBy (.ofLiteral follows) ?_
  refine Prefers.followedBy
    (.ofKept "token" rfl (notQuote_has noQuote) (stops_at notQuote_has_quote _) (Nat.zero_le _)) ?_
  refine Prefers.followedBy (.ofLiteral rfl) ?_
  refine Prefers.followedBy (.ofOpt (.ofLiteral rfl)) ?_
  exact Prefers.followedBy others (.done _)

theorem yields_wantedIndentation {wanted : Text} (noQuote : '"' ∉ wanted) (behind : Text) :
    Yields (opt true wantedIndentation) (' ' :: '"' :: (wanted ++ '"' :: behind))
      (some wanted) := by
  intro trail follows
  have blanks : Prefers (star true (one .blank)) trail
      (trail.past [' '] ('"' :: (wanted ++ '"' :: behind))) :=
    .ofRun follows blank_has_blank (stops_at rfl _) (Nat.zero_le _)
  have whole : Prefers wantedIndentation trail (quotedTrail "expected" wanted behind
      (trail.past [' '] ('"' :: (wanted ++ '"' :: behind)))) :=
    blanks.followedBy (prefers_quoted "expected" rfl noQuote (Nat.zero_le _))
  exact ⟨_, .ofOpt whole, rfl⟩

/-- At the end of a message no indentation is wanted. -/
theorem yields_nothing : Yields (opt true wantedIndentation) [] none := by
  intro trail ends
  have solid : wantedIndentation.canBeEmpty = false := rfl
  have none : wantedIndentation.ends trail = [] :=
    (advances_ends solid).eq_nil (by simp [ends])
  exact ⟨trail, .ofOpt_none none, rfl⟩

/-- A rule reads the indentation that a message quotes first, with its tabs, and the one that
it quotes then, if any. -/
theorem readMessage_quotesIndentation {rule : Rule}
    (message : rule.message = some quotesIndentation) {before lead got behind : Text}
    {wanted : Option Text} (first : Text.FirstBehind indentationWords before)
    (leadEq : lead ++ ['"'] = before ++ indentationWords)
    (gotBlank : ∀ c ∈ got, c = ' ' ∨ c = '\t')
    (yields : Yields (opt true wantedIndentation) behind wanted) :
    rule.readMessage (quoting lead (withoutTabs got) ('.' :: behind)) =
      ⟨some got, wanted.map withTabs⟩ := by
  obtain ⟨last, others, captures⟩ := yields (indentedTrail (withoutTabs got) behind
    (.start ((Cursor.start (before ++ (indentationWords ++
      (withoutTabs got ++ '"' :: '.' :: behind)))).past before
        (indentationWords ++ (withoutTabs got ++ '"' :: '.' :: behind))))) rfl
  have read := readMessage_eq message rfl rfl ((needs_literal indentationWords).concat_cons _)
    first (List.prefix_append _ _)
    (prefers_quotesIndentation (noQuote_withoutTabs gotBlank) rfl others)
  have messageEq : quoting lead (withoutTabs got) ('.' :: behind) =
      before ++ (indentationWords ++ (withoutTabs got ++ '"' :: '.' :: behind)) := by
    rw [quoting, ← List.append_assoc before, ← leadEq, List.append_assoc, List.singleton_append]
  have got_eq : withTabs (withoutTabs got) = got := withTabs_withoutTabs gotBlank
  rw [messageEq, read, captures]
  cases wanted with
  | none => exact congrArg (fun got => (⟨some got, none⟩ : Captures)) got_eq
  | some wanted => exact congrArg (fun got => (⟨some got, some _⟩ : Captures)) got_eq

theorem readMessage_wantedIndentation {rule : Rule}
    (message : rule.message = some quotesIndentation) {before lead got wanted : Text}
    (first : Text.FirstBehind indentationWords before)
    (leadEq : lead ++ ['"'] = before ++ indentationWords)
    (gotBlank : ∀ c ∈ got, c = ' ' ∨ c = '\t') (wantedBlank : ∀ c ∈ wanted, c = ' ' ∨ c = '\t')
    (behind : Text) :
    rule.readMessage (quoting lead (withoutTabs got)
      (quoting ". ".toList (withoutTabs wanted) behind)) = ⟨some got, some wanted⟩ := by
  have read := readMessage_quotesIndentation message first leadEq gotBlank
    (yields_wantedIndentation (noQuote_withoutTabs wantedBlank) behind)
  rw [Option.map_some, withTabs_withoutTabs wantedBlank] at read
  exact read

/-! ### The messages of the rules -/

/-- What the rule of a name reads in a message, if there is such a rule. -/
def read? (name : String) (message : Text) : Option Captures :=
  (find? name.toList).map (·.readMessage message)

theorem read?_of_message {name : String} {pattern : Pattern} {message : Text}
    {captures : Captures} (found : (find? name.toList).map Rule.message = some (some pattern))
    (reads : ∀ rule : Rule, rule.message = some pattern → rule.readMessage message = captures) :
    read? name message = some captures := by
  obtain ⟨rule, ruleEq, messageEq⟩ := Option.map_eq_some_iff.mp found
  rw [read?, ruleEq, Option.map_some, reads rule messageEq]

/-- A rule that asks for something in quotes reads it behind the words that announce it. -/
theorem readMessage_quoted {rule : Rule} {words : String} {before token gap lead expected : Text}
    (message : rule.message = some (tokenThen words (quotedText "expected")))
    (announces : Announces words.toList gap) (leadEq : lead = gap ++ (words.toList ++ [' ']))
    (noQuote : '"' ∉ before) (plainToken : IsPlain token) (plainExpected : IsPlain expected)
    (behind : Text) :
    rule.readMessage (quoting before token (quoting lead expected behind)) =
      ⟨some token, some expected⟩ := by
  have messageEq : quoting lead expected behind =
      gap ++ (words.toList ++ ' ' :: '"' :: (expected ++ '"' :: behind)) := by
    simp [quoting, leadEq]
  rw [messageEq]
  exact readMessage_tokenThen message rfl noQuote plainToken announces (stops_at rfl _)
    (yields_quotedText plainExpected behind) plainExpected.noTab

theorem blank_has_of_alphanumeric {c : Char} (letter : c.isAlphanum = true ∨ c = '_') :
    CharSet.blank.has c = false := by
  have all : ∀ code < 128, (Char.ofNat code).isAlphanum = true ∨ Char.ofNat code = '_' →
      CharSet.blank.has (Char.ofNat code) = false := by
    decide
  have ascii : c.toNat < 128 := by
    rcases letter with alphanumeric | rfl
    · exact Text.toNat_lt_of_isAlphanum alphanumeric
    · decide
  have here := all c.toNat ascii
  rw [Char.ofNat_toNat] at here
  exact here letter

/-- A rule that asks for a last word reads it up to the end of the message. -/
theorem readMessage_word {rule : Rule} {before token word : Text}
    (message : rule.message = some asksForLastWord) (noQuote : '"' ∉ before)
    (plain : IsPlain token) (nonempty : word ≠ [])
    (letters : ∀ c ∈ word, c.isAlphanum = true ∨ c = '_') :
    rule.readMessage (quoting before token (" must end with ".toList ++ word)) =
      ⟨some token, some word⟩ := by
  have announces : Announces "end with".toList " must ".toList :=
    ⟨by decide, by decide, by decide⟩
  have stops : ∀ c ∈ word.head?, CharSet.blank.has c = false :=
    fun c first => blank_has_of_alphanumeric (letters c (List.mem_of_mem_head? first))
  have noTab : ¬ ['\\', 't'] <:+: word := by
    intro within
    have backslash := letters '\\' (within.subset List.mem_cons_self)
    simp at backslash
  have leadEq : " must end with ".toList = " must ".toList ++ ("end with".toList ++ [' ']) := by
    decide +kernel
  rw [leadEq, List.append_assoc, List.append_assoc]
  exact readMessage_tokenThen message rfl noQuote plain announces stops
    (yields_word nonempty letters) noTab

/-- What the linter writes into a message is read back: the token, and what is expected in its
place where the message says so.  Indentations have their tabs again. -/
theorem readMessage_written {token expected word before got wanted : Text}
    (plainToken : IsPlain token) (plainExpected : IsPlain expected) (nonempty : word ≠ [])
    (letters : ∀ c ∈ word, c.isAlphanum = true ∨ c = '_') (noQuote : '"' ∉ before)
    (gotBlank : ∀ c ∈ got, c = ' ' ∨ c = '\t') (wantedBlank : ∀ c ∈ wanted, c = ' ' ∨ c = '\t')
    (behind : Text) :
    read? "ENUM_FIELD_NAMES_PREFIX" (quoting "EnumField name ".toList token
        (quoting " should have the prefix ".toList expected [])) =
          some ⟨some token, some expected⟩ ∧
      read? "ENUM_FIELD_NAMES_ZERO_VALUE_END_WITH" (quoting "EnumField name ".toList token
        (quoting " with zero value should have the suffix ".toList expected [])) =
          some ⟨some token, some expected⟩ ∧
      read? "REPEATED_FIELD_NAMES_PLURALIZED" (quoting "Repeated field name ".toList token
        (quoting " must be pluralized name ".toList expected [])) =
          some ⟨some token, some expected⟩ ∧
      read? "SERVICE_NAMES_END_WITH" (quoting "Service name ".toList token
        (" must end with ".toList ++ word)) = some ⟨some token, some word⟩ ∧
      (∀ rule ∈ table, rule.message = some namesToken →
        rule.readMessage (quoting before token behind) = ⟨some token, none⟩) ∧
      read? "INDENT" (quoting "Found an incorrect indentation style ".toList (withoutTabs got)
        (quoting ". ".toList (withoutTabs wanted) " is correct.".toList)) =
          some ⟨some got, some wanted⟩ ∧
      read? "INDENT" (quoting "Found a possible incorrect indentation style ".toList
        (withoutTabs got) ['.']) = some ⟨some got, none⟩ := by
  have front : Announces "prefix".toList " should have the ".toList :=
    ⟨by decide, by decide, by decide⟩
  have zero : Announces "suffix".toList " with zero value should have the ".toList :=
    ⟨by decide, by decide, by decide⟩
  have plural : Announces "pluralized name".toList " must be ".toList :=
    ⟨by decide, by decide, by decide⟩
  have certain : Text.FirstBehind indentationWords "Found an ".toList := by decide
  have possible : Text.FirstBehind indentationWords "Found a possible ".toList := by decide
  refine ⟨?_, ?_, ?_, ?_, ?_, ?_, ?_⟩
  · exact read?_of_message (by decide +kernel) fun rule message =>
      readMessage_quoted message front (by decide +kernel) (by decide) plainToken plainExpected []
  · exact read?_of_message (by decide +kernel) fun rule message =>
      readMessage_quoted message zero (by decide +kernel) (by decide) plainToken plainExpected []
  · exact read?_of_message (by decide +kernel) fun rule message =>
      readMessage_quoted message plural (by decide +kernel) (by decide) plainToken plainExpected []
  · exact read?_of_message rfl fun rule message =>
      readMessage_word message (by decide) plainToken nonempty letters
  · exact fun rule _ message => readMessage_namesToken message noQuote plainToken behind
  · exact read?_of_message (by decide +kernel) fun rule message =>
      readMessage_wantedIndentation message certain (by decide +kernel) gotBlank wantedBlank _
  · exact read?_of_message (by decide +kernel) fun rule message =>
      readMessage_quotesIndentation message possible (by decide +kernel) gotBlank yields_nothing

/-- A token that has words of the message in it, and an indentation by both kinds of blanks. -/
theorem readMessage_written_enum :
    read? "ENUM_FIELD_NAMES_PREFIX"
        "EnumField name \"a prefix b\" should have the prefix \"STATUS_\"".toList =
          some ⟨some "a prefix b".toList, some "STATUS_".toList⟩ ∧
      read? "SERVICE_NAMES_END_WITH" "Service name \"a prefix b\" must end with Service".toList =
        some ⟨some "a prefix b".toList, some "Service".toList⟩ ∧
      read? "INDENT" "Found an incorrect indentation style \"\\t \". \"  \" is correct.".toList =
        some ⟨some ['\t', ' '], some [' ', ' ']⟩ := by
  have plainToken : IsPlain "a prefix b".toList := ⟨by decide, by decide, by decide⟩
  have plainExpected : IsPlain "STATUS_".toList := ⟨by decide, by decide, by decide⟩
  have nonempty : "Service".toList ≠ [] := by decide
  have letters : ∀ c ∈ "Service".toList, c.isAlphanum = true ∨ c = '_' := by simp
  have noQuote : '"' ∉ ([] : Text) := List.not_mem_nil
  have gotBlank : ∀ c ∈ ['\t', ' '], c = ' ' ∨ c = '\t' := by simp
  have wantedBlank : ∀ c ∈ [' ', ' '], c = ' ' ∨ c = '\t' := by simp
  have frontEq : "EnumField name \"a prefix b\" should have the prefix \"STATUS_\"".toList =
      quoting "EnumField name ".toList "a prefix b".toList
        (quoting " should have the prefix ".toList "STATUS_".toList []) := by decide +kernel
  have lastEq : "Service name \"a prefix b\" must end with Service".toList =
      quoting "Service name ".toList "a prefix b".toList
        (" must end with ".toList ++ "Service".toList) := by decide +kernel
  have indentEq : "Found an incorrect indentation style \"\\t \". \"  \" is correct.".toList =
      quoting "Found an incorrect indentation style ".toList (withoutTabs ['\t', ' '])
        (quoting ". ".toList (withoutTabs [' ', ' ']) " is correct.".toList) := by decide +kernel
  obtain ⟨front, -, -, last, -, indent, -⟩ := readMessage_written plainToken
    plainExpected nonempty letters noQuote gotBlank wantedBlank []
  rw [frontEq, lastEq, indentEq]
  exact ⟨front, last, indent⟩

end Rule

end Pinpoint
