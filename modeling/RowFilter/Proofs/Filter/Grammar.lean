import RowFilter.Proofs.Filter.Refusal
import RowFilter.Proofs.Pairs

/-!
# The grammar of filters

The separators at the end of a text do not count.  What is left has the form of
a filter when it is a field, an operation and a content, with a kind after them
or not, and with anything after the kind.  Texts of this form whose parts name
and denote something are read; every other text fails with its first fault.
-/

namespace RowFilter

/-- A text without the separators at its end. -/
def stripped (raw : String) : String :=
  String.ofList (raw.toList.rdropWhile (· = segmentSeparator))

/-- The four parts of a text that has the form of a filter, of which the last may be absent. -/
inductive HasForm : String → String → String → String → Option String → Prop
  /-- Without a kind. -/
  | bare {field operation content : String}
      (free : ∀ part ∈ [field, operation, content], segmentSeparator ∉ part.toList) :
      HasForm (joinSegments [field, operation, content]) field operation content none
  /-- With a kind. -/
  | typed {field operation content kind : String}
      (free : ∀ part ∈ [field, operation, content, kind], segmentSeparator ∉ part.toList) :
      HasForm (joinSegments [field, operation, content, kind]) field operation content (some kind)
  /-- With anything after the kind. -/
  | surplus {field operation content kind : String}
      (free : ∀ part ∈ [field, operation, content, kind], segmentSeparator ∉ part.toList)
      (rest : String) :
      HasForm (joinSegments [field, operation, content, kind, rest]) field operation content
        (some kind)

/-- The tokens of a content: the content itself, or its pieces for a membership. -/
inductive AreTokens : Operation → String → List String → Prop
  /-- A test has one token. -/
  | test {asked : Test} {content : String} : AreTokens (.test asked) content [content]
  /-- A membership has the pieces as its tokens. -/
  | among {content : String} {tokens : List String}
      (pieces : ArePieces valueSeparator content tokens) : AreTokens .among content tokens

/-- A text of the grammar, with the field, the operation, the kind and the values that it gives. -/
structure InGrammar (text field : String) (operation : Operation) (kind : Kind)
    (items : List Value) : Prop where
  /-- The field has a name. -/
  named : field ≠ ""
  /-- The parts name the operation and the kind, and the tokens denote the values. -/
  parts : ∃ token content kindToken tokens,
    HasForm text field token content kindToken ∧
    Text.upper token = operation.name ∧
    NamesKind kindToken kind ∧
    AreTokens operation content tokens ∧
    DenoteAll field kind tokens items

/-- The first fault of a text outside the grammar. -/
inductive GrammarFault (raw : String) : FilterError → Prop
  /-- There are fewer than three segments. -/
  | short (few : (stripped raw).toList.count segmentSeparator < 2) :
      GrammarFault raw (.malformed raw expectedShape)
  /-- The field is empty. -/
  | unnamed {token content : String} {kindToken : Option String}
      (form : HasForm (stripped raw) "" token content kindToken) :
      GrammarFault raw (.malformed (joinSegments ["", token, content]) emptyField)
  /-- No operation has the name. -/
  | operation {field token content : String} {kindToken : Option String}
      (form : HasForm (stripped raw) field token content kindToken) (named : field ≠ "")
      (unknown : ∀ operation : Operation, Text.upper token ≠ operation.name) :
      GrammarFault raw (.unknownOperation token)
  /-- No kind has the name. -/
  | kind {field token content kindToken : String}
      (form : HasForm (stripped raw) field token content (some kindToken)) (named : field ≠ "")
      {operation : Operation} (operationNamed : Text.upper token = operation.name)
      (unknown : ∀ kind : Kind, Text.upper kindToken ≠ kind.name) :
      GrammarFault raw (.unknownKind kindToken)
  /-- A token is no value of the kind, and all tokens before it are. -/
  | value {field token content : String} {kindToken : Option String}
      (form : HasForm (stripped raw) field token content kindToken) (named : field ≠ "")
      {operation : Operation} (operationNamed : Text.upper token = operation.name)
      {kind : Kind} (kindNamed : NamesKind kindToken kind)
      {tokens : List String} (areTokens : AreTokens operation content tokens)
      {error : FilterError} (fault : FirstTokenFault field kind tokens error) :
      GrammarFault raw error

/-! ## Tokens -/

theorem areTokens_iff {operation : Operation} {content : String} {tokens : List String} :
    AreTokens operation content tokens ↔ operation.tokens content = tokens := by
  cases operation with
  | test asked => exact ⟨fun | .test => rfl, fun | rfl => .test⟩
  | among =>
      rw [Operation.tokens, ← arePieces_iff]
      exact ⟨fun | .among pieces => pieces, .among⟩

/-! ## Segments -/

/-- The parts are the first segments, and the kind is the fourth one where there is one. -/
theorem hasForm_iff {text field operation content : String} {kind : Option String} :
    HasForm text field operation content kind ↔
      ∃ rest, Text.split segmentSeparator text = field :: operation :: content :: rest ∧
        rest.head? = kind := by
  constructor
  · rintro (free | free | ⟨free, rest⟩)
    · exact ⟨[], Text.split_join (by simp) free, rfl⟩
    · exact ⟨[_], Text.split_join (by simp) free, rfl⟩
    · exact ⟨_ :: Text.split segmentSeparator rest, Text.split_join_append free rest, rfl⟩
  · rintro ⟨rest, split_eq, rfl⟩
    obtain ⟨-, free, join_eq⟩ := arePieces_iff.2 split_eq
    match rest with
    | [] =>
        rw [← join_eq]
        exact .bare free
    | [kind] =>
        rw [← join_eq]
        exact .typed free
    | kind :: other :: others =>
        have grouped := @Text.join_append_singleton segmentSeparator _
          (List.cons_ne_nil other others) [field, operation, content, kind]
        rw [← join_eq]
        refine grouped ▸ .surplus (fun part member => free part ?_) _
        exact List.mem_append_left (other :: others) member

/-- The pieces of a text, without the empty ones at its end, are those of the stripped text. -/
theorem dropEmptyEnd_split (characters : List Char) :
    dropEmptyEnd (Text.split segmentSeparator (String.ofList characters)) =
      if characters.rdropWhile (· = segmentSeparator) = [] then []
      else
        Text.split segmentSeparator
          (String.ofList (characters.rdropWhile (· = segmentSeparator))) := by
  induction characters using List.reverseRecOn with
  | nil => rfl
  | append_singleton characters character inductionHypothesis =>
      by_cases separates : character = segmentSeparator
      · rw [List.rdropWhile_concat_pos _ _ _ (by simpa using separates), ← inductionHypothesis,
          separates, Text.split, Text.split, String.toList_ofList, String.toList_ofList,
          Text.splitChars_concat_separator, List.map_append]
        exact dropEmptyEnd_append_empty _
      · rw [List.rdropWhile_concat_neg _ _ _ (by simpa using separates), if_neg (by simp)]
        obtain ⟨pieces, last, split_eq⟩ := Text.exists_splitChars_concat separates characters
        rw [Text.split, String.toList_ofList, split_eq, List.map_append, List.map_singleton]
        exact dropEmptyEnd_append_singleton _ (by simp)

/-- A text is cut at its separators, once the empty segments at its end are gone. -/
theorem segments_eq (raw : String) :
    segments raw =
      if stripped raw = "" then [] else Text.split segmentSeparator (stripped raw) := by
  have pieces := dropEmptyEnd_split raw.toList
  rw [String.ofList_toList] at pieces
  rw [segments, pieces, stripped]
  refine if_congr ?_ rfl rfl
  rw [← String.toList_inj, String.toList_ofList]
  rfl

variable {raw field token content : String} {kindToken : Option String}

/-- The segments of a text are the parts of the stripped text. -/
theorem hasForm_stripped_iff :
    HasForm (stripped raw) field token content kindToken ↔
      ∃ rest, segments raw = field :: token :: content :: rest ∧ rest.head? = kindToken := by
  rw [hasForm_iff, segments_eq]
  split
  · next empty => simp [empty, Text.split, Text.splitChars]
  · rfl

/-- The parts of a text in the form of a filter are determined. -/
theorem HasForm.parts_eq
    {text field' token' content' : String} {kindToken' : Option String}
    (form : HasForm text field token content kindToken)
    (form' : HasForm text field' token' content' kindToken') :
    field = field' ∧ token = token' ∧ content = content' ∧ kindToken = kindToken' := by
  obtain ⟨rest, pieces, rfl⟩ := hasForm_iff.1 form
  obtain ⟨rest', pieces', rfl⟩ := hasForm_iff.1 form'
  rw [pieces] at pieces'
  cases pieces'
  exact ⟨rfl, rfl, rfl, rfl⟩

/-- A text has fewer than two separators or it has the form of a filter. -/
theorem not_count_lt_two_iff :
    ¬(stripped raw).toList.count segmentSeparator < 2 ↔
      ∃ field token content kindToken, HasForm (stripped raw) field token content kindToken := by
  have length := Text.length_split segmentSeparator (stripped raw)
  simp only [hasForm_iff]
  constructor
  · intro many
    match pieces : Text.split segmentSeparator (stripped raw) with
    | field :: token :: content :: rest => exact ⟨field, token, content, rest.head?, rest, rfl, rfl⟩
    | [] | [_] | [_, _] =>
        rw [pieces] at length
        simp only [List.length_cons, List.length_nil] at length
        omega
  · rintro ⟨field, token, content, kindToken, rest, pieces, -⟩
    rw [pieces] at length
    simp only [List.length_cons] at length
    omega

/-! ## What a text is read as -/

/-- A text in the form of a filter is read by its parts. -/
theorem parse_of_hasForm (form : HasForm (stripped raw) field token content kindToken) :
    parse raw = Filter.ofSegments field token content kindToken := by
  obtain ⟨rest, found, rfl⟩ := hasForm_stripped_iff.1 form
  rw [parse, found]

/-- A text with less than two separators is no filter. -/
theorem parse_of_count_lt_two (few : (stripped raw).toList.count segmentSeparator < 2) :
    parse raw = .error (.malformed raw expectedShape) := by
  rw [parse]
  split
  · next field token content rest found =>
      have form := hasForm_stripped_iff.2 ⟨rest, found, rfl⟩
      exact absurd few (not_count_lt_two_iff.2 ⟨field, token, content, _, form⟩)
  · rfl

variable (form : HasForm (stripped raw) field token content kindToken)

include form

/-- The filter of the parts of a text is the one that the grammar derives. -/
theorem isNamed_iff_inGrammar {filter : Filter} :
    Filter.IsNamed field token content kindToken filter ↔
      InGrammar (stripped raw) filter.field filter.operation filter.kind filter.items := by
  constructor
  · rintro ⟨rfl, operation, kind, values⟩
    exact ⟨filter.field_ne_empty, _, _, _, _, form, operation, kind, areTokens_iff.2 rfl, values⟩
  · rintro ⟨-, _, _, _, tokens, form', operation, kind, areTokens, values⟩
    obtain ⟨rfl, rfl, rfl, rfl⟩ := form.parts_eq form'
    rw [areTokens_iff] at areTokens
    exact ⟨rfl, operation, kind, areTokens ▸ values⟩

/-- The first fault of the parts is that of the text. -/
theorem segmentFault_iff_grammarFault {error : FilterError} :
    Filter.SegmentFault field token content kindToken error ↔ GrammarFault raw error := by
  constructor
  · rintro (rfl | ⟨named, unknown⟩ | ⟨named, operationNamed, rfl, unknown⟩ |
      ⟨named, operationNamed, kindNamed, fault⟩)
    · exact .unnamed form
    · exact .operation form named unknown
    · exact .kind form named operationNamed unknown
    · exact .value form named operationNamed kindNamed (areTokens_iff.2 rfl) fault
  · rintro (few | form' | ⟨form', named, unknown⟩ | ⟨form', named, operationNamed, unknown⟩ |
      ⟨form', named, operationNamed, kindNamed, areTokens, fault⟩)
    · exact absurd few (not_count_lt_two_iff.2 ⟨_, _, _, _, form⟩)
    all_goals obtain ⟨rfl, rfl, rfl, rfl⟩ := form.parts_eq form'
    · exact .unnamed rfl
    · exact .operation named unknown
    · exact .kind named operationNamed rfl unknown
    · exact .value named operationNamed kindNamed (areTokens_iff.1 areTokens ▸ fault)

omit form

/-- A text is in the grammar and read, or has a first fault and is refused with it. -/
theorem described_parse (raw : String) :
    Described (parse raw)
      (fun filter =>
        InGrammar (stripped raw) filter.field filter.operation filter.kind filter.items)
      (GrammarFault raw) := by
  by_cases few : (stripped raw).toList.count segmentSeparator < 2
  · apply Described.of_cases
    · rintro filter ⟨-, _, _, _, _, form, -⟩
      exact absurd few (not_count_lt_two_iff.2 ⟨_, _, _, _, form⟩)
    · rintro _ (_ | form | ⟨form, -, -⟩ | ⟨form, -, -, -⟩ | ⟨form, -, -, -, -, -⟩)
      · exact parse_of_count_lt_two few
      all_goals exact absurd few (not_count_lt_two_iff.2 ⟨_, _, _, _, form⟩)
    · exact Or.inr ⟨_, .short few⟩
  · obtain ⟨field, token, content, kindToken, form⟩ := not_count_lt_two_iff.1 few
    rw [parse_of_hasForm form]
    exact (Filter.described_ofSegments field token content kindToken).congr
      (fun _ => isNamed_iff_inGrammar form) fun _ => segmentFault_iff_grammarFault form

/-- What a text of the grammar gives makes up a filter. -/
theorem InGrammar.exists_filter
    {text : String} {operation : Operation} {kind : Kind} {items : List Value}
    (grammar : InGrammar text field operation kind items) :
    ∃ filter : Filter, filter.field = field ∧ filter.operation = operation ∧
      filter.kind = kind ∧ filter.items = items := by
  obtain ⟨named, token, content, kindToken, tokens, -, -, -, areTokens, values⟩ := grammar
  have kinds : ∀ item ∈ items, item.kind = some kind :=
    forall_mem_of_forall₂ values fun _ _ => kind_of_coerce
  cases areTokens with
  | @test asked =>
      obtain ⟨item, _, -, ⟨⟩, rfl⟩ := List.forall₂_cons_left_iff.1 values
      exact ⟨⟨field, kind, .test asked item, named, kinds⟩, rfl, rfl, rfl, rfl⟩
  | among => exact ⟨⟨field, kind, .among items, named, kinds⟩, rfl, rfl, rfl, rfl⟩

/--
Exactly the texts whose stripped form is in the grammar are read, each as the
filter of its field, its operation, its kind and its values; every other text
fails with its first fault.  Texts with the same four parts are read alike,
whatever stands after the kind and however many separators stand at the end.
-/
theorem parse_iff_inGrammar (raw : String) :
    (∀ field operation kind items,
      (∃ filter, parse raw = .ok filter ∧ filter.field = field ∧ filter.operation = operation ∧
          filter.kind = kind ∧ filter.items = items) ↔
        InGrammar (stripped raw) field operation kind items) ∧
    (∀ error, parse raw = .error error ↔ GrammarFault raw error) ∧
    ∀ other field token content kindToken,
      HasForm (stripped raw) field token content kindToken →
      HasForm (stripped other) field token content kindToken →
      parse other = parse raw := by
  have described := described_parse raw
  refine ⟨fun field operation kind items => ⟨?_, fun grammar => ?_⟩, described.eq_error_iff, ?_⟩
  · rintro ⟨filter, parsed, rfl, rfl, rfl, rfl⟩
    exact (described.eq_ok_iff filter).1 parsed
  · obtain ⟨filter, rfl, rfl, rfl, rfl⟩ := grammar.exists_filter
    exact ⟨filter, (described.eq_ok_iff filter).2 grammar, rfl, rfl, rfl, rfl⟩
  · intro other field token content kindToken form otherForm
    rw [parse_of_hasForm form, parse_of_hasForm otherForm]

end RowFilter
