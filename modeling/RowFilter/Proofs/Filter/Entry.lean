import RowFilter.Filter.Entry
import RowFilter.Proofs.Filter.Construction
import RowFilter.Proofs.Filter.Grammar

/-!
# Filters from their parts

A filter is made from a field, an operation, a raw value and a kind.  The raw
value has tokens, and the filter has an item for each of them, which the token
denotes under the kind.  So every filter that is made is well formed, and the
parts into which it has been read always build it.
-/

namespace RowFilter

/-- The tokens of a raw value under an operation. -/
inductive HasTokens : Operation → Datum → List String → Prop
  /-- A text is a content. -/
  | content {operation : Operation} {content : String} {tokens : List String}
      (areTokens : AreTokens operation content tokens) :
      HasTokens operation (.text content) tokens
  /-- The members of a list stand for themselves. -/
  | members (members : List Datum) : HasTokens .among (.list members) (members.map Datum.plain)
  /-- The members of a set stand for themselves. -/
  | set (members : List Datum) : HasTokens .among (.set members) (members.map Datum.plain)
  /-- A pair has two members. -/
  | pair (first second : Datum) : HasTokens .among (.pair first second) [first.plain, second.plain]
  /-- Octets are taken by their numbers. -/
  | octets (content : List UInt8) :
      HasTokens .among (.octets content) (content.map fun octet => Text.intText octet.toNat)
  /-- A mapping is taken by its keys. -/
  | keys (entries : List (Datum × Datum)) :
      HasTokens .among (.map entries) (entries.map fun entry => entry.1.plain)

/-- A text has tokens under every operation. -/
theorem exists_hasTokens_of_text (operation : Operation) (content : String) :
    ∃ tokens, HasTokens operation (.text content) tokens :=
  ⟨_, .content (areTokens_iff.2 rfl)⟩

/-- What holds members has their texts as tokens. -/
theorem hasTokens_of_members
    {value : Datum} {members : List Datum} (found : value.members? = some members) :
    HasTokens .among value (members.map Datum.plain) := by
  cases value with
  | list members => cases found; exact .members members
  | set members => cases found; exact .set members
  | pair first second => cases found; exact .pair first second
  | octets content =>
      cases found
      rw [List.map_map]
      exact .octets content
  | map entries =>
      cases found
      rw [List.map_map]
      exact .keys entries
  | _ => cases found

/-- Tokens are those of a text, or the texts of the members of a membership. -/
theorem HasTokens.text_or_members
    {operation : Operation} {value : Datum} {tokens : List String}
    (hasTokens : HasTokens operation value tokens) :
    (∃ content, value = .text content ∧ AreTokens operation content tokens) ∨
      operation = .among ∧
        ∃ members, value.members? = some members ∧ tokens = members.map Datum.plain := by
  cases hasTokens with
  | content areTokens => exact Or.inl ⟨_, rfl, areTokens⟩
  | members members => exact Or.inr ⟨rfl, _, rfl, rfl⟩
  | set members => exact Or.inr ⟨rfl, _, rfl, rfl⟩
  | pair first second => exact Or.inr ⟨rfl, _, rfl, rfl⟩
  | octets content =>
      refine Or.inr ⟨rfl, _, rfl, ?_⟩
      rw [List.map_map]
      rfl
  | keys entries =>
      refine Or.inr ⟨rfl, _, rfl, ?_⟩
      rw [List.map_map]
      rfl

/-- A pair has the tokens of the list of its two values. -/
theorem HasTokens.of_listed
    {operation : Operation} {value : Datum} {tokens : List String}
    (hasTokens : HasTokens operation value.listed tokens) :
    HasTokens operation value tokens := by
  cases value with
  | pair first second =>
      cases hasTokens with
      | members => exact .pair first second
  | _ => exact hasTokens

/-- The datum that stands for a token, if there is one. -/
def Datum.ofToken? : Option String → Datum
  | none => .null
  | some token => .text token

@[simp] theorem Datum.kindToken_ofToken? (token? : Option String) :
    (ofToken? token?).kindToken = token? := by
  cases token? <;> rfl

/-- Lifting keeps what has been read. -/
theorem liftFilter_eq_ok_iff {α : Type} {read : Except FilterError α} {result : α} :
    liftFilter read = .ok result ↔ read = .ok result := by
  cases read <;> simp [liftFilter]

/-- A lifted reading gives the same, and fails with the lifted errors. -/
theorem described_liftFilter
    {α : Type} {read : Except FilterError α} {gives : α → Prop} {fails : FilterError → Prop}
    (described : Described read gives fails) :
    Described (liftFilter read) gives
      (fun error => ∃ fault, fails fault ∧ error = .filter fault) := by
  apply Described.of_cases
  · intro result given
    rw [(described.eq_ok_iff result).2 given, liftFilter]
  · rintro _ ⟨fault, fails, rfl⟩
    rw [(described.eq_error_iff fault).2 fails, liftFilter]
  · rcases described.gives_or_fails with given | ⟨fault, fails⟩
    · exact Or.inl given
    · exact Or.inr ⟨_, fault, fails, rfl⟩

namespace Filter

/-- The first thing that is wrong with the parts of a filter. -/
inductive EntryFault (field : String) (operation value kind : Datum) : EntryError → Prop
  /-- The field is empty. -/
  | unnamed (empty : field = "") :
      EntryFault field operation value kind
        (.filter (.malformed (joinSegments [field, operation.plain, value.plain]) emptyField))
  /-- No operation has the name. -/
  | operation (named : field ≠ "")
      (unknown : ∀ asked : Operation, Text.upper operation.plain ≠ asked.name) :
      EntryFault field operation value kind (.filter (.unknownOperation operation.plain))
  /-- No kind has the name. -/
  | kind (named : field ≠ "")
      {asked : Operation} (operationNamed : Text.upper operation.plain = asked.name)
      {token : String} (given : kind.kindToken = some token)
      (unknown : ∀ declared : Kind, Text.upper token ≠ declared.name) :
      EntryFault field operation value kind (.filter (.unknownKind token))
  /-- A test takes a text. -/
  | shape (named : field ≠ "")
      {asked : Test} (operationNamed : Text.upper operation.plain = (Operation.test asked).name)
      {declared : Kind} (kindNamed : NamesKind kind.kindToken declared)
      (notText : ∀ content, value ≠ .text content) :
      EntryFault field operation value kind
        (.filter (.malformed
          (joinSegments [field, (Operation.test asked).name, value.quoted])
          ((Operation.test asked).name ++ " takes a single value")))
  /-- A membership takes what has tokens. -/
  | sequence (named : field ≠ "")
      (operationNamed : Text.upper operation.plain = Operation.among.name)
      {declared : Kind} (kindNamed : NamesKind kind.kindToken declared)
      (none : ∀ tokens, ¬HasTokens .among value tokens) :
      EntryFault field operation value kind .notSequence
  /-- A token is no value of the kind, and all tokens before it are. -/
  | value (named : field ≠ "")
      {asked : Operation} (operationNamed : Text.upper operation.plain = asked.name)
      {declared : Kind} (kindNamed : NamesKind kind.kindToken declared)
      {tokens : List String} (hasTokens : HasTokens asked value tokens)
      {fault : FilterError} (first : FirstTokenFault field declared tokens fault) :
      EntryFault field operation value kind (.filter fault)

/-- A filter whose parts are what the given ones name and denote. -/
structure IsNamedBy (field : String) (operation value kind : Datum) (filter : Filter) : Prop where
  /-- The field is the given one. -/
  field_eq : filter.field = field
  /-- The operation is named in any case. -/
  operation : Text.upper operation.plain = filter.operation.name
  /-- The kind is named in any case, or not at all. -/
  kind : NamesKind kind.kindToken filter.kind
  /-- The items are what the tokens denote, in order. -/
  values : ∃ tokens, HasTokens filter.operation value tokens ∧
    DenoteAll field filter.kind tokens filter.items

variable {field : String} {operation value kind : Datum}

/-- A text as the value is read as the content of a filter. -/
theorem ofEntry_text (field : String) (operation : Datum) (content : String) (kind : Datum) :
    ofEntry (.text field) operation (.text content) kind =
      liftFilter (ofSegments field operation.plain content kind.kindToken) := by
  rw [ofEntry, ofSegments, Datum.operationToken]
  by_cases named : field = ""
  · simp [named, Datum.isTruthy, Datum.plain, liftFilter]
  · simp only [named, Datum.isTruthy, ne_eq, not_false_eq_true, decide_true, Bool.not_true,
      Bool.false_eq_true, if_false, dite_false]
    cases readOperation operation.plain with
    | error error => rfl
    | ok asked =>
        cases readKind kind.kindToken with
        | error error => rfl
        | ok declared => cases asked <;> rfl

/-- The members of the value are the tokens of a membership. -/
theorem ofEntry_of_members
    (named : field ≠ "") (operationRead : readOperation operation.plain = .ok .among)
    {declared : Kind} (kindRead : readKind kind.kindToken = .ok declared)
    {members : List Datum} (found : value.members? = some members) :
    ofEntry (.text field) operation value kind =
      liftFilter (ofTokens field named declared (members.map Datum.plain)) := by
  cases value <;> cases found <;>
    simp [ofEntry, Datum.isTruthy, Datum.operationToken, Datum.members?, operationRead, kindRead,
      named]

section named

variable (named : field ≠ "")
variable {asked : Operation} (operationNamed : Text.upper operation.plain = asked.name)
variable {declared : Kind} (kindNamed : NamesKind kind.kindToken declared)

include named operationNamed kindNamed

/-- Once the field, the operation and the kind are named, the tokens make the filter. -/
theorem described_ofEntry_of_named
    {tokens : List String} (hasTokens : HasTokens asked value tokens) :
    Described (ofEntry (.text field) operation value kind) (IsMadeOf field asked declared tokens)
      (fun error => ∃ fault, FirstTokenFault field declared tokens fault ∧
        error = .filter fault) := by
  have operationRead := readOperation_eq_ok_iff.2 operationNamed
  have kindRead := readKind_eq_ok_iff.2 kindNamed
  rcases hasTokens.text_or_members with ⟨content, rfl, areTokens⟩ | ⟨rfl, members, found, rfl⟩
  · rw [ofEntry_text, ofSegments_of_named named operationNamed kindNamed,
      ← areTokens_iff.1 areTokens]
    exact described_liftFilter (described_ofContent named asked _)
  · rw [ofEntry_of_members named operationRead kindRead found]
    exact described_liftFilter (described_ofTokens named _)

end named

/-- Parts with a fault are refused with it. -/
theorem ofEntry_of_fault
    {error : EntryError} (fault : EntryFault field operation value kind error) :
    ofEntry (.text field) operation value kind = .error error := by
  have truthy (named : field ≠ "") : (Datum.text field).isTruthy = true := by
    simpa [Datum.isTruthy] using named
  cases fault with
  | unnamed empty =>
      cases empty
      rfl
  | operation named unknown =>
      have operationRead := readOperation_of_unknown unknown
      simp [ofEntry, truthy named, Datum.operationToken, operationRead]
  | kind named operationNamed given unknown =>
      have operationRead := readOperation_eq_ok_iff.2 operationNamed
      have kindRead := readKind_of_unknown given unknown
      simp [ofEntry, truthy named, Datum.operationToken, operationRead, kindRead]
  | shape named operationNamed kindNamed notText =>
      have operationRead := readOperation_eq_ok_iff.2 operationNamed
      have kindRead := readKind_eq_ok_iff.2 kindNamed
      cases value with
      | text content => exact absurd rfl (notText content)
      | _ =>
          simp only [ofEntry, truthy named, Datum.operationToken, operationRead, kindRead]
          rfl
  | sequence named operationNamed kindNamed none =>
      have operationRead := readOperation_eq_ok_iff.2 operationNamed
      have kindRead := readKind_eq_ok_iff.2 kindNamed
      have memberless : value.members? = Option.none := by
        cases found : value.members? with
        | none => rfl
        | some members => exact absurd (hasTokens_of_members found) (none _)
      cases value with
      | text content =>
          obtain ⟨tokens, hasTokens⟩ := exists_hasTokens_of_text .among content
          exact absurd hasTokens (none tokens)
      | _ =>
          simp [ofEntry, truthy named, Datum.operationToken, operationRead, kindRead, memberless]
  | value named operationNamed kindNamed hasTokens first =>
      have described := described_ofEntry_of_named named operationNamed kindNamed hasTokens
      exact (described.eq_error_iff _).2 ⟨_, first, rfl⟩

/-- Parts with a text as the field make a filter, or have a first fault. -/
theorem described_ofEntry (field : String) (operation value kind : Datum) :
    Described (ofEntry (.text field) operation value kind)
      (IsNamedBy field operation value kind) (EntryFault field operation value kind) := by
  apply Described.of_cases
  · rintro filter ⟨rfl, operationNamed, kindNamed, tokens, hasTokens, values⟩
    have described :=
      described_ofEntry_of_named filter.field_ne_empty operationNamed kindNamed hasTokens
    exact (described.eq_ok_iff filter).2 ⟨rfl, rfl, rfl, values⟩
  · exact fun _ => ofEntry_of_fault
  · by_cases named : field = ""
    · exact Or.inr ⟨_, .unnamed named⟩
    rcases (described_readOperation operation.plain).gives_or_fails with
      ⟨asked, operationNamed⟩ | ⟨_, unknown, rfl⟩
    · rcases (described_readKind kind.kindToken).gives_or_fails with
        ⟨declared, kindNamed⟩ | ⟨_, _, given, unknown, rfl⟩
      · by_cases taken : ∃ tokens, HasTokens asked value tokens
        · obtain ⟨tokens, hasTokens⟩ := taken
          rcases (described_ofEntry_of_named named operationNamed kindNamed hasTokens).gives_or_fails
            with ⟨filter, rfl, rfl, rfl, values⟩ | ⟨_, fault, first, rfl⟩
          · exact Or.inl ⟨filter, rfl, operationNamed, kindNamed, tokens, hasTokens, values⟩
          · exact Or.inr ⟨_, .value named operationNamed kindNamed hasTokens first⟩
        · cases asked with
          | test asked =>
              refine Or.inr ⟨_, .shape named operationNamed kindNamed ?_⟩
              rintro content rfl
              exact taken (exists_hasTokens_of_text _ content)
          | among =>
              exact Or.inr ⟨_, .sequence named operationNamed kindNamed (not_exists.1 taken)⟩
      · exact Or.inr ⟨_, .kind named operationNamed given unknown⟩
    · exact Or.inr ⟨_, .operation named unknown⟩

/-! ## Filters that are made are well formed -/

/-- A filter with an item for each token, of the shape of its operation and of its kind. -/
structure IsWellFormed (filter : Filter) (tokens : List String) : Prop where
  /-- There are many items for a membership and a single one else, each as it is specified. -/
  shape : filter.operand.Holds filter.kind.Specifies filter.operation filter.items
  /-- Each token denotes the item at its place. -/
  items : DenoteAll filter.field filter.kind tokens filter.items
  /-- Decimals are numbers. -/
  finite : ∀ number, .decimal number ∈ filter.items → number.isFinite = true

/-- A filter that is named by the given parts and well formed. -/
structure IsEntered (field : String) (operation value kind : Datum) (filter : Filter) : Prop where
  /-- The field has a name. -/
  named : field ≠ ""
  /-- The field is the given one. -/
  field_eq : filter.field = field
  /-- The operation is named in any case. -/
  operation : Text.upper operation.plain = filter.operation.name
  /-- The kind is named in any case, or not at all. -/
  kind : NamesKind kind.kindToken filter.kind
  /-- There is an item for each of the tokens. -/
  values : ∃ tokens, HasTokens filter.operation value tokens ∧ filter.IsWellFormed tokens

variable {filter : Filter}

/-- A filter whose items the tokens denote is well formed. -/
theorem isWellFormed_of_denoteAll
    {tokens : List String} (values : DenoteAll filter.field filter.kind tokens filter.items) :
    filter.IsWellFormed tokens := by
  have readable : ∀ item ∈ filter.items, item.IsReadable :=
    forall_mem_of_forall₂ values fun _ _ coerced =>
      Kind.isReadable_of_read? ((coerce_eq_ok_iff _).1 coerced)
  refine ⟨holds_iff.2 ⟨rfl, fun item member => ?_⟩, values, fun number => readable _⟩
  refine Kind.specifies_iff.2 ⟨filter.kind_of_mem item member, ?_⟩
  rintro number rfl
  exact readable _ member

/-- The filters that parts make are those that are named by them and well formed. -/
theorem ofEntry_eq_ok_iff :
    ofEntry (.text field) operation value kind = .ok filter ↔
      filter.IsEntered field operation value kind := by
  rw [(described_ofEntry field operation value kind).eq_ok_iff]
  constructor
  · rintro ⟨rfl, operationNamed, kindNamed, tokens, hasTokens, values⟩
    exact ⟨filter.field_ne_empty, rfl, operationNamed, kindNamed, tokens, hasTokens,
      isWellFormed_of_denoteAll values⟩
  · rintro ⟨-, rfl, operationNamed, kindNamed, tokens, hasTokens, -, values, -⟩
    exact ⟨rfl, operationNamed, kindNamed, tokens, hasTokens, values⟩

/-- What is made from a list of two is made from the pair as well. -/
theorem IsEntered.of_listed
    (entered : filter.IsEntered field operation value.listed kind) :
    filter.IsEntered field operation value kind := by
  obtain ⟨tokens, hasTokens, wellFormed⟩ := entered.values
  exact { entered with values := ⟨tokens, hasTokens.of_listed, wellFormed⟩ }

/-- The parts of a text are its segments. -/
theorem liftFilter_parse_eq
    {raw field token content : String} {kindToken : Option String}
    (form : HasForm (stripped raw) field token content kindToken) :
    liftFilter (parse raw) =
      ofEntry (.text field) (.text token) (.text content) (Datum.ofToken? kindToken) := by
  rw [parse_of_hasForm form, ofEntry_text, Datum.kindToken_ofToken?]
  rfl

/-- A text that is read has the form of a filter. -/
theorem exists_hasForm_of_parse {raw : String} (parsed : parse raw = .ok filter) :
    ∃ field token content kindToken, HasForm (stripped raw) field token content kindToken := by
  by_contra formless
  rw [← not_count_lt_two_iff, not_not] at formless
  rw [parse_of_count_lt_two formless] at parsed
  cases parsed

/-- The parts of a record are its entries. -/
theorem ofEntry_of_ofRecord {record : Datum} (made : ofRecord record = .ok filter) :
    ofEntry ((record.get? "field").getD .null) ((record.get? "operation").getD .null)
      ((record.get? "value").getD (.text "")).listed ((record.get? "type").getD .null) =
        .ok filter := by
  rw [ofRecord] at made
  split at made
  · cases made
  · exact made

/-- Once all tokens denote something, a filter is built from what they denote, and it is made. -/
theorem exists_built_of_coerceAll
    (named : field ≠ "")
    {asked : Operation} (operationNamed : Text.upper operation.plain = asked.name)
    {declared : Kind} (kindNamed : NamesKind kind.kindToken declared)
    {tokens : List String} (hasTokens : HasTokens asked value tokens)
    {items : List Value} (coerced : coerceAll field declared tokens = .ok items) :
    ∃ operand filter,
      operand.Holds declared.Specifies asked items ∧
      ofOperand (.text field) (.text asked.name) operand (.text declared.name) = .ok filter ∧
      ofEntry (.text field) operation value kind = .ok filter := by
  have described := described_ofEntry_of_named named operationNamed kindNamed hasTokens
  have tokensDescribed := described_coerceAll field declared tokens
  rcases described.gives_or_fails with ⟨filter, made⟩ | ⟨_, fault, first, -⟩
  · obtain ⟨rfl, rfl, rfl, values⟩ := made
    obtain rfl : filter.items = items :=
      Except.ok.inj (((tokensDescribed.eq_ok_iff _).2 values).symm.trans coerced)
    exact ⟨filter.operand, filter, (isWellFormed_of_denoteAll values).shape,
      filter.ofOperand_operand named, (described.eq_ok_iff filter).2 ⟨rfl, rfl, rfl, values⟩⟩
  · rw [(tokensDescribed.eq_error_iff fault).2 first] at coerced
    cases coerced

/--
What is made from parts, from a text or from a record has an item for each
token, in the shape of the operation and of the kind, integers within the limits
and decimals that are numbers.  Parts whose tokens all denote something always
make a filter, the one that is built from what they denote.
-/
theorem entered_isWellFormed :
    (∀ field operation value kind filter,
      ofEntry (.text field) operation value kind = .ok filter ↔
        filter.IsEntered field operation value kind) ∧
    (∀ raw filter, parse raw = .ok filter →
      ∃ field token content kindToken,
        HasForm (stripped raw) field token content kindToken ∧
        filter.IsEntered field (.text token) (.text content) (Datum.ofToken? kindToken)) ∧
    (∀ record field filter, record.get? "field" = some (.text field) →
      ofRecord record = .ok filter →
      filter.IsEntered field ((record.get? "operation").getD .null)
        ((record.get? "value").getD (.text "")) ((record.get? "type").getD .null)) ∧
    ∀ field operation value kind asked declared tokens items,
      field ≠ "" → Text.upper operation.plain = asked.name → NamesKind kind.kindToken declared →
      HasTokens asked value tokens → coerceAll field declared tokens = .ok items →
      ∃ operand filter,
        operand.Holds declared.Specifies asked items ∧
        ofOperand (.text field) (.text asked.name) operand (.text declared.name) = .ok filter ∧
        ofEntry (.text field) operation value kind = .ok filter := by
  refine ⟨fun _ _ _ _ _ => ofEntry_eq_ok_iff, ?_, ?_, ?_⟩
  · intro raw filter parsed
    obtain ⟨field, token, content, kindToken, form⟩ := exists_hasForm_of_parse parsed
    refine ⟨field, token, content, kindToken, form, ofEntry_eq_ok_iff.1 ?_⟩
    rw [← liftFilter_parse_eq form, liftFilter_eq_ok_iff, parsed]
  · intro record field filter given made
    have entered := ofEntry_of_ofRecord made
    rw [given] at entered
    exact (ofEntry_eq_ok_iff.1 entered).of_listed
  · intro field operation value kind asked declared tokens items named operationNamed kindNamed
      hasTokens coerced
    exact exists_built_of_coerceAll named operationNamed kindNamed hasTokens coerced

/-- A number and a text are the members of a filter of two integers. -/
theorem entered_isWellFormed_members :
    "age" ≠ "" ∧ Text.upper (Datum.text "in").plain = Operation.among.name ∧
    NamesKind (Datum.text "Int").kindToken .int ∧
    HasTokens .among (.list [.int 7, .text "-08"]) ["7", "-08"] ∧
    coerceAll "age" .int ["7", "-08"] = .ok [.int 7, .int (-8)] ∧
    ∃ operand filter,
      operand.Holds Kind.int.Specifies .among [.int 7, .int (-8)] ∧
      ofOperand (.text "age") (.text "IN") operand (.text "INT") = .ok filter ∧
      ofEntry (.text "age") (.text "in") (.list [.int 7, .text "-08"]) (.text "Int") =
        .ok filter := by
  have named : "age" ≠ "" := by decide
  have operationNamed : Text.upper (Datum.text "in").plain = Operation.among.name := by decide
  have kindNamed : NamesKind (Datum.text "Int").kindToken .int := by
    change Text.upper "Int" = Kind.int.name
    decide
  have hasTokens : HasTokens .among (.list [.int 7, .text "-08"]) ["7", "-08"] :=
    .members [.int 7, .text "-08"]
  have coerced : coerceAll "age" .int ["7", "-08"] = .ok [.int 7, .int (-8)] := rfl
  exact ⟨named, operationNamed, kindNamed, hasTokens, coerced,
    entered_isWellFormed.2.2.2 "age" (.text "in") (.list [.int 7, .text "-08"]) (.text "Int")
      .among .int ["7", "-08"] [.int 7, .int (-8)] named operationNamed kindNamed hasTokens coerced⟩

end Filter
end RowFilter
