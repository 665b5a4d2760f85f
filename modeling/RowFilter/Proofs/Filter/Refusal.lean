import RowFilter.Proofs.Filter.Reading

/-!
# Why reading a filter fails

Every reader of a part of a filter gives what the part names or fails with the
error of that part.  A list of tokens fails with its first token that is no
value of the kind.
-/

namespace RowFilter

/-! ## Names -/

/-- A token names an operation when its upper case is the name. -/
theorem Operation.ofToken?_eq_some_iff {token : String} {operation : Operation} :
    Operation.ofToken? token = some operation ↔ Text.upper token = operation.name := by
  rw [Operation.ofToken?]
  constructor
  · intro found
    have named := List.find?_some found
    exact (beq_iff_eq.1 named).symm
  · intro named
    have each : ∀ operation ∈ all,
        all.find? (fun other => other.name == operation.name) = some operation := by
      decide
    rw [named]
    exact each operation operation.mem_all

/-- A token names one operation at most. -/
theorem Operation.eq_of_named
    {token : String} {left right : Operation} (leftNamed : Text.upper token = left.name)
    (rightNamed : Text.upper token = right.name) :
    left = right := by
  rw [← ofToken?_eq_some_iff] at leftNamed rightNamed
  exact Option.some.inj (leftNamed.symm.trans rightNamed)

theorem Operation.upper_name (operation : Operation) :
    Text.upper operation.name = operation.name := by
  have each : ∀ operation ∈ all, Text.upper operation.name = operation.name := by decide
  exact each operation operation.mem_all

theorem Kind.upper_name (kind : Kind) : Text.upper kind.name = kind.name := by
  cases kind <;> rfl

/-- A token names a kind when its upper case is the name. -/
theorem Kind.ofToken?_eq_some_iff {token : String} {kind : Kind} :
    Kind.ofToken? token = some kind ↔ Text.upper token = kind.name := by
  rw [Kind.ofToken?]
  constructor
  · intro found
    have named := List.find?_some found
    exact (beq_iff_eq.1 named).symm
  · intro named
    rw [named]
    cases kind <;> rfl

/-- A token names an operation, or it is reported as unknown. -/
theorem described_readOperation (token : String) :
    Described (readOperation token)
      (fun operation => Text.upper token = operation.name)
      (fun error => (∀ operation : Operation, Text.upper token ≠ operation.name) ∧
        error = .unknownOperation token) := by
  refine .of_lookup (Operation.ofToken? token) _ (fun _ => Operation.ofToken?_eq_some_iff) ?_ ?_
  · intro operation found
    rw [readOperation, found]
  · intro absent
    rw [readOperation, absent]

theorem readOperation_eq_ok_iff {token : String} {operation : Operation} :
    readOperation token = .ok operation ↔ Text.upper token = operation.name :=
  (described_readOperation token).eq_ok_iff operation

theorem readOperation_of_unknown
    {token : String} (unknown : ∀ operation : Operation, Text.upper token ≠ operation.name) :
    readOperation token = .error (.unknownOperation token) :=
  ((described_readOperation token).eq_error_iff _).2 ⟨unknown, rfl⟩

/-- The kind that an optional token names in any case: text where there is none. -/
def NamesKind : Option String → Kind → Prop
  | none, kind => kind = .text
  | some token, kind => Text.upper token = kind.name

/-- A token names a kind, or it is reported as unknown; without a token the kind is text. -/
theorem described_readKind (token? : Option String) :
    Described (readKind token?) (NamesKind token?)
      (fun error => ∃ token, token? = some token ∧
        (∀ kind : Kind, Text.upper token ≠ kind.name) ∧ error = .unknownKind token) := by
  cases token? with
  | none =>
      apply Described.of_cases
      · rintro _ rfl
        rfl
      · rintro error ⟨token, absurdity, -⟩
        cases absurdity
      · exact Or.inl ⟨.text, rfl⟩
  | some token =>
      simp only [Option.some.injEq, exists_eq_left']
      refine .of_lookup (Kind.ofToken? token) _ (fun _ => Kind.ofToken?_eq_some_iff) ?_ ?_
      · intro kind found
        rw [readKind, found]
      · intro absent
        rw [readKind, absent]

theorem readKind_eq_ok_iff {token? : Option String} {kind : Kind} :
    readKind token? = .ok kind ↔ NamesKind token? kind :=
  (described_readKind token?).eq_ok_iff kind

theorem readKind_of_unknown
    {token? : Option String} {token : String} (given : token? = some token)
    (unknown : ∀ kind : Kind, Text.upper token ≠ kind.name) :
    readKind token? = .error (.unknownKind token) :=
  ((described_readKind token?).eq_error_iff _).2 ⟨token, given, unknown, rfl⟩

/-! ## Values -/

/-- A token that is no value of the kind. -/
def TokenFault (field : String) (kind : Kind) (token : String) (error : FilterError) : Prop :=
  (∀ item, coerce field token kind ≠ .ok item) ∧ error = .invalidValue field kind token

theorem described_coerce (field : String) (kind : Kind) (token : String) :
    Described (coerce field token kind) (fun item => coerce field token kind = .ok item)
      (TokenFault field kind token) := by
  refine .of_lookup (kind.read? token) _ (fun _ => (coerce_eq_ok_iff field).symm) ?_ ?_
  · intro item read
    rw [coerce, read]
  · intro absent
    rw [coerce, absent]

/-- The values that tokens denote, one for each. -/
def DenoteAll (field : String) (kind : Kind) (tokens : List String) (items : List Value) : Prop :=
  List.Forall₂ (fun token item => coerce field token kind = .ok item) tokens items

/-- The first of the tokens that is no value of the kind. -/
def FirstTokenFault (field : String) (kind : Kind) (tokens : List String)
    (error : FilterError) : Prop :=
  ∃ place, FirstFault (fun token => ∃ item, coerce field token kind = .ok item)
    (TokenFault field kind) tokens place error

/-- Tokens denote items one by one, or the first that denotes none is reported. -/
theorem described_coerceAll (field : String) (kind : Kind) (tokens : List String) :
    Described (coerceAll field kind tokens) (DenoteAll field kind tokens)
      (FirstTokenFault field kind tokens) := by
  rw [coerceAll_eq_mapM]
  exact Described.mapM fun token _ => described_coerce field kind token

/-! ## Filters -/

namespace Condition

variable {condition : Condition} {asked : Test} {item : Value} {items : List Value}

theorem eq_test_iff :
    condition = .test asked item ↔
      condition.operation = .test asked ∧ condition.items = [item] := by
  cases condition <;> simp [operation, Condition.items]

theorem eq_among_iff :
    condition = .among items ↔ condition.operation = .among ∧ condition.items = items := by
  cases condition <;> simp [operation, Condition.items]

/-- A condition is determined by its operation and its items. -/
theorem eq_of_items
    {left right : Condition} (operation_eq : left.operation = right.operation)
    (items_eq : left.items = right.items) :
    left = right := by
  cases right with
  | test asked item => exact eq_test_iff.2 ⟨operation_eq, items_eq⟩
  | among items => exact eq_among_iff.2 ⟨operation_eq, items_eq⟩

end Condition

/-- The tokens of a content: the content itself, or its pieces for a membership. -/
def Operation.tokens : Operation → String → List String
  | .test _, content => [content]
  | .among, content => Text.split valueSeparator content

namespace Filter

/-- A filter with the given field, operation and kind, whose values the tokens denote. -/
structure IsMadeOf (field : String) (operation : Operation) (kind : Kind) (tokens : List String)
    (filter : Filter) : Prop where
  /-- The field. -/
  field_eq : filter.field = field
  /-- The operation. -/
  operation_eq : filter.operation = operation
  /-- The kind. -/
  kind_eq : filter.kind = kind
  /-- The values, in order. -/
  values : DenoteAll field kind tokens filter.items

variable {field : String} {kind : Kind} {tokens : List String} {filter : Filter}

theorem isMadeOf_test_iff {asked : Test} {content : String} :
    IsMadeOf field (.test asked) kind [content] filter ↔
      filter.field = field ∧ filter.kind = kind ∧
        ∃ item, kind.read? content = some item ∧ filter.condition = .test asked item := by
  simp only [Condition.eq_test_iff]
  constructor
  · rintro ⟨field_eq, operation_eq, kind_eq, values⟩
    obtain ⟨item, _, read, ⟨⟩, items_eq⟩ := List.forall₂_cons_left_iff.1 values
    exact ⟨field_eq, kind_eq, item, (coerce_eq_ok_iff field).1 read, operation_eq, items_eq⟩
  · rintro ⟨field_eq, kind_eq, item, read, operation_eq, items_eq⟩
    refine ⟨field_eq, operation_eq, kind_eq, ?_⟩
    rw [items, items_eq]
    exact .cons ((coerce_eq_ok_iff field).2 read) .nil

theorem isMadeOf_among_iff :
    IsMadeOf field .among kind tokens filter ↔
      filter.field = field ∧ filter.kind = kind ∧
        ∃ items, DenoteAll field kind tokens items ∧ filter.condition = .among items := by
  simp only [Condition.eq_among_iff]
  constructor
  · rintro ⟨field_eq, operation_eq, kind_eq, values⟩
    exact ⟨field_eq, kind_eq, filter.items, values, operation_eq, rfl⟩
  · rintro ⟨field_eq, kind_eq, _, values, operation_eq, rfl⟩
    exact ⟨field_eq, operation_eq, kind_eq, values⟩

variable (nonempty : field ≠ "")

theorem described_ofTest (asked : Test) (content : String) :
    Described (ofTest field nonempty asked kind content)
      (IsMadeOf field (.test asked) kind [content]) (FirstTokenFault field kind [content]) := by
  constructor
  · intro filter
    rw [ofTest_eq_ok_iff, isMadeOf_test_iff]
  · intro error
    rw [← (described_coerceAll field kind [content]).eq_error_iff, ofTest, coerceAll, coerceAll]
    split <;> simp [*]

theorem described_ofTokens (tokens : List String) :
    Described (ofTokens field nonempty kind tokens) (IsMadeOf field .among kind tokens)
      (FirstTokenFault field kind tokens) := by
  constructor
  · intro filter
    simp only [ofTokens_eq_ok_iff, isMadeOf_among_iff, DenoteAll, coerce_eq_ok_iff]
  · intro error
    rw [← (described_coerceAll field kind tokens).eq_error_iff, ofTokens]
    split <;> simp [*]

/-- A content is made into a filter token by token, or the first bad token is reported. -/
theorem described_ofContent (operation : Operation) (content : String) :
    Described (ofContent field nonempty operation kind content)
      (IsMadeOf field operation kind (operation.tokens content))
      (FirstTokenFault field kind (operation.tokens content)) := by
  cases operation with
  | test asked => exact described_ofTest nonempty asked content
  | among => exact described_ofTokens nonempty (Text.split valueSeparator content)

/-- A filter whose parts are what its segments name and denote. -/
structure IsNamed (field token content : String) (kindToken : Option String) (filter : Filter) :
    Prop where
  /-- The field is named. -/
  field_eq : filter.field = field
  /-- The operation is named in any case. -/
  operation : Text.upper token = filter.operation.name
  /-- The kind is named in any case, or not at all. -/
  kind : NamesKind kindToken filter.kind
  /-- The values are what the tokens denote, in order. -/
  values : DenoteAll field filter.kind (filter.operation.tokens content) filter.items

/-- The first thing that is wrong with the segments of a filter. -/
inductive SegmentFault (field token content : String) (kindToken : Option String) :
    FilterError → Prop
  /-- The field is empty. -/
  | unnamed (empty : field = "") :
      SegmentFault field token content kindToken
        (.malformed (joinSegments [field, token, content]) emptyField)
  /-- No operation has the name. -/
  | operation (named : field ≠ "")
      (unknown : ∀ operation : Operation, Text.upper token ≠ operation.name) :
      SegmentFault field token content kindToken (.unknownOperation token)
  /-- No kind has the name. -/
  | kind (named : field ≠ "")
      {operation : Operation} (operationNamed : Text.upper token = operation.name)
      {name : String} (given : kindToken = some name)
      (unknown : ∀ kind : Kind, Text.upper name ≠ kind.name) :
      SegmentFault field token content kindToken (.unknownKind name)
  /-- A token is no value. -/
  | value (named : field ≠ "")
      {operation : Operation} (operationNamed : Text.upper token = operation.name)
      {kind : Kind} (kindNamed : NamesKind kindToken kind)
      {error : FilterError} (fault : FirstTokenFault field kind (operation.tokens content) error) :
      SegmentFault field token content kindToken error

/-- What is left to fail once the field, the operation and the kind are named. -/
theorem ofSegments_of_named
    {token : String} {operation : Operation} (operationNamed : Text.upper token = operation.name)
    {kindToken : Option String} (kindNamed : NamesKind kindToken kind) (content : String) :
    ofSegments field token content kindToken =
      ofContent field nonempty operation kind content := by
  rw [ofSegments, dif_neg nonempty, readOperation_eq_ok_iff.2 operationNamed]
  simp only [readKind_eq_ok_iff.2 kindNamed]

/-- Segments with a fault are refused with it. -/
theorem ofSegments_of_fault
    {token content : String} {kindToken : Option String} {error : FilterError}
    (fault : SegmentFault field token content kindToken error) :
    ofSegments field token content kindToken = .error error := by
  cases fault with
  | unnamed empty => exact dif_pos empty
  | operation named unknown =>
      rw [ofSegments, dif_neg named,
        readOperation_of_unknown unknown]
  | kind named operationNamed given unknown =>
      rw [ofSegments, dif_neg named,
        readOperation_eq_ok_iff.2 operationNamed]
      simp only [readKind_of_unknown given unknown]
  | value named operationNamed kindNamed fault =>
      rw [ofSegments_of_named named operationNamed kindNamed]
      exact ((described_ofContent named _ content).eq_error_iff _).2 fault

/-- Segments make up a filter, or have a first fault. -/
theorem described_ofSegments (field token content : String) (kindToken : Option String) :
    Described (ofSegments field token content kindToken)
      (IsNamed field token content kindToken) (SegmentFault field token content kindToken) := by
  apply Described.of_cases
  · rintro filter ⟨rfl, operationNamed, kindNamed, values⟩
    rw [ofSegments_of_named filter.field_ne_empty operationNamed kindNamed]
    exact ((described_ofContent _ _ content).eq_ok_iff filter).2 ⟨rfl, rfl, rfl, values⟩
  · exact fun _ => ofSegments_of_fault
  · by_cases named : field = ""
    · exact Or.inr ⟨_, .unnamed named⟩
    rcases (described_readOperation token).gives_or_fails with
      ⟨operation, operationNamed⟩ | ⟨_, unknown, rfl⟩
    · rcases (described_readKind kindToken).gives_or_fails with
        ⟨kind, kindNamed⟩ | ⟨_, _, given, unknown, rfl⟩
      · rcases (@described_ofContent field kind named operation content).gives_or_fails with
          ⟨filter, rfl, rfl, rfl, values⟩ | ⟨error, fault⟩
        · exact Or.inl ⟨filter, rfl, operationNamed, kindNamed, values⟩
        · exact Or.inr ⟨error, .value named operationNamed kindNamed fault⟩
      · exact Or.inr ⟨_, .kind named operationNamed given unknown⟩
    · exact Or.inr ⟨_, .operation named unknown⟩

end Filter
end RowFilter
