import RowFilter.Proofs.Filter.Entry

/-!
# Raw values as text and as parts

A raw value is a text or, for a membership, several texts.  The text of a filter
that is written from raw parts is read as the filter that is made of these
parts, or both fail alike.  Texts joined with the separator of values come to
the same as the texts one by one.
-/

namespace RowFilter

/-- A value before it is read: one text, or one for each member. -/
inductive RawValue where
  /-- One text. -/
  | text (content : String)
  /-- A text for each member. -/
  | texts (contents : List String)

namespace RawValue

/-- A raw value as it is offered for writing. -/
def operand : RawValue → Operand
  | text content => .item (.text content)
  | texts contents => .list (contents.map fun content => .item (.text content))

/-- A raw value as plain data. -/
def datum : RawValue → Datum
  | text content => .text content
  | texts contents => .list (contents.map .text)

/-- A raw value in one text. -/
def content : RawValue → String
  | text content => content
  | texts contents => Text.join valueSeparator contents

/-- The raw values that the token of an operation goes with, without separators in them. -/
inductive Suits (token : String) : RawValue → Prop
  /-- Any operation takes a text. -/
  | text {content : String} (free : segmentSeparator ∉ content.toList) :
      Suits token (.text content)
  /-- A membership takes at least one text. -/
  | texts (among : Text.upper token = Operation.among.name)
      {contents : List String} (nonempty : contents ≠ [])
      (free : ∀ text ∈ contents, segmentSeparator ∉ text.toList ∧ valueSeparator ∉ text.toList) :
      Suits token (.texts contents)

variable {token : String} {raw : RawValue}

/-- No separator of segments comes into the one text. -/
theorem Suits.segmentSeparator_notMem (suits : raw.Suits token) :
    segmentSeparator ∉ raw.content.toList := by
  cases suits with
  | text free => exact free
  | texts among nonempty free =>
      intro separator
      rcases Text.mem_join separator with same | ⟨text, member, here⟩
      · exact absurd same (by decide)
      · exact (free text member).1 here

/-- The one text has the same tokens as the raw value. -/
theorem Suits.exists_hasTokens
    (suits : raw.Suits token) {asked : Operation} (operationNamed : Text.upper token = asked.name) :
    ∃ tokens, HasTokens asked raw.datum tokens ∧ HasTokens asked (.text raw.content) tokens := by
  cases suits with
  | text free =>
      obtain ⟨tokens, hasTokens⟩ := exists_hasTokens_of_text asked _
      exact ⟨tokens, hasTokens, hasTokens⟩
  | @texts among contents nonempty free =>
      obtain rfl := Operation.eq_of_named among operationNamed
      have members := HasTokens.members (contents.map .text)
      rw [List.map_map, List.map_id''] at members
      · exact ⟨contents, members,
          .content (.among ⟨nonempty, fun text member => (free text member).2, rfl⟩)⟩
      · exact fun _ => rfl

/-! ## Writing -/

/-- A text stands for itself under every kind. -/
theorem segmentAll_texts (kind : Kind) (contents : List String) :
    Operand.segmentAll kind (contents.map fun content => .item (.text content)) = .ok contents := by
  induction contents with
  | nil => rfl
  | cons content contents inductionHypothesis =>
      rw [List.map_cons, Operand.segmentAll, inductionHypothesis]
      rfl

section written

variable {asked : Operation} (operationNamed : Text.upper token = asked.name)
variable {kindToken : Option String} {declared : Kind} (kindNamed : NamesKind kindToken declared)

include operationNamed kindNamed

/-- Raw parts are written as they are, with the canonical names of the operation and the kind. -/
theorem Suits.encodeOperand_eq (suits : raw.Suits token) (field : String) :
    encodeOperand field token raw.operand kindToken =
      .ok (joinSegments [field, asked.name, raw.content, declared.name]) := by
  have operationRead := readOperation_eq_ok_iff.2 operationNamed
  have kindRead := readKind_eq_ok_iff.2 kindNamed
  cases suits with
  | text free =>
      simp only [encodeOperand, operationRead, kindRead, operand]
      cases asked <;> rfl
  | @texts among contents nonempty free =>
      obtain rfl := Operation.eq_of_named among operationNamed
      simp only [encodeOperand, operationRead, kindRead, operand, segmentAll_texts]
      rfl

/-- The text that is written from raw parts is read as the filter of these parts. -/
theorem Suits.parse_joinSegments_eq
    (suits : raw.Suits token) {field : String} (named : field ≠ "")
    (free : segmentSeparator ∉ field.toList) :
    parse (joinSegments [field, asked.name, raw.content, declared.name]) =
      Filter.ofSegments field token raw.content kindToken := by
  have partsFree : ∀ part ∈ [field, asked.name, raw.content, declared.name],
      segmentSeparator ∉ part.toList := by
    simp only [List.forall_mem_cons]
    exact ⟨free, Filter.segmentSeparator_notMem_operation_name _, suits.segmentSeparator_notMem,
      Filter.segmentSeparator_notMem_kind_name _, by simp⟩
  have kindCanonical : NamesKind (some declared.name) declared := declared.upper_name
  calc
    parse (joinSegments [field, asked.name, raw.content, declared.name]) =
        Filter.ofSegments field asked.name raw.content (some declared.name) := by
      rw [parse, Filter.segments_joinSegments (Filter.kind_name_ne_empty declared) partsFree]
      rfl
    _ = Filter.ofContent field named asked declared raw.content :=
      Filter.ofSegments_of_named named asked.upper_name kindCanonical _
    _ = Filter.ofSegments field token raw.content kindToken :=
      (Filter.ofSegments_of_named named operationNamed kindNamed _).symm

end written

/-! ## Writing and reading -/

/-- What is read from the text that is written from raw parts. -/
def readWritten (field token : String) (raw : RawValue) (kindToken : Option String) :
    Except EntryError Filter :=
  match encodeOperand field token raw.operand kindToken with
  | .error error => .error error
  | .ok written => liftFilter (parse written)

section named

variable {field : String} (named : field ≠ "")

include named

/-- What is written is read as its parts are, and what cannot be written has the same fault. -/
theorem Suits.readWritten_eq
    (suits : raw.Suits token) (free : segmentSeparator ∉ field.toList)
    (kindToken : Option String) :
    readWritten field token raw kindToken =
      liftFilter (Filter.ofSegments field token raw.content kindToken) := by
  rw [readWritten]
  rcases (described_readOperation token).gives_or_fails with
    ⟨asked, operationNamed⟩ | ⟨_, unknown, rfl⟩
  · rcases (described_readKind kindToken).gives_or_fails with
      ⟨declared, kindNamed⟩ | ⟨_, name, given, unknown, rfl⟩
    · rw [suits.encodeOperand_eq operationNamed kindNamed]
      exact congrArg liftFilter
        (suits.parse_joinSegments_eq operationNamed kindNamed named free)
    · have operationRead := readOperation_eq_ok_iff.2 operationNamed
      have kindRead := readKind_of_unknown given unknown
      rw [Filter.ofSegments_of_fault (.kind named operationNamed given unknown), encodeOperand,
        operationRead]
      simp only [kindRead]
      rfl
  · have operationRead := readOperation_of_unknown unknown
    rw [Filter.ofSegments_of_fault (.operation named unknown), encodeOperand, operationRead]
    rfl

/-- Texts one by one come to the same as the texts joined. -/
theorem Suits.ofEntry_datum_eq (suits : raw.Suits token) (kind : Datum) :
    Filter.ofEntry (.text field) (.text token) raw.datum kind =
      Filter.ofEntry (.text field) (.text token) (.text raw.content) kind := by
  have shown : (Datum.text token).plain = token := rfl
  rcases (described_readOperation token).gives_or_fails with
    ⟨asked, operationNamed⟩ | ⟨_, unknown, rfl⟩
  · obtain ⟨tokens, hasTokens, hasTokens'⟩ := suits.exists_hasTokens operationNamed
    rw [← shown] at operationNamed
    rcases (described_readKind kind.kindToken).gives_or_fails with
      ⟨declared, kindNamed⟩ | ⟨_, name, given, unknown, rfl⟩
    · exact (Filter.described_ofEntry_of_named named operationNamed kindNamed hasTokens).read_eq
        (Filter.described_ofEntry_of_named named operationNamed kindNamed hasTokens')
    · rw [Filter.ofEntry_of_fault (.kind named operationNamed given unknown),
        Filter.ofEntry_of_fault (.kind named operationNamed given unknown)]
  · rw [← shown] at unknown
    rw [Filter.ofEntry_of_fault (.operation named unknown),
      Filter.ofEntry_of_fault (.operation named unknown)]

/--
Writing raw parts and reading the text gives the same filter as the parts
themselves, or fails in the same way, also when the members of a membership are
given one by one.  Both are the filter that the parts name and denote, or the
first fault of the parts.
-/
theorem readWritten_eq_ofEntry
    (free : segmentSeparator ∉ field.toList) (suits : raw.Suits token)
    (kindToken : Option String) :
    readWritten field token raw kindToken =
      Filter.ofEntry (.text field) (.text token) raw.datum (Datum.ofToken? kindToken) ∧
    Filter.ofEntry (.text field) (.text token) raw.datum (Datum.ofToken? kindToken) =
      Filter.ofEntry (.text field) (.text token) (.text raw.content) (Datum.ofToken? kindToken) ∧
    Described (readWritten field token raw kindToken)
      (Filter.IsNamed field token raw.content kindToken)
      (fun error => ∃ fault, Filter.SegmentFault field token raw.content kindToken fault ∧
        error = .filter fault) := by
  have joined := suits.ofEntry_datum_eq named (Datum.ofToken? kindToken)
  have written := suits.readWritten_eq named free kindToken
  refine ⟨?_, joined, ?_⟩
  · rw [written, joined, Filter.ofEntry_text, Datum.kindToken_ofToken?]
    rfl
  · rw [written]
    exact described_liftFilter (Filter.described_ofSegments field token raw.content kindToken)

end named

/-- Three members, of which the second is no integer, fail in the same way in one text. -/
theorem readWritten_eq_ofEntry_members :
    "age" ≠ "" ∧ segmentSeparator ∉ "age".toList ∧ Suits "in" (.texts ["1", "x", ""]) ∧
    readWritten "age" "in" (.texts ["1", "x", ""]) (some "int") =
      Filter.ofEntry (.text "age") (.text "in") (.list [.text "1", .text "x", .text ""])
        (.text "int") ∧
    Filter.ofEntry (.text "age") (.text "in") (.list [.text "1", .text "x", .text ""])
        (.text "int") =
      Filter.ofEntry (.text "age") (.text "in") (.text "1~x~") (.text "int") ∧
    readWritten "age" "in" (.texts ["1", "x", ""]) (some "int") =
      .error (.filter (.invalidValue "age" .int "x")) := by
  have named : "age" ≠ "" := by decide
  have free : segmentSeparator ∉ "age".toList := by decide
  have suits : Suits "in" (.texts ["1", "x", ""]) := .texts (by decide) (by decide) (by decide)
  obtain ⟨same, joined, -⟩ := readWritten_eq_ofEntry named free suits (some "int")
  exact ⟨named, free, suits, same, joined, rfl⟩

end RawValue
end RowFilter
