import Mathlib.Data.List.DropRight
import Mathlib.Data.List.Forall2
import RowFilter.Filter.Text
import RowFilter.Proofs.Described
import RowFilter.Proofs.Text.Split

/-!
# What reading a filter accepts

A text is a filter when its first three segments are a field, an operation and
a content, the fourth one is a kind if it is there, and the content denotes a
condition under the operation and the kind.
-/

namespace RowFilter

theorem Operation.mem_all (operation : Operation) : operation ∈ Operation.all := by
  cases operation with
  | test asked =>
      cases asked with
      | compare comparison => cases comparison <;> decide
      | _ => decide
  | among => decide

theorem coerce_eq_ok_iff (field : String) {token : String} {kind : Kind} {value : Value} :
    coerce field token kind = .ok value ↔ kind.read? token = some value := by
  unfold coerce
  cases kind.read? token <;> simp

/-- Tokens are read one after the other, up to the first that is none of the kind. -/
theorem coerceAll_eq_mapM (field : String) (kind : Kind) (tokens : List String) :
    coerceAll field kind tokens = tokens.mapM fun token => coerce field token kind := by
  induction tokens with
  | nil => rfl
  | cons token tokens inductionHypothesis =>
      rw [coerceAll, List.mapM_cons, inductionHypothesis]
      cases coerce field token kind with
      | error error => rfl
      | ok item =>
          cases tokens.mapM fun token => coerce field token kind <;> rfl

/-- Tokens are read one by one. -/
theorem coerceAll_eq_ok_iff
    (field : String) {kind : Kind} {tokens : List String} {values : List Value} :
    coerceAll field kind tokens = .ok values ↔
      List.Forall₂ (fun token value => kind.read? token = some value) tokens values := by
  have each : Described (tokens.mapM fun token => coerce field token kind) _ _ :=
    .mapM fun token _ => .self (coerce field token kind)
  simp only [coerceAll_eq_mapM, each.eq_ok_iff, coerce_eq_ok_iff]

/-- The condition that a content denotes under an operation and a kind. -/
inductive ContentDenotes (kind : Kind) (content : String) : Operation → Condition → Prop where
  /-- The content of a test is its value. -/
  | test {asked : Test} {item : Value} (read : kind.read? content = some item) :
      ContentDenotes kind content (.test asked) (.test asked item)
  /-- The content of a membership is its values, separated. -/
  | among {items : List Value}
      (read : List.Forall₂ (fun token item => kind.read? token = some item)
        (Text.split valueSeparator content) items) :
      ContentDenotes kind content .among (.among items)

namespace Filter

theorem eq_of_parts
    {left right : Filter} (field : left.field = right.field) (kind : left.kind = right.kind)
    (condition : left.condition = right.condition) :
    left = right := by
  cases left
  cases right
  cases field
  cases kind
  cases condition
  rfl

/-- A test is made from a content that is read under the kind. -/
theorem ofTest_eq_ok_iff
    {field : String} (nonempty : field ≠ "") {asked : Test} {kind : Kind} {content : String}
    {filter : Filter} :
    ofTest field nonempty asked kind content = .ok filter ↔
      filter.field = field ∧ filter.kind = kind ∧
        ∃ item, kind.read? content = some item ∧ filter.condition = .test asked item := by
  unfold ofTest
  split
  · next failed =>
      constructor
      · intro made
        cases made
      · rintro ⟨_, _, item, read, _⟩
        rw [(coerce_eq_ok_iff field).2 read] at failed
        cases failed
  · next item coerced =>
      rw [coerce_eq_ok_iff] at coerced
      constructor
      · intro made
        cases made
        exact ⟨rfl, rfl, item, coerced, rfl⟩
      · rintro ⟨field_eq, kind_eq, other, read, condition⟩
        have equal : item = other := Option.some.inj (coerced.symm.trans read)
        exact congrArg Except.ok
          (eq_of_parts field_eq.symm kind_eq.symm ((congrArg _ equal).trans condition.symm))

/-- A membership is made from tokens that are all read under the kind. -/
theorem ofTokens_eq_ok_iff
    {field : String} (nonempty : field ≠ "") {kind : Kind} {tokens : List String}
    {filter : Filter} :
    ofTokens field nonempty kind tokens = .ok filter ↔
      filter.field = field ∧ filter.kind = kind ∧
        ∃ items, List.Forall₂ (fun token item => kind.read? token = some item) tokens items ∧
          filter.condition = .among items := by
  unfold ofTokens
  split
  · next failed =>
      constructor
      · intro made
        cases made
      · rintro ⟨_, _, items, read, _⟩
        rw [(coerceAll_eq_ok_iff field).2 read] at failed
        cases failed
  · next items coerced =>
      constructor
      · intro made
        cases made
        exact ⟨rfl, rfl, items, (coerceAll_eq_ok_iff field).1 coerced, rfl⟩
      · rintro ⟨field_eq, kind_eq, others, read, condition⟩
        rw [← coerceAll_eq_ok_iff field, coerced] at read
        cases read
        exact congrArg Except.ok (eq_of_parts field_eq.symm kind_eq.symm condition.symm)

/-- A filter is made from a content that denotes its condition. -/
theorem ofContent_eq_ok_iff
    {field : String} (nonempty : field ≠ "") {operation : Operation} {kind : Kind}
    {content : String} {filter : Filter} :
    ofContent field nonempty operation kind content = .ok filter ↔
      filter.field = field ∧ filter.kind = kind ∧
        ContentDenotes kind content operation filter.condition := by
  cases operation with
  | test asked =>
      rw [ofContent, ofTest_eq_ok_iff]
      refine and_congr_right fun _ => and_congr_right fun _ => ?_
      generalize filter.condition = condition
      constructor
      · rintro ⟨item, read, rfl⟩
        exact .test read
      · intro denotes
        cases denotes with
        | @test _ item read => exact ⟨item, read, rfl⟩
  | among =>
      rw [ofContent, ofTokens_eq_ok_iff]
      refine and_congr_right fun _ => and_congr_right fun _ => ?_
      generalize filter.condition = condition
      constructor
      · rintro ⟨items, read, rfl⟩
        exact .among read
      · intro denotes
        cases denotes with
        | @among items read => exact ⟨items, read, rfl⟩

/-- The segments of a filter: a field, the names of an operation and of a kind, a content. -/
theorem ofSegments_eq_ok_iff
    {field token content : String} {kindToken : Option String} {filter : Filter} :
    ofSegments field token content kindToken = .ok filter ↔
      filter.field = field ∧ ∃ operation, readOperation token = .ok operation ∧
        readKind kindToken = .ok filter.kind ∧
        ContentDenotes filter.kind content operation filter.condition := by
  unfold ofSegments
  split
  · next empty =>
      constructor
      · intro made
        cases made
      · rintro ⟨field_eq, _⟩
        exact absurd (field_eq.trans empty) filter.field_ne_empty
  · next nonempty =>
      cases readOperation token with
      | error error => simp
      | ok operation =>
          cases readKind kindToken with
          | error error => simp
          | ok kind =>
              simp only [Except.ok.injEq, exists_eq_left', ofContent_eq_ok_iff]
              constructor
              · rintro ⟨field_eq, kind_eq, denotes⟩
                exact ⟨field_eq, kind_eq.symm, kind_eq ▸ denotes⟩
              · rintro ⟨field_eq, kind_eq, denotes⟩
                exact ⟨field_eq, kind_eq.symm, kind_eq ▸ denotes⟩

end Filter

theorem dropEmptyEnd_subset (texts : List String) : dropEmptyEnd texts ⊆ texts := by
  intro text member
  rw [dropEmptyEnd, List.mem_reverse] at member
  exact List.mem_reverse.1 ((List.dropWhile_suffix _).mem member)

theorem dropEmptyEnd_append_singleton
    (texts : List String) {last : String} (nonempty : last ≠ "") :
    dropEmptyEnd (texts ++ [last]) = texts ++ [last] :=
  List.rdropWhile_concat_neg _ _ _ (by simpa using nonempty)

theorem dropEmptyEnd_append_empty (texts : List String) :
    dropEmptyEnd (texts ++ [""]) = dropEmptyEnd texts :=
  List.rdropWhile_concat_pos _ _ _ (by simp)

/-- No segment has a separator in it. -/
theorem notMem_of_mem_segments
    {raw segment : String} (member : segment ∈ segments raw) :
    segmentSeparator ∉ segment.toList :=
  (Text.of_mem_split (dropEmptyEnd_subset _ member)).1

/-- A text is a filter when its segments are those of the filter. -/
theorem parse_eq_ok_iff {raw : String} {filter : Filter} :
    parse raw = .ok filter ↔
      ∃ token content rest, segments raw = filter.field :: token :: content :: rest ∧
        ∃ operation, readOperation token = .ok operation ∧
          readKind rest.head? = .ok filter.kind ∧
          ContentDenotes filter.kind content operation filter.condition := by
  rw [parse]
  split
  · next field token content rest found =>
      rw [Filter.ofSegments_eq_ok_iff, found]
      constructor
      · rintro ⟨rfl, read⟩
        exact ⟨token, content, rest, rfl, read⟩
      · rintro ⟨_, _, _, equal, read⟩
        cases equal
        exact ⟨rfl, read⟩
  · next shape =>
      constructor
      · intro parsed
        cases parsed
      · rintro ⟨token, content, rest, equal, _⟩
        exact absurd equal (shape _ _ _ _)

end RowFilter
