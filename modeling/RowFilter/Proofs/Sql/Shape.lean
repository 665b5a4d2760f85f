import RowFilter.Proofs.Sql.Blank

/-!
# Filters of the same shape

The shape of a filter is the column of its field, its operation and, for a
membership, the number of values that are bound on that column.  Filters of
the same shape have clauses of the same text.  Besides keywords, signs and the
placeholders of the parameters, the text holds the names of declared columns
only.
-/

namespace RowFilter

/-- The number of values that a membership binds on a column. -/
def ColumnSpec.listSize (spec : ColumnSpec) (items : List Value) : Nat :=
  if spec.isEnumeration then (namedMembers spec.members items).length else items.length

/-- Two filters with the same column, the same operation and as many values to bind. -/
structure SameShape (columns : Columns) (left right : Filter) : Prop where
  /-- The fields are the same in upper case. -/
  field_eq : Text.upper left.field = Text.upper right.field
  /-- The operations are the same. -/
  operation_eq : left.operation = right.operation
  /-- Memberships bind as many values. -/
  listSize_eq : left.operation = .among → ∀ spec,
    columns.lastDeclared? (Text.upper left.field) = some spec →
      spec.listSize left.items = spec.listSize right.items

/-- Filters of the same shape are searches together. -/
theorem SameShape.isSearch_eq
    {columns : Columns} {left right : Filter} (same : SameShape columns left right) :
    left.isSearch = right.isSearch := by
  rw [Filter.isSearch, Filter.isSearch, same.operation_eq]

namespace Sql

variable {columns : Columns} {quote : Bool}

/-! ## The blank predicate of a condition -/

/-- What is left of a condition on a column without its values. -/
def blankAtom (column : ColumnExpr) : Condition → Atom
  | .test (.compare comparison) _ => .compare column.identifier comparison .null
  | .test _ _ => .like column.identifier .null
  | .among items =>
      .ofValues column.identifier (List.replicate (column.spec.listSize items) .null)

/-- A condition on several values keeps their number when it is blanked. -/
theorem Atom.blank_ofValues (column : Identifier) (values : List Value) :
    (ofValues column values).blank = ofValues column (List.replicate values.length .null) := by
  cases values with
  | nil => rfl
  | cons first others => simp [ofValues, blank, List.replicate_succ]

/-- A compiled condition without its values is the blank condition of its column. -/
theorem blank_eq_of_conditionCompiles
    {column : ColumnExpr} {condition : Condition} {predicate : Predicate}
    (rule : ConditionCompiles backend column condition predicate) :
    predicate.blank = .atom (blankAtom column condition) := by
  have listed (values : List Value) :
      (backend.among column values).blank =
        .atom (.ofValues column.identifier (List.replicate values.length .null)) :=
    congrArg Predicate.atom (Atom.blank_ofValues _ _)
  cases rule with
  | equalsMember enumeration found => rfl
  | compares plain => rfl
  | containsText asksText => rcases asksText with rfl | rfl <;> rfl
  | @amongMembers items enumeration =>
      replace enumeration : column.spec.isEnumeration = true := enumeration
      rw [listed, blankAtom, ColumnSpec.listSize, if_pos enumeration, List.length_map]
      rfl
  | @amongValues items plain =>
      replace plain : column.spec.isEnumeration = false := plain
      rw [listed, blankAtom, ColumnSpec.listSize, if_neg (by simp [plain]), List.length_map]

/-- Conditions of the same operation and size have the same blank condition. -/
theorem blankAtom_eq_of_operation_eq
    {column : ColumnExpr} {left right : Condition}
    (operation_eq : left.operation = right.operation)
    (listSize_eq : left.operation = .among →
      column.spec.listSize left.items = column.spec.listSize right.items) :
    blankAtom column left = blankAtom column right := by
  cases left with
  | test asked item =>
      cases right with
      | test asked' item' =>
          cases operation_eq
          cases asked <;> rfl
      | among items' => cases operation_eq
  | among items =>
      cases right with
      | test asked' item' => cases operation_eq
      | among items' =>
          rw [blankAtom, blankAtom]
          exact congrArg (fun size => Atom.ofValues column.identifier (List.replicate size .null))
            (listSize_eq rfl)

/-- Filters of the same shape compile to predicates that differ in their values only. -/
theorem blank_eq_of_sameShape
    {left right : Filter} (same : SameShape columns left right)
    {leftPredicate rightPredicate : Predicate}
    (leftCompiles : CompilesTo backend (resolver columns quote) left leftPredicate)
    (rightCompiles : CompilesTo backend (resolver columns quote) right rightPredicate) :
    leftPredicate.blank = rightPredicate.blank := by
  obtain ⟨column, leftResolved, leftRule⟩ := compilesTo_iff.1 leftCompiles
  obtain ⟨other, rightResolved, rightRule⟩ := compilesTo_iff.1 rightCompiles
  obtain ⟨spec, declared, rfl⟩ := exists_spec_of_resolver leftResolved
  obtain ⟨otherSpec, otherDeclared, rfl⟩ := exists_spec_of_resolver rightResolved
  rw [← same.field_eq] at otherDeclared rightRule
  rw [declared] at otherDeclared
  cases otherDeclared
  rw [blank_eq_of_conditionCompiles leftRule, blank_eq_of_conditionCompiles rightRule,
    blankAtom_eq_of_operation_eq same.operation_eq
      fun among => same.listSize_eq among spec declared]

/-- Lists of the same shape compile to conjuncts that differ in their values only. -/
theorem map_blank_eq_of_sameShape
    {left right : List Filter} (same : List.Forall₂ (SameShape columns) left right)
    {leftConjuncts rightConjuncts : List (Conjunct Predicate)}
    (leftPairs : List.Forall₂ (IsConjunct backend (resolver columns quote)) left leftConjuncts)
    (rightPairs : List.Forall₂ (IsConjunct backend (resolver columns quote)) right rightConjuncts) :
    leftConjuncts.map (Conjunct.map Predicate.blank) =
      rightConjuncts.map (Conjunct.map Predicate.blank) := by
  induction same generalizing leftConjuncts rightConjuncts with
  | nil =>
      cases leftPairs
      cases rightPairs
      rfl
  | cons sameFirst _ inductionHypothesis =>
      cases leftPairs with
      | cons leftFirst leftRest =>
          cases rightPairs with
          | cons rightFirst rightRest =>
              have blank_eq :=
                blank_eq_of_sameShape sameFirst leftFirst.compiles rightFirst.compiles
              have isSearch_eq := sameFirst.isSearch_eq
              rw [← leftFirst.isSearch_eq, ← rightFirst.isSearch_eq] at isSearch_eq
              rw [List.map_cons, List.map_cons, inductionHypothesis leftRest rightRest,
                Conjunct.map, Conjunct.map, blank_eq, isSearch_eq]

/-- Lists of the same shape are assembled to predicates that differ in their values only. -/
theorem blank_eq_of_assemble?
    {left right : List Filter} (same : List.Forall₂ (SameShape columns) left right)
    {leftConjuncts rightConjuncts : List (Conjunct Predicate)}
    (leftPairs : List.Forall₂ (IsConjunct backend (resolver columns quote)) left leftConjuncts)
    (rightPairs : List.Forall₂ (IsConjunct backend (resolver columns quote)) right rightConjuncts)
    {leftPredicate rightPredicate : Predicate}
    (leftAssembles : assemble? backend leftConjuncts = some leftPredicate)
    (rightAssembles : assemble? backend rightConjuncts = some rightPredicate) :
    leftPredicate.blank = rightPredicate.blank := by
  have commutes (conjuncts : List (Conjunct Predicate)) :
      assemble? backend (conjuncts.map (Conjunct.map Predicate.blank)) =
        (assemble? backend conjuncts).map Predicate.blank :=
    assemble?_map (Predicate.blank_join .and) (Predicate.blank_join .or) conjuncts
  have leftBlank := commutes leftConjuncts
  have rightBlank := commutes rightConjuncts
  rw [leftAssembles] at leftBlank
  rw [rightAssembles, ← map_blank_eq_of_sameShape same leftPairs rightPairs, leftBlank]
    at rightBlank
  exact Option.some.inj rightBlank

/-! ## The names in the text -/

/-- The column of a written token. -/
def Token.column? (token : Token WrittenAtom) : Option Identifier :=
  token.leaf?.bind WrittenAtom.column?

/-- The columns that are written are those of the atoms. -/
theorem filterMap_column?_writtenAll (sink : Sink) (tokens : List (Token Atom)) :
    (writtenAll sink tokens).filterMap Token.column? =
      (tokens.filterMap Token.leaf?).filterMap Atom.column? := by
  induction tokens generalizing sink with
  | nil => rfl
  | cons token tokens inductionHypothesis =>
      rw [writtenAll]
      cases token with
      | leaf condition =>
          have column_eq : (Token.written sink (.leaf condition)).column? = condition.column? := by
            cases condition <;> rfl
          have leaf_eq : (Token.leaf condition :: tokens).filterMap Token.leaf? =
              condition :: tokens.filterMap Token.leaf? := rfl
          rw [List.filterMap_cons, column_eq, inductionHypothesis, leaf_eq, List.filterMap_cons]
      | connective joining => exact inductionHypothesis _
      | opening => exact inductionHypothesis _
      | closing => exact inductionHypothesis _

/-- An identifier that writes the name of a declared column in upper case. -/
def IsDeclared (columns : Columns) (quote : Bool) (identifier : Identifier) : Prop :=
  ∃ entry ∈ columns, identifier = .ofName quote (Text.upper entry.1)

/-- A filter compiles to conditions on its declared column. -/
theorem isDeclared_of_compilesTo
    {filter : Filter} {predicate : Predicate}
    (compiles : CompilesTo backend (resolver columns quote) filter predicate) :
    ∀ atom ∈ predicate.atoms, ∀ identifier, atom.column? = some identifier →
      IsDeclared columns quote identifier := by
  obtain ⟨column, resolved, rule⟩ := compilesTo_iff.1 compiles
  obtain ⟨spec, declared, rfl⟩ := exists_spec_of_resolver resolved
  obtain ⟨condition, rfl, named⟩ := exists_atom_of_conditionCompiles rule
  intro atom member identifier hasColumn
  rw [Predicate.atoms_atom, List.mem_singleton] at member
  subst member
  obtain ⟨entry, found, -⟩ := Option.map_eq_some_iff.1 declared
  have upper_eq : Text.upper entry.1 = Text.upper filter.field := by
    simpa using List.find?_some found
  have present : entry ∈ columns := List.mem_reverse.1 (List.mem_of_find?_eq_some found)
  refine ⟨entry, present, ?_⟩
  rw [named identifier hasColumn, upper_eq]
  rfl

/-- What is assembled from filters has conditions on declared columns only. -/
theorem isDeclared_of_assemble?
    {filters : List Filter} {conjuncts : List (Conjunct Predicate)} {assembled : Predicate}
    (pairs : List.Forall₂ (IsConjunct backend (resolver columns quote)) filters conjuncts)
    (assembles : assemble? backend conjuncts = some assembled) :
    ∀ identifier ∈ assembled.atoms.filterMap Atom.column?,
      IsDeclared columns quote identifier := by
  intro identifier named
  obtain ⟨atom, member, hasColumn⟩ := List.mem_filterMap.1 named
  have declared := forall_atoms_of_assemble? pairs assembles
    fun filter predicate compiles => isDeclared_of_compilesTo compiles
  exact declared atom member identifier hasColumn

/-! ## Two lists of filters -/

/--
Lists of filters of the same shape have clauses of the same text, whose
parameters differ in their values only.  The text is made of the same tokens
for both: every placeholder among them has its value in either statement's own
parameters, and every column that they name is a declared one.
-/
theorem whereClause_sql_eq_of_sameShape
    (columns : Columns)
    (quote : Bool)
    (options : ClauseOptions)
    {style : ParamStyle}
    (known : ParamStyle.ofName? options.style = some style)
    {left right : List Filter}
    (same : List.Forall₂ (SameShape columns) left right)
    {leftPredicate? rightPredicate? : Option Predicate}
    (leftCompiled :
      (compile backend (resolver columns quote) left).outcome = .ok leftPredicate?)
    (rightCompiled :
      (compile backend (resolver columns quote) right).outcome = .ok rightPredicate?) :
    ∃ sql leftParams rightParams leftWarnings rightWarnings,
      whereClause options (resolver columns quote) left =
        .ok ({ sql, params := leftParams }, leftWarnings) ∧
      whereClause options (resolver columns quote) right =
        .ok ({ sql, params := rightParams }, rightWarnings) ∧
      leftParams.blank = rightParams.blank ∧
      (left = [] → sql = introduced options.keyword options.whenEmpty) ∧
      (left ≠ [] → ∃ tokens leftFormula rightFormula,
        sql = (if options.keyword then "WHERE " else "") ++ conditionText tokens ∧
        denoted? leftParams tokens = some leftFormula ∧
        denoted? rightParams tokens = some rightFormula ∧
        ∀ identifier ∈ tokens.filterMap Token.column?, IsDeclared columns quote identifier) := by
  by_cases empty : left = []
  · subst empty
    rw [List.forall₂_nil_left_iff.1 same]
    refine ⟨_, _, _, _, _, whereClause_nil known _, whereClause_nil known _, rfl, fun _ => rfl, ?_⟩
    exact fun nonempty => absurd rfl nonempty
  · have rightNonempty : right ≠ [] := by
      rintro rfl
      exact empty (List.forall₂_nil_right_iff.1 same)
    obtain ⟨leftConjuncts, leftPredicate, leftPairs, leftAssembles, leftFlat, leftClause⟩ :=
      exists_whereClause_eq known empty leftCompiled
    obtain ⟨rightConjuncts, rightPredicate, rightPairs, rightAssembles, rightFlat, rightClause⟩ :=
      exists_whereClause_eq known rightNonempty rightCompiled
    have blank_eq := blank_eq_of_assemble? same leftPairs rightPairs leftAssembles rightAssembles
    have tokens_eq := writtenAll_eq_of_blank_eq blank_eq (options.sink style)
    rw [← tokens_eq] at rightClause
    have denotes {predicate : Predicate} (flat : predicate.Flat) :
        denoted? (predicate.render (options.sink style)).2.params
            (writtenAll (options.sink style) predicate.tokens) = some predicate :=
      flat.denoted?_writtenAll rfl rfl
    have rightDenotes := denotes rightFlat
    rw [← tokens_eq] at rightDenotes
    refine ⟨_, _, _, _, _, leftClause, rightClause, params_blank_eq_of_blank_eq blank_eq _,
      fun nothing => absurd nothing empty,
      fun _ => ⟨_, leftPredicate, rightPredicate, rfl, denotes leftFlat, rightDenotes, ?_⟩⟩
    rw [filterMap_column?_writtenAll, Predicate.filterMap_leaf?_tokens]
    exact isDeclared_of_assemble? leftPairs leftAssembles

/-! ### Two memberships with strangers -/

namespace Sample

/-- Tasks with a state. -/
def tasks : Columns :=
  [("State", { type := .enumeration, members := ["Open", "Done"] })]

/-- A membership among states. -/
def inStates (states : List String) : Filter where
  field := "state"
  kind := .text
  condition := .among (states.map .text)
  field_ne_empty := by decide
  kind_of_mem := by
    intro item member
    obtain ⟨state, _, rfl⟩ := List.mem_map.1 member
    rfl

theorem inStates_sameShape :
    List.Forall₂ (SameShape tasks) [inStates ["Done", "Lost"]]
      [inStates ["' OR 1=1", "x", "Open"]] := by
  refine .cons ⟨rfl, rfl, fun _ spec declared => ?_⟩ .nil
  cases declared
  rfl

end Sample

/--
A state and a stranger, and one state among a stranger and an attempt to close
the condition: both bind one value, so the texts are the same, and the attempt
is nowhere in them.
-/
theorem whereClause_sql_eq_of_sameShape_inStates :
    ParamStyle.ofName? "qmark" = some .question ∧
    List.Forall₂ (SameShape Sample.tasks)
      [Sample.inStates ["Done", "Lost"]] [Sample.inStates ["' OR 1=1", "x", "Open"]] ∧
    (∃ leftPredicate?, (compile backend (resolver Sample.tasks false)
      [Sample.inStates ["Done", "Lost"]]).outcome = .ok leftPredicate?) ∧
    (∃ rightPredicate?, (compile backend (resolver Sample.tasks false)
      [Sample.inStates ["' OR 1=1", "x", "Open"]]).outcome = .ok rightPredicate?) ∧
    ∃ sql leftParams rightParams leftWarnings rightWarnings,
      whereClause {} (resolver Sample.tasks false) [Sample.inStates ["Done", "Lost"]] =
        .ok ({ sql, params := leftParams }, leftWarnings) ∧
      whereClause {} (resolver Sample.tasks false)
          [Sample.inStates ["' OR 1=1", "x", "Open"]] =
        .ok ({ sql, params := rightParams }, rightWarnings) ∧
      leftParams.blank = rightParams.blank ∧
      ∃ tokens leftFormula rightFormula,
        sql = "WHERE " ++ conditionText tokens ∧
        denoted? leftParams tokens = some leftFormula ∧
        denoted? rightParams tokens = some rightFormula ∧
        ∀ identifier ∈ tokens.filterMap Token.column?,
          IsDeclared Sample.tasks false identifier := by
  have known : ParamStyle.ofName? "qmark" = some .question := rfl
  have leftCompiled : ∃ leftPredicate?, (compile backend (resolver Sample.tasks false)
      [Sample.inStates ["Done", "Lost"]]).outcome = .ok leftPredicate? := ⟨_, rfl⟩
  have rightCompiled : ∃ rightPredicate?, (compile backend (resolver Sample.tasks false)
      [Sample.inStates ["' OR 1=1", "x", "Open"]]).outcome = .ok rightPredicate? := ⟨_, rfl⟩
  obtain ⟨leftPredicate?, leftOutcome⟩ := leftCompiled
  obtain ⟨rightPredicate?, rightOutcome⟩ := rightCompiled
  obtain ⟨sql, leftParams, rightParams, leftWarnings, rightWarnings, leftMade, rightMade,
      blank_eq, _, named⟩ :=
    whereClause_sql_eq_of_sameShape Sample.tasks false {} known Sample.inStates_sameShape
      leftOutcome rightOutcome
  exact ⟨known, Sample.inStates_sameShape, ⟨leftPredicate?, leftOutcome⟩,
    ⟨rightPredicate?, rightOutcome⟩, sql, leftParams, rightParams, leftWarnings, rightWarnings,
    leftMade, rightMade, blank_eq, named (List.cons_ne_nil _ _)⟩

end Sql
end RowFilter
