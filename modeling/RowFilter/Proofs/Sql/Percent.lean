import RowFilter.Proofs.Sql.Meaning
import RowFilter.Proofs.Sql.Refusal
import RowFilter.Proofs.Sql.Scan
import RowFilter.Proofs.Sql.Template

/-!
# Percent signs in statements

Where values go by name the text of a statement is a template, and what stands
around its placeholders is copied as long as it has no percent sign.  Such a
sign can only come from a name: of the view, of a selected column, or of a
column in the condition.
-/

namespace RowFilter
namespace Sql

/-! ## Names -/

/--
A character that is not in the separator is in what is joined when it is in one
of the pieces.
-/
theorem notMem_intercalate_iff
    {character : Char} {separator : List Char} (absent : character ∉ separator)
    {pieces : List (List Char)} :
    character ∉ separator.intercalate pieces ↔ ∀ piece ∈ pieces, character ∉ piece := by
  induction pieces with
  | nil => simp
  | cons piece pieces inductionHypothesis =>
      cases pieces with
      | nil => simp
      | cons other pieces =>
          rw [List.intercalate_cons_cons, List.mem_append, List.mem_append, not_or, not_or,
            inductionHypothesis, List.forall_mem_cons]
          simp [absent]

/-- Quoting brings no percent sign in and takes none away. -/
theorem Identifier.percent_notMem_chars_iff (identifier : Identifier) :
    '%' ∉ identifier.chars ↔ '%' ∉ identifier.name.toList := by
  cases identifier with
  | bare name => rfl
  | quoted name =>
      have copied (character : Char) : '%' ∈ quotedChar character ↔ '%' = character := by
        rw [quotedChar]
        split
        · next quote => simp [quote]
        · rw [List.mem_singleton]
      simp [chars, Identifier.name, copied]

/-- A dotted name is written with the percent signs of the name. -/
theorem percent_notMem_dottedText_iff (quote : Bool) (name : String) :
    '%' ∉ (dottedText quote name).toList ↔ '%' ∉ name.toList := by
  have pieces : '%' ∉ name.toList ↔ ∀ piece ∈ Text.splitChars '.' name.toList, '%' ∉ piece := by
    conv_lhs => rw [← Text.joinChars_splitChars '.' name.toList, joinChars_eq_intercalate]
    exact notMem_intercalate_iff (by decide)
  rw [dottedText_toList, notMem_intercalate_iff (by decide), pieces, dottedIdentifiers,
    dottedParts, Text.split, List.map_map, List.map_map, List.map_map, List.forall_mem_map]
  refine forall₂_congr fun piece _ => ?_
  simp only [Function.comp_apply, Identifier.percent_notMem_chars_iff, Identifier.name_ofName,
    Text.mem_strip_iff (show Text.isBlank '%' = false by decide), String.toList_ofList]

/-- A column is selected with the percent signs of its name. -/
theorem percent_notMem_selectedText_iff (quote : Bool) (column : String) :
    '%' ∉ (selectedText quote column).toList ↔ '%' ∉ column.toList := by
  have kept : '%' ∈ (Text.strip column).toList ↔ '%' ∈ column.toList :=
    Text.mem_strip_iff (by decide)
  rw [selectedText_eq, ← kept]
  split
  · next all => rw [all]
  · exact percent_notMem_dottedText_iff quote (Text.strip column)

/-- A select list has the percent signs of its columns. -/
theorem percent_notMem_selectList_iff (quote : Bool) (columns : List String) :
    '%' ∉ (selectList quote columns).toList ↔ ∀ column ∈ columns, '%' ∉ column.toList := by
  rw [selectList]
  split
  · next none => simp [List.isEmpty_iff.1 none]
  · rw [Text.commaSeparated, String.toList_intercalate, notMem_intercalate_iff (by decide),
      List.map_map, List.forall_mem_map]
    exact forall₂_congr fun column _ => percent_notMem_selectedText_iff quote column

/-! ## Pieces -/

/-- No text among the pieces has a percent sign. -/
def IsPercentFree (pieces : List Piece) : Prop :=
  ∀ content, Piece.text content ∈ pieces → '%' ∉ content.toList

@[simp] theorem isPercentFree_nil : IsPercentFree [] := fun _ none => absurd none List.not_mem_nil

@[simp] theorem isPercentFree_text_cons {content : String} {pieces : List Piece} :
    IsPercentFree (.text content :: pieces) ↔ '%' ∉ content.toList ∧ IsPercentFree pieces := by
  simp [IsPercentFree, or_imp, forall_and]

@[simp] theorem isPercentFree_param_cons {value : Value} {pieces : List Piece} :
    IsPercentFree (.param value :: pieces) ↔ IsPercentFree pieces := by
  simp [IsPercentFree]

@[simp] theorem isPercentFree_append {left right : List Piece} :
    IsPercentFree (left ++ right) ↔ IsPercentFree left ∧ IsPercentFree right := by
  simp [IsPercentFree, or_imp, forall_and]

/-- Pieces are free of percent signs when each group of them is. -/
theorem isPercentFree_flatMap {α : Type} {things : List α} {pieces : α → List Piece} :
    IsPercentFree (things.flatMap pieces) ↔ ∀ thing ∈ things, IsPercentFree (pieces thing) := by
  induction things with
  | nil => simp
  | cons thing things inductionHypothesis => simp [inductionHypothesis]

/-- The text around the values has percent signs where the pieces have them. -/
theorem percent_notMem_segments_iff (pieces : List Piece) :
    (∀ segment ∈ segments pieces, '%' ∉ segment.toList) ↔ IsPercentFree pieces := by
  induction pieces with
  | nil => simp [segments]
  | cons piece pieces inductionHypothesis =>
      cases piece with
      | param value => simp [segments, inductionHypothesis]
      | text content =>
          rw [isPercentFree_text_cons, ← inductionHypothesis, segments]
          cases rest : segments pieces with
          | nil => simp
          | cons first others =>
              simp only [List.forall_mem_cons, String.toList_append, List.mem_append, not_or,
                and_assoc]

theorem percent_notMem_sign (comparison : Comparison) : '%' ∉ comparison.sign.toList := by
  cases comparison <;> decide

/-- A condition is free of percent signs when its column is. -/
theorem isPercentFree_atom (condition : Atom) :
    IsPercentFree condition.pieces ↔
      ∀ identifier, condition.column? = some identifier → '%' ∉ identifier.name.toList := by
  have named (identifier : Identifier) :
      '%' ∉ identifier.text.toList ↔ '%' ∉ identifier.name.toList := by
    rw [Identifier.text, String.toList_ofList, identifier.percent_notMem_chars_iff]
  have separated (others : List Value) :
      IsPercentFree (others.flatMap fun value => [.text ", ", .param value]) :=
    isPercentFree_flatMap.2 fun _ _ => by simp
  cases condition with
  | compare column comparison value =>
      simp [Atom.pieces, Atom.column?, percent_notMem_sign, named]
  | among column first others => simp [Atom.pieces, Atom.column?, separated, named]
  | like column pattern => simp [Atom.pieces, Atom.column?, named]
  | never => simp [Atom.pieces, Atom.column?]

/-- A token is free of percent signs when its column is. -/
theorem isPercentFree_token (token : Token Atom) :
    IsPercentFree token.pieces ↔
      ∀ identifier, token.leaf?.bind Atom.column? = some identifier →
        '%' ∉ identifier.name.toList := by
  cases token with
  | leaf condition => exact isPercentFree_atom condition
  | connective joining =>
      cases joining <;> simp [Token.pieces, Predicate.between, Connective.keyword, Token.leaf?]
  | opening => simp [Token.pieces, Token.leaf?]
  | closing => simp [Token.pieces, Token.leaf?]

/-- A condition has percent signs where the names of its columns have them. -/
theorem isPercentFree_predicate (predicate : Predicate) :
    IsPercentFree predicate.pieces ↔
      ∀ identifier ∈ predicate.atoms.filterMap Atom.column?, '%' ∉ identifier.name.toList := by
  rw [predicate.pieces_eq_flatMap, isPercentFree_flatMap, ← predicate.filterMap_leaf?_tokens,
    List.filterMap_filterMap]
  simp only [isPercentFree_token, List.mem_filterMap]
  constructor
  · rintro each identifier ⟨token, present, named⟩
    exact each token present identifier named
  · intro each token present identifier named
    exact each identifier ⟨token, present, named⟩

/-! ## Statements -/

/-- The pieces of a statement that is restricted to the rows of a predicate, if there is one. -/
def statementPieces (head : String) : Option Predicate → List Piece
  | none => [.text head]
  | some predicate => .text head :: .text " WHERE " :: predicate.pieces

/-- A statement is its pieces, rendered one after the other. -/
theorem restriction_after_eq (style : ParamStyle) (predicate? : Option Predicate) (head : String) :
    (restriction style predicate?).after head =
      { sql := (render (statementPieces head predicate?) { style }).1
        params := (render (statementPieces head predicate?) { style }).2.params } := by
  cases predicate? with
  | none => rfl
  | some predicate => rfl

/-- With named values a statement is the text around them and a placeholder for each of them. -/
theorem exists_select_named
    {resolve : Resolver ColumnExpr} {filters : List Filter} {predicate? : Option Predicate}
    (compiled : (compile backend resolve filters).outcome = .ok predicate?)
    {view : String} (viewNamed : view ≠ "")
    {options : SelectOptions} (named : options.style = "pyformat") :
    ∃ selection,
      select view options resolve filters = .ok selection ∧
      let pieces := statementPieces (options.head view) predicate?
      let names := ({ style := .named } : Sink).nextNames (values pieces).length
      selection.statement =
        { sql := interleaved (segments pieces) (names.map namedPlaceholder)
          params := .named (names.zip (values pieces)) } := by
  have known : ParamStyle.ofName? options.style = some .named := by rw [named]; rfl
  have fresh : Sink.Fresh { style := .named } := fun _ none => absurd none List.not_mem_nil
  obtain ⟨warnings, selected⟩ := select_of_compiled compiled viewNamed known
  refine ⟨_, selected, (restriction_after_eq .named predicate? (options.head view)).trans ?_⟩
  rw [render_eq_interleaved, Sink.placeholders_named rfl, fresh.bindAll_named rfl]
  rfl

/-- No name in a statement has a percent sign. -/
structure NamesPercentFree (view : String) (options : SelectOptions)
    (predicate? : Option Predicate) : Prop where
  /-- The name of the view has none. -/
  view : '%' ∉ view.toList
  /-- The selected columns have none. -/
  columns : ∀ column ∈ options.columns, '%' ∉ column.toList
  /-- The columns of the condition have none. -/
  condition : ∀ predicate, predicate? = some predicate →
    ∀ identifier ∈ predicate.atoms.filterMap Atom.column?, '%' ∉ identifier.name.toList

/-- The statement before its restriction has the percent signs of the view and of the columns. -/
theorem percent_notMem_head_iff (options : SelectOptions) (view : String) :
    '%' ∉ (options.head view).toList ↔
      '%' ∉ view.toList ∧ ∀ column ∈ options.columns, '%' ∉ column.toList := by
  have distinct : '%' ∉ (if options.distinct then "DISTINCT " else "").toList := by
    split <;> decide
  simp only [SelectOptions.head, String.toList_append, List.mem_append, not_or,
    percent_notMem_selectList_iff, percent_notMem_dottedText_iff]
  simp [distinct, and_comm]

/-- A statement has no percent signs of its own exactly when no name in it has one. -/
theorem isPercentFree_statement_iff
    (view : String) (options : SelectOptions) (predicate? : Option Predicate) :
    IsPercentFree (statementPieces (options.head view) predicate?) ↔
      NamesPercentFree view options predicate? := by
  have head := percent_notMem_head_iff options view
  cases predicate? with
  | none =>
      simp only [statementPieces, isPercentFree_text_cons, isPercentFree_nil, and_true, head]
      exact ⟨fun ⟨view, columns⟩ => ⟨view, columns, nofun⟩,
        fun names => ⟨names.view, names.columns⟩⟩
  | some predicate =>
      have keyword : '%' ∉ " WHERE ".toList := by decide
      simp only [statementPieces, isPercentFree_text_cons, keyword, not_false_eq_true, true_and,
        isPercentFree_predicate, head]
      constructor
      · rintro ⟨⟨view, columns⟩, condition⟩
        exact ⟨view, columns, by rintro _ ⟨⟩; exact condition⟩
      · exact fun names => ⟨⟨names.view, names.columns⟩, names.condition predicate rfl⟩

/--
A statement whose values go by name is text with one placeholder for each value,
and the names of the placeholders are distinct.  Every percent sign begins a
placeholder exactly where no name in the statement has one, and then any
formatter puts each value in its place and leaves the text around as it is.
-/
theorem select_formatted_iff_names_percentFree
    (resolve : Resolver ColumnExpr)
    {filters : List Filter} {predicate? : Option Predicate}
    (compiled : (compile backend resolve filters).outcome = .ok predicate?)
    {view : String} (viewNamed : view ≠ "")
    {options : SelectOptions} (named : options.style = "pyformat") :
    ∃ selection,
      select view options resolve filters = .ok selection ∧
      let pieces := statementPieces (options.head view) predicate?
      let names := ({ style := .named } : Sink).nextNames (values pieces).length
      selection.statement.sql = interleaved (segments pieces) (names.map namedPlaceholder) ∧
      selection.statement.params = .named (names.zip (values pieces)) ∧
      names.Nodup ∧
      ((∀ segment ∈ segments pieces, '%' ∉ segment.toList) ↔
        NamesPercentFree view options predicate?) ∧
      (NamesPercentFree view options predicate? → ∀ formatter : Formatter,
        formatter.format (names.zip (values pieces)) [] selection.statement.sql.toList =
          some (interleaved (segments pieces)
            ((values pieces).map formatter.write)).toList) := by
  obtain ⟨selection, selected, statement⟩ := exists_select_named compiled viewNamed named
  have free := (percent_notMem_segments_iff _).trans
    (isPercentFree_statement_iff view options predicate?)
  refine ⟨selection, selected, ?_⟩
  rw [statement]
  refine ⟨rfl, rfl, Sink.nodup_nextNames _ _, free, fun names formatter => ?_⟩
  have isKey : Formatter.IsKey ({ style := .named } : Sink).stem := ⟨by decide, by decide⟩
  refine Formatter.format_interleaved (Sink.forall₂_nextNames isKey _) ?_ (free.2 names)
  rw [Sink.length_nextNames, length_segments]

namespace Sample

/-- A view of rates, one of whose columns has a percent sign in its name. -/
def rates : Resolver ColumnExpr :=
  resolver [("rate%", { type := .number }), ("region", { type := .text })] false

/-- The rates above five. -/
def highRate : Filter where
  field := "rate%"
  kind := .int
  condition := .test (.compare .gt) (.int 5)
  field_ne_empty := by decide
  kind_of_mem := by simp [Condition.items, Value.kind]

/-- The regions with a percent sign. -/
def oddRegion : Filter where
  field := "region"
  kind := .text
  condition := .test .contains (.text "10%")
  field_ne_empty := by decide
  kind_of_mem := by simp [Condition.items, Value.kind]

end Sample

/-- The percent sign of a name begins a conversion that no formatter knows. -/
theorem select_formatted_refused :
    ∃ selection,
      select "rates" { style := "pyformat" } Sample.rates [Sample.highRate] = .ok selection ∧
      selection.statement =
        { sql := "SELECT * FROM rates WHERE \"RATE%\" > %(p1)s"
          params := .named [("p1", .int 5)] } ∧
      ∀ (formatter : Formatter) (entries : List (String × Value)),
        formatter.format entries [] selection.statement.sql.toList = none := by
  refine ⟨_, rfl, rfl, fun formatter entries => ?_⟩
  have read : Conversion.read ('"' :: " > %(p1)s".toList) =
      some ({ key := none, marks := [], letter := '"' }, " > %(p1)s".toList) := rfl
  have refused :
      formatter.written entries [] { key := none, marks := [], letter := '"' } = none :=
    if_pos (show '"' ∉ Conversion.letters by decide)
  change formatter.format entries [] ("SELECT * FROM rates WHERE \"RATE".toList ++
    '%' :: '"' :: " > %(p1)s".toList) = none
  rw [Formatter.format_append (by decide), Formatter.format_conversion read (by decide), refused]
  rfl

/-- A percent sign in a value does not stand in the text. -/
theorem select_formatted_iff_names_percentFree_like :
    ∃ predicate,
      (compile backend Sample.rates [Sample.oddRegion]).outcome = .ok (some predicate) ∧
      "crm.rates" ≠ "" ∧
      NamesPercentFree "crm.rates" { columns := ["region"], style := "pyformat" }
        (some predicate) ∧
      ∃ selection,
        select "crm.rates" { columns := ["region"], style := "pyformat" } Sample.rates
            [Sample.oddRegion] = .ok selection ∧
        selection.statement.sql =
          "SELECT region FROM crm.rates WHERE UPPER(REGION) LIKE %(p1)s ESCAPE '\\'" ∧
        selection.statement.params = .named [("p1", .text "%10\\%%")] ∧
        ∀ formatter : Formatter,
          formatter.format [("p1", .text "%10\\%%")] [] selection.statement.sql.toList =
            some ("SELECT region FROM crm.rates WHERE UPPER(REGION) LIKE " ++
              formatter.write (.text "%10\\%%") ++ " ESCAPE '\\'").toList := by
  have free : NamesPercentFree "crm.rates" { columns := ["region"], style := "pyformat" }
      (some (.atom (.like (.bare "REGION") (.text "%10\\%%")))) := by
    refine ⟨by decide, by decide, ?_⟩
    rintro _ ⟨⟩ identifier member
    rw [List.mem_singleton.1 member]
    decide
  obtain ⟨selection, selected, sql, params, -, -, formatted⟩ :=
    @select_formatted_iff_names_percentFree Sample.rates [Sample.oddRegion]
      (some (.atom (.like (.bare "REGION") (.text "%10\\%%")))) rfl "crm.rates" (by decide)
      { columns := ["region"], style := "pyformat" } rfl
  exact ⟨_, rfl, by decide, free, selection, selected, sql, params, formatted free⟩

end Sql
end RowFilter
