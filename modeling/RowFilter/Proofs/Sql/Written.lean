import RowFilter.Proofs.Sql.Grammar
import RowFilter.Proofs.Sql.Sink

/-!
# Conditions as they are written

Rendering a predicate writes its tokens one after the other, with placeholders
where the values of the leaves were.  Whoever has the text as tokens and the
parameters of the statement gets the predicate back.
-/

namespace RowFilter
namespace Sql

/-- A condition on one column as it is written, with placeholders for its values. -/
inductive WrittenAtom where
  /-- An order relation between a column and a value. -/
  | compare (column : Identifier) (comparison : Comparison) (placeholder : String)
  /-- A column equals one of several values. -/
  | among (column : Identifier) (placeholders : List String)
  /-- A column in upper case matches a pattern. -/
  | like (column : Identifier) (placeholder : String)
  /-- A condition that no row meets. -/
  | never
deriving DecidableEq

namespace WrittenAtom

/-- The text of a written condition. -/
def text : WrittenAtom → String
  | compare column comparison placeholder =>
      column.text ++ " " ++ comparison.sign ++ " " ++ placeholder
  | among column placeholders => column.text ++ " IN (" ++ Text.commaSeparated placeholders ++ ")"
  | like column placeholder => "UPPER(" ++ column.text ++ ") LIKE " ++ placeholder ++ " ESCAPE '\\'"
  | never => "1=0"

/-- The column of a written condition. -/
def column? : WrittenAtom → Option Identifier
  | compare column _ _ => some column
  | among column _ => some column
  | like column _ => some column
  | never => none

/-- The condition with the values of its placeholders, and the parameters left after it. -/
def bound? (params : Params) : WrittenAtom → Option (Atom × Params)
  | compare column comparison placeholder =>
      (params.take? placeholder).map fun (value, rest) => (.compare column comparison value, rest)
  | among column placeholders =>
      (params.takeAll? placeholders).map fun (values, rest) => (.ofValues column values, rest)
  | like column placeholder =>
      (params.take? placeholder).map fun (value, rest) => (.like column value, rest)
  | never => some (.never, params)

end WrittenAtom

namespace Token

/-- The text of a written token. -/
def text : Token WrittenAtom → String
  | leaf condition => condition.text
  | connective joining => " " ++ joining.keyword ++ " "
  | opening => "("
  | closing => ")"

/-- The token with the values of its placeholders, and the parameters left after it. -/
def bound? (params : Params) : Token WrittenAtom → Option (Token Atom × Params)
  | leaf condition => (condition.bound? params).map fun (bound, rest) => (.leaf bound, rest)
  | connective joining => some (.connective joining, params)
  | opening => some (.opening, params)
  | closing => some (.closing, params)

end Token

/-- The text of written tokens. -/
def conditionText (tokens : List (Token WrittenAtom)) : String :=
  String.join (tokens.map Token.text)

/-- Tokens with the values of their placeholders, and the parameters left after them. -/
def boundAll? (params : Params) :
    List (Token WrittenAtom) → Option (List (Token Atom) × Params)
  | [] => some ([], params)
  | token :: tokens =>
      match token.bound? params with
      | none => none
      | some (bound, rest) =>
          (boundAll? rest tokens).map fun (others, final) => (bound :: others, final)

/--
The predicate that a written condition denotes with the given parameters.
Every placeholder has to have a value, and every positional value a placeholder.
-/
def denoted? (params : Params) (tokens : List (Token WrittenAtom)) : Option Predicate :=
  match boundAll? params tokens with
  | none => none
  | some (bound, rest) => if rest.isExhausted then read? bound else none

/-! ## Writing -/

/-- A condition as it is written into a sink. -/
def Atom.written (sink : Sink) : Atom → WrittenAtom
  | compare column comparison _ => .compare column comparison sink.placeholder
  | among column first others => .among column (sink.placeholders (first :: others))
  | like column _ => .like column sink.placeholder
  | never => .never

namespace Token

/-- The values of a token, from left to right. -/
def params : Token Atom → List Value
  | leaf condition => condition.params
  | _ => []

/-- A token as it is written into a sink. -/
def written (sink : Sink) : Token Atom → Token WrittenAtom
  | leaf condition => .leaf (condition.written sink)
  | connective joining => .connective joining
  | opening => .opening
  | closing => .closing

end Token

/-- Tokens as they are written into a sink one after the other. -/
def writtenAll (sink : Sink) : List (Token Atom) → List (Token WrittenAtom)
  | [] => []
  | token :: tokens => token.written sink :: writtenAll (sink.bindAll token.params) tokens

/-! ## Rendering is writing -/

/-- Pieces are rendered one after the other into the same sink. -/
theorem render_append (left right : List Piece) (sink : Sink) :
    Sql.render (left ++ right) sink =
      ((Sql.render left sink).1 ++ (Sql.render right (Sql.render left sink).2).1,
        (Sql.render right (Sql.render left sink).2).2) := by
  induction left generalizing sink with
  | nil => simp [Sql.render]
  | cons piece left inductionHypothesis =>
      cases piece <;> simp [Sql.render, inductionHypothesis, String.append_assoc]

/-- All texts but the first come after a comma. -/
theorem commaSeparated_cons (first : String) (others : List String) :
    Text.commaSeparated (first :: others) =
      first ++ String.join (others.map fun other => ", " ++ other) := by
  apply String.toList_injective
  rw [Text.commaSeparated, String.toList_intercalate]
  induction others generalizing first with
  | nil => simp
  | cons second others inductionHypothesis =>
      simpa using inductionHypothesis second

/-- Values after commas are written as their placeholders and bound in order. -/
theorem render_values (values : List Value) (after : List Piece) (sink : Sink) :
    Sql.render ((values.flatMap fun value => [.text ", ", .param value]) ++ after) sink =
      (String.join ((sink.placeholders values).map fun placeholder => ", " ++ placeholder) ++
          (Sql.render after (sink.bindAll values)).1,
        (Sql.render after (sink.bindAll values)).2) := by
  induction values generalizing sink with
  | nil => simp [Sink.placeholders]
  | cons value values inductionHypothesis =>
      simp [Sql.render, inductionHypothesis, Sink.placeholders, String.append_assoc]

/-- Rendering a condition writes it and binds its values. -/
theorem render_atom (condition : Atom) (sink : Sink) :
    Sql.render condition.pieces sink =
      ((condition.written sink).text, sink.bindAll condition.params) := by
  cases condition with
  | compare column comparison value => simp [Atom.pieces, Sql.render, Atom.written,
      WrittenAtom.text, Atom.params]
  | among column first others =>
      rw [Atom.pieces, List.cons_append, List.cons_append, Sql.render, Sql.render, render_values]
      simp [Sql.render, Atom.written, WrittenAtom.text, Atom.params, Sink.placeholders,
        commaSeparated_cons, String.append_assoc]
  | like column pattern => simp [Atom.pieces, Sql.render, Atom.written, WrittenAtom.text,
      Atom.params, String.append_assoc]
  | never => simp [Atom.pieces, Sql.render, Atom.written, WrittenAtom.text, Atom.params]

/-- Rendering a token writes it and binds its values. -/
theorem render_token (token : Token Atom) (sink : Sink) :
    Sql.render token.pieces sink = ((token.written sink).text, sink.bindAll token.params) := by
  cases token with
  | leaf condition => exact render_atom condition sink
  | connective joining => simp [Token.pieces, Predicate.between, Sql.render, Token.written,
      Token.text, Token.params]
  | opening => simp [Token.pieces, Sql.render, Token.written, Token.text, Token.params]
  | closing => simp [Token.pieces, Sql.render, Token.written, Token.text, Token.params]

/-- Rendering tokens writes them and binds their values in order. -/
theorem render_tokens (tokens : List (Token Atom)) (sink : Sink) :
    Sql.render (tokens.flatMap Token.pieces) sink =
      (conditionText (writtenAll sink tokens), sink.bindAll (tokens.flatMap Token.params)) := by
  induction tokens generalizing sink with
  | nil => rfl
  | cons token tokens inductionHypothesis =>
      rw [List.flatMap_cons, render_append, render_token, inductionHypothesis]
      simp [writtenAll, conditionText, Sink.bindAll_append]

/-- Rendering writes the tokens of a predicate and binds their values. -/
theorem Predicate.render_eq (predicate : Predicate) (sink : Sink) :
    predicate.render sink =
      (conditionText (writtenAll sink predicate.tokens),
        sink.bindAll (predicate.tokens.flatMap Token.params)) := by
  rw [render, pieces_eq_flatMap, render_tokens]

/-! ## What is written can be read back -/

/-- A written condition takes its own values back, and leaves the later ones. -/
theorem Sink.Supplies.bound?_atom
    {sink : Sink} {condition : Atom} {later : List Value} {params : Params}
    (supplies : Supplies sink (condition.params ++ later) params) :
    ∃ rest, (condition.written sink).bound? params = some (condition, rest) ∧
      Supplies (sink.bindAll condition.params) later rest := by
  cases condition with
  | compare column comparison value =>
      obtain ⟨rest, taken, suppliesRest⟩ := Supplies.take? supplies
      exact ⟨rest, by simp [Atom.written, WrittenAtom.bound?, taken], suppliesRest⟩
  | among column first others =>
      obtain ⟨rest, taken, suppliesRest⟩ := Supplies.takeAll? supplies
      rw [Atom.params] at taken
      exact ⟨rest, by simp [Atom.written, WrittenAtom.bound?, taken, Atom.ofValues], suppliesRest⟩
  | like column pattern =>
      obtain ⟨rest, taken, suppliesRest⟩ := Supplies.take? supplies
      exact ⟨rest, by simp [Atom.written, WrittenAtom.bound?, taken], suppliesRest⟩
  | never => exact ⟨params, rfl, supplies⟩

/-- A written token takes its own values back, and leaves the later ones. -/
theorem Sink.Supplies.bound?_token
    {sink : Sink} {token : Token Atom} {later : List Value} {params : Params}
    (supplies : Supplies sink (token.params ++ later) params) :
    ∃ rest, (token.written sink).bound? params = some (token, rest) ∧
      Supplies (sink.bindAll token.params) later rest := by
  cases token with
  | leaf condition =>
      obtain ⟨rest, bound, suppliesRest⟩ := bound?_atom supplies
      exact ⟨rest, by simp [Token.written, Token.bound?, bound], suppliesRest⟩
  | connective joining => exact ⟨params, rfl, supplies⟩
  | opening => exact ⟨params, rfl, supplies⟩
  | closing => exact ⟨params, rfl, supplies⟩

/-- Written tokens take all values back, and none is left. -/
theorem Sink.Supplies.boundAll?
    {sink : Sink} {tokens : List (Token Atom)} {params : Params}
    (supplies : Supplies sink (tokens.flatMap Token.params) params) :
    ∃ rest, boundAll? params (writtenAll sink tokens) = some (tokens, rest) ∧
      rest.isExhausted = true := by
  induction tokens generalizing sink params with
  | nil => exact ⟨params, rfl, supplies.isExhausted⟩
  | cons token tokens inductionHypothesis =>
      obtain ⟨middle, first, suppliesRest⟩ := bound?_token supplies
      obtain ⟨rest, others, exhausted⟩ := inductionHypothesis suppliesRest
      refine ⟨rest, ?_, exhausted⟩
      rw [writtenAll, Sql.boundAll?, first]
      simp [others]

/-- A flat predicate is what its text denotes with the parameters that rendering leaves. -/
theorem Predicate.Flat.denoted?_writtenAll
    {predicate : Predicate} (flat : predicate.Flat) {sink : Sink}
    (noPositional : sink.positional = []) (noNamed : sink.named = []) :
    denoted? (predicate.render sink).2.params (writtenAll sink predicate.tokens) =
      some predicate := by
  have supplies :=
    Sink.supplies_params noPositional noNamed (predicate.tokens.flatMap Token.params)
  obtain ⟨rest, bound, exhausted⟩ := supplies.boundAll?
  rw [predicate.render_eq, denoted?, bound]
  simp [exhausted, flat.read?_tokens]

end Sql
end RowFilter
