import RowFilter.Proofs.Query.Row
import RowFilter.Proofs.Sql.Clause

/-!
# Values never reach the text

Blanking replaces every value by the absent one.  It commutes with everything
between the filters and the finished clause, and what is left of a filter
after blanking is its column, its operation and the number of values that it
binds.  So filters that agree in these have clauses of the same tokens.
-/

namespace RowFilter
namespace Sql

/-! ## Blanking -/

/-- The condition without its values. -/
def Atom.blank : Atom → Atom
  | compare column comparison _ => .compare column comparison .null
  | among column _ others => .among column .null (others.map fun _ => .null)
  | like column _ => .like column .null
  | never => .never

/-- The token without the values of its condition. -/
def Token.blank : Token Atom → Token Atom
  | leaf condition => .leaf condition.blank
  | connective joining => .connective joining
  | opening => .opening
  | closing => .closing

/-- Entries without their values. -/
def blankEntries (entries : List (String × Value)) : List (String × Value) :=
  entries.map fun entry => (entry.1, .null)

/-- Parameters without their values: their number, or their names. -/
def Params.blank : Params → Params
  | positional values => .positional (values.map fun _ => .null)
  | named entries => .named (blankEntries entries)

/-- The sink without the values that have been bound. -/
def Sink.blank (sink : Sink) : Sink :=
  { sink with
    positional := sink.positional.map fun _ => .null
    named := blankEntries sink.named }

namespace Predicate

mutual

/-- The predicate without its values. -/
def blank : Predicate → Predicate
  | atom condition => .atom condition.blank
  | node connective members => .node connective (blankAll members)

/-- Predicates without their values. -/
def blankAll : List Predicate → List Predicate
  | [] => []
  | member :: members => blank member :: blankAll members

end

theorem blankAll_eq_map (members : List Predicate) : blankAll members = members.map blank := by
  induction members with
  | nil => rfl
  | cons member members inductionHypothesis =>
      rw [blankAll, inductionHypothesis, List.map_cons]

@[simp] theorem blank_atom (condition : Atom) : (atom condition).blank = .atom condition.blank :=
  rfl

@[simp] theorem blank_node (connective : Connective) (members : List Predicate) :
    (node connective members).blank = .node connective (members.map blank) := by
  rw [blank, blankAll_eq_map]

/-- Blanking keeps which members a predicate contributes to a node. -/
theorem membersUnder_blank (connective : Connective) (predicate : Predicate) :
    predicate.blank.membersUnder connective = (predicate.membersUnder connective).map blank := by
  cases predicate with
  | atom condition => rfl
  | node own members =>
      rw [blank_node, membersUnder, membersUnder]
      split
      · rfl
      · simp

/-- Blanking commutes with joining. -/
theorem blank_join (connective : Connective) (left right : Predicate) :
    (left.join connective right).blank = left.blank.join connective right.blank := by
  rw [join, join, blank_node, List.map_append, membersUnder_blank, membersUnder_blank]

/-! ## The tokens of a blank predicate -/

theorem memberTokens_blank
    (connective : Connective) {members : List Predicate}
    (each : ∀ member ∈ members, groupTokens member.blank = (groupTokens member).map Token.blank) :
    memberTokens connective (members.map blank) =
      (memberTokens connective members).map Token.blank := by
  rw [memberTokens_eq_intercalate, memberTokens_eq_intercalate, map_intercalate, List.map_map,
    List.map_map]
  exact congrArg _ (List.map_congr_left each)

theorem groupTokens_blank (predicate : Predicate) :
    groupTokens predicate.blank = (groupTokens predicate).map Token.blank := by
  induction predicate using members_induction with
  | atom condition => rfl
  | node connective members inductionHypothesis =>
      rw [blank_node, groupTokens, groupTokens, memberTokens_blank connective inductionHypothesis,
        List.map_append, List.map_cons]
      rfl

/-- Blanking a predicate blanks its tokens one by one. -/
theorem tokens_blank (predicate : Predicate) :
    predicate.blank.tokens = predicate.tokens.map Token.blank := by
  cases predicate with
  | atom condition => rfl
  | node connective members =>
      rw [blank_node, tokens, tokens]
      exact memberTokens_blank connective fun member _ => groupTokens_blank member

end Predicate

/-! ## Sinks without values -/

/-- An assignment finds its place by the name alone. -/
theorem blankEntries_assign (name : String) (value : Value) (entries : List (String × Value)) :
    blankEntries (assign name value entries) = assign name .null (blankEntries entries) := by
  induction entries with
  | nil => rfl
  | cons entry entries inductionHypothesis =>
      obtain ⟨present, old⟩ := entry
      have listed : blankEntries ((present, old) :: entries) =
          (present, .null) :: blankEntries entries := rfl
      rw [assign, listed, assign]
      split
      · rfl
      · rw [← inductionHypothesis]
        rfl

/-- Binding commutes with blanking, for one value. -/
theorem Sink.blank_bind (sink : Sink) (value : Value) :
    (sink.bind value).blank = sink.blank.bind .null := by
  cases style : sink.style with
  | question => simp [bind, blank, style]
  | named => simp [bind, blank, style, blankEntries_assign, nextName]

/-- The parameters of a blank sink are the blank parameters. -/
theorem Sink.params_blank (sink : Sink) : sink.blank.params = sink.params.blank := by
  cases style : sink.style <;> simp [params, blank, style, Params.blank]

/-- Binding commutes with blanking, for any number of values. -/
theorem Sink.blank_bindAll (sink : Sink) (values : List Value) :
    (sink.bindAll values).blank = sink.blank.bindAll (values.map fun _ => .null) := by
  induction values generalizing sink with
  | nil => rfl
  | cons value values inductionHypothesis =>
      rw [bindAll_cons, inductionHypothesis, blank_bind, List.map_cons, bindAll_cons]

/-- The placeholders of values depend on their number only. -/
theorem Sink.placeholders_blank (sink : Sink) (values : List Value) :
    sink.blank.placeholders (values.map fun _ => .null) = sink.placeholders values := by
  induction values generalizing sink with
  | nil => rfl
  | cons value values inductionHypothesis =>
      rw [List.map_cons, placeholders, placeholders, ← blank_bind sink value, inductionHypothesis]
      rfl

/-! ## Writing commutes with blanking -/

theorem Atom.params_blank (condition : Atom) :
    condition.blank.params = condition.params.map fun _ => .null := by
  cases condition <;> rfl

/-- A blank token has as many values, all of them absent. -/
theorem Token.params_blank (token : Token Atom) :
    token.blank.params = token.params.map fun _ => .null := by
  cases token with
  | leaf condition => exact condition.params_blank
  | connective joining => rfl
  | opening => rfl
  | closing => rfl

/-- A condition is written without looking at its values. -/
theorem Atom.written_blank (sink : Sink) (condition : Atom) :
    condition.blank.written sink.blank = condition.written sink := by
  cases condition with
  | compare column comparison value => rfl
  | among column first others =>
      exact congrArg (WrittenAtom.among column) (sink.placeholders_blank (first :: others))
  | like column pattern => rfl
  | never => rfl

/-- A token is written without looking at its values. -/
theorem Token.written_blank (sink : Sink) (token : Token Atom) :
    token.blank.written sink.blank = token.written sink := by
  cases token with
  | leaf condition => exact congrArg Token.leaf (condition.written_blank sink)
  | connective joining => rfl
  | opening => rfl
  | closing => rfl

/-- What is written does not depend on values. -/
theorem writtenAll_blank (sink : Sink) (tokens : List (Token Atom)) :
    writtenAll sink.blank (tokens.map Token.blank) = writtenAll sink tokens := by
  induction tokens generalizing sink with
  | nil => rfl
  | cons token tokens inductionHypothesis =>
      rw [List.map_cons, writtenAll, writtenAll, token.written_blank, token.params_blank,
        ← sink.blank_bindAll, inductionHypothesis]

/-- Predicates that differ in their values only are written as the same tokens. -/
theorem writtenAll_eq_of_blank_eq
    {left right : Predicate} (blank_eq : left.blank = right.blank) (sink : Sink) :
    writtenAll sink left.tokens = writtenAll sink right.tokens := by
  rw [← writtenAll_blank, ← writtenAll_blank sink right.tokens, ← left.tokens_blank,
    ← right.tokens_blank, blank_eq]

/-- Rendering leaves parameters that differ in their values only. -/
theorem params_blank_eq_of_blank_eq
    {left right : Predicate} (blank_eq : left.blank = right.blank) (sink : Sink) :
    (left.render sink).2.params.blank = (right.render sink).2.params.blank := by
  have params_eq (predicate : Predicate) :
      (predicate.render sink).2.params.blank =
        (sink.blank.bindAll (predicate.blank.tokens.flatMap Token.params)).params := by
    rw [predicate.render_eq, ← Sink.params_blank, Sink.blank_bindAll, predicate.tokens_blank,
      List.map_flatMap, List.flatMap_map]
    simp only [Token.params_blank]
  rw [params_eq, params_eq, blank_eq]

end Sql
end RowFilter
