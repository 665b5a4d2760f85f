import RowFilter.Filter.Basic
import RowFilter.Number.Integer

/-!
# Reading a value under a kind

`Kind.read?` takes a token to the value that it denotes under a kind.  Each
kind has its own grammar; a token outside of it denotes nothing.
-/

namespace RowFilter

/-- The smallest integer that a filter takes. -/
def leastInt : Int := -9223372036854775808

/-- The largest integer that a filter takes. -/
def greatestInt : Int := 9223372036854775807

/-- A truth value in any case. -/
def readBool? (token : String) : Option Bool :=
  let lowered := Text.lower token
  if lowered = "true" then some true
  else if lowered = "false" then some false
  else none

/--
An integer: an optional sign and decimal digits of any script, within the
range and the limit on digits.  One line feed may follow.
-/
def readInt? (token : String) : Option Int :=
  let (negative, unsigned) := Decimal.takeSign (Text.dropFinalNewline token.toList)
  match Decimal.takeDigits unsigned with
  | (digits, []) =>
      if digits = [] ∨ digitLimit < digits.length then none
      else
        let magnitude : Int := Text.digitsValue digits
        let value := if negative then -magnitude else magnitude
        if leastInt ≤ value ∧ value ≤ greatestInt then some value else none
  | _ => none

/-- The value that a token denotes under a kind. -/
def Kind.read? (kind : Kind) (token : String) : Option Value :=
  match kind with
  | .text => some (.text token)
  | .bool => (readBool? token).map .bool
  | .date => (Date.read? token.toList).map .date
  | .dateTime => (DateTime.read? token.toList).map .dateTime
  | .int => (readInt? token).map .int
  | .decimal => (Decimal.readFinite? token.toList).map .decimal

/-- The value that a token denotes for a field under a kind. -/
def coerce (field token : String) (kind : Kind) : Except FilterError Value :=
  match kind.read? token with
  | some value => .ok value
  | none => .error (.invalidValue field kind token)

/-- The values that tokens denote for a field, or the error of the first that denotes none. -/
def coerceAll (field : String) (kind : Kind) : List String → Except FilterError (List Value)
  | [] => .ok []
  | token :: tokens =>
      match coerce field token kind with
      | .error error => .error error
      | .ok value =>
          match coerceAll field kind tokens with
          | .error error => .error error
          | .ok values => .ok (value :: values)

/-! ## What is read is of the kind -/

theorem Kind.kind_of_read?
    {kind : Kind} {token : String} {value : Value}
    (read : kind.read? token = some value) :
    value.kind = some kind := by
  cases kind <;> simp only [Kind.read?, Option.map_eq_some_iff, Option.some.injEq] at read
  case text => subst read; rfl
  all_goals
    obtain ⟨content, _, rfl⟩ := read
    rfl

theorem kind_of_coerce
    {field token : String} {kind : Kind} {value : Value}
    (coerced : coerce field token kind = .ok value) :
    value.kind = some kind := by
  unfold coerce at coerced
  split at coerced
  · next read => cases coerced; exact Kind.kind_of_read? read
  · cases coerced

theorem kind_of_coerceAll
    {field : String} {kind : Kind} {tokens : List String} {values : List Value}
    (coerced : coerceAll field kind tokens = .ok values) :
    ∀ value ∈ values, value.kind = some kind := by
  induction tokens generalizing values with
  | nil => cases coerced; simp
  | cons token tokens inductionHypothesis =>
      unfold coerceAll at coerced
      split at coerced
      · cases coerced
      · next first firstCoerced =>
          split at coerced
          · cases coerced
          · next rest restCoerced =>
              cases coerced
              intro value member
              rcases List.mem_cons.1 member with rfl | member
              · exact kind_of_coerce firstCoerced
              · exact inductionHypothesis restCoerced value member

end RowFilter
