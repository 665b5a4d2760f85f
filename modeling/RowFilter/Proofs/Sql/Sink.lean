import RowFilter.Proofs.Text.Digit
import RowFilter.Sql.Sink

/-!
# Placeholders and the values they stand for

Binding values one after the other gives each of them a placeholder of its own.
Whoever has the parameters at the end can take the values back out, placeholder
by placeholder: by position for question marks, by name otherwise.
-/

namespace RowFilter
namespace Sql

/-! ## Taking values out of parameters -/

/-- The placeholder of a name. -/
def namedPlaceholder (name : String) : String :=
  "%(" ++ name ++ ")s"

/-- The value of a placeholder, and the parameters for the placeholders after it. -/
def Params.take? (placeholder : String) : Params → Option (Value × Params)
  | positional (value :: values) =>
      if placeholder = "?" then some (value, .positional values) else none
  | positional [] => none
  | named entries =>
      (entries.find? fun entry => namedPlaceholder entry.1 == placeholder).map
        fun entry => (entry.2, .named entries)

/-- The values of placeholders, and the parameters for the placeholders after them. -/
def Params.takeAll? (params : Params) : List String → Option (List Value × Params)
  | [] => some ([], params)
  | placeholder :: placeholders =>
      match params.take? placeholder with
      | none => none
      | some (value, rest) =>
          (rest.takeAll? placeholders).map fun (values, final) => (value :: values, final)

/-- No value is left that goes by its position. -/
def Params.isExhausted : Params → Bool
  | positional values => values.isEmpty
  | named _ => true

namespace Sink

/-- The sink after several values have been bound. -/
def bindAll (sink : Sink) (values : List Value) : Sink :=
  values.foldl bind sink

/-- The placeholders of several values. -/
def placeholders (sink : Sink) : List Value → List String
  | [] => []
  | value :: values => sink.placeholder :: (sink.bind value).placeholders values

@[simp] theorem bindAll_nil (sink : Sink) : sink.bindAll [] = sink := rfl

@[simp] theorem bindAll_cons (sink : Sink) (value : Value) (values : List Value) :
    sink.bindAll (value :: values) = (sink.bind value).bindAll values := rfl

/-- Values may be bound in two groups. -/
theorem bindAll_append (sink : Sink) (first second : List Value) :
    sink.bindAll (first ++ second) = (sink.bindAll first).bindAll second :=
  List.foldl_append

@[simp] theorem style_bind (sink : Sink) (value : Value) :
    (sink.bind value).style = sink.style := by
  cases style : sink.style <;> simp [bind, style]

@[simp] theorem stem_bind (sink : Sink) (value : Value) :
    (sink.bind value).stem = sink.stem := by
  cases style : sink.style <;> simp [bind, style]

@[simp] theorem style_bindAll (sink : Sink) (values : List Value) :
    (sink.bindAll values).style = sink.style := by
  induction values generalizing sink with
  | nil => rfl
  | cons value values inductionHypothesis => rw [bindAll_cons, inductionHypothesis, style_bind]

/-! ## Positional parameters -/

/-- Values that are bound by position go to the end. -/
theorem bindAll_question
    {sink : Sink} (style : sink.style = .question) (values : List Value) :
    sink.bindAll values = { sink with positional := sink.positional ++ values } := by
  induction values generalizing sink with
  | nil => simp
  | cons value values inductionHypothesis =>
      rw [bindAll_cons, inductionHypothesis (by simpa using style)]
      simp [bind, style]

/-! ## Named parameters -/

/-- All names so far are made of the stem and a number below the next one. -/
def Fresh (sink : Sink) : Prop :=
  ∀ entry ∈ sink.named, ∃ number < sink.next, entry.1 = sink.stem ++ Text.intText number

/-- An assignment to a new name goes to the end. -/
theorem assign_eq_append
    {name : String} {entries : List (String × Value)}
    (absent : ∀ entry ∈ entries, entry.1 ≠ name) (value : Value) :
    assign name value entries = entries ++ [(name, value)] := by
  induction entries with
  | nil => rfl
  | cons entry entries inductionHypothesis =>
      rw [List.forall_mem_cons] at absent
      rw [assign, if_neg absent.1, inductionHypothesis absent.2, List.cons_append]

/-- The next name is a new one. -/
theorem Fresh.ne_nextName {sink : Sink} (fresh : sink.Fresh) :
    ∀ entry ∈ sink.named, entry.1 ≠ sink.nextName := by
  intro entry member equal
  obtain ⟨number, below, name⟩ := fresh entry member
  rw [name, nextName, String.append_right_inj] at equal
  have same := Text.intText_injective equal
  omega

/-- A value that is bound by name goes to the end, under the next name. -/
theorem Fresh.named_bind
    {sink : Sink} (fresh : sink.Fresh) (style : sink.style = .named) (value : Value) :
    (sink.bind value).named = sink.named ++ [(sink.nextName, value)] := by
  rw [bind, style]
  exact assign_eq_append fresh.ne_nextName value

/-- Binding by name counts on by one. -/
theorem next_bind {sink : Sink} (style : sink.style = .named) (value : Value) :
    (sink.bind value).next = sink.next + 1 := by
  simp [bind, style]

/-- Names stay fresh when a value is bound. -/
theorem Fresh.bind {sink : Sink} (fresh : sink.Fresh) (value : Value) :
    (sink.bind value).Fresh := by
  intro entry member
  cases style : sink.style with
  | question =>
      simp only [Sink.bind, style] at member ⊢
      exact fresh entry member
  | named =>
      rw [next_bind style, stem_bind]
      rw [fresh.named_bind style, List.mem_append, List.mem_singleton] at member
      rcases member with old | rfl
      · obtain ⟨number, below, name⟩ := fresh entry old
        exact ⟨number, by omega, name⟩
      · exact ⟨sink.next, by omega, rfl⟩

/-- Entries keep their places while values are bound. -/
theorem Fresh.prefix_bindAll
    {sink : Sink} (fresh : sink.Fresh) (style : sink.style = .named) (values : List Value) :
    sink.named <+: (sink.bindAll values).named := by
  induction values generalizing sink with
  | nil => exact List.prefix_refl _
  | cons value values inductionHypothesis =>
      have first : sink.named <+: (sink.bind value).named := by
        rw [fresh.named_bind style]
        exact List.prefix_append _ _
      exact first.trans (inductionHypothesis (fresh.bind value) (by simpa using style))

/-- A placeholder shows its name. -/
theorem namedPlaceholder_injective {left right : String}
    (equal : namedPlaceholder left = namedPlaceholder right) :
    left = right := by
  rwa [namedPlaceholder, namedPlaceholder, String.append_left_inj, String.append_right_inj]
    at equal

/-- The entry of a placeholder is found among all entries that come to follow it. -/
theorem Fresh.find?_placeholder
    {sink : Sink} (fresh : sink.Fresh) (style : sink.style = .named) {value : Value}
    {entries : List (String × Value)} (bound : (sink.bind value).named <+: entries) :
    (entries.find? fun entry => namedPlaceholder entry.1 == sink.placeholder) =
      some (sink.nextName, value) := by
  have placeholder : sink.placeholder = namedPlaceholder sink.nextName := by
    simp [Sink.placeholder, style, namedPlaceholder]
  have absent :
      sink.named.find? (fun entry => namedPlaceholder entry.1 == sink.placeholder) = none := by
    rw [List.find?_eq_none]
    intro entry member found
    rw [placeholder, beq_iff_eq] at found
    exact fresh.ne_nextName entry member (namedPlaceholder_injective found)
  obtain ⟨later, rfl⟩ := bound
  rw [fresh.named_bind style, List.append_assoc, List.find?_append, absent, Option.none_or,
    List.singleton_append, List.find?_cons_of_pos (by simp [placeholder])]

/-! ## What a sink has bound can be taken back -/

/-- The parameters hold the values that are bound from a sink on. -/
inductive Supplies : Sink → List Value → Params → Prop where
  /-- Positional parameters hold exactly these values. -/
  | positional {sink : Sink} {values : List Value} (style : sink.style = .question) :
      Supplies sink values (.positional values)
  /-- Named parameters hold all entries of the sink after the values. -/
  | named {sink : Sink} {values : List Value} {entries : List (String × Value)}
      (style : sink.style = .named) (fresh : sink.Fresh)
      (bound : (sink.bindAll values).named <+: entries) :
      Supplies sink values (.named entries)

/-- The first value is taken under the placeholder that the sink gave it. -/
theorem Supplies.take?
    {sink : Sink} {value : Value} {values : List Value} {params : Params}
    (supplies : Supplies sink (value :: values) params) :
    ∃ rest, params.take? sink.placeholder = some (value, rest) ∧
      Supplies (sink.bind value) values rest := by
  cases supplies with
  | positional style =>
      refine ⟨.positional values, ?_, .positional (by simpa using style)⟩
      simp [Params.take?, Sink.placeholder, style]
  | @named entries style fresh bound =>
      have later := fresh.bind value
      have first : (sink.bind value).named <+: entries :=
        (later.prefix_bindAll (by simpa using style) values).trans bound
      refine ⟨.named entries, ?_, .named (by simpa using style) later bound⟩
      rw [Params.take?, fresh.find?_placeholder style first, Option.map_some]

/-- The first values are taken under the placeholders that the sink gave them. -/
theorem Supplies.takeAll?
    {sink : Sink} {values later : List Value} {params : Params}
    (supplies : Supplies sink (values ++ later) params) :
    ∃ rest, params.takeAll? (sink.placeholders values) = some (values, rest) ∧
      Supplies (sink.bindAll values) later rest := by
  induction values generalizing sink params with
  | nil => exact ⟨params, rfl, supplies⟩
  | cons value values inductionHypothesis =>
      obtain ⟨middle, first, suppliesRest⟩ := Supplies.take? supplies
      obtain ⟨rest, others, suppliesLater⟩ := inductionHypothesis suppliesRest
      refine ⟨rest, ?_, suppliesLater⟩
      rw [placeholders, Params.takeAll?, first]
      simp [others]

/-- Once all values are taken, none is left that goes by its position. -/
theorem Supplies.isExhausted
    {sink : Sink} {params : Params} (supplies : Supplies sink [] params) :
    params.isExhausted = true := by
  cases supplies <;> rfl

/-- A sink that starts without parameters ends with those that supply its values. -/
theorem supplies_params
    {sink : Sink} (noPositional : sink.positional = []) (noNamed : sink.named = [])
    (values : List Value) :
    Supplies sink values (sink.bindAll values).params := by
  cases style : sink.style with
  | question =>
      rw [bindAll_question style, noPositional, List.nil_append, params, style]
      exact .positional style
  | named =>
      rw [params, style_bindAll, style]
      exact .named style (by simp [Fresh, noNamed]) (List.prefix_refl _)

end Sink
end Sql
end RowFilter
