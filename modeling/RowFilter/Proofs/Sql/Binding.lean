import Mathlib.Data.List.Nodup
import RowFilter.Proofs.Sql.Raw

/-!
# Placeholders in a rendered predicate

The text of a predicate is fixed but for its placeholders, whatever the
fragments of its leaves are.  Rendering into a sink puts one placeholder for
each value of the predicate, from left to right, and binds exactly these
values.  In a sink that has come about by earlier values and predicates the
names of new placeholders are new.
-/

namespace RowFilter
namespace Sql

/-! ## The text around the values -/

/-- The text before the first value, between neighbouring values and after the last one. -/
def segments : List Piece → List String
  | [] => [""]
  | .text content :: pieces =>
      match segments pieces with
      | [] => [content]
      | first :: others => (content ++ first) :: others
  | .param _ :: pieces => "" :: segments pieces

/-- Segments with one of the given texts between neighbours. -/
def interleaved : List String → List String → String
  | [], _ => ""
  | segment :: _, [] => segment
  | segment :: segments, between :: betweens =>
      segment ++ between ++ interleaved segments betweens

/-- There is one more segment than there are values. -/
theorem length_segments (pieces : List Piece) :
    (segments pieces).length = (values pieces).length + 1 := by
  induction pieces with
  | nil => rfl
  | cons piece pieces inductionHypothesis =>
      cases piece with
      | text content =>
          rw [values_text, ← inductionHypothesis, segments]
          cases rest : segments pieces with
          | nil => simp [rest] at inductionHypothesis
          | cons first others => rfl
      | param value => simp [segments, inductionHypothesis]

theorem interleaved_append_first (content first : String) (others betweens : List String) :
    interleaved ((content ++ first) :: others) betweens =
      content ++ interleaved (first :: others) betweens := by
  cases betweens <;> simp [interleaved, String.append_assoc]

/-- Pieces are written as their segments with the placeholders of their values between them. -/
theorem render_eq_interleaved (pieces : List Piece) (sink : Sink) :
    render pieces sink =
      (interleaved (segments pieces) (sink.placeholders (values pieces)),
        sink.bindAll (values pieces)) := by
  induction pieces generalizing sink with
  | nil => rfl
  | cons piece pieces inductionHypothesis =>
      cases piece with
      | text content =>
          rw [render, inductionHypothesis, values_text, segments]
          cases rest : segments pieces with
          | nil => simpa [rest] using length_segments pieces
          | cons first others => rw [interleaved_append_first]
      | param value =>
          simp [render, inductionHypothesis, segments, Sink.placeholders, interleaved]

namespace RawPredicate

/-- The text of a raw predicate around its values. -/
def segments (predicate : RawPredicate) : List String :=
  Sql.segments predicate.pieces

/-- A raw predicate is written as its segments with the placeholders of its values between them. -/
theorem render_eq_segments (predicate : RawPredicate) (sink : Sink) :
    predicate.render sink =
      (interleaved predicate.segments (sink.placeholders predicate.params),
        sink.bindAll predicate.params) := by
  rw [predicate.render_eq, render_eq_interleaved, values_pieces, segments]

end RawPredicate

namespace Sink

/-! ## The placeholders of several values -/

/-- The names of the next parameters. -/
def nextNames (sink : Sink) (count : Nat) : List String :=
  (List.range count).map fun index : Nat => sink.stem ++ Text.intText (sink.next + index)

@[simp] theorem length_nextNames (sink : Sink) (count : Nat) :
    (sink.nextNames count).length = count := by
  simp [nextNames]

/-- All placeholders are question marks. -/
theorem placeholders_question
    {sink : Sink} (style : sink.style = .question) (values : List Value) :
    sink.placeholders values = List.replicate values.length "?" := by
  induction values generalizing sink with
  | nil => rfl
  | cons value values inductionHypothesis =>
      rw [placeholders, inductionHypothesis (by simpa using style), List.length_cons,
        List.replicate_succ, placeholder, style]

/-- The first of the next names is the next one, and the others are those after it. -/
theorem nextNames_succ {sink : Sink} (style : sink.style = .named) (value : Value) (count : Nat) :
    sink.nextNames (count + 1) = sink.nextName :: (sink.bind value).nextNames count := by
  have shifted (index : Nat) :
      sink.stem ++ Text.intText (sink.next + (index + 1 : Nat)) =
        (sink.bind value).stem ++ Text.intText ((sink.bind value).next + index) := by
    have same : sink.next + (index + 1 : Nat) = sink.next + 1 + index := by omega
    rw [next_bind style, stem_bind, same]
  rw [nextNames, List.range_succ_eq_map, List.map_cons, List.map_map]
  refine List.cons_eq_cons.2 ⟨by simp [nextName], ?_⟩
  exact List.map_congr_left fun index _ => shifted index

/-- The placeholders are those of the next names, in order. -/
theorem placeholders_named
    {sink : Sink} (style : sink.style = .named) (values : List Value) :
    sink.placeholders values = (sink.nextNames values.length).map namedPlaceholder := by
  induction values generalizing sink with
  | nil => rfl
  | cons value values inductionHypothesis =>
      rw [placeholders, inductionHypothesis (by simpa using style), List.length_cons,
        nextNames_succ style value, List.map_cons, placeholder, style, namedPlaceholder]

/-! ## The sink after several values -/

/-- Names stay fresh while values are bound. -/
theorem Fresh.bindAll {sink : Sink} (fresh : sink.Fresh) (values : List Value) :
    (sink.bindAll values).Fresh := by
  induction values generalizing sink with
  | nil => exact fresh
  | cons value values inductionHypothesis => exact inductionHypothesis (fresh.bind value)

theorem Fresh.bind_eq
    {sink : Sink} (fresh : sink.Fresh) (style : sink.style = .named) (value : Value) :
    sink.bind value =
      { sink with
        next := sink.next + 1
        named := sink.named ++ [(sink.nextName, value)] } := by
  rw [← fresh.named_bind style, Sink.bind, style]

/-- Binding values by name enters them at the end, under the next names. -/
theorem Fresh.bindAll_named
    {sink : Sink} (fresh : sink.Fresh) (style : sink.style = .named) (values : List Value) :
    sink.bindAll values =
      { sink with
        next := sink.next + values.length
        named := sink.named ++ (sink.nextNames values.length).zip values } := by
  induction values generalizing sink with
  | nil => simp
  | cons value values inductionHypothesis =>
      have counted : sink.next + 1 + (values.length : Int) =
          sink.next + ((values.length + 1 : Nat) : Int) := by
        omega
      rw [bindAll_cons, inductionHypothesis (fresh.bind value) (by simpa using style),
        List.length_cons, nextNames_succ style value, List.zip_cons_cons, ← counted,
        List.append_cons, fresh.bind_eq style value]

/-- Counting on never gives a name twice. -/
theorem nodup_nextNames (sink : Sink) (count : Nat) : (sink.nextNames count).Nodup := by
  refine List.Nodup.map ?_ List.nodup_range
  intro left right equal
  have same := Text.intText_injective ((String.append_right_inj _).1 equal)
  omega

/-- None of the next names is in use. -/
theorem Fresh.notMem_nextNames {sink : Sink} (fresh : sink.Fresh) (count : Nat) :
    ∀ entry ∈ sink.named, entry.1 ∉ sink.nextNames count := by
  intro entry member old
  obtain ⟨number, below, name⟩ := fresh entry member
  obtain ⟨index, _, equal⟩ := List.mem_map.1 old
  rw [name] at equal
  have same := Text.intText_injective ((String.append_right_inj _).1 equal)
  omega

/-! ## Sinks that can come about -/

/-- A sink is opened empty; then values are bound and predicates rendered, in any order. -/
inductive Reachable : Sink → Prop where
  /-- An empty sink of any style, stem and first number. -/
  | opened (style : ParamStyle) (stem : String) (start : Int) :
      Reachable { style, stem, next := start }
  /-- One more value is bound. -/
  | bind {sink : Sink} (value : Value) (reachable : Reachable sink) : Reachable (sink.bind value)
  /-- One more predicate is rendered. -/
  | render {sink : Sink} (predicate : RawPredicate) (reachable : Reachable sink) :
      Reachable (predicate.render sink).2

/-- The names of a sink that can come about are below its next number. -/
theorem Reachable.fresh {sink : Sink} (reachable : sink.Reachable) : sink.Fresh := by
  induction reachable with
  | opened style stem start => exact fun entry none => absurd none List.not_mem_nil
  | bind value _ inductionHypothesis => exact inductionHypothesis.bind value
  | render predicate _ inductionHypothesis =>
      rw [predicate.render_eq_segments]
      exact inductionHypothesis.bindAll predicate.params

end Sink

/-! ## Rendering into such a sink -/

namespace Sample

/-- Two conditions with three values. -/
def grownUps : Predicate :=
  (Predicate.atom (.compare (.bare "AGE") .ge (.int 18))).join .and
    (.atom (.among (.bare "CITY") (.text "Ulm") [.text "Bern"]))

/-- Names that start below zero, after a value and a first rendering. -/
def belowZero : Sink :=
  (grownUps.render (Sink.bind { style := .named, stem := "p", next := -2 } (.int 7))).2

theorem belowZero_reachable : belowZero.Reachable := by
  rw [belowZero, ← Predicate.render_raw]
  exact .render grownUps.raw (.bind (.int 7) (.opened .named "p" (-2)))

/-- A leaf that begins with a value and has a question mark of its own. -/
def spanned : RawPredicate where
  fragments := [.param (.int 3), .text " BETWEEN LOW AND '?' || ", .param (.int 4)]

/-- The leaf comes as it is, and the conjunction after it in parentheses. -/
theorem pieces_spanned_join :
    (spanned.join .or grownUps.raw).pieces =
      spanned.fragments ++ .text " OR " :: Predicate.parenthesized grownUps.pieces := by
  have conjunction : grownUps.raw.connective? = some .and := grownUps.connective?_raw
  have alternates : grownUps.raw.connective? ≠ some .or := by rw [conjunction]; decide
  have leaf : spanned.pieces = spanned.fragments := by rw [spanned, RawPredicate.pieces]
  rw [RawPredicate.join_of_ne (by decide) alternates, RawPredicate.pieces, List.map_cons,
    List.map_singleton, List.intercalate_cons_cons, List.intercalate_singleton, conjunction,
    grownUps.pieces_raw, leaf]
  rfl

end Sample

end Sql
end RowFilter
