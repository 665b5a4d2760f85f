import RowFilter.Proofs.Service.History

/-!
# Loading a document in the form of a catalogue

The form of a catalogue leaves three things open: whether an enumeration has
members, whether another column has none, and whether the names of columns are
texts.  So a document of that form is installed, or a column breaks in one of
three ways.  The form is asked of the values of a mapping and not of its keys,
and a key that cannot be put in upper case is the third way.
-/

namespace RowFilter
namespace Catalogue

/-- A key that can be put in upper case. -/
def isColumnName : Datum → Bool
  | .text _ | .octets _ => true
  | _ => false

/-- A key may name a column exactly when it has an upper case. -/
theorem isColumnName_iff {key : Datum} :
    isColumnName key = true ↔ ∃ name upperName, Names key name upperName := by
  constructor
  · intro isName
    cases key with
    | text name => exact ⟨_, _, .text name⟩
    | octets content => exact ⟨_, _, .octets content⟩
    | _ => cases isName
  · rintro ⟨_, _, ⟨⟩⟩ <;> rfl

/-- The columns of all entities in a document, as entries. -/
def columnEntries (document : Datum) : List (Datum × Datum) :=
  (entriesOf ((document.get? "entities").getD .null)).flatMap fun entity =>
    entriesOf ((entity.2.get? "columns").getD .null)

theorem BreaksSpec.isMembers {name : String} {datum : Datum} {error : LoadError}
    (breaks : BreaksSpec name datum error) :
    error = .noMembers name ∨ error = .strayMembers name := by
  cases breaks with
  | noMembers => exact .inl rfl
  | strayMembers => exact .inr rfl

/-- A column breaks by its members, or by its name. -/
theorem BreaksColumn.cases_error {entry : Datum × Datum} {error : LoadError}
    (breaks : BreaksColumn entry error) :
    (∃ name, error = .noMembers name) ∨ (∃ name, error = .strayMembers name) ∨
      error = .columnNotText ∧ isColumnName entry.1 = false := by
  cases breaks with
  | notText unnamed =>
      refine .inr (.inr ⟨rfl, ?_⟩)
      rw [← Bool.not_eq_true, isColumnName_iff]
      rintro ⟨name, upperName, names⟩
      exact unnamed name upperName names
  | @spec _ _ name _ _ _ breaks =>
      rcases breaks.isMembers with members | members
      · exact .inl ⟨name, members⟩
      · exact .inr (.inl ⟨name, members⟩)

/-- What breaks is one of the columns. -/
theorem BreaksAt.exists_column {document : Datum} {entity column : Nat} {error : LoadError}
    (breaks : BreaksAt document entity column error) :
    ∃ entry ∈ columnEntries document, BreaksColumn entry error := by
  obtain ⟨entities, found, entry, present, ⟨columns, under, broken, place, breaks, -⟩, -⟩ := breaks
  refine ⟨broken, ?_, breaks⟩
  rw [columnEntries, found, List.mem_flatMap]
  refine ⟨entry, List.mem_of_getElem? present, ?_⟩
  rw [under]
  exact List.mem_of_getElem? place

end Catalogue

namespace Service
namespace Session

open Catalogue (Declares BreaksAt isCatalogue columnEntries isColumnName)

/--
What a load may come to by the form of a catalogue: all that the document
declares is installed, or the members of a column do not agree with its type.
-/
inductive LoadEnds (session : Session) (document : Datum) : Session × Reply → Prop
  /-- Every entity that is declared is installed. -/
  | installed {catalogue : Catalogue} (declares : Declares document catalogue) :
      LoadEnds session document ({ session with catalogue }, .names catalogue.names)
  /-- An enumeration has no members, and nothing changes. -/
  | noMembers {entity column : Nat} {name : String}
      (breaks : BreaksAt document entity column (.noMembers name)) :
      LoadEnds session document (session, .failed (.load (.noMembers name)))
  /-- A column that is no enumeration has members, and nothing changes. -/
  | strayMembers {entity column : Nat} {name : String}
      (breaks : BreaksAt document entity column (.strayMembers name)) :
      LoadEnds session document (session, .failed (.load (.strayMembers name)))

variable {session : Session} {text : String} {document : Datum}

/-- A load of a document in the right form is decided by what the document declares. -/
theorem step_load_eq
    (content : session.file = some text)
    (documentRead : Catalogue.readDatum (Document.formatOf session.path) text = .ok document)
    (form : isCatalogue document = true) :
    session.step .load =
      match Catalogue.ofDatum document with
      | .ok catalogue => ({ session with catalogue }, .names catalogue.names)
      | .error error => (session, .failed (.load error)) := by
  have read_eq : Catalogue.read session.path session.file = Catalogue.ofDatum document := by
    rw [content]
    unfold Catalogue.read
    simp only [documentRead, (Catalogue.formFault?_eq_none document).2 form]
  cases read : Catalogue.ofDatum document <;>
    simp only [Session.step, Session.load, read_eq, read]

/-- A document that declares a catalogue is loaded. -/
theorem step_load_of_declares
    (content : session.file = some text)
    (documentRead : Catalogue.readDatum (Document.formatOf session.path) text = .ok document)
    (form : isCatalogue document = true)
    {catalogue : Catalogue} (declares : Declares document catalogue) :
    session.step .load = ({ session with catalogue }, .names catalogue.names) := by
  rw [step_load_eq content documentRead form,
    ((Catalogue.described_ofDatum form).eq_ok_iff catalogue).2 declares]

/-- A document that breaks is not loaded, and the session keeps what it had. -/
theorem step_load_of_breaksAt
    (content : session.file = some text)
    (documentRead : Catalogue.readDatum (Document.formatOf session.path) text = .ok document)
    (form : isCatalogue document = true)
    {entity column : Nat} {error : LoadError} (breaks : BreaksAt document entity column error) :
    session.step .load = (session, .failed (.load error)) := by
  rw [step_load_eq content documentRead form,
    ((Catalogue.described_ofDatum form).eq_error_iff error).2 ⟨entity, column, breaks⟩]

/-- A load ends, unless the first break is a column whose key has no upper case. -/
theorem loadEnds_or_columnNotText
    (content : session.file = some text)
    (documentRead : Catalogue.readDatum (Document.formatOf session.path) text = .ok document)
    (form : isCatalogue document = true) :
    LoadEnds session document (session.step .load) ∨
      ∃ entity column, BreaksAt document entity column .columnNotText := by
  rcases (Catalogue.described_ofDatum form).gives_or_fails with
    ⟨catalogue, declares⟩ | ⟨error, entity, column, breaks⟩
  · rw [step_load_of_declares content documentRead form declares]
    exact .inl (.installed declares)
  · rw [step_load_of_breaksAt content documentRead form breaks]
    obtain ⟨entry, -, broken⟩ := breaks.exists_column
    rcases broken.cases_error with ⟨name, rfl⟩ | ⟨name, rfl⟩ | ⟨rfl, -⟩
    · exact .inl (.noMembers breaks)
    · exact .inl (.strayMembers breaks)
    · exact .inr ⟨entity, column, breaks⟩

/-- None of the ends that the form leaves is a failure at a key. -/
theorem not_loadEnds_columnNotText :
    ¬LoadEnds session document (session, .failed (.load .columnNotText)) := by
  generalize end_eq : (session, Reply.failed (.load .columnNotText)) = result
  rintro (_ | _ | _) <;> cases congrArg Prod.snd end_eq

/--
A load of a document in the form of a catalogue fails at a key that cannot be
put in upper case, exactly where that is the first thing to break, and else
comes to one of the ends that the form leaves.  With texts and octets for keys
it always does.
-/
theorem load_ends_iff
    (content : session.file = some text)
    (documentRead : Catalogue.readDatum (Document.formatOf session.path) text = .ok document)
    (form : isCatalogue document = true) :
    (LoadEnds session document (session.step .load) ↔
      ¬∃ entity column, BreaksAt document entity column .columnNotText) ∧
    (session.step .load = (session, .failed (.load .columnNotText)) ↔
      ∃ entity column, BreaksAt document entity column .columnNotText) ∧
    ((∀ entry ∈ columnEntries document, isColumnName entry.1 = true) →
      LoadEnds session document (session.step .load)) := by
  have ends := loadEnds_or_columnNotText content documentRead form
  have fails : (∃ entity column, BreaksAt document entity column .columnNotText) →
      session.step .load = (session, .failed (.load .columnNotText)) := by
    rintro ⟨entity, column, breaks⟩
    exact step_load_of_breaksAt content documentRead form breaks
  refine ⟨⟨fun promised broken => ?_, ends.resolve_right⟩, ⟨fun failed => ?_, fails⟩, ?_⟩
  · rw [fails broken] at promised
    exact not_loadEnds_columnNotText promised
  · rw [failed] at ends
    exact ends.resolve_left not_loadEnds_columnNotText
  · intro named
    refine ends.resolve_right ?_
    rintro ⟨entity, column, breaks⟩
    obtain ⟨entry, present, broken⟩ := breaks.exists_column
    rcases broken.cases_error with ⟨_, ⟨⟩⟩ | ⟨_, ⟨⟩⟩ | ⟨-, unnamed⟩
    rw [named entry present] at unnamed
    cases unnamed

/-! ### A year as the name of a column -/

namespace Sample

/-- The session at a path before its first load, with a text in its file. -/
def written (text : String) : Session :=
  after (some "sales.yaml") [.write text]

/-- A view with one column, whose name is a number. -/
def yearText : String :=
  "entities:\n  sales:\n    view: sales\n    columns:\n      2024: NUMBER\n"

/-- A view with a column of each kind. -/
def regionText : String :=
  "entities:\n  sales:\n    view: sales\n    columns:\n      \"2024\": NUMBER\n" ++
    "      region: \x7btype: ENUM, members: [North, South]\x7d\n"

/-- What is found of a document in the form of a catalogue is found of what is read. -/
theorem exists_document {text : String} {holds : Datum → Bool}
    (found : (Catalogue.readDatum .yaml text).toOption.any
      (fun document => isCatalogue document && holds document) = true) :
    ∃ document, (written text).file = some text ∧
      Catalogue.readDatum (Document.formatOf (written text).path) text = .ok document ∧
      isCatalogue document = true ∧ holds document = true := by
  obtain ⟨document, kept, both⟩ := (Option.any_eq_true _ _).1 found
  rw [Bool.and_eq_true] at both
  refine ⟨document, rfl, ?_, both.1, both.2⟩
  have format : Document.formatOf (written text).path = .yaml := by
    rw [written, path_after]
    decide
  rw [format]
  cases documentRead : Catalogue.readDatum .yaml text with
  | error error => simp [documentRead, Except.toOption] at kept
  | ok other =>
      rw [documentRead, Except.toOption, Option.some.injEq] at kept
      rw [kept]

end Sample

/-- The form does not see the key, and the load fails at it. -/
theorem load_ends_not_year :
    ∃ document,
      (Sample.written Sample.yearText).file = some Sample.yearText ∧
      Catalogue.readDatum (Document.formatOf (Sample.written Sample.yearText).path)
        Sample.yearText = .ok document ∧
      isCatalogue document = true ∧
      (Sample.written Sample.yearText).step .load =
        (Sample.written Sample.yearText, .failed (.load .columnNotText)) ∧
      ¬LoadEnds (Sample.written Sample.yearText) document
        ((Sample.written Sample.yearText).step .load) := by
  obtain ⟨document, content, documentRead, form, breaks⟩ := @Sample.exists_document Sample.yearText
    (fun document => (Catalogue.ofDatum document).map (fun _ => ()) = .error .columnNotText)
    (by decide +kernel)
  have failed : (Sample.written Sample.yearText).step .load =
      (Sample.written Sample.yearText, .failed (.load .columnNotText)) := by
    rw [step_load_eq content documentRead form]
    cases read : Catalogue.ofDatum document with
    | ok catalogue => simp [read, Except.map] at breaks
    | error error => simpa [read, Except.map] using breaks
  refine ⟨document, content, documentRead, form, failed, ?_⟩
  rw [failed]
  exact not_loadEnds_columnNotText

/-- Between quotes the year is a text. -/
theorem load_ends_iff_quoted_year :
    ∃ document,
      (Sample.written Sample.regionText).file = some Sample.regionText ∧
      Catalogue.readDatum (Document.formatOf (Sample.written Sample.regionText).path)
        Sample.regionText = .ok document ∧
      isCatalogue document = true ∧
      (∀ entry ∈ columnEntries document, isColumnName entry.1 = true) ∧
      LoadEnds (Sample.written Sample.regionText) document
        ((Sample.written Sample.regionText).step .load) := by
  obtain ⟨document, content, documentRead, form, named⟩ := @Sample.exists_document
    Sample.regionText (fun document => (columnEntries document).all (isColumnName ·.1))
    (by decide +kernel)
  rw [List.all_eq_true] at named
  exact ⟨document, content, documentRead, form, named,
    (load_ends_iff content documentRead form).2.2 named⟩

end Session
end Service
end RowFilter
