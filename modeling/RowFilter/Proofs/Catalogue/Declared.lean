import RowFilter.Catalogue.Basic
import RowFilter.Proofs.Described
import RowFilter.Proofs.Query.Assigned

/-!
# The catalogue that a document declares

A document declares each column by its type, its members and the name of its
enumeration, and breaks off at the first column whose type and members do not
agree.  Reading a catalogue gives what the document declares, or the fault of
that column.
-/

namespace RowFilter
namespace Catalogue

/-! ## Columns -/

/-- The type of a column stands for it or under `type`. -/
def HasType (datum : Datum) (type : ColumnType) : Prop :=
  datum = .text type.name ∨ datum.get? "type" = some (.text type.name)

/-- The members of a column stand under `members`; without that entry there are none. -/
def HasMembers (datum : Datum) (members : List String) : Prop :=
  datum.get? "members" = some (.list (members.map .text)) ∨
    datum.get? "members" = none ∧ members = []

/-- An enumeration is named under `enum`; without that entry it is named like its column. -/
def HasEnumName (name : String) (datum : Datum) (enumName : String) : Prop :=
  datum.get? "enum" = some (.text enumName) ∨ datum.get? "enum" = none ∧ enumName = name

/-- What a datum declares of the column of the given name. -/
inductive DeclaresSpec (name : String) (datum : Datum) : ColumnSpec → Prop
  | enumeration {members : List String} {enumName : String}
      (typed : HasType datum .enumeration) (listed : HasMembers datum members)
      (nonempty : members ≠ []) (named : HasEnumName name datum enumName) :
      DeclaresSpec name datum { type := .enumeration, enumName := some enumName, members }
  | plain {type : ColumnType}
      (typed : HasType datum type) (other : type ≠ .enumeration) (listed : HasMembers datum []) :
      DeclaresSpec name datum { type }

/-- Why a datum declares no column: its type asks for members, or does not allow them. -/
inductive BreaksSpec (name : String) (datum : Datum) : LoadError → Prop
  | noMembers (typed : HasType datum .enumeration) (listed : HasMembers datum []) :
      BreaksSpec name datum (.noMembers name)
  | strayMembers {type : ColumnType} {members : List String}
      (typed : HasType datum type) (other : type ≠ .enumeration)
      (listed : HasMembers datum members) (nonempty : members ≠ []) :
      BreaksSpec name datum (.strayMembers name)

/-- A key names a column: as it is written, and in upper case. -/
inductive Names : Datum → String → String → Prop
  | text (name : String) : Names (.text name) name (Text.upper name)
  | octets (content : List UInt8) :
      Names (.octets content) (Text.quotedOctets content)
        (Text.quotedOctets (Text.upperOctets content))

/-- An entry declares a column under the upper-case form of its key. -/
def DeclaresColumn (entry : Datum × Datum) (column : String × ColumnSpec) : Prop :=
  ∃ name, Names entry.1 name column.1 ∧ DeclaresSpec name entry.2 column.2

/-- Why an entry declares no column. -/
inductive BreaksColumn : Datum × Datum → LoadError → Prop
  | notText {key datum : Datum} (unnamed : ∀ name upperName, ¬Names key name upperName) :
      BreaksColumn (key, datum) .columnNotText
  | spec {key datum : Datum} {name upperName : String} {error : LoadError}
      (named : Names key name upperName) (breaks : BreaksSpec name datum error) :
      BreaksColumn (key, datum) error

/-! ## Entities -/

/-- An entry declares an entity under its key. -/
structure DeclaresEntity (entry : Datum × Datum) (named : Datum × Entity) : Prop where
  /-- The key is the name of the entity. -/
  name : named.1 = entry.1
  /-- The view stands under `view`. -/
  view : entry.2.get? "view" = some (.text named.2.view)
  /-- The columns stand under `columns`, each in an entry, and are assigned in that order. -/
  columns : ∃ entries declared, entry.2.get? "columns" = some (.map entries) ∧
    List.Forall₂ DeclaresColumn entries declared ∧ named.2.columns.AreAssigned declared

/-- The column at a place is the first one of an entity that breaks. -/
def BreaksEntity (place : Nat) (entry : Datum × Datum) (error : LoadError) : Prop :=
  ∃ entries, entry.2.get? "columns" = some (.map entries) ∧
    FirstFault (fun entry => ∃ column, DeclaresColumn entry column) BreaksColumn entries place error

/-- The catalogue that a document declares, entity by entity. -/
def Declares (document : Datum) (catalogue : Catalogue) : Prop :=
  ∃ entries, document.get? "entities" = some (.map entries) ∧
    List.Forall₂ DeclaresEntity entries catalogue

/-- The first column that breaks is the one at `column` in the entity at `entity`. -/
def BreaksAt (document : Datum) (entity column : Nat) (error : LoadError) : Prop :=
  ∃ entries, document.get? "entities" = some (.map entries) ∧
    FirstFault (fun entry => ∃ named, DeclaresEntity entry named) (BreaksEntity column)
      entries entity error

/-! ## What is read of a column -/

variable {datum : Datum} {name : String} {error : LoadError}

theorem ofName?_eq_some_iff {name : String} {type : ColumnType} :
    ColumnType.ofName? name = some type ↔ name = type.name := by
  constructor
  · intro found
    have named := List.find?_some found
    exact (beq_iff_eq.1 named).symm
  · rintro rfl
    cases type <;> rfl

/-- The names of types are in upper case. -/
theorem upper_typeName (type : ColumnType) : Text.upper type.name = type.name := by
  cases type <;> decide

/-- The type that is read is the one that is declared. -/
theorem declaredType_of_hasType {type : ColumnType} (typed : HasType datum type) :
    declaredType datum = type := by
  have found : ColumnType.ofName? (Text.upper type.name) = some type := by
    rw [upper_typeName, ofName?_eq_some_iff]
  unfold declaredType
  rcases typed with rfl | under
  · simp only [found, Option.getD_some]
  · cases datum with
    | map entries => simp only [under, Option.getD_some, textOf, found]
    | _ => simp [Datum.get?] at under

/-- The members that are read are those that are declared. -/
theorem declaredMembers_of_hasMembers {members : List String} (listed : HasMembers datum members) :
    declaredMembers datum = members := by
  rcases listed with under | ⟨absent, rfl⟩
  · rw [declaredMembers, under]
    simp [textsOf, List.filterMap_map]
  · rw [declaredMembers, absent]
    rfl

/-- A column in the form declares the type that is read. -/
theorem hasType_declaredType (form : isColumn datum = true) :
    HasType datum (declaredType datum) := by
  have typed : ∃ type, HasType datum type := by
    cases datum with
    | text typeName =>
        obtain ⟨type, found⟩ := Option.isSome_iff_exists.1 form
        exact ⟨type, Or.inl (by rw [ofName?_eq_some_iff.1 found])⟩
    | map entries =>
        simp only [isColumn, Bool.and_eq_true, Option.any_eq_true] at form
        obtain ⟨⟨⟨-, under, found, isType⟩, -⟩, -⟩ := form
        cases under with
        | text typeName =>
            obtain ⟨type, named⟩ := Option.isSome_iff_exists.1 isType
            exact ⟨type, Or.inr (by rw [found, ofName?_eq_some_iff.1 named])⟩
        | _ => simp [isTypeName] at isType
    | _ => simp [isColumn] at form
  obtain ⟨type, typed⟩ := typed
  rwa [declaredType_of_hasType typed]

/-- Members in the form are texts. -/
theorem exists_texts {under : Datum} (form : areMembers under = true) :
    ∃ members : List String, under = .list (members.map .text) := by
  cases under with
  | list items =>
      simp only [areMembers, List.all_eq_true] at form
      suffices ∃ members : List String, items = members.map .text by simpa using this
      induction items with
      | nil => exact ⟨[], rfl⟩
      | cons item items inductionHypothesis =>
          rw [List.forall_mem_cons] at form
          obtain ⟨members, rfl⟩ := inductionHypothesis form.2
          cases item with
          | text member => exact ⟨member :: members, rfl⟩
          | _ => simp [isText] at form
  | _ => simp [areMembers] at form

/-- A column in the form declares the members that are read. -/
theorem hasMembers_declaredMembers (form : isColumn datum = true) :
    HasMembers datum (declaredMembers datum) := by
  have listed : ∃ members, HasMembers datum members := by
    cases datum with
    | text typeName => exact ⟨[], Or.inr ⟨rfl, rfl⟩⟩
    | map entries =>
        cases found : (Datum.map entries).get? "members" with
        | none => exact ⟨[], Or.inr ⟨found, rfl⟩⟩
        | some under =>
            simp only [isColumn, Bool.and_eq_true, found, Option.all_some] at form
            obtain ⟨members, rfl⟩ := exists_texts form.2
            exact ⟨members, Or.inl found⟩
    | _ => simp [isColumn] at form
  obtain ⟨members, listed⟩ := listed
  rwa [declaredMembers_of_hasMembers listed]

/-- The name that an enumeration is given. -/
def declaredEnumName (name : String) (datum : Datum) : String :=
  match datum.get? "enum" with
  | some given => textOf given
  | none => name

/-- A column in the form declares the enumeration name that is read. -/
theorem hasEnumName_declaredEnumName (form : isColumn datum = true) :
    HasEnumName name datum (declaredEnumName name datum) := by
  unfold declaredEnumName
  cases found : datum.get? "enum" with
  | none => exact Or.inr ⟨found, rfl⟩
  | some given =>
      cases datum with
      | map entries =>
          simp only [isColumn, Bool.and_eq_true, found, Option.all_some] at form
          cases given with
          | text enumName => exact Or.inl found
          | _ => simp [isText] at form
      | _ => simp [Datum.get?] at found

/-- The enumeration name that is read is the one that is declared. -/
theorem declaredEnumName_of_hasEnumName {enumName : String}
    (named : HasEnumName name datum enumName) :
    declaredEnumName name datum = enumName := by
  rcases named with under | ⟨absent, rfl⟩
  · rw [declaredEnumName, under]
    rfl
  · rw [declaredEnumName, absent]

/-- A column is an enumeration with its members, which may not be missing, or a type by itself. -/
theorem columnSpec_eq (name : String) (datum : Datum) :
    columnSpec name datum =
      if declaredType datum = .enumeration then
        if declaredMembers datum = [] then .error (.noMembers name)
        else .ok {
          type := .enumeration
          enumName := some (declaredEnumName name datum)
          members := declaredMembers datum }
      else if declaredMembers datum = [] then .ok { type := declaredType datum }
      else .error (.strayMembers name) :=
  rfl

/-- What a column declares is read. -/
theorem DeclaresSpec.columnSpec_eq {spec : ColumnSpec} (declares : DeclaresSpec name datum spec) :
    columnSpec name datum = .ok spec := by
  rw [Catalogue.columnSpec_eq]
  cases declares with
  | enumeration typed listed nonempty named =>
      rw [declaredType_of_hasType typed, declaredMembers_of_hasMembers listed, if_pos rfl,
        if_neg nonempty, declaredEnumName_of_hasEnumName named]
  | plain typed other listed =>
      rw [declaredType_of_hasType typed, declaredMembers_of_hasMembers listed, if_neg other,
        if_pos rfl]

/-- Where a column breaks, reading fails in the same way. -/
theorem BreaksSpec.columnSpec_eq (breaks : BreaksSpec name datum error) :
    columnSpec name datum = .error error := by
  rw [Catalogue.columnSpec_eq]
  cases breaks with
  | noMembers typed listed =>
      rw [declaredType_of_hasType typed, declaredMembers_of_hasMembers listed, if_pos rfl,
        if_pos rfl]
  | strayMembers typed other listed nonempty =>
      rw [declaredType_of_hasType typed, declaredMembers_of_hasMembers listed, if_neg other,
        if_neg nonempty]

/-- A column of the right form is read as what it declares. -/
theorem described_columnSpec (form : isColumn datum = true) (name : String) :
    Described (columnSpec name datum) (DeclaresSpec name datum) (BreaksSpec name datum) := by
  apply Described.of_cases
  · exact fun _ declares => declares.columnSpec_eq
  · exact fun _ breaks => breaks.columnSpec_eq
  · have typed := hasType_declaredType form
    have listed := hasMembers_declaredMembers form
    by_cases enumeration : declaredType datum = .enumeration
    · rw [enumeration] at typed
      by_cases none : declaredMembers datum = []
      · rw [none] at listed
        exact Or.inr ⟨_, .noMembers typed listed⟩
      · exact Or.inl ⟨_, .enumeration typed listed none (hasEnumName_declaredEnumName form)⟩
    · by_cases none : declaredMembers datum = []
      · rw [none] at listed
        exact Or.inl ⟨_, .plain typed enumeration listed⟩
      · exact Or.inr ⟨_, .strayMembers typed enumeration listed none⟩

/-- The key of a column has the names that it is declared under. -/
theorem columnNames?_eq_some_iff {key : Datum} {name upperName : String} :
    columnNames? key = some (name, upperName) ↔ Names key name upperName := by
  constructor
  · intro named
    cases key with
    | text content =>
        simp only [columnNames?, Option.some.injEq, Prod.mk.injEq] at named
        obtain ⟨rfl, rfl⟩ := named
        exact .text content
    | octets content =>
        simp only [columnNames?, Option.some.injEq, Prod.mk.injEq] at named
        obtain ⟨rfl, rfl⟩ := named
        exact .octets content
    | _ => simp [columnNames?] at named
  · intro names
    cases names <;> rfl

/-- A key without an upper case names no column. -/
theorem columnNames?_eq_none_iff {key : Datum} :
    columnNames? key = none ↔ ∀ name upperName, ¬Names key name upperName := by
  simp only [← columnNames?_eq_some_iff, Option.eq_none_iff_forall_ne_some, Prod.forall, ne_eq]

/-- The column of one entry. -/
def column (entry : Datum × Datum) : Except LoadError (String × ColumnSpec) :=
  match columnNames? entry.1 with
  | none => .error .columnNotText
  | some (name, upperName) => (columnSpec name entry.2).map fun spec => (upperName, spec)

/-- A column in the form is what it declares, or breaks as it is described. -/
theorem described_column {entry : Datum × Datum} (form : isColumn entry.2 = true) :
    Described (column entry) (DeclaresColumn entry) (BreaksColumn entry) := by
  obtain ⟨key, datum⟩ := entry
  unfold column
  apply Described.of_cases
  · rintro ⟨upperName, spec⟩ ⟨name, named, declares⟩
    simp only [columnNames?_eq_some_iff.2 named, declares.columnSpec_eq, Except.map]
  · rintro error breaks
    cases breaks with
    | notText unnamed => simp only [columnNames?_eq_none_iff.2 unnamed]
    | spec named breaks =>
        simp only [columnNames?_eq_some_iff.2 named, breaks.columnSpec_eq, Except.map]
  · cases named : columnNames? key with
    | none => exact Or.inr ⟨_, .notText (columnNames?_eq_none_iff.1 named)⟩
    | some names =>
        have named := columnNames?_eq_some_iff.1 named
        rcases (described_columnSpec form names.1).gives_or_fails with
          ⟨spec, declares⟩ | ⟨error, breaks⟩
        · exact Or.inl ⟨(names.2, spec), names.1, named, declares⟩
        · exact Or.inr ⟨error, .spec named breaks⟩

/-! ## What is read of an entity -/

/-- The columns of entries are read one after the other and assigned in that order. -/
theorem columnsFrom_eq (columns : Columns) (entries : List (Datum × Datum)) :
    columnsFrom columns entries =
      (entries.mapM column).map fun declared =>
        declared.foldl (fun columns entry => columns.insert entry.1 entry.2) columns := by
  -- The columns of earlier entries are already assigned, so they vary in the induction.
  induction entries generalizing columns with
  | nil => rfl
  | cons entry entries inductionHypothesis =>
      obtain ⟨key, datum⟩ := entry
      rw [columnsFrom, List.mapM_cons, column]
      cases columnNames? key with
      | none => rfl
      | some names =>
          obtain ⟨name, upperName⟩ := names
          cases read : columnSpec name datum with
          | error error => simp only [read]; rfl
          | ok spec =>
              simp only [read, inductionHypothesis]
              cases entries.mapM column <;> rfl

/-- Columns in the form are a mapping of columns in the form. -/
theorem exists_map_of_areColumns {under : Datum} (form : areColumns under = true) :
    ∃ entries, under = .map entries ∧ ∀ entry ∈ entries, isColumn entry.2 = true := by
  cases under with
  | map entries => exact ⟨entries, rfl, List.all_eq_true.1 form⟩
  | _ => simp [areColumns] at form

/-- A name in the form is a text that is not empty. -/
theorem exists_text_of_isName {under : Datum} (form : isName under = true) :
    ∃ name, under = .text name ∧ name ≠ "" := by
  cases under with
  | text name => exact ⟨name, rfl, of_decide_eq_true form⟩
  | _ => simp [isName] at form

/-- The parts of an entity of the right form. -/
theorem exists_parts_of_isEntity (form : isEntity datum = true) :
    ∃ view entries, datum.get? "view" = some (.text view) ∧ view ≠ "" ∧
      datum.get? "columns" = some (.map entries) ∧ ∀ entry ∈ entries, isColumn entry.2 = true := by
  cases datum with
  | map parts =>
      simp only [isEntity, Bool.and_eq_true, Option.any_eq_true] at form
      obtain ⟨⟨-, viewDatum, viewFound, isName⟩, columnsDatum, columnsFound, areColumns⟩ := form
      obtain ⟨view, rfl, nonempty⟩ := exists_text_of_isName isName
      obtain ⟨entries, rfl, columns⟩ := exists_map_of_areColumns areColumns
      exact ⟨view, entries, viewFound, nonempty, columnsFound, columns⟩
  | _ => simp [isEntity] at form

/-- An entity of the right form is read as what it declares. -/
theorem described_entity {entry : Datum × Datum} (form : isEntity entry.2 = true) :
    Described ((entity entry.2).map fun entity => (entry.1, entity)) (DeclaresEntity entry)
      fun error => ∃ place, BreaksEntity place entry error := by
  obtain ⟨view, entries, viewFound, -, columnsFound, columns⟩ := exists_parts_of_isEntity form
  have entity_eq : ((entity entry.2).map fun entity => (entry.1, entity)) =
      (entries.mapM column).map fun declared =>
        (entry.1, { view, columns := Columns.ofList declared }) := by
    rw [entity, viewFound, columnsFound]
    simp only [Option.getD_some, entriesOf, textOf, columnsFrom_eq]
    cases entries.mapM column <;> rfl
  have described := (Described.mapM fun entry member => described_column (columns entry member)).map
    fun declared => (entry.1, ({ view, columns := Columns.ofList declared } : Entity))
  rw [entity_eq]
  apply described.congr
  · intro named
    constructor
    · rintro ⟨declared, pairs, rfl⟩
      exact ⟨rfl, viewFound, entries, declared, columnsFound, pairs, Columns.areAssigned_ofList _⟩
    · rintro ⟨name_eq, viewFound', entries', declared, columnsFound', pairs, assigned⟩
      rw [viewFound, Option.some.injEq, Datum.text.injEq] at viewFound'
      rw [columnsFound, Option.some.injEq, Datum.map.injEq] at columnsFound'
      subst columnsFound'
      refine ⟨declared, pairs, ?_⟩
      rw [viewFound', ← name_eq, ← Columns.areAssigned_iff.1 assigned]
  · intro error
    simp only [BreaksEntity, columnsFound, Option.some.injEq, Datum.map.injEq, exists_eq_left']

/-! ## What is read of a document -/

/-- Entities are read one after the other, each under its own key. -/
theorem entities_eq (entries : List (Datum × Datum)) :
    entities entries =
      entries.mapM fun entry => (entity entry.2).map fun entity => (entry.1, entity) := by
  induction entries with
  | nil => rfl
  | cons entry entries inductionHypothesis =>
      rw [entities, List.mapM_cons, inductionHypothesis]
      cases entity entry.2 with
      | error error => rfl
      | ok first =>
          generalize (entries.mapM fun entry =>
            (entity entry.2).map fun entity => (entry.1, entity)) = others
          cases others <;> rfl

/-- A document in the form of a catalogue has entities, each in the form of one. -/
theorem exists_map_of_isCatalogue {document : Datum} (form : isCatalogue document = true) :
    ∃ entries, document.get? "entities" = some (.map entries) ∧
      ∀ entry ∈ entries, isEntity entry.2 = true := by
  cases document with
  | map parts =>
      obtain ⟨under, found, areEntities⟩ := (Option.any_eq_true _ _).1 form
      cases under with
      | map entries => exact ⟨entries, found, List.all_eq_true.1 areEntities⟩
      | _ => simp [Catalogue.areEntities] at areEntities
  | _ => simp [isCatalogue] at form

/-- A document in the form of a catalogue is read as what it declares. -/
theorem described_ofDatum {document : Datum} (form : isCatalogue document = true) :
    Described (ofDatum document) (Declares document)
      fun error => ∃ entity column, BreaksAt document entity column error := by
  obtain ⟨entries, found, forms⟩ := exists_map_of_isCatalogue form
  have ofDatum_eq : ofDatum document = entities entries := by
    rw [ofDatum, found]
    rfl
  rw [ofDatum_eq, entities_eq]
  apply (Described.mapM fun entry member => described_entity (forms entry member)).congr
  · intro catalogue
    simp only [Declares, found, Option.some.injEq, Datum.map.injEq, exists_eq_left']
  · -- The place of the column is known only after that of its entity.
    intro error
    simp only [BreaksAt, found, Option.some.injEq, Datum.map.injEq, exists_eq_left']
    constructor
    · rintro ⟨entity, entry, present, ⟨column, breaks⟩, before⟩
      exact ⟨entity, column, entry, present, breaks, before⟩
    · rintro ⟨entity, column, entry, present, breaks, before⟩
      exact ⟨entity, entry, present, ⟨column, breaks⟩, before⟩

/-! ## What is read of a file -/

/-- The text of a file at the given path declares a catalogue. -/
def DeclaresIn (path text : String) (catalogue : Catalogue) : Prop :=
  ∃ document, readDatum (Document.formatOf path) text = .ok document ∧
    isCatalogue document = true ∧ Declares document catalogue

/-- Why the file at a path cannot be loaded. -/
inductive FailsAt (path : String) : Option String → LoadError → Prop
  /-- There is no file. -/
  | missing : FailsAt path none (.missing path)
  /-- The text cannot be read. -/
  | unreadable {text : String} {error : LoadError}
      (unread : readDatum (Document.formatOf path) text = .error error) :
      FailsAt path (some text) error
  /-- The document does not have the form of a catalogue. -/
  | misshapen {text : String} {document : Datum} {fault : FormFault}
      (read : readDatum (Document.formatOf path) text = .ok document)
      (found : formFault? document = some fault) :
      FailsAt path (some text) (formError path fault)
  /-- A column of an entity breaks, at the places that are given. -/
  | column {text : String} {document : Datum} {error : LoadError} (entity column : Nat)
      (read : readDatum (Document.formatOf path) text = .ok document)
      (form : isCatalogue document = true) (breaks : BreaksAt document entity column error) :
      FailsAt path (some text) error

/-- A file is read as the catalogue that its text declares, and fails at its first fault. -/
theorem described_read (path : String) (file : Option String) :
    Described (read path file)
      (fun catalogue => ∃ text, file = some text ∧ DeclaresIn path text catalogue)
      (FailsAt path file) := by
  unfold Catalogue.read
  apply Described.of_cases
  · rintro catalogue ⟨text, rfl, document, documentRead, form, declares⟩
    simp only [documentRead, (formFault?_eq_none document).2 form]
    exact ((described_ofDatum form).eq_ok_iff catalogue).2 declares
  · intro error fails
    cases fails with
    | missing => rfl
    | unreadable unread => simp only [unread]
    | misshapen documentRead found => simp only [documentRead, found]
    | column entity column documentRead form breaks =>
        simp only [documentRead, (formFault?_eq_none _).2 form]
        exact ((described_ofDatum form).eq_error_iff error).2 ⟨entity, column, breaks⟩
  · cases file with
    | none => exact Or.inr ⟨_, .missing⟩
    | some text =>
        cases documentRead : readDatum (Document.formatOf path) text with
        | error error => exact Or.inr ⟨error, .unreadable documentRead⟩
        | ok document =>
            cases found : formFault? document with
            | some fault => exact Or.inr ⟨_, .misshapen documentRead found⟩
            | none =>
                have form := (formFault?_eq_none document).1 found
                rcases (described_ofDatum form).gives_or_fails with
                  ⟨catalogue, declares⟩ | ⟨error, entity, column, breaks⟩
                · exact Or.inl ⟨catalogue, text, rfl, document, documentRead, form, declares⟩
                · exact Or.inr ⟨error, .column entity column documentRead form breaks⟩

/-- A file that fails declares nothing. -/
theorem FailsAt.not_declaresIn {path text : String} {file : Option String} {error : LoadError}
    {catalogue : Catalogue} (fails : FailsAt path file error) (content : file = some text) :
    ¬DeclaresIn path text catalogue := fun declares =>
  (described_read path file).not_fails_of_gives ⟨text, content, declares⟩ error fails

/-- A text declares one catalogue at most. -/
theorem DeclaresIn.unique {path text : String} {catalogue other : Catalogue}
    (declares : DeclaresIn path text catalogue) (declares' : DeclaresIn path text other) :
    catalogue = other := by
  have described := described_read path (some text)
  have read := (described.eq_ok_iff catalogue).2 ⟨text, rfl, declares⟩
  rwa [(described.eq_ok_iff other).2 ⟨text, rfl, declares'⟩, Except.ok.injEq, eq_comm] at read

end Catalogue
end RowFilter
