import Mathlib.Data.List.Forall2

/-!
# Reads that are described

A read is described by what it gives and by the errors with which it fails.  A
list that is read member by member gives a list of results, or fails at its
first member that cannot be read.
-/

namespace RowFilter

/-- A read gives exactly what one property tells and fails exactly as the other tells. -/
structure Described (read : Except ε α) (gives : α → Prop) (fails : ε → Prop) : Prop where
  /-- What it gives. -/
  eq_ok_iff : ∀ result, read = .ok result ↔ gives result
  /-- The error with which it fails. -/
  eq_error_iff : ∀ error, read = .error error ↔ fails error

namespace Described

variable {ε α β : Type} {read : Except ε α} {gives : α → Prop} {fails : ε → Prop}

/-- Two properties that are right of a read describe it when one of them always applies. -/
theorem of_cases
    (ok : ∀ result, gives result → read = .ok result)
    (error : ∀ error, fails error → read = .error error)
    (total : (∃ result, gives result) ∨ ∃ error, fails error) :
    Described read gives fails := by
  constructor
  · intro result
    refine ⟨fun equal => ?_, ok result⟩
    rcases total with ⟨given, gives⟩ | ⟨fault, fails⟩
    · rw [ok given gives, Except.ok.injEq] at equal
      rwa [← equal]
    · rw [error fault fails] at equal
      cases equal
  · intro fault
    refine ⟨fun equal => ?_, error fault⟩
    rcases total with ⟨given, gives⟩ | ⟨other, fails⟩
    · rw [ok given gives] at equal
      cases equal
    · rw [error other fails, Except.error.injEq] at equal
      rwa [← equal]

/-- Every read is described by itself. -/
theorem self (read : Except ε α) : Described read (read = .ok ·) (read = .error ·) :=
  ⟨fun _ => Iff.rfl, fun _ => Iff.rfl⟩

theorem congr
    (described : Described read gives fails)
    {gives' : α → Prop} {fails' : ε → Prop}
    (gives_iff : ∀ result, gives result ↔ gives' result)
    (fails_iff : ∀ error, fails error ↔ fails' error) :
    Described read gives' fails' :=
  ⟨fun result => (described.eq_ok_iff result).trans (gives_iff result),
    fun error => (described.eq_error_iff error).trans (fails_iff error)⟩

theorem gives_or_fails (described : Described read gives fails) :
    (∃ result, gives result) ∨ ∃ error, fails error := by
  cases equal : read with
  | ok result => exact Or.inl ⟨result, (described.eq_ok_iff result).1 equal⟩
  | error error => exact Or.inr ⟨error, (described.eq_error_iff error).1 equal⟩

/-- Reads of the same description are the same. -/
theorem read_eq
    {read' : Except ε α}
    (described : Described read gives fails) (described' : Described read' gives fails) :
    read = read' := by
  rcases described.gives_or_fails with ⟨result, given⟩ | ⟨error, fault⟩
  · rw [(described.eq_ok_iff result).2 given, (described'.eq_ok_iff result).2 given]
  · rw [(described.eq_error_iff error).2 fault, (described'.eq_error_iff error).2 fault]

theorem not_fails_of_gives
    (described : Described read gives fails)
    {result : α} (given : gives result) (error : ε) :
    ¬fails error := by
  rw [← described.eq_error_iff, (described.eq_ok_iff result).2 given]
  exact nofun

theorem exists_gives_iff (described : Described read gives fails) :
    (∃ result, gives result) ↔ ∀ error, ¬fails error := by
  constructor
  · rintro ⟨result, given⟩
    exact described.not_fails_of_gives given
  · intro sound
    exact described.gives_or_fails.resolve_right fun ⟨error, fault⟩ => sound error fault

theorem map (described : Described read gives fails) (change : α → β) :
    Described (read.map change) (fun changed => ∃ result, gives result ∧ changed = change result)
      fails := by
  apply of_cases
  · rintro _ ⟨result, given, rfl⟩
    rw [(described.eq_ok_iff result).2 given, Except.map]
  · intro error fault
    rw [(described.eq_error_iff error).2 fault, Except.map]
  · rcases described.gives_or_fails with ⟨result, given⟩ | fault
    · exact Or.inl ⟨change result, result, given, rfl⟩
    · exact Or.inr fault

variable {δ : Type} {wrap : ε → δ} {next : α → Except δ β}
variable {gives' : α → β → Prop} {fails' : α → δ → Prop}

/-- A look-up has one error, for what it does not find. -/
theorem of_lookup
    (found : Option α) (missing : ε)
    (found_iff : ∀ result, found = some result ↔ gives result)
    (present : ∀ result, found = some result → read = .ok result)
    (absent : found = none → read = .error missing) :
    Described read gives (fun error => (∀ result, ¬gives result) ∧ error = missing) := by
  apply of_cases
  · intro result given
    exact present result ((found_iff result).2 given)
  · rintro _ ⟨nothing, rfl⟩
    refine absent (Option.eq_none_iff_forall_ne_some.2 fun result found_eq => ?_)
    exact nothing result ((found_iff result).1 found_eq)
  · cases look : found with
    | some result => exact Or.inl ⟨result, (found_iff result).1 look⟩
    | none =>
        refine Or.inr ⟨missing, fun result given => ?_, rfl⟩
        rw [← found_iff, look] at given
        cases given

end Described

/-! ## Lists -/

variable {ε α β : Type} {item : α} {items : List α} {error : ε}

/-- The member at a place has a fault, and every member before it is sound. -/
def FirstFault
    (sound : α → Prop) (faulty : α → ε → Prop)
    (items : List α) (place : Nat) (error : ε) : Prop :=
  ∃ item, items[place]? = some item ∧ faulty item error ∧ ∀ other ∈ items.take place, sound other

theorem exists_firstFault_cons {sound : α → Prop} {faulty : α → ε → Prop} :
    (∃ place, FirstFault sound faulty (item :: items) place error) ↔
      faulty item error ∨ sound item ∧ ∃ place, FirstFault sound faulty items place error := by
  constructor
  · rintro ⟨place, other, found, fault, before⟩
    cases place with
    | zero =>
        obtain rfl : item = other := by simpa using found
        exact Or.inl fault
    | succ place =>
        rw [List.take_succ_cons, List.forall_mem_cons] at before
        exact Or.inr ⟨before.1, place, other, by simpa using found, fault, before.2⟩
  · rintro (fault | ⟨first, place, other, found, fault, before⟩)
    · exact ⟨0, item, rfl, fault, by simp⟩
    · refine ⟨place + 1, other, by simpa using found, fault, ?_⟩
      rw [List.take_succ_cons, List.forall_mem_cons]
      exact ⟨first, before⟩

theorem Described.mapM
    {read : α → Except ε β} {gives : α → β → Prop} {fails : α → ε → Prop}
    (described : ∀ item ∈ items, Described (read item) (gives item) (fails item)) :
    Described (items.mapM read) (List.Forall₂ gives items) fun error =>
      ∃ place, FirstFault (fun item => ∃ result, gives item result) fails items place error := by
  induction items with
  | nil =>
      apply of_cases
      · rintro _ ⟨⟩
        rfl
      · rintro error ⟨place, item, found, -⟩
        simp at found
      · exact Or.inl ⟨[], .nil⟩
  | cons item items inductionHypothesis =>
      rw [List.forall_mem_cons] at described
      obtain ⟨first, rest⟩ := described
      have rest := inductionHypothesis rest
      simp only [exists_firstFault_cons]
      apply of_cases
      · rintro _ (⟨⟩ | ⟨given, others⟩)
        rw [List.mapM_cons, (first.eq_ok_iff _).2 given, (rest.eq_ok_iff _).2 others]
        rfl
      · rintro error (fault | ⟨⟨result, given⟩, fault⟩)
        · rw [List.mapM_cons, (first.eq_error_iff _).2 fault]
          rfl
        · rw [List.mapM_cons, (first.eq_ok_iff _).2 given, (rest.eq_error_iff _).2 fault]
          rfl
      · rcases first.gives_or_fails with ⟨result, given⟩ | ⟨error, fault⟩
        · rcases rest.gives_or_fails with ⟨results, others⟩ | ⟨error, fault⟩
          · exact Or.inl ⟨result :: results, .cons given others⟩
          · exact Or.inr ⟨error, Or.inr ⟨⟨result, given⟩, fault⟩⟩
        · exact Or.inr ⟨error, Or.inl fault⟩

end RowFilter
