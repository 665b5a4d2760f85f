import RowFilter.Proofs.Catalogue.Normal
import RowFilter.Service.Session

/-!
# What a session has loaded

After any steps a session holds the catalogue of its last load that succeeded.
One step is compared with the history that ends before it; a run follows by
induction on its steps, with the last one taken off.
-/

namespace RowFilter
namespace Service

open Catalogue (DeclaresIn FailsAt)

/-- The steps that load the file. -/
def Step.isLoad : Step → Bool
  | .load | .refresh | .reload => true
  | _ => false

/-- The content of the file after a step. -/
def Step.contentAfter (file : Option String) : Step → Option String
  | .write text => some text
  | .delete => none
  | _ => file

/-- The answers that tell of a failure. -/
def Reply.isFailure : Reply → Bool
  | .failed _ | .rejected _ => true
  | _ => false

/-! ## One step -/

namespace Session

variable {session : Session} {step : Step}

/-- A step that loads nothing changes the content of the file at most. -/
theorem step_of_not_isLoad (session : Session) (other : step.isLoad = false) :
    (session.step step).1 = { session with file := step.contentAfter session.file } := by
  cases step with
  | load | refresh | reload => cases other
  | write | delete | resolve | names | entities => rfl
  | entity | reference | parse | query =>
      simp only [Session.step, Step.contentAfter]
      split <;> rfl

theorem contentAfter_of_isLoad (load : step.isLoad = true) (file : Option String) :
    step.contentAfter file = file := by
  cases step with
  | load | refresh | reload => rfl
  | _ => cases load

/-- All steps that load do the same, apart from what they answer. -/
theorem exists_step_eq_load (session : Session) (load : step.isLoad = true) :
    ∃ succeed fail, session.step step = session.load succeed fail ∧
      (∀ catalogue, (succeed catalogue).isFailure = false) ∧
      ∀ error, (fail error).isFailure = true := by
  cases step with
  | load | refresh | reload => exact ⟨_, _, rfl, fun _ => rfl, fun _ => rfl⟩
  | _ => cases load

/--
What a step does: it sets the content of the file, loads the catalogue that the
file declares, or fails to load it and leaves everything as it was.
-/
theorem step_cases (session : Session) (step : Step) :
    (step.isLoad = false ∧
        (session.step step).1 = { session with file := step.contentAfter session.file }) ∨
      (step.isLoad = true ∧ ∃ text catalogue,
        session.file = some text ∧ DeclaresIn session.path text catalogue ∧
          (session.step step).1 = { session with catalogue } ∧
          (session.step step).2.isFailure = false) ∨
      (step.isLoad = true ∧ (∃ error, FailsAt session.path session.file error) ∧
        (session.step step).1 = session ∧ (session.step step).2.isFailure = true) := by
  cases load : step.isLoad with
  | false => exact Or.inl ⟨rfl, step_of_not_isLoad session load⟩
  | true =>
      obtain ⟨succeed, fail, step_eq, success, failure⟩ := exists_step_eq_load session load
      have described := Catalogue.described_read session.path session.file
      rw [step_eq, Session.load]
      cases read : Catalogue.read session.path session.file with
      | ok catalogue =>
          obtain ⟨text, content, declares⟩ := (described.eq_ok_iff catalogue).1 read
          exact Or.inr (Or.inl ⟨rfl, text, catalogue, content, declares, rfl, success catalogue⟩)
      | error error =>
          have fails := (described.eq_error_iff error).1 read
          exact Or.inr (Or.inr ⟨rfl, ⟨error, fails⟩, rfl, failure error⟩)

/-- No step changes the path. -/
theorem step_path (session : Session) (step : Step) :
    (session.step step).1.path = session.path := by
  rcases step_cases session step with
    ⟨-, next⟩ | ⟨-, text, catalogue, -, -, next, -⟩ | ⟨-, -, next, -⟩
  · rw [next]
  · rw [next]
  · rw [next]

/-- A step changes the file as it says, and only so. -/
theorem step_file (session : Session) (step : Step) :
    (session.step step).1.file = step.contentAfter session.file := by
  rcases step_cases session step with
    ⟨-, next⟩ | ⟨load, text, catalogue, -, -, next, -⟩ | ⟨load, -, next, -⟩
  · rw [next]
  · rw [next, contentAfter_of_isLoad load]
  · rw [next, contentAfter_of_isLoad load]

theorem run_append_singleton (session : Session) (steps : List Step) (step : Step) :
    (session.run (steps ++ [step])).1 = ((session.run steps).1.step step).1 := by
  induction steps generalizing session with
  | nil => rfl
  | cons first steps inductionHypothesis => exact inductionHypothesis (session.step first).1

end Session

/-! ## Histories -/

/-- The content of the file after steps, where there was none before. -/
def contentAfter (steps : List Step) : Option String :=
  steps.foldl Step.contentAfter none

/-- The step at a place loads a file that declares a catalogue. -/
def LoadsAt (path : String) (steps : List Step) (place : Nat) (catalogue : Catalogue) : Prop :=
  (∃ step, steps[place]? = some step ∧ step.isLoad = true) ∧
    ∃ text, contentAfter (steps.take place) = some text ∧ DeclaresIn path text catalogue

/-- The catalogue of the last load that succeeded; without one it has no entities. -/
inductive LastLoaded (path : String) (steps : List Step) : Catalogue → Prop
  | never (none : ∀ place catalogue, ¬LoadsAt path steps place catalogue) :
      LastLoaded path steps []
  | loaded {catalogue : Catalogue} (place : Nat) (loads : LoadsAt path steps place catalogue)
      (last : ∀ later other, LoadsAt path steps later other → later ≤ place) :
      LastLoaded path steps catalogue

variable {path : String} {steps : List Step} {step : Step} {catalogue : Catalogue}

/-- One step more loads at the old places, or at its own. -/
theorem loadsAt_append_singleton_iff {place : Nat} :
    LoadsAt path (steps ++ [step]) place catalogue ↔
      LoadsAt path steps place catalogue ∨
        place = steps.length ∧ step.isLoad = true ∧
          ∃ text, contentAfter steps = some text ∧ DeclaresIn path text catalogue := by
  unfold LoadsAt
  -- Before the end nothing changes, at the end stands the new step, and behind it nothing.
  rcases Nat.lt_trichotomy place steps.length with before | rfl | behind
  · rw [List.getElem?_append_left before, List.take_append_of_le_length (Nat.le_of_lt before)]
    simp [Nat.ne_of_lt before]
  · simp
  · rw [List.getElem?_eq_none (by simp; omega), List.getElem?_eq_none (by omega)]
    simp [Nat.ne_of_gt behind]

theorem LoadsAt.lt_length {place : Nat} (loads : LoadsAt path steps place catalogue) :
    place < steps.length := by
  obtain ⟨⟨step, present, -⟩, -⟩ := loads
  exact (List.getElem?_eq_some_iff.1 present).1

/-- One step loads one catalogue. -/
theorem LoadsAt.unique {place : Nat} {other : Catalogue}
    (loads : LoadsAt path steps place catalogue) (loads' : LoadsAt path steps place other) :
    catalogue = other := by
  obtain ⟨-, text, content, declares⟩ := loads
  obtain ⟨-, text', content', declares'⟩ := loads'
  rw [content, Option.some.injEq] at content'
  subst content'
  exact declares.unique declares'

/-- A load that succeeds is the last one. -/
theorem lastLoaded_append_of_declaresIn
    (load : step.isLoad = true)
    {text : String}
    (content : contentAfter steps = some text)
    (declares : DeclaresIn path text catalogue) :
    LastLoaded path (steps ++ [step]) catalogue := by
  refine .loaded steps.length
    (loadsAt_append_singleton_iff.2 (Or.inr ⟨rfl, load, text, content, declares⟩)) ?_
  intro later other loads
  have := loads.lt_length
  rw [List.length_append, List.length_singleton] at this
  omega

/-- A step that loads nothing leaves the last load as it was. -/
theorem LastLoaded.append
    (lastLoaded : LastLoaded path steps catalogue)
    (nothing : step.isLoad = true → ∀ text other,
      contentAfter steps = some text → ¬DeclaresIn path text other) :
    LastLoaded path (steps ++ [step]) catalogue := by
  have earlier {place : Nat} {other : Catalogue} :
      LoadsAt path (steps ++ [step]) place other ↔ LoadsAt path steps place other := by
    rw [loadsAt_append_singleton_iff, or_iff_left]
    rintro ⟨-, load, text, content, declares⟩
    exact nothing load text other content declares
  cases lastLoaded with
  | never none => exact .never fun place other loads => none place other (earlier.1 loads)
  | loaded place loads last =>
      refine .loaded place (earlier.2 loads) fun later other loads => ?_
      exact last later other (earlier.1 loads)

/-- The catalogue that was loaded last is in normal form. -/
theorem LastLoaded.isNormal (lastLoaded : LastLoaded path steps catalogue) :
    ∀ named ∈ catalogue, named.2.IsNormal := by
  cases lastLoaded with
  | never => exact fun _ member => absurd member List.not_mem_nil
  | loaded _ loads _ =>
      obtain ⟨-, text, -, document, -, form, declares⟩ := loads
      exact declares.isNormal form

/-- A history has one last load. -/
theorem LastLoaded.unique {other : Catalogue}
    (lastLoaded : LastLoaded path steps catalogue)
    (lastLoaded' : LastLoaded path steps other) :
    catalogue = other := by
  cases lastLoaded with
  | never none =>
      cases lastLoaded' with
      | never => rfl
      | loaded place' loads' _ => exact absurd loads' (none place' other)
  | loaded place loads last =>
      cases lastLoaded' with
      | never none' => exact absurd loads (none' place catalogue)
      | loaded place' loads' last' =>
          obtain rfl := Nat.le_antisymm (last' place catalogue loads) (last place' other loads')
          exact loads.unique loads'

/-! ## Runs -/

namespace Session

/-- What a step does to the last load that succeeded. -/
theorem lastLoaded_step
    {session : Session}
    (lastLoaded : LastLoaded session.path steps session.catalogue)
    (content : session.file = contentAfter steps)
    (step : Step) :
    LastLoaded session.path (steps ++ [step]) (session.step step).1.catalogue := by
  rcases step_cases session step with
    ⟨other, next⟩ | ⟨load, text, catalogue, found, declares, next, -⟩ | ⟨-, ⟨error, fails⟩, next, -⟩
  · rw [next]
    exact lastLoaded.append fun load => absurd load (by simp [other])
  · rw [next]
    exact lastLoaded_append_of_declaresIn load (content.symm.trans found) declares
  · rw [next]
    refine lastLoaded.append fun _ text other found declares => ?_
    exact fails.not_declaresIn (content.trans found) declares

/-- The session at a path after steps. -/
def after (path : Option String) (steps : List Step) : Session :=
  ((start path).run steps).1

theorem after_append_singleton (path : Option String) (steps : List Step) (step : Step) :
    after path (steps ++ [step]) = ((after path steps).step step).1 :=
  run_append_singleton (start path) steps step

theorem path_after (path : Option String) (steps : List Step) :
    (after path steps).path = (start path).path := by
  induction steps using List.reverseRecOn with
  | nil => rfl
  | append_singleton steps step inductionHypothesis =>
      rw [after_append_singleton, step_path, inductionHypothesis]

theorem file_after (path : Option String) (steps : List Step) :
    (after path steps).file = contentAfter steps := by
  induction steps using List.reverseRecOn with
  | nil => cases path <;> rfl
  | append_singleton steps step inductionHypothesis =>
      rw [after_append_singleton, step_file, inductionHypothesis, contentAfter, contentAfter,
        List.foldl_append, List.foldl_cons, List.foldl_nil]

/-- What a session holds is what was loaded last, by induction on its steps. -/
theorem lastLoaded_after (path : Option String) (steps : List Step) :
    LastLoaded (start path).path steps (after path steps).catalogue := by
  induction steps using List.reverseRecOn with
  | nil =>
      have empty : (after path []).catalogue = [] := by cases path <;> rfl
      rw [empty]
      exact .never fun _ _ loads => absurd loads.lt_length (Nat.not_lt_zero _)
  | append_singleton steps step inductionHypothesis =>
      rw [after_append_singleton, ← path_after path steps]
      rw [← path_after path steps] at inductionHypothesis
      exact lastLoaded_step inductionHypothesis (file_after path steps) step

/--
After any steps a session holds what the last load that succeeded has found, in
normal form.  A load answers with a failure exactly where the file fails, and
such a load leaves the session as it was.
-/
theorem after_holds_last_loaded (path : Option String) (steps : List Step) :
    (∀ catalogue, (after path steps).catalogue = catalogue ↔
      LastLoaded (start path).path steps catalogue) ∧
      (∀ step, step.isLoad = true →
        (((after path steps).step step).2.isFailure = true ↔
          ∃ error, FailsAt (start path).path (contentAfter steps) error) ∧
        (((after path steps).step step).2.isFailure = true →
          ((after path steps).step step).1 = after path steps)) ∧
      ∀ named ∈ (after path steps).catalogue, named.2.IsNormal := by
  have lastLoaded := lastLoaded_after path steps
  refine ⟨fun catalogue => ⟨?_, lastLoaded.unique⟩, ?_, lastLoaded.isNormal⟩
  · rintro rfl
    exact lastLoaded
  · intro step load
    rw [← file_after path steps, ← path_after path steps]
    rcases step_cases (after path steps) step with
      ⟨other, -⟩ | ⟨-, text, catalogue, content, declares, -, success⟩ | ⟨-, fails, next, failure⟩
    · exact absurd load (by simp [other])
    · have sound : ¬∃ error, FailsAt (after path steps).path (after path steps).file error := by
        rintro ⟨error, fails⟩
        exact fails.not_declaresIn content declares
      rw [success]
      exact ⟨iff_of_false Bool.false_ne_true sound, nofun⟩
    · exact ⟨iff_of_true failure fails, fun _ => next⟩

end Session
end Service
end RowFilter
