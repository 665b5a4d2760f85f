import RowFilter.Proofs.Described
import RowFilter.Proofs.Pairs
import RowFilter.Proofs.Query.Rules
import RowFilter.Query.Tree

/-!
# The meaning of compiled filters

Compilation gives every filter one predicate.  However predicates are
evaluated, the predicate of a list of filters holds exactly when all filters
but the searches hold, and some search where there are searches.  The trees of
the free backend show that no predicate is lost, repeated or moved past another
one of its group.
-/

namespace RowFilter

variable {Expression Predicate : Type}
variable {backend : Backend Expression Predicate} {resolve : Resolver Expression}

/-- All filters but the searches are met, and some search where there are searches. -/
def Satisfied (met : Filter → Prop) (filters : List Filter) : Prop :=
  (∀ filter ∈ filters, filter.isSearch = false → met filter) ∧
    ((∃ filter ∈ filters, filter.isSearch = true) →
      ∃ filter ∈ filters, filter.isSearch = true ∧ met filter)

/-! ## One conjunct for each filter -/

/-- A conjunct holds the predicate of a filter and tells whether the filter is a search. -/
structure IsConjunct (backend : Backend Expression Predicate) (resolve : Resolver Expression)
    (filter : Filter) (conjunct : Conjunct Predicate) : Prop where
  /-- The filter compiles to the predicate. -/
  compiles : CompilesTo backend resolve filter conjunct.predicate
  /-- The group is that of the filter. -/
  isSearch_eq : conjunct.isSearch = filter.isSearch

/-- The conjunct of a filter, or the error for which it has none. -/
def conjunct (backend : Backend Expression Predicate) (resolve : Resolver Expression)
    (filter : Filter) : Except FilterError (Conjunct Predicate) :=
  (compileFilter backend resolve filter).map fun compiled =>
    { isSearch := filter.isSearch, predicate := compiled.predicate }

/-- A filter becomes the predicate that it compiles to, marked if it is a search. -/
theorem conjunct_eq_ok_iff {filter : Filter} {result : Conjunct Predicate} :
    conjunct backend resolve filter = .ok result ↔ IsConjunct backend resolve filter result := by
  rw [conjunct]
  constructor
  · intro compiles
    cases outcome : compileFilter backend resolve filter with
    | error error => simp [outcome, Except.map] at compiles
    | ok compiled =>
        simp only [outcome, Except.map, Except.ok.injEq] at compiles
        subst compiles
        exact ⟨⟨compiled.warning, outcome⟩, rfl⟩
  · rintro ⟨⟨warning, compiled⟩, isSearch_eq⟩
    rw [compiled, Except.map, ← isSearch_eq]

/-- Filters are compiled one by one. -/
theorem compileEach_outcome_eq_mapM (filters : List Filter) :
    (compileEach backend resolve filters).outcome = filters.mapM (conjunct backend resolve) := by
  induction filters with
  | nil => rfl
  | cons filter filters inductionHypothesis =>
      rw [compileEach, List.mapM_cons, conjunct, ← inductionHypothesis]
      cases compileFilter backend resolve filter with
      | error error => rfl
      | ok compiled =>
          cases rest : (compileEach backend resolve filters).outcome with
          | error error =>
              simp only [rest]
              rfl
          | ok conjuncts =>
              simp only [rest]
              rfl

/-- Filters become conjuncts exactly when each of them compiles. -/
theorem compileEach_outcome_eq_ok_iff
    {filters : List Filter} {conjuncts : List (Conjunct Predicate)} :
    (compileEach backend resolve filters).outcome = .ok conjuncts ↔
      List.Forall₂ (IsConjunct backend resolve) filters conjuncts := by
  have each : Described (filters.mapM (conjunct backend resolve)) _ _ :=
    .mapM fun filter _ => .self (conjunct backend resolve filter)
  simp only [compileEach_outcome_eq_mapM, each.eq_ok_iff, conjunct_eq_ok_iff]

theorem exists_forall₂_isConjunct
    {filters : List Filter}
    (compile : ∀ filter ∈ filters, ∃ predicate, CompilesTo backend resolve filter predicate) :
    ∃ conjuncts, List.Forall₂ (IsConjunct backend resolve) filters conjuncts := by
  induction filters with
  | nil => exact ⟨[], .nil⟩
  | cons filter filters inductionHypothesis =>
      rw [List.forall_mem_cons] at compile
      obtain ⟨predicate, first⟩ := compile.1
      obtain ⟨conjuncts, pairs⟩ := inductionHypothesis compile.2
      exact ⟨⟨filter.isSearch, predicate⟩ :: conjuncts, .cons ⟨first, rfl⟩ pairs⟩

/-- Compilation succeeds with what is assembled from the conjuncts of all filters. -/
theorem compile_outcome_eq
    {filters : List Filter} {conjuncts : List (Conjunct Predicate)}
    (pairs : List.Forall₂ (IsConjunct backend resolve) filters conjuncts) :
    (compile backend resolve filters).outcome = .ok (assemble? backend conjuncts) := by
  rw [compile, compileEach_outcome_eq_ok_iff.2 pairs, Except.map]

/-- What filters compile to is assembled from their conjuncts. -/
theorem compile_outcome_eq_ok_iff
    {filters : List Filter} {predicate? : Option Predicate} :
    (compile backend resolve filters).outcome = .ok predicate? ↔
      ∃ conjuncts, List.Forall₂ (IsConjunct backend resolve) filters conjuncts ∧
        assemble? backend conjuncts = predicate? := by
  constructor
  · intro compiled
    cases outcome : (compileEach backend resolve filters).outcome with
    | error error => simp [compile, outcome, Except.map] at compiled
    | ok conjuncts =>
        refine ⟨conjuncts, compileEach_outcome_eq_ok_iff.1 outcome, ?_⟩
        simpa [compile, outcome, Except.map] using compiled
  · rintro ⟨conjuncts, pairs, rfl⟩
    exact compile_outcome_eq pairs

/-! ## The two groups -/

theorem forall₂_plainPredicates
    {filters : List Filter} {conjuncts : List (Conjunct Predicate)}
    (pairs : List.Forall₂ (IsConjunct backend resolve) filters conjuncts) :
    List.Forall₂ (CompilesTo backend resolve)
      (filters.filter fun filter => !filter.isSearch) (plainPredicates conjuncts) := by
  rw [plainPredicates, List.forall₂_map_right_iff]
  refine (List.rel_filter ?_ pairs).imp fun _ _ isConjunct => isConjunct.compiles
  intro filter conjunct isConjunct
  simp only [isConjunct.isSearch_eq]

theorem forall₂_searchPredicates
    {filters : List Filter} {conjuncts : List (Conjunct Predicate)}
    (pairs : List.Forall₂ (IsConjunct backend resolve) filters conjuncts) :
    List.Forall₂ (CompilesTo backend resolve)
      (filters.filter Filter.isSearch) (searchPredicates conjuncts) := by
  rw [searchPredicates, List.forall₂_map_right_iff]
  refine (List.rel_filter ?_ pairs).imp fun _ _ isConjunct => isConjunct.compiles
  intro filter conjunct isConjunct
  simp only [isConjunct.isSearch_eq]

/-! ## What both ways of joining preserve -/

/-- What joining keeps and each predicate has, the joined predicate has. -/
theorem joinAll?_induction
    {good : Predicate → Prop} {combine : Predicate → Predicate → Predicate}
    (step : ∀ left right, good left → good right → good (combine left right))
    {predicates : List Predicate} {joined : Predicate}
    (join : joinAll? combine predicates = some joined)
    (each : ∀ predicate ∈ predicates, good predicate) :
    good joined := by
  cases predicates with
  | nil => cases join
  | cons first others =>
      cases join
      rw [List.forall_mem_cons] at each
      exact List.foldlRecOn others combine each.1
        fun present goodPresent next member => step present next goodPresent (each.2 next member)

/-- What both ways of joining keep and each conjunct has, the assembled predicate has. -/
theorem assemble?_induction
    {good : Predicate → Prop}
    (both : ∀ left right, good left → good right → good (backend.both left right))
    (either : ∀ left right, good left → good right → good (backend.either left right))
    {conjuncts : List (Conjunct Predicate)} {assembled : Predicate}
    (assembles : assemble? backend conjuncts = some assembled)
    (each : ∀ conjunct ∈ conjuncts, good conjunct.predicate) :
    good assembled := by
  refine joinAll?_induction both assembles ?_
  intro predicate member
  rcases List.mem_append.1 member with plain | group
  · obtain ⟨conjunct, present, rfl⟩ := List.mem_map.1 plain
    exact each conjunct (List.mem_of_mem_filter present)
  · refine joinAll?_induction either (Option.mem_toList.1 group) ?_
    intro search searchMember
    obtain ⟨conjunct, present, rfl⟩ := List.mem_map.1 searchMember
    exact each conjunct (List.mem_of_mem_filter present)

/-! ## Assembling images of predicates -/

/-- The conjunct with the image of its predicate. -/
def Conjunct.map {Image : Type} (image : Predicate → Image) (conjunct : Conjunct Predicate) :
    Conjunct Image where
  isSearch := conjunct.isSearch
  predicate := image conjunct.predicate

/-- A map that commutes with joining two predicates commutes with joining any number. -/
theorem joinAll?_map
    {Image : Type} {image : Predicate → Image}
    {combine : Predicate → Predicate → Predicate} {combineImages : Image → Image → Image}
    (commutes : ∀ left right, image (combine left right) =
      combineImages (image left) (image right))
    (predicates : List Predicate) :
    joinAll? combineImages (predicates.map image) = (joinAll? combine predicates).map image := by
  cases predicates with
  | nil => rfl
  | cons first others =>
      rw [List.map_cons, joinAll?, joinAll?, Option.map_some, List.foldl_map]
      exact congrArg some (List.foldl_hom image fun left right => (commutes left right).symm)

/-- A map of predicates that respects both ways of joining respects assembling. -/
theorem assemble?_map
    {ImageExpression Image : Type} {images : Backend ImageExpression Image}
    {image : Predicate → Image}
    (both : ∀ left right, image (backend.both left right) =
      images.both (image left) (image right))
    (either : ∀ left right, image (backend.either left right) =
      images.either (image left) (image right))
    (conjuncts : List (Conjunct Predicate)) :
    assemble? images (conjuncts.map (Conjunct.map image)) =
      (assemble? backend conjuncts).map image := by
  have plain : plainPredicates (conjuncts.map (Conjunct.map image)) =
      (plainPredicates conjuncts).map image := by
    rw [plainPredicates, List.filter_map, plainPredicates, List.map_map, List.map_map]
    rfl
  have searches : searchPredicates (conjuncts.map (Conjunct.map image)) =
      (searchPredicates conjuncts).map image := by
    rw [searchPredicates, List.filter_map, searchPredicates, List.map_map, List.map_map]
    rfl
  rw [assemble?, assemble?, ← joinAll?_map both, plain, searches, joinAll?_map either,
    List.map_append]
  cases joinAll? backend.either (searchPredicates conjuncts) <;> rfl

/-! ## Nothing to assemble -/

theorem joinAll?_eq_none_iff
    (combine : Predicate → Predicate → Predicate) {predicates : List Predicate} :
    joinAll? combine predicates = none ↔ predicates = [] := by
  cases predicates <;> simp [joinAll?]

/-- Nothing is assembled exactly from nothing. -/
theorem assemble?_eq_none_iff {conjuncts : List (Conjunct Predicate)} :
    assemble? backend conjuncts = none ↔ conjuncts = [] := by
  rw [assemble?, joinAll?_eq_none_iff, List.append_eq_nil_iff]
  constructor
  · rintro ⟨noPlain, noGroup⟩
    have noSearch : searchPredicates conjuncts = [] := by
      rw [← joinAll?_eq_none_iff backend.either]
      simpa using noGroup
    rw [List.eq_nil_iff_forall_not_mem]
    intro conjunct member
    cases isSearch : conjunct.isSearch with
    | false =>
        have plainMember : conjunct.predicate ∈ plainPredicates conjuncts :=
          List.mem_map_of_mem (List.mem_filter.2 ⟨member, by simp [isSearch]⟩)
        simp [noPlain] at plainMember
    | true =>
        have searchMember : conjunct.predicate ∈ searchPredicates conjuncts :=
          List.mem_map_of_mem (List.mem_filter.2 ⟨member, isSearch⟩)
        simp [noSearch] at searchMember
  · rintro rfl
    exact ⟨rfl, rfl⟩

/-- Filters that all compile are assembled into one predicate. -/
theorem exists_assembled
    {filters : List Filter} (nonempty : filters ≠ [])
    (compile : ∀ filter ∈ filters, ∃ predicate, CompilesTo backend resolve filter predicate) :
    ∃ conjuncts assembled,
      (RowFilter.compile backend resolve filters).outcome = .ok (some assembled) ∧
        List.Forall₂ (IsConjunct backend resolve) filters conjuncts ∧
        assemble? backend conjuncts = some assembled := by
  obtain ⟨conjuncts, pairs⟩ := exists_forall₂_isConjunct compile
  have someConjunct : conjuncts ≠ [] := by
    rintro rfl
    exact nonempty (List.forall₂_nil_right_iff.1 pairs)
  obtain ⟨assembled, assembles⟩ :=
    Option.ne_none_iff_exists'.1 fun nothing => someConjunct (assemble?_eq_none_iff.1 nothing)
  exact ⟨conjuncts, assembled, assembles ▸ compile_outcome_eq pairs, pairs, assembles⟩

/-! ## Evaluation -/

/-- A reading of predicates under which they are joined as their names say. -/
structure Evaluation (backend : Backend Expression Predicate) where
  /-- The predicate holds. -/
  holds : Predicate → Prop
  /-- Both predicates hold. -/
  holds_both : ∀ left right, holds (backend.both left right) ↔ holds left ∧ holds right
  /-- One of two predicates holds. -/
  holds_either : ∀ left right, holds (backend.either left right) ↔ holds left ∨ holds right

namespace Evaluation

variable (evaluation : Evaluation backend)

theorem holds_foldl_both (first : Predicate) (others : List Predicate) :
    evaluation.holds (others.foldl backend.both first) ↔
      ∀ predicate ∈ first :: others, evaluation.holds predicate := by
  induction others generalizing first with
  | nil => simp
  | cons second others inductionHypothesis =>
      rw [List.foldl_cons, inductionHypothesis]
      simp only [List.forall_mem_cons, evaluation.holds_both, and_assoc]

theorem holds_foldl_either (first : Predicate) (others : List Predicate) :
    evaluation.holds (others.foldl backend.either first) ↔
      ∃ predicate ∈ first :: others, evaluation.holds predicate := by
  induction others generalizing first with
  | nil => simp
  | cons second others inductionHypothesis =>
      rw [List.foldl_cons, inductionHypothesis]
      simp only [List.exists_mem_cons_iff, evaluation.holds_either, or_assoc]

/-- A conjunction holds when all its members do. -/
theorem holds_joinAll?_both
    {predicates : List Predicate} {joined : Predicate}
    (join : joinAll? backend.both predicates = some joined) :
    evaluation.holds joined ↔ ∀ predicate ∈ predicates, evaluation.holds predicate := by
  cases predicates with
  | nil => cases join
  | cons first others =>
      cases join
      exact evaluation.holds_foldl_both first others

/-- A disjunction holds when one of its members does. -/
theorem holds_joinAll?_either
    {predicates : List Predicate} {joined : Predicate}
    (join : joinAll? backend.either predicates = some joined) :
    evaluation.holds joined ↔ ∃ predicate ∈ predicates, evaluation.holds predicate := by
  cases predicates with
  | nil => cases join
  | cons first others =>
      cases join
      exact evaluation.holds_foldl_either first others

/-- What is assembled holds when all plain conjuncts hold, and some search if there is one. -/
theorem holds_assemble?
    {conjuncts : List (Conjunct Predicate)} {assembled : Predicate}
    (assembles : assemble? backend conjuncts = some assembled) :
    evaluation.holds assembled ↔
      (∀ predicate ∈ plainPredicates conjuncts, evaluation.holds predicate) ∧
        (searchPredicates conjuncts ≠ [] →
          ∃ predicate ∈ searchPredicates conjuncts, evaluation.holds predicate) := by
  rw [assemble?] at assembles
  rw [evaluation.holds_joinAll?_both assembles, List.forall_mem_append]
  cases group : joinAll? backend.either (searchPredicates conjuncts) with
  | none =>
      rw [joinAll?_eq_none_iff] at group
      simp [group]
  | some disjunction =>
      have nonempty : searchPredicates conjuncts ≠ [] := by
        intro empty
        rw [(joinAll?_eq_none_iff _).2 empty] at group
        cases group
      simp [nonempty, evaluation.holds_joinAll?_either group]

/--
What is assembled from the conjuncts of filters holds exactly when the filters
are satisfied, for any notion of a filter that is met on which every predicate
agrees with its filter.
-/
theorem holds_assemble?_iff_satisfied
    {met : Filter → Prop} {filters : List Filter}
    {conjuncts : List (Conjunct Predicate)} {assembled : Predicate}
    (pairs : List.Forall₂ (IsConjunct backend resolve) filters conjuncts)
    (assembles : assemble? backend conjuncts = some assembled)
    (agree : ∀ filter ∈ filters, ∀ predicate, CompilesTo backend resolve filter predicate →
      (evaluation.holds predicate ↔ met filter)) :
    evaluation.holds assembled ↔ Satisfied met filters := by
  have plainPairs := forall₂_plainPredicates pairs
  have searchPairs := forall₂_searchPredicates pairs
  have searchesExist :
      searchPredicates conjuncts ≠ [] ↔ ∃ filter ∈ filters, filter.isSearch = true := by
    rw [Ne, ← List.length_eq_zero_iff, ← searchPairs.length_eq, List.length_eq_zero_iff]
    simp
  rw [evaluation.holds_assemble? assembles, searchesExist,
    forall_mem_iff_of_forall₂ plainPairs
      (fun filter member => agree filter (List.mem_of_mem_filter member)),
    exists_mem_iff_of_forall₂ searchPairs
      (fun filter member => agree filter (List.mem_of_mem_filter member))]
  simp only [List.mem_filter, Satisfied, Bool.not_eq_true', and_imp, and_assoc]

end Evaluation

/-! ## Trees -/

namespace Tree

/-- The members of the conjunction at the top of a tree, from left to right. -/
def conjuncts : Tree → List Tree
  | both left right => left.conjuncts ++ right.conjuncts
  | tree => [tree]

/-- The members of the disjunction at the top of a tree, from left to right. -/
def disjuncts : Tree → List Tree
  | either left right => left.disjuncts ++ right.disjuncts
  | tree => [tree]

/-- A tree that is neither a conjunction nor a disjunction. -/
def IsLeaf (tree : Tree) : Prop :=
  tree.conjuncts = [tree] ∧ tree.disjuncts = [tree]

theorem isLeaf_of_compilesTo
    {resolve : Resolver Field} {filter : Filter} {tree : Tree}
    (compiles : CompilesTo Tree.backend resolve filter tree) :
    tree.IsLeaf := by
  obtain ⟨field, _, rule⟩ := compilesTo_iff.1 compiles
  generalize filter.condition = condition at rule
  cases rule <;> exact ⟨rfl, rfl⟩

theorem conjuncts_foldl_both (first : Tree) (others : List Tree) :
    (others.foldl both first).conjuncts = (first :: others).flatMap conjuncts := by
  induction others generalizing first with
  | nil => simp
  | cons second others inductionHypothesis =>
      rw [List.foldl_cons, inductionHypothesis]
      simp [conjuncts]

theorem disjuncts_foldl_either (first : Tree) (others : List Tree) :
    (others.foldl either first).disjuncts = (first :: others).flatMap disjuncts := by
  induction others generalizing first with
  | nil => simp
  | cons second others inductionHypothesis =>
      rw [List.foldl_cons, inductionHypothesis]
      simp [disjuncts]

theorem conjuncts_foldl_either
    {first : Tree} (single : first.conjuncts = [first]) (others : List Tree) :
    (others.foldl either first).conjuncts = [others.foldl either first] := by
  induction others generalizing first with
  | nil => exact single
  | cons second others inductionHypothesis => exact inductionHypothesis rfl

theorem flatMap_conjuncts_of_isLeaf
    {trees : List Tree} (leaves : ∀ tree ∈ trees, tree.IsLeaf) :
    trees.flatMap conjuncts = trees := by
  rw [List.flatMap_congr fun tree member => (leaves tree member).1, List.flatMap_singleton']

theorem flatMap_disjuncts_of_isLeaf
    {trees : List Tree} (leaves : ∀ tree ∈ trees, tree.IsLeaf) :
    trees.flatMap disjuncts = trees := by
  rw [List.flatMap_congr fun tree member => (leaves tree member).2, List.flatMap_singleton']

/--
A tree whose top is the conjunction of the plain trees in their order, with the
disjunction of the searches in their order as its last member if there are
searches.
-/
structure Arranges (tree : Tree) (plain searches : List Tree) : Prop where
  /-- Without searches the conjunction has the plain trees alone. -/
  conjuncts_of_nil : searches = [] → tree.conjuncts = plain
  /-- Searches form one more member. -/
  conjuncts_of_ne_nil : searches ≠ [] →
    ∃ group, tree.conjuncts = plain ++ [group] ∧ group.disjuncts = searches

/-- The plain predicates stand one by one, and all searches in one member at the end. -/
theorem arranges_of_assemble?
    {conjuncts : List (Conjunct Tree)} {tree : Tree}
    (assembles : assemble? Tree.backend conjuncts = some tree)
    (plainLeaves : ∀ leaf ∈ plainPredicates conjuncts, leaf.IsLeaf)
    (searchLeaves : ∀ leaf ∈ searchPredicates conjuncts, leaf.IsLeaf) :
    tree.Arranges (plainPredicates conjuncts) (searchPredicates conjuncts) := by
  have conjuncts_joined
      {members : List Tree} (join : joinAll? Tree.both members = some tree) :
      tree.conjuncts = members.flatMap Tree.conjuncts := by
    cases members with
    | nil => cases join
    | cons first others =>
        cases join
        exact conjuncts_foldl_both first others
  have expanded := conjuncts_joined assembles
  rw [List.flatMap_append, flatMap_conjuncts_of_isLeaf plainLeaves] at expanded
  constructor
  · intro noSearch
    rw [expanded, noSearch]
    simp [joinAll?]
  · intro nonempty
    cases searches : searchPredicates conjuncts with
    | nil => exact absurd searches nonempty
    | cons first others =>
        rw [searches] at expanded searchLeaves
        refine ⟨others.foldl either first, ?_, ?_⟩
        · have single := conjuncts_foldl_either (searchLeaves first List.mem_cons_self).1 others
          simpa [joinAll?, Tree.backend, single] using expanded
        · rw [disjuncts_foldl_either, flatMap_disjuncts_of_isLeaf searchLeaves]

end Tree

/-! ## The main statement -/

/--
Without filters there is no predicate, and only then.  Where every filter
compiles, so does the list: its predicate holds exactly when the filters are
satisfied, each met when its own predicate holds.  Over trees, the result is
made of one tree for each filter, in order within each group.
-/
theorem compile_holds_iff_satisfied (given : Option (List Filter)) :
    (∀ {Expression Predicate : Type} (backend : Backend Expression Predicate)
        (resolve : Resolver Expression),
      ((compile backend resolve (given.getD [])).outcome = .ok none ↔
        given = none ∨ given = some []) ∧
      ∀ filters, given = some filters → filters ≠ [] →
        (∀ filter ∈ filters, ∃ predicate, CompilesTo backend resolve filter predicate) →
        ∃ assembled, (compile backend resolve filters).outcome = .ok (some assembled) ∧
          ∀ evaluation : Evaluation backend,
            evaluation.holds assembled ↔
              Satisfied (fun filter => ∃ predicate,
                CompilesTo backend resolve filter predicate ∧ evaluation.holds predicate)
                filters) ∧
    ∀ (resolve : Resolver Tree.Field) (filters : List Filter),
      given = some filters → filters ≠ [] →
      (∀ filter ∈ filters, ∃ tree, CompilesTo Tree.backend resolve filter tree) →
      ∃ tree plain searches,
        (compile Tree.backend resolve filters).outcome = .ok (some tree) ∧
        List.Forall₂ (CompilesTo Tree.backend resolve)
          (filters.filter fun filter => !filter.isSearch) plain ∧
        List.Forall₂ (CompilesTo Tree.backend resolve)
          (filters.filter Filter.isSearch) searches ∧
        tree.Arranges plain searches := by
  refine ⟨fun backend resolve => ⟨?_, ?_⟩, ?_⟩
  · rw [compile_outcome_eq_ok_iff]
    constructor
    · rintro ⟨conjuncts, pairs, nothing⟩
      rw [assemble?_eq_none_iff] at nothing
      subst nothing
      rw [List.forall₂_nil_right_iff] at pairs
      cases given with
      | none => exact .inl rfl
      | some filters => exact .inr (congrArg some pairs)
    · rintro (rfl | rfl) <;> exact ⟨[], .nil, rfl⟩
  · rintro filters - nonempty compile
    obtain ⟨conjuncts, assembled, outcome, pairs, assembles⟩ :=
      exists_assembled nonempty compile
    refine ⟨assembled, outcome, fun evaluation => ?_⟩
    apply evaluation.holds_assemble?_iff_satisfied pairs assembles
    intro filter _ predicate compiles
    constructor
    · exact fun holds => ⟨predicate, compiles, holds⟩
    · rintro ⟨other, otherCompiles, holds⟩
      rwa [compiles.unique otherCompiles]
  · rintro resolve filters - nonempty compile
    obtain ⟨conjuncts, tree, outcome, pairs, assembles⟩ := exists_assembled nonempty compile
    have plainPairs := forall₂_plainPredicates pairs
    have searchPairs := forall₂_searchPredicates pairs
    refine ⟨tree, _, _, outcome, plainPairs, searchPairs, ?_⟩
    apply Tree.arranges_of_assemble? assembles
    · exact forall_mem_of_forall₂ plainPairs fun _ _ => Tree.isLeaf_of_compilesTo
    · exact forall_mem_of_forall₂ searchPairs fun _ _ => Tree.isLeaf_of_compilesTo

/-! ### A comparison between two searches -/

namespace Sample

/-- A search for a name. -/
def searchName : Filter where
  field := "name"
  kind := .text
  condition := .test .search (.text "ann")
  field_ne_empty := by decide
  kind_of_mem := by simp [Condition.items, Value.kind]

/-- A search for a city. -/
def searchCity : Filter :=
  searchName.rename "city" (by decide)

/-- An age beyond a bound. -/
def olderThan : Filter where
  field := "age"
  kind := .int
  condition := .test (.compare .gt) (.int 30)
  field_ne_empty := by decide
  kind_of_mem := by simp [Condition.items, Value.kind]

/-- The comparison stands between the searches. -/
def mixed : List Filter :=
  [searchName, olderThan, searchCity]

theorem mixed_compile (columns : Columns) :
    ∀ filter ∈ mixed, ∃ tree, CompilesTo Tree.backend (Tree.resolver columns) filter tree := by
  intro filter member
  rcases List.mem_cons.1 member with rfl | member
  · exact ⟨_, none, rfl⟩
  rcases List.mem_cons.1 member with rfl | member
  · exact ⟨_, none, rfl⟩
  · rw [List.mem_singleton.1 member]
    exact ⟨_, none, rfl⟩

end Sample

/--
A comparison between two searches comes first in the tree, which holds when the
comparison does and one of the searches.
-/
theorem compile_holds_iff_satisfied_mixed :
    (∀ filter ∈ Sample.mixed, ∃ tree,
      CompilesTo Tree.backend (Tree.resolver []) filter tree) ∧
    (∃ assembled,
      (compile Tree.backend (Tree.resolver []) Sample.mixed).outcome = .ok (some assembled) ∧
      ∀ evaluation : Evaluation Tree.backend,
        evaluation.holds assembled ↔
          Satisfied (fun filter => ∃ tree,
            CompilesTo Tree.backend (Tree.resolver []) filter tree ∧ evaluation.holds tree)
            Sample.mixed) ∧
    ∃ tree plain searches,
      (compile Tree.backend (Tree.resolver []) Sample.mixed).outcome = .ok (some tree) ∧
      List.Forall₂ (CompilesTo Tree.backend (Tree.resolver [])) [Sample.olderThan] plain ∧
      List.Forall₂ (CompilesTo Tree.backend (Tree.resolver []))
        [Sample.searchName, Sample.searchCity] searches ∧
      tree.Arranges plain searches := by
  have compile := Sample.mixed_compile []
  have meaning := compile_holds_iff_satisfied (some Sample.mixed)
  have nonempty : Sample.mixed ≠ [] := by decide
  exact ⟨compile, (meaning.1 Tree.backend (Tree.resolver [])).2 _ rfl nonempty compile,
    meaning.2 (Tree.resolver []) _ rfl nonempty compile⟩

end RowFilter
