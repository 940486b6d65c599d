import ReleaseFinder.Proofs.CatalogOrder

/-!
# Verdicts on files

Files are gathered one after another, in the order of their names. What is said about a file depends
on the files before it in one way only: a definition is a duplicate if one of them holds a
definition with its id. `Gathered` is what one more file keeps; from it, everything that is gathered
is written down with no mention of the order in which it was done.
-/

namespace ReleaseFinder

open Sorting

namespace FileOutcome

/-- The file holds a definition with this id. -/
def holds (id : String) (outcome : FileOutcome) : Bool :=
  match outcome.2 with
  | .completed definition => definition.id == id
  | .failed _ => false
  | .timedOut => false

/-- A file with a smaller name holds a definition with this id. -/
def takenBefore (outcomes : List FileOutcome) (name id : String) : Bool :=
  outcomes.any fun other => decide (other.1 < name) && holds id other

/-- The definition of a file, unless its id is taken. -/
def kept? (outcomes : List FileOutcome) (outcome : FileOutcome) : Option Definition :=
  match outcome.2 with
  | .completed definition =>
    if takenBefore outcomes outcome.1 definition.id then none else some definition
  | .failed _ => none
  | .timedOut => none

/-- What is said about a file among others. -/
def verdict (outcomes : List FileOutcome) (outcome : FileOutcome) : Outcome Unit :=
  match outcome.2 with
  | .completed definition =>
    if takenBefore outcomes outcome.1 definition.id then
      .failed (Gathering.duplicateMessage definition.id)
    else .completed ()
  | .failed message => .failed message
  | .timedOut => .timedOut

/-- An id is taken before a name if a definition with this id is read from an earlier name. -/
theorem takenBefore_eq_true_iff (outcomes : List FileOutcome) (name id : String) :
    takenBefore outcomes name id = true ↔
      ∃ other ∈ outcomes, other.1 < name ∧ ∃ definition,
        other.2 = .completed definition ∧ definition.id = id := by
  unfold takenBefore
  rw [List.any_eq_true]
  refine exists_congr fun other => and_congr_right fun _ => ?_
  cases found : other.2 <;> simp [holds, found]

/-- Only which outcomes there are matters, not their order. -/
theorem takenBefore_eq_of_perm {outcomes others : List FileOutcome} (same : outcomes.Perm others) :
    takenBefore outcomes = takenBefore others := by
  funext name id
  exact same.any_eq

/-- A file does not come before one with no greater name. -/
theorem takenBefore_concat (earlier : List FileOutcome) (last : FileOutcome) (name id : String)
    (reached : ¬ last.1 < name) :
    takenBefore (earlier ++ [last]) name id = takenBefore earlier name id := by
  simp only [takenBefore, List.any_append, List.any_cons, List.any_nil, decide_eq_false reached,
    Bool.false_and, Bool.or_false]

/-- An id is taken for a file that comes last if any file before it holds it. -/
theorem takenBefore_last (earlier : List FileOutcome) (last : FileOutcome) (id : String)
    (below : ∀ outcome ∈ earlier, outcome.1 < last.1) :
    takenBefore (earlier ++ [last]) last.1 id = earlier.any (holds id) := by
  rw [takenBefore_concat earlier last last.1 id (lt_irrefl last.1), Bool.eq_iff_iff, takenBefore,
    List.any_eq_true, List.any_eq_true]
  refine exists_congr fun other => and_congr_right fun member => ?_
  simp only [decide_eq_true (below other member), Bool.true_and]

/-- What is kept of an outcome depends on the others only through the ids taken before it. -/
theorem kept?_eq_of_takenBefore_eq {outcomes others : List FileOutcome} (outcome : FileOutcome)
    (same : takenBefore outcomes outcome.1 = takenBefore others outcome.1) :
    kept? outcomes outcome = kept? others outcome := by
  unfold kept?
  rw [same]

/-- The verdict on an outcome depends on the others only through the ids taken before it. -/
theorem verdict_eq_of_takenBefore_eq {outcomes others : List FileOutcome} (outcome : FileOutcome)
    (same : takenBefore outcomes outcome.1 = takenBefore others outcome.1) :
    verdict outcomes outcome = verdict others outcome := by
  unfold verdict
  rw [same]

/-- A file is without fault exactly if its definition is kept. -/
theorem verdict_error?_eq_none_iff (outcomes : List FileOutcome) (outcome : FileOutcome) :
    (verdict outcomes outcome).error? = none ↔ (kept? outcomes outcome).isSome = true := by
  unfold verdict kept?
  cases outcome.2 with
  | completed definition =>
    dsimp only
    split <;> simp [Outcome.error?]
  | failed message => simp [Outcome.error?]
  | timedOut => simp [Outcome.error?]

end FileOutcome

open FileOutcome

/-- What has been gathered from outcomes, said without the order of gathering. -/
structure Gathered (outcomes : List FileOutcome) (gathering : Gathering) : Prop where
  definitions : gathering.definitions = outcomes.filterMap (kept? outcomes)
  verdicts : gathering.verdicts =
    outcomes.map fun outcome => (outcome.1, verdict outcomes outcome)
  ids : ∀ id, (gathering.definitions.any fun definition => definition.id == id) =
    outcomes.any (holds id)

/-- One more file, behind all others, is looked at with what is known of them. -/
theorem Gathered.add_eq {earlier : List FileOutcome} {gathering : Gathering}
    (gathered : Gathered earlier gathering) (last : FileOutcome)
    (below : ∀ outcome ∈ earlier, outcome.1 < last.1) :
    gathering.add last =
      { definitions := gathering.definitions ++ (kept? (earlier ++ [last]) last).toList
        verdicts := gathering.verdicts ++ [(last.1, verdict (earlier ++ [last]) last)] } := by
  have taken (definition : Definition) :
      takenBefore (earlier ++ [last]) last.1 definition.id =
        gathering.definitions.any fun other => other.id == definition.id := by
    rw [takenBefore_last earlier last _ below, gathered.ids]
  unfold Gathering.add kept? verdict
  cases last.2 with
  | completed definition =>
    simp only [taken]
    split <;> simp
  | failed message => simp
  | timedOut => simp

/-- Whether an id is found behind one more file: a duplicate's id has been found before. -/
theorem any_kept?_last (earlier : List FileOutcome) (last : FileOutcome) (id : String)
    (below : ∀ outcome ∈ earlier, outcome.1 < last.1) :
    (earlier.any (holds id) ||
        (kept? (earlier ++ [last]) last).toList.any fun definition => definition.id == id) =
      (earlier.any (holds id) || holds id last) := by
  cases found : last.2 with
  | completed definition =>
    simp only [kept?, holds, found, takenBefore_last earlier last _ below]
    by_cases duplicate : earlier.any (holds definition.id) = true
    · by_cases same : definition.id = id
      · subst same
        simp [duplicate]
      · simp [duplicate, same]
    · simp [duplicate]
  | failed message => simp [kept?, holds, found]
  | timedOut => simp [kept?, holds, found]

/-- One more file, behind all others, keeps what has been gathered in order. The files before it do
not look past themselves, so nothing that was said about them changes. -/
theorem Gathered.add {earlier : List FileOutcome} {gathering : Gathering}
    (gathered : Gathered earlier gathering) (last : FileOutcome)
    (below : ∀ outcome ∈ earlier, outcome.1 < last.1) :
    Gathered (earlier ++ [last]) (gathering.add last) := by
  have settled (outcome : FileOutcome) (member : outcome ∈ earlier) :
      takenBefore (earlier ++ [last]) outcome.1 = takenBefore earlier outcome.1 :=
    funext fun id => takenBefore_concat earlier last outcome.1 id
      (not_lt_of_gt (below outcome member))
  have keptEarlier : earlier.filterMap (kept? (earlier ++ [last])) = gathering.definitions := by
    rw [gathered.definitions]
    refine List.filterMap_congr ?_
    intro outcome member
    exact kept?_eq_of_takenBefore_eq outcome (settled outcome member)
  have saidEarlier : (earlier.map fun outcome => (outcome.1, verdict (earlier ++ [last]) outcome)) =
      gathering.verdicts := by
    rw [gathered.verdicts]
    refine List.map_congr_left ?_
    intro outcome member
    rw [verdict_eq_of_takenBefore_eq outcome (settled outcome member)]
  rw [gathered.add_eq last below]
  refine ⟨?definitions, ?verdicts, ?ids⟩
  case definitions =>
    rw [List.filterMap_append, keptEarlier]
    cases found : kept? (earlier ++ [last]) last <;> simp [found]
  case verdicts =>
    rw [List.map_append, saidEarlier, List.map_singleton]
  case ids =>
    intro id
    rw [List.any_append, List.any_append, gathered.ids, any_kept?_last earlier last id below,
      List.any_cons, List.any_nil, Bool.or_false]

/-- Files in the order of their names are gathered as their verdicts say. -/
theorem gathered_foldl (outcomes : List FileOutcome)
    (ordered : outcomes.Pairwise fun first second => first.1 < second.1) :
    Gathered outcomes (outcomes.foldl Gathering.add {}) := by
  induction outcomes using List.reverseRecOn with
  | nil => exact ⟨rfl, rfl, fun _ => rfl⟩
  | append_singleton earlier last inductionHypothesis =>
    obtain ⟨earlierOrdered, _, below⟩ := List.pairwise_append.mp ordered
    rw [List.foldl_append]
    exact (inductionHypothesis earlierOrdered).add last fun outcome member =>
      below outcome member last (by simp)

/-- What is gathered from differently named files, in whatever order they came. -/
theorem gather_exact (outcomes : List FileOutcome) (distinct : (outcomes.map Prod.fst).Nodup) :
    (gather outcomes).definitions.Perm (outcomes.filterMap (kept? outcomes)) ∧
      (gather outcomes).verdicts.Perm
        (outcomes.map fun outcome => (outcome.1, verdict outcomes outcome)) := by
  have sorted := stableSort_inFileOrder outcomes
  have gathered := gathered_foldl (inFileOrder outcomes) (sorted.strictly_ordered distinct)
  have sameTaken := takenBefore_eq_of_perm sorted.perm
  have sameKept : kept? (inFileOrder outcomes) = kept? outcomes :=
    funext fun outcome => kept?_eq_of_takenBefore_eq outcome (congrFun sameTaken outcome.1)
  have sameVerdict : verdict (inFileOrder outcomes) = verdict outcomes :=
    funext fun outcome => verdict_eq_of_takenBefore_eq outcome (congrFun sameTaken outcome.1)
  rw [gather, gathered.definitions, gathered.verdicts, sameKept, sameVerdict]
  exact ⟨sorted.perm.filterMap _, sorted.perm.map _⟩

end ReleaseFinder
