import ReleaseFinder.Proofs.CatalogVerdicts
import ReleaseFinder.Proofs.LetterCase
import ReleaseFinder.Proofs.Reports

/-!
# Contents of a catalog

A catalog accounts for every definition file of its folder once: either the file's definition is in
it, or the report has a message about the file. A definition is kept exactly if its file is read in
time, is of use, and is the first with its id in the order of names. `Accounts` lists what that
means for the numbers of the report, the list of definitions, the messages and the search for an id.
-/

namespace ReleaseFinder

open Sorting FileOutcome

/-! ## Names of files -/

/-- The part after the last point is an extension if something stands before the point. -/
theorem extension?_eq_some_of_split (stem found : String) (named : stem ≠ "")
    (pointless : '.' ∉ found.toList) : extension? (stem ++ "." ++ found) = some found := by
  have plain : ∀ c ∈ found.toList.reverse, (c != '.') = true := by
    intro c member
    rw [bne_iff_ne]
    intro point
    exact pointless (point ▸ List.mem_reverse.mp member)
  have reversed : (stem ++ "." ++ found).toList.reverse =
      found.toList.reverse ++ '.' :: stem.toList.reverse := by
    simp [String.toList_append]
  obtain ⟨last, rest, split⟩ : ∃ last rest, stem.toList.reverse = last :: rest := by
    refine List.exists_cons_of_ne_nil ?_
    simpa using named
  rw [extension?, reversed, split]
  simp only [List.dropWhile_append_of_pos plain, List.takeWhile_append_of_pos plain]
  simp

/-- A file with an extension has a name in front of it. -/
theorem split_of_extension?_eq_some (name found : String)
    (extended : extension? name = some found) :
    ∃ stem, stem ≠ "" ∧ name = stem ++ "." ++ found := by
  rw [extension?] at extended
  have whole :
      name.toList.reverse.takeWhile (· != '.') ++ name.toList.reverse.dropWhile (· != '.') =
        name.toList.reverse := List.takeWhile_append_dropWhile
  split at extended
  · next last rest split =>
    obtain rfl := Option.some.inj extended
    refine ⟨String.ofList (last :: rest).reverse, by simp [String.ext_iff], ?_⟩
    rw [split] at whole
    generalize name.toList.reverse.takeWhile (· != '.') = reversed at whole ⊢
    rw [String.ext_iff, ← List.reverse_inj, ← whole]
    simp [String.toList_append]
  · cases extended

/-- ASCII lower case keeps points. -/
theorem point_mem_asciiLower (text : String) (member : '.' ∈ text.toList) :
    '.' ∈ (Text.asciiLower text).toList := by
  rw [Text.asciiLower, String.toList_ofList]
  exact List.mem_map.mpr ⟨'.', member, rfl⟩

/-- A definition file is called something with `yml` or `yaml` after a point, in any letter case. -/
theorem isDefinitionName_iff (name : String) :
    isDefinitionName name = true ↔
      ∃ stem found, stem ≠ "" ∧ name = stem ++ "." ++ found ∧
        (Text.asciiLower found = "yml" ∨ Text.asciiLower found = "yaml") := by
  have yml : Text.asciiLower "yml" = "yml" := by decide
  have yaml : Text.asciiLower "yaml" = "yaml" := by decide
  unfold isDefinitionName
  rw [Option.any_eq_true]
  simp only [Bool.or_eq_true, Text.sameLetters_iff_of_small yml, Text.sameLetters_iff_of_small yaml]
  constructor
  · rintro ⟨found, extended, called⟩
    obtain ⟨stem, named, split⟩ := split_of_extension?_eq_some name found extended
    exact ⟨stem, found, named, split, called⟩
  · rintro ⟨stem, found, named, rfl, called⟩
    refine ⟨found, extension?_eq_some_of_split stem found named ?_, called⟩
    intro point
    have kept := point_mem_asciiLower found point
    rcases called with called | called
    · rw [called] at kept
      exact absurd kept (by decide)
    · rw [called] at kept
      exact absurd kept (by decide)

/-- Different files of a folder have different paths. -/
theorem joinPath_injective (folder : String) : Function.Injective (joinPath folder) := by
  intro first second same
  unfold joinPath at same
  split at same
  · exact (String.append_right_inj _).mp same
  · exact (String.append_right_inj _).mp same

/-! ## What becomes of a file -/

/-- A file that is read in time holds the definition that its text parses and validates to. -/
theorem completed_iff_of_inTime (file : DefinitionFile) (timeout : Nat)
    (inTime : file.job.endsInTime timeout = true) (definition : Definition) :
    file.job.outcome timeout = .completed definition ↔
      ∃ text, file.content = .ok text ∧ Definition.ofValidText text = .ok definition := by
  rw [Job.outcome, if_pos inTime, DefinitionFile.job, DefinitionFile.definition]
  cases file.content with
  | error problem => simp
  | ok text => cases read : Definition.ofValidText text <;> simp [Except.mapError, read]

/-- Of a file that is read in time it is said why it could not be read, or what is wrong with its
text. -/
theorem failed_iff_of_inTime (file : DefinitionFile) (timeout : Nat)
    (inTime : file.job.endsInTime timeout = true) (message : String) :
    file.job.outcome timeout = .failed message ↔
      (∃ problem, file.content = .error problem ∧ message = "I/O error: " ++ problem.message) ∨
        ∃ text fault, file.content = .ok text ∧ Definition.ofValidText text = .error fault ∧
          message = fault.tag := by
  rw [Job.outcome, if_pos inTime, DefinitionFile.job, DefinitionFile.definition]
  cases file.content with
  | error problem => simp [eq_comm]
  | ok text =>
    cases read : Definition.ofValidText text <;> simp [Except.mapError, read, eq_comm]

/-- A file that is read in time is not given up. -/
theorem not_timedOut_of_inTime (file : DefinitionFile) (timeout : Nat)
    (inTime : file.job.endsInTime timeout = true) : file.job.outcome timeout ≠ .timedOut := by
  rw [Job.outcome, if_pos inTime]
  cases file.job.result <;> simp

/-- A definition file with a smaller name is read in time and holds a definition with this id. -/
def HeldBefore (timeout : Nat) (files : List DefinitionFile) (name id : String) : Prop :=
  ∃ other ∈ files, isDefinitionName other.name = true ∧ other.name < name ∧
    ∃ earlier, other.job.outcome timeout = .completed earlier ∧ earlier.id = id

/-- The file is read in time, holds this definition, and is the first that holds one with its id. -/
structure Keeps (timeout : Nat) (files : List DefinitionFile) (file : DefinitionFile)
    (definition : Definition) : Prop where
  listed : file ∈ files
  named : isDefinitionName file.name = true
  completed : file.job.outcome timeout = .completed definition
  first : ¬ HeldBefore timeout files file.name definition.id

/-- What is wrong with a file: another has the id of its definition, it is not read in time, or it
cannot be used. -/
inductive Fails (timeout : Nat) (files : List DefinitionFile) (file : DefinitionFile) :
    String → Prop where
  | duplicate (definition : Definition)
      (completed : file.job.outcome timeout = .completed definition)
      (held : HeldBefore timeout files file.name definition.id) :
      Fails timeout files file (Gathering.duplicateMessage definition.id)
  | failed (message : String) (failed : file.job.outcome timeout = .failed message) :
      Fails timeout files file message
  | timedOut (late : file.job.outcome timeout = .timedOut) :
      Fails timeout files file timedOutMessage

/-- The catalog accounts for every definition file of a folder exactly once. -/
structure Catalog.Accounts (timeout : Nat) (folder : String) (files : List DefinitionFile)
    (catalog : Catalog) : Prop where
  /-- Every definition file is counted, and nothing else. -/
  total : catalog.report.total = files.countP fun file => isDefinitionName file.name
  balance : catalog.report.total =
    catalog.report.succeeded + catalog.report.failed + catalog.report.timedOut
  ids : catalog.definitions.Pairwise fun first second => first.id < second.id
  size : catalog.definitions.length = catalog.report.succeeded
  kept : ∀ definition, definition ∈ catalog.definitions ↔
    ∃ file, Keeps timeout files file definition
  errors : ∀ path message, catalog.report.errors.lookup? path = some message ↔
    ∃ file ∈ files, isDefinitionName file.name = true ∧ path = joinPath folder file.name ∧
      Fails timeout files file message
  /-- A file has no message exactly if its definition is kept. -/
  silent : ∀ file ∈ files, isDefinitionName file.name = true →
    (catalog.report.errors.lookup? (joinPath folder file.name) = none ↔
      ∃ definition, Keeps timeout files file definition)
  errorCount : catalog.report.errors.entries.length =
    catalog.report.failed + catalog.report.timedOut
  found : ∀ id definition, catalog.get? id = some definition ↔
    definition ∈ catalog.definitions ∧ definition.id = id
  absent : ∀ id, catalog.get? id = none ↔ ∀ definition ∈ catalog.definitions, definition.id ≠ id

namespace FileOutcome

/-- A definition is kept if no file before its own holds one with its id. -/
theorem kept?_eq_some_iff (outcomes : List FileOutcome) (outcome : FileOutcome)
    (definition : Definition) :
    kept? outcomes outcome = some definition ↔
      outcome.2 = .completed definition ∧ takenBefore outcomes outcome.1 definition.id = false := by
  unfold kept?
  cases outcome.2 with
  | completed own =>
    simp only [Outcome.completed.injEq]
    constructor
    · intro kept
      split at kept
      · cases kept
      · next free =>
        obtain rfl := Option.some.inj kept
        exact ⟨rfl, Bool.eq_false_iff.mpr free⟩
    · rintro ⟨rfl, free⟩
      simp [free]
  | failed message => simp
  | timedOut => simp

/-- The three ways in which something is wrong with a file. -/
theorem verdict_error?_eq_some_iff (outcomes : List FileOutcome) (outcome : FileOutcome)
    (message : String) :
    (verdict outcomes outcome).error? = some message ↔
      (∃ definition, outcome.2 = .completed definition ∧
          takenBefore outcomes outcome.1 definition.id = true ∧
          message = Gathering.duplicateMessage definition.id) ∨
        outcome.2 = .failed message ∨
        outcome.2 = .timedOut ∧ message = timedOutMessage := by
  unfold verdict
  cases outcome.2 with
  | completed own =>
    by_cases taken : takenBefore outcomes outcome.1 own.id = true
    · simpa [taken, Outcome.error?] using eq_comm
    · simp [taken, Outcome.error?]
  | failed text => simp [Outcome.error?]
  | timedOut => simpa [Outcome.error?] using eq_comm

/-- Kept definitions have different ids: of two files with one id, the one that is not first
loses. -/
theorem kept_ids_distinct (outcomes : List FileOutcome) (distinct : (outcomes.map Prod.fst).Nodup) :
    ((outcomes.filterMap (kept? outcomes)).map Definition.id).Nodup := by
  refine List.pairwise_map.mpr (List.pairwise_filterMap.mpr ?_)
  refine (List.pairwise_map.mp distinct).imp_of_mem ?_
  intro first second firstMember secondMember apart definition kept other otherKept sameId
  obtain ⟨completed, free⟩ := (kept?_eq_some_iff _ _ _).mp kept
  obtain ⟨otherCompleted, otherFree⟩ := (kept?_eq_some_iff _ _ _).mp otherKept
  rcases lt_or_gt_of_ne apart with before | after
  · refine absurd ((takenBefore_eq_true_iff _ _ _).mpr ?_) (Bool.eq_false_iff.mp otherFree)
    exact ⟨first, firstMember, before, definition, completed, sameId⟩
  · refine absurd ((takenBefore_eq_true_iff _ _ _).mpr ?_) (Bool.eq_false_iff.mp free)
    exact ⟨second, secondMember, after, other, otherCompleted, sameId.symm⟩

end FileOutcome

namespace Catalog

/-- Among the outcomes of files, an id is taken before a name if a file before it holds the id. -/
theorem takenBefore_ownOutcomes_iff (timeout : Nat) (files : List DefinitionFile)
    (name id : String) :
    takenBefore (ownOutcomes timeout files) name id = true ↔ HeldBefore timeout files name id := by
  rw [takenBefore_eq_true_iff]
  constructor
  · rintro ⟨outcome, member, before, earlier, completed, sameId⟩
    obtain ⟨other, listed, named, rfl⟩ := (mem_ownOutcomes_iff ..).mp member
    exact ⟨other, listed, named, before, earlier, completed, sameId⟩
  · rintro ⟨other, listed, named, before, earlier, completed, sameId⟩
    exact ⟨_, (mem_ownOutcomes_iff ..).mpr ⟨other, listed, named, rfl⟩, before, earlier, completed,
      sameId⟩

/-- A file keeps a definition as its outcome is kept among all outcomes. -/
theorem keeps_iff (timeout : Nat) (files : List DefinitionFile) (file : DefinitionFile)
    (definition : Definition) :
    Keeps timeout files file definition ↔
      file ∈ files ∧ isDefinitionName file.name = true ∧
        kept? (ownOutcomes timeout files) (file.name, file.job.outcome timeout) =
          some definition := by
  rw [kept?_eq_some_iff, Bool.eq_false_iff, ne_eq, takenBefore_ownOutcomes_iff]
  constructor
  · rintro ⟨listed, named, completed, first⟩
    exact ⟨listed, named, completed, first⟩
  · rintro ⟨listed, named, completed, first⟩
    exact ⟨listed, named, completed, first⟩

/-- A file fails as its outcome does among all outcomes. -/
theorem fails_iff (timeout : Nat) (files : List DefinitionFile) (file : DefinitionFile)
    (message : String) :
    Fails timeout files file message ↔
      (verdict (ownOutcomes timeout files) (file.name, file.job.outcome timeout)).error? =
        some message := by
  rw [verdict_error?_eq_some_iff]
  simp only [takenBefore_ownOutcomes_iff]
  constructor
  · intro fails
    cases fails with
    | duplicate definition completed held => exact .inl ⟨definition, completed, held, rfl⟩
    | failed message failed => exact .inr (.inl failed)
    | timedOut late => exact .inr (.inr ⟨late, rfl⟩)
  · rintro (⟨definition, completed, held, rfl⟩ | failed | ⟨late, rfl⟩)
    · exact .duplicate definition completed held
    · exact .failed message failed
    · exact .timedOut late

/-- A definition file either keeps a definition or fails. -/
theorem keeps_iff_not_fails (timeout : Nat) (files : List DefinitionFile) (file : DefinitionFile)
    (listed : file ∈ files) (named : isDefinitionName file.name = true) :
    (∃ definition, Keeps timeout files file definition) ↔
      ∀ message, ¬ Fails timeout files file message := by
  simp only [keeps_iff, fails_iff, listed, named, true_and]
  rw [← Option.isSome_iff_exists, ← verdict_error?_eq_none_iff, Option.eq_none_iff_forall_ne_some]

section

variable (limits : PoolLimits) (folder : String) (files : List DefinitionFile)
  (distinct : (files.map DefinitionFile.name).Nodup)

include distinct

/-- A catalog holds the kept definitions. -/
theorem load_definitions_perm :
    (load limits folder files).definitions.Perm
      ((ownOutcomes limits.timeout files).filterMap
        (kept? (ownOutcomes limits.timeout files))) := by
  have apart := ownOutcomes_distinct limits.timeout files distinct
  rw [← (load_eq_of_perm limits folder files distinct _ (List.Perm.refl _)).2]
  exact (List.mergeSort_perm _ _).trans (gather_exact _ apart).1

/-- The catalog has the definitions that some file keeps in it. -/
theorem mem_load_definitions_iff (definition : Definition) :
    definition ∈ (load limits folder files).definitions ↔
      ∃ file, Keeps limits.timeout files file definition := by
  rw [(load_definitions_perm limits folder files distinct).mem_iff, List.mem_filterMap]
  simp only [keeps_iff]
  constructor
  · rintro ⟨outcome, member, kept⟩
    obtain ⟨file, listed, named, rfl⟩ := (mem_ownOutcomes_iff ..).mp member
    exact ⟨file, listed, named, kept⟩
  · rintro ⟨file, listed, named, kept⟩
    exact ⟨_, (mem_ownOutcomes_iff ..).mpr ⟨file, listed, named, rfl⟩, kept⟩

/-- Its ids are sorted, and no two of them are equal. -/
theorem load_ids_increase :
    (load limits folder files).definitions.Pairwise fun first second => first.id < second.id := by
  have apart := ownOutcomes_distinct limits.timeout files distinct
  have different : ((load limits folder files).definitions.map Definition.id).Nodup :=
    ((load_definitions_perm limits folder files distinct).map _).nodup_iff.mpr
      (kept_ids_distinct _ apart)
  have sorted : StableSort Definition.id (gather (outcomes limits files)).definitions
      (load limits folder files).definitions :=
    Compares.stableSort_mergeSort (fun _ _ => decide_eq_true_iff) _
  exact sorted.strictly_ordered ((sorted.perm.map _).nodup_iff.mp different)

/-- Looking for an id finds the one definition that has it. -/
theorem get?_load_eq_some_iff (id : String) (definition : Definition) :
    (load limits folder files).get? id = some definition ↔
      definition ∈ (load limits folder files).definitions ∧ definition.id = id := by
  have different : ((load limits folder files).definitions.map Definition.id).Nodup :=
    List.pairwise_map.mpr ((load_ids_increase limits folder files distinct).imp ne_of_lt)
  have foundIs (other : Definition) (found : (load limits folder files).get? id = some other) :
      other ∈ (load limits folder files).definitions ∧ other.id = id :=
    ⟨List.mem_of_find?_eq_some found, by simpa using List.find?_some found⟩
  constructor
  · exact foundIs definition
  · rintro ⟨member, sameId⟩
    have present : ((load limits folder files).get? id).isSome = true :=
      List.find?_isSome.mpr ⟨definition, member, beq_iff_eq.mpr sameId⟩
    obtain ⟨other, found⟩ := Option.isSome_iff_exists.mp present
    obtain ⟨otherMember, otherId⟩ := foundIs other found
    have same : other = definition :=
      List.inj_on_of_nodup_map different otherMember member (otherId.trans sameId.symm)
    exact same ▸ found

/-- The report is one over the verdicts on the files, each under a path of its own. -/
theorem load_report :
    ∃ verdicts : List (String × Outcome Unit),
      (load limits folder files).report = .ofOutcomes verdicts ∧
        (verdicts.map Prod.fst).Nodup ∧
          verdicts.Perm ((ownOutcomes limits.timeout files).map fun outcome =>
            (joinPath folder outcome.1, verdict (ownOutcomes limits.timeout files) outcome)) := by
  have apart := ownOutcomes_distinct limits.timeout files distinct
  have said := (gather_exact _ apart).2.map fun verdict : String × Outcome Unit =>
    (joinPath folder verdict.1, verdict.2)
  rw [List.map_map] at said
  refine ⟨_, ?_, ?_, said⟩
  · rw [← (load_eq_of_perm limits folder files distinct _ (List.Perm.refl _)).2]
    rfl
  · refine (said.map Prod.fst).nodup_iff.mpr ?_
    have paths := apart.map (joinPath_injective folder)
    rw [List.map_map] at paths ⊢
    exact paths

/-- The errors of the report are those of the files that fail, under their paths. -/
theorem load_errors_iff (path message : String) :
    (load limits folder files).report.errors.lookup? path = some message ↔
      ∃ file ∈ files, isDefinitionName file.name = true ∧ path = joinPath folder file.name ∧
        Fails limits.timeout files file message := by
  obtain ⟨verdicts, report, different, said⟩ := load_report limits folder files distinct
  rw [report, Report.ofOutcomes_lookup?_iff verdicts different]
  simp only [fails_iff, said.mem_iff, List.mem_map]
  constructor
  · rintro ⟨_, ⟨outcome, member, same⟩, wrong⟩
    obtain ⟨rfl, rfl⟩ := Prod.mk.inj same
    obtain ⟨file, listed, named, rfl⟩ := (mem_ownOutcomes_iff ..).mp member
    exact ⟨file, listed, named, rfl, wrong⟩
  · rintro ⟨file, listed, named, rfl, wrong⟩
    exact ⟨_, ⟨_, (mem_ownOutcomes_iff ..).mpr ⟨file, listed, named, rfl⟩, rfl⟩, wrong⟩

/-- What the report says under the path of a file is said about that file. -/
theorem load_errors_of_file_iff (file : DefinitionFile) (listed : file ∈ files)
    (named : isDefinitionName file.name = true) (message : String) :
    (load limits folder files).report.errors.lookup? (joinPath folder file.name) = some message ↔
      Fails limits.timeout files file message := by
  rw [load_errors_iff limits folder files distinct]
  constructor
  · rintro ⟨other, otherListed, _, samePath, fails⟩
    have same : file = other :=
      List.inj_on_of_nodup_map distinct listed otherListed (joinPath_injective folder samePath)
    exact same ▸ fails
  · intro fails
    exact ⟨file, listed, named, rfl, fails⟩

end

/-- A catalog accounts for the definition files of its folder. Every file with such a name is
counted once; a definition is in the catalog, in the order of ids, exactly if its file is read in
time and is the first that holds its id; every other file, and nothing else, has the message that
says why. -/
theorem load_accounts_for_every_file (limits : PoolLimits) (folder : String)
    (files : List DefinitionFile) (distinct : (files.map DefinitionFile.name).Nodup) :
    (∀ name, isDefinitionName name = true ↔
      ∃ stem found, stem ≠ "" ∧ name = stem ++ "." ++ found ∧
        (Text.asciiLower found = "yml" ∨ Text.asciiLower found = "yaml")) ∧
      Accounts limits.timeout folder files (load limits folder files) := by
  obtain ⟨verdicts, report, different, said⟩ := load_report limits folder files distinct
  refine ⟨isDefinitionName_iff, ?_⟩
  refine
    { total := ?total, balance := ?balance, size := ?size, silent := ?silent,
      errorCount := ?errorCount, absent := ?absent,
      ids := load_ids_increase limits folder files distinct
      kept := mem_load_definitions_iff limits folder files distinct
      errors := load_errors_iff limits folder files distinct
      found := get?_load_eq_some_iff limits folder files distinct }
  case total =>
    rw [report, Report.ofOutcomes_total, said.length_eq, List.length_map, ownOutcomes,
      List.length_map, (stableSort_definitionFiles files).perm.length_eq,
      List.countP_eq_length_filter]
  case balance =>
    rw [report]
    exact Report.ofOutcomes_balanced verdicts
  case size =>
    rw [report, Report.ofOutcomes_succeeded, said.countP_eq, List.countP_map,
      (load_definitions_perm limits folder files distinct).length_eq,
      List.length_filterMap_eq_countP]
    refine List.countP_congr ?_
    intro outcome _
    simp only [Function.comp_apply, decide_eq_true_eq, verdict_error?_eq_none_iff]
  case silent =>
    intro file listed named
    rw [keeps_iff_not_fails _ _ _ listed named, Option.eq_none_iff_forall_ne_some]
    simp only [ne_eq, load_errors_of_file_iff limits folder files distinct file listed named]
  case errorCount =>
    rw [report]
    exact Report.ofOutcomes_errors_length verdicts different
  case absent =>
    intro id
    rw [Option.eq_none_iff_forall_ne_some]
    simp only [ne_eq, get?_load_eq_some_iff limits folder files distinct, not_and]

/-- Of the two rivals for an id, the one whose name comes first has it, and the other is
reported. -/
theorem rivals_accounted :
    (rivals.map DefinitionFile.name).Nodup ∧
      ((load ⟨2, 10⟩ "d" rivals).get? "one").isSome = true ∧
      (load ⟨2, 10⟩ "d" rivals).report.total = 4 ∧
      (load ⟨2, 10⟩ "d" rivals).report.errors.lookup? "d/a.YAML" = none ∧
      (load ⟨2, 10⟩ "d" rivals).report.errors.lookup? "d/b.yml" = some "timed out" ∧
      (load ⟨2, 10⟩ "d" rivals).report.errors.lookup? "d/c.yml" =
        some "duplicate definition id 'one'" := by
  have distinct : (rivals.map DefinitionFile.name).Nodup := by decide
  obtain ⟨_, accounts⟩ := load_accounts_for_every_file ⟨2, 10⟩ "d" rivals distinct
  obtain ⟨definition, valid, called⟩ := smallDefinition_valid "one" (by decide)
  have completed (name : String) (delay : Nat) (inTime : delay ≤ 10) :
      (⟨name, .ok (smallDefinition "one"), some delay⟩ : DefinitionFile).job.outcome 10 =
        .completed definition :=
    (completed_iff_of_inTime ⟨name, _, some delay⟩ 10 (decide_eq_true inTime) definition).mpr
      ⟨_, rfl, valid⟩
  have nothingBefore : ∀ other ∈ rivals, isDefinitionName other.name = true →
      ¬ other.name < "a.YAML" := by decide
  have first : Keeps 10 rivals ⟨"a.YAML", .ok (smallDefinition "one"), some 9⟩ definition := by
    refine ⟨by simp [rivals], by decide, completed _ 9 (by decide), ?_⟩
    rintro ⟨other, listed, named, before, _⟩
    exact nothingBefore other listed named before
  have second : Fails 10 rivals ⟨"c.yml", .ok (smallDefinition "one"), some 1⟩
      "duplicate definition id 'one'" := by
    rw [show "duplicate definition id 'one'" = Gathering.duplicateMessage definition.id from
      called ▸ rfl]
    exact .duplicate definition (completed _ 1 (by decide))
      ⟨_, first.listed, first.named, by decide, definition, first.completed, rfl⟩
  have path (name : String) : "d/" ++ name = joinPath "d" name := by
    rw [joinPath, if_neg (by decide +kernel)]
    rfl
  refine ⟨distinct, ?found, accounts.total.trans (by decide), ?kept, ?late, ?lost⟩
  case found =>
    rw [(accounts.found "one" definition).mpr ⟨(accounts.kept definition).mpr ⟨_, first⟩, called⟩]
    rfl
  case kept =>
    have silent := (accounts.silent _ first.listed first.named).mpr ⟨definition, first⟩
    rwa [← path] at silent
  case late =>
    exact (accounts.errors _ _).mpr
      ⟨⟨"b.yml", .ok (smallDefinition "two"), none⟩, by simp [rivals], by decide, path "b.yml",
        .timedOut rfl⟩
  case lost =>
    exact (accounts.errors _ _).mpr
      ⟨⟨"c.yml", .ok (smallDefinition "one"), some 1⟩, by simp [rivals], by decide,
        path "c.yml", second⟩

end Catalog

end ReleaseFinder
