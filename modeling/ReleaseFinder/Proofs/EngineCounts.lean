import ReleaseFinder.Engine
import ReleaseFinder.Proofs.RankingOrder
import ReleaseFinder.Proofs.Reports

/-!
# What the engine counts

The engine counts from within the operations that it performs, and calls of different kinds add to
the same counts. Each loop of the engine adds its labels to what has been counted before, and
nothing else. `Adds` says it of calls: one call adds the labels and numbers that can be read off
what was submitted, and what calls add one after another is put together. So the counts of a run are
sums over its calls. A submitted release is rejected or acceptable, and of all operations only the
filter does not score what is acceptable. Every verdict on a file is counted under the label of the
way in which the report counts it.
-/

namespace ReleaseFinder

namespace LabelCounts

/-- The counts with one more of each label. -/
def addAll (counts : LabelCounts) (labels : List String) : LabelCounts :=
  labels.foldl add counts

/-- The counts of all labels together. -/
def total (counts : LabelCounts) : ℕ :=
  (counts.entries.map Prod.snd).sum

/-- Labels are added one after another. -/
theorem addAll_append (counts : LabelCounts) (first second : List String) :
    addAll counts (first ++ second) = addAll (addAll counts first) second :=
  List.foldl_append

/-- At first, every label has been counted zero times. -/
theorem count_empty (label : String) : count .empty label = 0 :=
  rfl

/-- Adding a label counts it once more, and no other. -/
theorem count_add (counts : LabelCounts) (label sought : String) :
    count (add counts label) sought = count counts sought + if sought = label then 1 else 0 := by
  rw [count, add, Dictionary.lookup?_insert]
  by_cases same : sought = label
  · rw [if_pos same, if_pos same, same, Option.getD_some]
  · rw [if_neg same, if_neg same, count, Nat.add_zero]

/-- Adding labels counts each as often as it is among them. -/
theorem count_addAll (counts : LabelCounts) (labels : List String) (sought : String) :
    count (addAll counts labels) sought = count counts sought + labels.count sought := by
  induction labels generalizing counts with
  | nil => rfl
  | cons label rest inductionHypothesis =>
    have later : count (addAll counts (label :: rest)) sought =
        count (add counts label) sought + rest.count sought :=
          inductionHypothesis (add counts label)
    rw [later, count_add, List.count_cons]
    simp only [beq_iff_eq, eq_comm (a := label)]
    omega

/-- The value that is written over leaves the sum to the one that is put in its place. -/
theorem sum_insertEntry (name : String) (value : ℕ) (entries : List (String × ℕ))
    (ordered : entries.Pairwise fun left right => left.1 < right.1) :
    ((Dictionary.insertEntry name value entries).map Prod.snd).sum + (entries.lookup name).getD 0 =
      (entries.map Prod.snd).sum + value := by
  induction entries with
  | nil => simp [Dictionary.insertEntry]
  | cons entry rest inductionHypothesis =>
    obtain ⟨held, kept⟩ := entry
    obtain ⟨above, restOrdered⟩ := List.pairwise_cons.mp ordered
    have later := inductionHypothesis restOrdered
    rw [Dictionary.lookup_pair, Dictionary.insertEntry]
    by_cases before : name < held
    · have absent : rest.lookup name = none := by
        rw [List.lookup_eq_none_iff]
        intro other member
        exact bne_iff_ne.mpr (ne_of_lt (lt_trans before (above other member)))
      rw [if_pos before, if_neg (ne_of_lt before), absent]
      simp only [List.map_cons, List.sum_cons, Option.getD_none]
      omega
    · rw [if_neg before]
      by_cases same : name = held
      · rw [if_pos same, if_pos same]
        simp only [List.map_cons, List.sum_cons, Option.getD_some]
        omega
      · rw [if_neg same, if_neg same]
        simp only [List.map_cons, List.sum_cons]
        omega

/-- Adding a label makes the total one larger. -/
theorem total_add (counts : LabelCounts) (label : String) :
    total (add counts label) = total counts + 1 := by
  have replaced : total (add counts label) + count counts label =
      total counts + (count counts label + 1) :=
    sum_insertEntry label (count counts label + 1) counts.entries counts.ordered
  omega

/-- Adding labels makes the total as much larger as there are labels. -/
theorem total_addAll (counts : LabelCounts) (labels : List String) :
    total (addAll counts labels) = total counts + labels.length := by
  induction labels generalizing counts with
  | nil => rfl
  | cons label rest inductionHypothesis =>
    have later : total (addAll counts (label :: rest)) = total (add counts label) + rest.length :=
      inductionHypothesis (add counts label)
    rw [later, total_add, List.length_cons]
    omega

end LabelCounts

namespace Counted

variable {α : Type}

/-- What is done next goes on with what has been counted. -/
theorem run_seq (first : Counted Unit) (second : Counted α) (tally : Tally) :
    (do first; second).run tally = second.run (first.run tally).2 :=
  rfl

/-- An action whose result is discarded counts what it counts. -/
theorem run_discard (action : Counted α) (tally : Tally) :
    (discard action : Counted Unit).run tally = ((), (action.run tally).2) :=
  rfl

/-- A loop goes on with what its first round has counted. -/
theorem run_forM_cons (round : α → Counted Unit) (first : α) (rest : List α) (tally : Tally) :
    ((first :: rest).forM round).run tally = (rest.forM round).run ((round first).run tally).2 :=
  rfl

end Counted

/-- The names of the reasons tell them apart. -/
theorem Rejection.name_injective : Function.Injective Rejection.name := by
  intro first second same
  cases first <;> cases second <;> simp_all [Rejection.name]

/-- Acceptable releases are those that no check rejects. -/
theorem Options.length_acceptable (options : Options) (releases : List Release) :
    (options.acceptable releases).length =
      releases.countP fun release => decide (options.rejection? release = none) := by
  rw [acceptable, ← List.countP_eq_length_filter]
  apply List.countP_congr
  intro release _
  rw [accepts_iff, decide_eq_true_iff]

namespace Engine

open Counted

/-! ## Loops -/

/-- The reasons of the rejections among releases, in order. -/
def rejections (options : Options) (releases : List Release) : List Rejection :=
  releases.filterMap options.rejection?

/-- Counting rejections adds the name of the reason for each rejected release. -/
theorem countRejections_run (options : Options) (releases : List Release) (tally : Tally) :
    (countRejections options releases).run tally =
      ((), { tally with
        rejected := LabelCounts.addAll tally.rejected
          ((rejections options releases).map Rejection.name) }) := by
  induction releases generalizing tally with
  | nil => rfl
  | cons release rest inductionHypothesis =>
    rw [countRejections] at inductionHypothesis ⊢
    rw [run_forM_cons, inductionHypothesis, rejections, rejections, List.filterMap_cons]
    cases options.rejection? release with
    | none => rfl
    | some reason => rfl

/-- Counting scores adds the number of the acceptable releases. -/
theorem countScores_run (options : Options) (releases : List Release) (tally : Tally) :
    (countScores options releases).run tally =
      ((), { tally with scored := tally.scored + (options.acceptable releases).length }) := by
  rw [countScores]
  induction options.acceptable releases generalizing tally with
  | nil => rfl
  | cons release rest inductionHypothesis =>
    have counted : (Counted.releaseScored.run tally).2 =
      { tally with scored := tally.scored + 1 } := rfl
    rw [run_forM_cons, inductionHypothesis, counted, List.length_cons, Nat.add_comm rest.length,
      Nat.add_assoc]

/-- Counting files adds a label for each verdict. -/
theorem countFiles_run (verdicts : List (String × Outcome Unit)) (tally : Tally) :
    (verdicts.forM fun verdict => Counted.fileLoaded (fileLabel verdict.2)).run tally =
      ((), { tally with
        files :=
          LabelCounts.addAll tally.files (verdicts.map fun verdict => fileLabel verdict.2) }) := by
  induction verdicts generalizing tally with
  | nil => rfl
  | cons verdict rest inductionHypothesis =>
    rw [run_forM_cons, inductionHypothesis]
    rfl

/-- Reading files counts the definitions that are parsed, and nothing else. -/
theorem countFile_run (limits : PoolLimits) (files : List DefinitionFile) (tally : Tally) :
    ∃ parsed, ((files.forM (countFile limits)).run tally).2 = { tally with parsed } := by
  induction files generalizing tally with
  | nil => exact ⟨tally.parsed, rfl⟩
  | cons file rest inductionHypothesis =>
    have first : ∃ parsed, ((countFile limits file).run tally).2 = { tally with parsed } := by
      rw [countFile]
      cases file.content with
      | error problem => exact ⟨tally.parsed, rfl⟩
      | ok text =>
        split_ifs
        · exact ⟨_, rfl⟩
        · exact ⟨tally.parsed, rfl⟩
    obtain ⟨parsed, counted⟩ := first
    rw [run_forM_cons, counted]
    exact inductionHypothesis { tally with parsed }

/-! ## Calls -/

/-- What can be done with releases. -/
inductive Operation where
  | rank
  | best
  | assess
  | acceptable

namespace Operation

/-- The operation ranks releases together. -/
def ranks : Operation → Bool
  | rank => true
  | best => true
  | assess => false
  | acceptable => false

/-- The operation scores what is acceptable. -/
def scores : Operation → Bool
  | rank => true
  | best => true
  | assess => true
  | acceptable => false

/-- Performs the operation, whatever it finds. -/
def perform (options : Options) (releases : List Release) : Operation → Counted Unit
  | rank => discard (Engine.rank options releases)
  | best => discard (Engine.best? options releases)
  | assess => discard (Engine.assess options releases)
  | acceptable => discard (Engine.acceptable options releases)

/-- An operation adds the rejections of the releases, their scores if it scores, and their number if
it ranks. -/
theorem perform_run (options : Options) (releases : List Release) (operation : Operation)
    (tally : Tally) :
    (operation.perform options releases).run tally =
      ((), { tally with
        rejected :=
          LabelCounts.addAll tally.rejected ((rejections options releases).map Rejection.name)
        scored :=
          tally.scored + if operation.scores then (options.acceptable releases).length else 0
        candidates :=
          (if operation.ranks then [releases.length] else []) ++ tally.candidates }) := by
  have ranked : (Engine.rank options releases).run tally =
      (options.rank releases, { tally with
        rejected :=
          LabelCounts.addAll tally.rejected ((rejections options releases).map Rejection.name)
        scored := tally.scored + (options.acceptable releases).length
        candidates := releases.length :: tally.candidates }) := by
    rw [Engine.rank, run_seq, run_seq, run_seq, countRejections_run, countScores_run]
    rfl
  cases operation with
  | rank =>
    rw [perform, run_discard, ranked]
    rfl
  | best =>
    have same : ((Engine.best? options releases).run tally).2 =
      ((Engine.rank options releases).run tally).2 := rfl
    rw [perform, run_discard, same, ranked]
    rfl
  | assess =>
    rw [perform, run_discard, Engine.assess, run_seq, run_seq, countRejections_run, countScores_run]
    rfl
  | acceptable =>
    rw [perform, run_discard, Engine.acceptable, run_seq, countRejections_run]
    rfl

end Operation

/-- A call of the engine. A folder of definitions is given by its files, unless it cannot be
read. -/
inductive Call where
  | submit (operation : Operation) (options : Options) (releases : List Release)
  | load (limits : PoolLimits) (folder : String) (files : Except FileProblem (List DefinitionFile))

namespace Call

/-- Performs the call; a folder that was loaded has a report. -/
def perform : Call → Counted (Option Report)
  | submit operation options releases => do
    operation.perform options releases
    pure none
  | load limits folder (.ok files) => return some (← loadCatalog limits folder files).report
  | load _ _ (.error _) => pure none

/-- The report on the folder that the call loads. -/
def report? : Call → Option Report
  | submit .. => none
  | load limits folder (.ok files) => some (Catalog.load limits folder files).report
  | load _ _ (.error _) => none

/-- How many releases are submitted. -/
def submitted : Call → ℕ
  | submit _ _ releases => releases.length
  | load .. => 0

/-- The call ranks releases together. -/
def ranks : Call → Bool
  | submit operation _ _ => operation.ranks
  | load .. => false

/-- The call does not leave acceptable releases without a score. -/
def scoresAll : Call → Bool
  | submit operation _ _ => operation.scores
  | load .. => true

/-- How many of the submitted releases are rejected for a reason. -/
def rejectedFor (reason : Rejection) : Call → ℕ
  | submit _ options releases =>
    releases.countP fun release => decide (options.rejection? release = some reason)
  | load .. => 0

/-- How many of the submitted releases are acceptable and scored. -/
def scored : Call → ℕ
  | submit operation options releases =>
    if operation.scores then
      releases.countP fun release => decide (options.rejection? release = none)
    else 0
  | load .. => 0

/-! ## What a call adds -/

/-- The labels under which rejections are counted. -/
def rejectionLabels : Call → List String
  | submit _ options releases => (rejections options releases).map Rejection.name
  | load .. => []

/-- The labels under which files are counted. -/
def fileLabels : Call → List String
  | submit .. => []
  | load limits _ (.ok files) =>
    (gather (Catalog.outcomes limits files)).verdicts.map fun verdict => fileLabel verdict.2
  | load _ _ (.error _) => []

/-- The number of releases that is observed. -/
def observations (call : Call) : List ℕ :=
  if call.ranks then [call.submitted] else []

end Call

/-- What calls add to the counts, one after another. -/
structure Adds (calls : List Call) (before after : Tally) : Prop where
  rejected :
    after.rejected = LabelCounts.addAll before.rejected (calls.flatMap Call.rejectionLabels)
  scored : after.scored = before.scored + (calls.map Call.scored).sum
  candidates : after.candidates = (calls.flatMap Call.observations).reverse ++ before.candidates
  files : after.files = LabelCounts.addAll before.files (calls.flatMap Call.fileLabels)

/-- No calls add nothing. -/
theorem Adds.refl (tally : Tally) : Adds [] tally tally :=
  ⟨rfl, rfl, rfl, rfl⟩

/-- Calls that follow others add to what these have left. -/
theorem Adds.trans {first second : List Call} {before between after : Tally}
    (earlier : Adds first before between) (later : Adds second between after) :
    Adds (first ++ second) before after where
  rejected := by
    rw [later.rejected, earlier.rejected, List.flatMap_append, LabelCounts.addAll_append]
  scored := by
    rw [later.scored, earlier.scored, List.map_append, List.sum_append, Nat.add_assoc]
  candidates := by
    rw [later.candidates, earlier.candidates, List.flatMap_append, List.reverse_append,
      List.append_assoc]
  files := by
    rw [later.files, earlier.files, List.flatMap_append, LabelCounts.addAll_append]

/-- One call hands back its report and adds what it counts. -/
theorem Call.perform_run (call : Call) (tally : Tally) :
    (call.perform.run tally).1 = call.report? ∧ Adds [call] tally (call.perform.run tally).2 := by
  cases call with
  | submit operation options releases =>
    have counted := operation.perform_run options releases tally
    have effect : (submit operation options releases).perform.run tally =
        (none, ((operation.perform options releases).run tally).2) := rfl
    rw [effect, counted]
    refine ⟨rfl, ?rejected, ?scored, ?candidates, rfl⟩
    case rejected =>
      rw [List.flatMap_singleton, rejectionLabels]
    case scored =>
      rw [List.map_singleton, List.sum_singleton, scored, Options.length_acceptable]
    case candidates =>
      rw [List.flatMap_singleton, observations, ranks, submitted]
      cases operation <;> rfl
  | load limits folder files =>
    cases files with
    | error problem => exact ⟨rfl, rfl, rfl, rfl, rfl⟩
    | ok files =>
      obtain ⟨parsed, read⟩ := countFile_run limits (Catalog.definitionFiles files) tally
      have effect : (load limits folder (.ok files)).perform.run tally =
          (some (Catalog.load limits folder files).report,
            (((gather (Catalog.outcomes limits files)).verdicts.forM
              fun verdict => Counted.fileLoaded (fileLabel verdict.2)).run
                (((Catalog.definitionFiles files).forM (countFile limits)).run tally).2).2) := rfl
      rw [effect, read, countFiles_run]
      refine ⟨rfl, rfl, rfl, rfl, ?files⟩
      rw [List.flatMap_singleton, fileLabels]

/-! ## Runs -/

/-- Performs calls one after another. The reports are those on the folders that were loaded. -/
def performAll : List Call → Counted (List Report)
  | [] => pure []
  | call :: rest => do
    let report? ← call.perform
    let reports ← performAll rest
    pure (report?.toList ++ reports)

/-- The reports of a run that starts from zero. -/
def reportsOf (calls : List Call) : List Report :=
  ((performAll calls).run {}).1

/-- The counts of a run that starts from zero. -/
def tallyOf (calls : List Call) : Tally :=
  ((performAll calls).run {}).2

/-- A run gives the reports of its calls in their order and adds what they add. The induction is on
the calls. -/
theorem performAll_run (calls : List Call) (tally : Tally) :
    ((performAll calls).run tally).1 = calls.filterMap Call.report? ∧
      Adds calls tally ((performAll calls).run tally).2 := by
  induction calls generalizing tally with
  | nil => exact ⟨rfl, Adds.refl tally⟩
  | cons call rest inductionHypothesis =>
    obtain ⟨report, first⟩ := call.perform_run tally
    obtain ⟨reports, later⟩ := inductionHypothesis (call.perform.run tally).2
    have effect : (performAll (call :: rest)).run tally =
        ((call.perform.run tally).1.toList ++ ((performAll rest).run (call.perform.run tally).2).1,
          ((performAll rest).run (call.perform.run tally).2).2) := rfl
    rw [effect, report, reports]
    refine ⟨?_, first.trans later⟩
    rw [List.filterMap_cons]
    cases call.report? <;> rfl

/-- A run that starts from zero counts what its calls add. -/
theorem tallyOf_adds (calls : List Call) : Adds calls {} (tallyOf calls) :=
  (performAll_run calls {}).2

/-! ## Sums over calls -/

/-- A count of a run is the sum of what its calls count under the label. -/
theorem count_addAll_flatMap (labels : Call → List String) (calls : List Call) (sought : String) :
    LabelCounts.count (LabelCounts.addAll .empty (calls.flatMap labels)) sought =
      (calls.map fun call => (labels call).count sought).sum := by
  rw [LabelCounts.count_addAll, LabelCounts.count_empty, Nat.zero_add, List.count_flatMap]
  rfl

namespace Call

/-- The name of a reason is among the labels of a call once for each release rejected for it. -/
theorem count_rejectionLabels (call : Call) (reason : Rejection) :
    call.rejectionLabels.count reason.name = call.rejectedFor reason := by
  cases call with
  | load limits folder files => rfl
  | submit operation options releases =>
    rw [rejectionLabels, rejectedFor, List.count_map_of_injective _ _ Rejection.name_injective,
      rejections, List.count_filterMap]
    apply List.countP_congr
    intro release _
    cases options.rejection? release <;> simp

/-- Every submitted release is rejected or scored, if the call scores. -/
theorem scored_add_rejected {call : Call} (scores : call.scoresAll = true) :
    call.scored + call.rejectionLabels.length = call.submitted := by
  cases call with
  | load limits folder files => rfl
  | submit operation options releases =>
    have parts := List.length_eq_countP_add_countP
      (fun release => decide (options.rejection? release = none)) (l := releases)
    have rejected : (rejections options releases).length = releases.countP fun release =>
        decide ¬ (decide (options.rejection? release = none)) = true := by
      rw [rejections, List.length_filterMap_eq_countP]
      apply List.countP_congr
      intro release _
      cases options.rejection? release <;> simp
    rw [scoresAll] at scores
    rw [scored, if_pos scores, rejectionLabels, List.length_map, submitted, rejected, parts]

/-- Outcomes are counted under the labels of the ways in which a report counts them. -/
theorem count_fileLabel (outcomes : List (String × Outcome Unit)) :
    (outcomes.map fun outcome => fileLabel outcome.2).count "loaded" =
      (Report.ofOutcomes outcomes).succeeded ∧
      (outcomes.map fun outcome => fileLabel outcome.2).count "failed" =
        (Report.ofOutcomes outcomes).failed ∧
      (outcomes.map fun outcome => fileLabel outcome.2).count "timed_out" =
        (Report.ofOutcomes outcomes).timedOut := by
  induction outcomes using List.reverseRecOn with
  | nil => exact ⟨rfl, rfl, rfl⟩
  | append_singleton earlier last inductionHypothesis =>
    obtain ⟨key, outcome⟩ := last
    obtain ⟨loaded, failed, timedOut⟩ := inductionHypothesis
    rw [Report.ofOutcomes_concat, List.map_append, List.count_append, List.count_append,
      List.count_append, loaded, failed, timedOut]
    cases outcome <;> exact ⟨rfl, rfl, rfl⟩

/-- Files are counted as the report counts them. -/
theorem count_fileLabels (call : Call) :
    call.fileLabels.count "loaded" = call.report?.elim 0 Report.succeeded ∧
      call.fileLabels.count "failed" = call.report?.elim 0 Report.failed ∧
      call.fileLabels.count "timed_out" = call.report?.elim 0 Report.timedOut := by
  cases call with
  | submit operation options releases => exact ⟨rfl, rfl, rfl⟩
  | load limits folder files =>
    cases files with
    | error problem => exact ⟨rfl, rfl, rfl⟩
    | ok files =>
      have same : (load limits folder (.ok files)).fileLabels =
          (((gather (Catalog.outcomes limits files)).verdicts.map
            fun verdict => (joinPath folder verdict.1, verdict.2)).map
              fun verdict => fileLabel verdict.2) := by
        rw [List.map_map]
        rfl
      rw [same]
      exact count_fileLabel _

end Call

/-- The numbers observed are those of the calls that rank. -/
theorem flatMap_observations (calls : List Call) :
    calls.flatMap Call.observations = (calls.filter Call.ranks).map Call.submitted := by
  induction calls with
  | nil => rfl
  | cons call rest inductionHypothesis =>
    rw [List.flatMap_cons, inductionHypothesis, Call.observations, List.filter_cons]
    split_ifs <;> rfl

/-- A field summed over the reports is summed over the calls, where a call without a report adds
zero. -/
theorem sum_reportsOf (field : Report → ℕ) (calls : List Call) :
    ((reportsOf calls).map field).sum = (calls.map fun call => call.report?.elim 0 field).sum := by
  rw [reportsOf, (performAll_run calls {}).1]
  induction calls with
  | nil => rfl
  | cons call rest inductionHypothesis =>
    rw [List.filterMap_cons, List.map_cons, List.sum_cons, ← inductionHypothesis]
    cases call.report? with
    | none => exact (Nat.zero_add _).symm
    | some report => rfl

/-- If each call counts files under a label as its report does, a run counts them as its reports do
together. -/
theorem count_files {label : String} {field : Report → ℕ}
    (own : ∀ call : Call, call.fileLabels.count label = call.report?.elim 0 field)
    (calls : List Call) :
    LabelCounts.count (tallyOf calls).files label = ((reportsOf calls).map field).sum := by
  rw [(tallyOf_adds calls).files, count_addAll_flatMap, sum_reportsOf]
  exact congrArg List.sum (List.map_congr_left fun call _ => own call)

/-- Counts balance over any calls, of whatever kinds and in whatever order. A reason is counted as
often as it rejects a submitted release, and what is scored are the acceptable releases that are
ranked, chosen from or explained. The numbers of releases ranked together are observed once for each
ranking and each choice, and add up to the releases submitted to these. If nothing is only filtered,
every submitted release is counted as scored or under a reason. Files are counted as in the reports
on their folders, all reports taken together. -/
theorem counts_balance (calls : List Call) :
    (∀ reason : Rejection, LabelCounts.count (tallyOf calls).rejected reason.name =
      (calls.map (Call.rejectedFor reason)).sum) ∧
    (tallyOf calls).scored = (calls.map Call.scored).sum ∧
    (tallyOf calls).candidates.length = calls.countP Call.ranks ∧
    (tallyOf calls).candidateTotal = ((calls.filter Call.ranks).map Call.submitted).sum ∧
    ((∀ call ∈ calls, call.scoresAll = true) →
      (tallyOf calls).scored + LabelCounts.total (tallyOf calls).rejected =
        (calls.map Call.submitted).sum) ∧
    LabelCounts.count (tallyOf calls).files "loaded" =
      ((reportsOf calls).map Report.succeeded).sum ∧
    LabelCounts.count (tallyOf calls).files "failed" = ((reportsOf calls).map Report.failed).sum ∧
    LabelCounts.count (tallyOf calls).files "timed_out" =
      ((reportsOf calls).map Report.timedOut).sum := by
  have adds := tallyOf_adds calls
  have candidates : (tallyOf calls).candidates =
      ((calls.filter Call.ranks).map Call.submitted).reverse := by
    rw [adds.candidates, List.append_nil, flatMap_observations]
  have scored : (tallyOf calls).scored = (calls.map Call.scored).sum := by
    rw [adds.scored, Nat.zero_add]
  refine ⟨?rejected, scored, ?observed, ?observedSum, ?submitted, ?loaded, ?failed, ?timedOut⟩
  case rejected =>
    intro reason
    rw [adds.rejected, count_addAll_flatMap]
    exact congrArg List.sum (List.map_congr_left fun call _ => call.count_rejectionLabels reason)
  case observed =>
    rw [candidates, List.length_reverse, List.length_map, ← List.countP_eq_length_filter]
  case observedSum =>
    rw [Tally.candidateTotal, ← List.sum_eq_foldl, candidates, List.sum_reverse]
  case submitted =>
    intro scores
    have none : LabelCounts.total ({} : Tally).rejected = 0 := rfl
    rw [scored, adds.rejected, LabelCounts.total_addAll, none, Nat.zero_add, List.length_flatMap,
      ← List.sum_map_add]
    exact congrArg List.sum
      (List.map_congr_left fun call member => Call.scored_add_rejected (scores call member))
  case loaded => exact count_files (fun call => call.count_fileLabels.1) calls
  case failed => exact count_files (fun call => call.count_fileLabels.2.1) calls
  case timedOut => exact count_files (fun call => call.count_fileLabels.2.2) calls

end Engine

end ReleaseFinder
