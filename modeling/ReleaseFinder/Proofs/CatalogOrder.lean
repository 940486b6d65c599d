import ReleaseFinder.Definition.Catalog
import ReleaseFinder.Proofs.PoolOutcomes
import ReleaseFinder.Proofs.StableSort

/-!
# Catalogs and the order of events

Files are listed in some order, read in a pool that ends them in another, and only then put in the
order of their names. Names in a folder differ, so that order is the same whichever way the files
came, and the catalog is a function of what became of each file on its own: neither the listing nor
the pool's schedule shows in it. In particular, which file keeps an id that several files claim is
settled by their names.
-/

namespace ReleaseFinder

open Sorting

/-- Files are ordered by their names. -/
theorem stableSort_inFileOrder (outcomes : List FileOutcome) :
    StableSort Prod.fst outcomes (inFileOrder outcomes) :=
  Compares.stableSort_mergeSort (fun _ _ => decide_eq_true_iff) outcomes

/-- Outcomes of differently named files are gathered in one way, in whatever order they come. -/
theorem gather_eq_of_perm (outcomes others : List FileOutcome)
    (distinct : (outcomes.map Prod.fst).Nodup) (reordered : others.Perm outcomes) :
    gather others = gather outcomes := by
  have sameOrder := (stableSort_inFileOrder outcomes).eq_of_perm distinct
    (stableSort_inFileOrder others) reordered
  unfold gather
  rw [sameOrder]

namespace Catalog

/-- What becomes of each definition file on its own. -/
def ownOutcomes (timeout : Nat) (files : List DefinitionFile) : List FileOutcome :=
  (definitionFiles files).map fun file => (file.name, file.job.outcome timeout)

/-- Definition files are ordered by their names as well. -/
theorem stableSort_definitionFiles (files : List DefinitionFile) :
    StableSort DefinitionFile.name (files.filter fun file => isDefinitionName file.name)
      (definitionFiles files) :=
  Compares.stableSort_mergeSort (fun _ _ => decide_eq_true_iff) _

/-- The files that are read are those with the name of a definition. -/
theorem mem_definitionFiles_iff (files : List DefinitionFile) (file : DefinitionFile) :
    file ∈ definitionFiles files ↔ file ∈ files ∧ isDefinitionName file.name = true := by
  rw [(stableSort_definitionFiles files).perm.mem_iff, List.mem_filter]

/-- Every file that is read has its own outcome, under its name. -/
theorem mem_ownOutcomes_iff (timeout : Nat) (files : List DefinitionFile) (outcome : FileOutcome) :
    outcome ∈ ownOutcomes timeout files ↔
      ∃ file ∈ files, isDefinitionName file.name = true ∧
        outcome = (file.name, file.job.outcome timeout) := by
  simp only [ownOutcomes, List.mem_map, mem_definitionFiles_iff, and_assoc, eq_comm]

/-- Different files have different outcomes, as far as names are concerned. -/
theorem ownOutcomes_distinct (timeout : Nat) (files : List DefinitionFile)
    (distinct : (files.map DefinitionFile.name).Nodup) :
    ((ownOutcomes timeout files).map Prod.fst).Nodup := by
  have names : (ownOutcomes timeout files).map Prod.fst =
      (definitionFiles files).map DefinitionFile.name := by
    rw [ownOutcomes, List.map_map]
    rfl
  have kept : (files.filter fun file => isDefinitionName file.name).Sublist files :=
    List.filter_sublist
  rw [names, ((stableSort_definitionFiles files).perm.map _).nodup_iff]
  exact (kept.map DefinitionFile.name).nodup distinct

/-- A pool gives every definition file its own outcome. -/
theorem outcomes_perm (limits : PoolLimits) (files : List DefinitionFile) :
    (outcomes limits files).Perm (ownOutcomes limits.timeout files) := by
  have own := poolOutcomes_perm limits ((definitionFiles files).map DefinitionFile.job)
  rwa [List.map_map] at own

/-- A folder is loaded as if the outcomes had come in the order of the files. -/
theorem load_eq_of_perm (limits : PoolLimits) (folder : String) (files : List DefinitionFile)
    (distinct : (files.map DefinitionFile.name).Nodup) (completed : List FileOutcome)
    (ended : completed.Perm (ownOutcomes limits.timeout files)) :
    gather completed = gather (outcomes limits files) ∧
      ofOutcomes folder completed = load limits folder files := by
  have apart := ownOutcomes_distinct limits.timeout files distinct
  have same : gather completed = gather (outcomes limits files) :=
    (gather_eq_of_perm _ _ apart ended).trans
      (gather_eq_of_perm _ _ apart (outcomes_perm limits files)).symm
  refine ⟨same, ?_⟩
  rw [load, ofOutcomes, ofOutcomes, same]

/-- Files with the same outcomes have the same outcomes in some order. -/
theorem ownOutcomes_perm_of_mem_iff (timeout otherTimeout : Nat)
    (files others : List DefinitionFile) (distinct : (files.map DefinitionFile.name).Nodup)
    (othersDistinct : (others.map DefinitionFile.name).Nodup)
    (same : ∀ outcome, outcome ∈ ownOutcomes timeout files ↔
      outcome ∈ ownOutcomes otherTimeout others) :
    (ownOutcomes timeout files).Perm (ownOutcomes otherTimeout others) :=
  (List.perm_ext_iff_of_nodup (ownOutcomes_distinct timeout files distinct).of_map
    (ownOutcomes_distinct otherTimeout others othersDistinct).of_map).mpr same

/-- A catalog depends on nothing but what becomes of each file on its own. Two folders whose files
have the same names and outcomes, whatever the limits of the pools and the orders in which the files
are listed, have the same catalog and the same verdict on every file; and so do all orders in which
the outcomes may come, those of every schedule of the pool among them. -/
theorem load_depends_on_outcomes_only (limits otherLimits : PoolLimits) (folder : String)
    (files others : List DefinitionFile) (distinct : (files.map DefinitionFile.name).Nodup)
    (othersDistinct : (others.map DefinitionFile.name).Nodup)
    (same : ∀ outcome, outcome ∈ ownOutcomes limits.timeout files ↔
      outcome ∈ ownOutcomes otherLimits.timeout others) :
    load limits folder files = load otherLimits folder others ∧
      (∀ completed : List FileOutcome, completed.Perm (ownOutcomes limits.timeout files) →
        gather completed = gather (outcomes otherLimits others) ∧
          ofOutcomes folder completed = load otherLimits folder others) ∧
      ∀ final, PoolState.Reaches limits ((definitionFiles files).map DefinitionFile.job) final →
        PoolState.Complete limits final →
          gather (final.outcomes limits.timeout) = gather (outcomes otherLimits others) ∧
            ofOutcomes folder (final.outcomes limits.timeout) = load otherLimits folder others := by
  have agree := ownOutcomes_perm_of_mem_iff _ _ files others distinct othersDistinct same
  have elsewhere (completed : List FileOutcome)
      (ended : completed.Perm (ownOutcomes limits.timeout files)) :=
    load_eq_of_perm otherLimits folder others othersDistinct completed (ended.trans agree)
  refine ⟨(elsewhere _ (outcomes_perm limits files)).2, elsewhere, ?_⟩
  intro final reached complete
  refine elsewhere _ ?_
  have ended := (reached.finished_perm complete).map (Job.ownOutcome limits.timeout)
  rw [← PoolState.outcomes_eq, List.map_map] at ended
  exact ended

/-- The text of a definition with an id and what else every definition needs. -/
def smallDefinition (id : String) : String :=
  "\x7bid: " ++ id ++
    ", name: n, description: d, language: l, type: public, encoding: e, links: x, " ++
    "caps: \x7bmodes: \x7bsearch: q\x7d\x7d, " ++
    "search: \x7bpath: p, rows: r, fields: \x7btitle: a, size: b, seeders: c\x7d\x7d\x7d"

/-- Both small definitions are valid and have their ids. -/
theorem smallDefinition_valid : ∀ id ∈ ["one", "two"], ∃ definition,
    Definition.ofValidText (smallDefinition id) = .ok definition ∧ definition.id = id := by
  have found : ∀ id ∈ ["one", "two"],
      (Definition.ofValidText (smallDefinition id)).toOption.map Definition.id = some id := by
    decide +kernel
  intro id member
  have called := found id member
  cases read : Definition.ofValidText (smallDefinition id) with
  | error fault =>
    rw [read] at called
    cases called
  | ok definition =>
    rw [read] at called
    exact ⟨definition, rfl, Option.some.inj called⟩

/-- Files of which two claim one id, one is never read to its end, one is of no use, and one is not
a definition file. -/
def rivals : List DefinitionFile :=
  [⟨"c.yml", .ok (smallDefinition "one"), some 1⟩, ⟨"a.YAML", .ok (smallDefinition "one"), some 9⟩,
    ⟨"b.yml", .ok (smallDefinition "two"), none⟩, ⟨"d.yml", .ok "id: three", some 0⟩,
    ⟨"notes.txt", .ok "", some 0⟩]

/-- Listed the other way round, in a pool with one slot and less time, the rivals load the same.
With three slots `c.yml` is read before `a.YAML` has been, with one slot after it. -/
theorem rivals_load_alike :
    (rivals.map DefinitionFile.name).Nodup ∧ (rivals.reverse.map DefinitionFile.name).Nodup ∧
      (∀ outcome, outcome ∈ ownOutcomes 10 rivals ↔ outcome ∈ ownOutcomes 9 rivals.reverse) ∧
        load ⟨3, 10⟩ "d" rivals = load ⟨0, 9⟩ "d" rivals.reverse := by
  have distinct : (rivals.map DefinitionFile.name).Nodup := by decide
  have othersDistinct : (rivals.reverse.map DefinitionFile.name).Nodup := by decide
  have alike : ∀ file ∈ rivals, file.job.outcome 10 = file.job.outcome 9 := by
    simp [rivals, Job.outcome, Job.endsInTime, DefinitionFile.job]
  have same (outcome : FileOutcome) :
      outcome ∈ ownOutcomes 10 rivals ↔ outcome ∈ ownOutcomes 9 rivals.reverse := by
    simp only [mem_ownOutcomes_iff, List.mem_reverse]
    refine exists_congr fun file => and_congr_right fun member => ?_
    rw [alike file member]
  exact ⟨distinct, othersDistinct, same,
    (load_depends_on_outcomes_only ⟨3, 10⟩ ⟨0, 9⟩ "d" rivals rivals.reverse distinct othersDistinct
      same).1⟩

end Catalog

end ReleaseFinder
