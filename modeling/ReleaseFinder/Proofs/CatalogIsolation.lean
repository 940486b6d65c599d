import ReleaseFinder.CommandLine.Run
import ReleaseFinder.Proofs.CatalogContents

/-!
# Isolation of files

As long as every file is read in time, the catalog of a folder depends on nothing but what is in the
files. Files meet in one place only, the ids that they claim: an id is taken from a file if an
earlier file claims it. So a change to one file reaches another only if the file claims, before or
after the change, the id of the other; and what is wrong with a text by itself is what checking it
alone finds.
-/

namespace ReleaseFinder

open Gathering

/-- The names of a folder's files with what is in the files, in no particular order. -/
abbrev Listing := List (String × Except FileProblem String)

/-- What is in the files of a folder, whatever the times that reading them takes. -/
def listing (files : List DefinitionFile) : Listing :=
  files.map fun file => (file.name, file.content)

/-- The content is a text that parses and validates to a definition with this id. -/
def Claims (content : Except FileProblem String) (id : String) : Prop :=
  ∃ text definition, content = .ok text ∧ Definition.ofValidText text = .ok definition ∧
    definition.id = id

/-- A definition file with a smaller name claims the id. -/
def Taken (entries : Listing) (name id : String) : Prop :=
  ∃ entry ∈ entries, isDefinitionName entry.1 = true ∧ entry.1 < name ∧ Claims entry.2 id

/-- What is wrong with a file of this name and content among others, all of them read in time. -/
inductive Complaint (entries : Listing) (name : String) :
    Except FileProblem String → String → Prop where
  | unreadable (problem : FileProblem) :
      Complaint entries name (.error problem) ("I/O error: " ++ problem.message)
  | refused (text : String) (fault : Fault) (invalid : Definition.ofValidText text = .error fault) :
      Complaint entries name (.ok text) fault.tag
  | duplicate (text : String) (definition : Definition)
      (valid : Definition.ofValidText text = .ok definition)
      (taken : Taken entries name definition.id) :
      Complaint entries name (.ok text) (duplicateMessage definition.id)

/-- Among files that are all read in time, this definition is the one that stays for its id. -/
structure Stays (entries : Listing) (name text : String) (definition : Definition) : Prop where
  listed : (name, .ok text) ∈ entries
  named : isDefinitionName name = true
  valid : Definition.ofValidText text = .ok definition
  free : ¬ Taken entries name definition.id

/-! ## One file among others -/

/-- A file claims at most one id. -/
theorem Claims.unique {content : Except FileProblem String} {id other : String}
    (claimed : Claims content id) (otherClaimed : Claims content other) : id = other := by
  obtain ⟨text, definition, rfl, valid, rfl⟩ := claimed
  obtain ⟨_, _, same, otherValid, rfl⟩ := otherClaimed
  obtain rfl := Except.ok.inj same
  obtain rfl := Except.ok.inj (valid.symm.trans otherValid)
  rfl

/-- Which files take an id does not depend on a file that does not claim it, nor on the order of
files. -/
theorem taken_iff_of_perm_cons {entries rest : Listing} {changed : String}
    {content : Except FileProblem String} (listed : entries.Perm ((changed, content) :: rest))
    (name id : String) (unclaimed : ¬ Claims content id) :
    Taken entries name id ↔ Taken rest name id := by
  simp [Taken, listed.mem_iff, unclaimed]

/-- What is wrong with a file stays wrong as long as the ids that it claims stay taken. -/
theorem Complaint.imp {entries others : Listing} {name message : String}
    {own : Except FileProblem String} (complaint : Complaint entries name own message)
    (taken : ∀ id, Claims own id → Taken entries name id → Taken others name id) :
    Complaint others name own message := by
  cases complaint with
  | unreadable problem => exact .unreadable problem
  | refused text fault invalid => exact .refused text fault invalid
  | duplicate text definition valid found =>
    exact .duplicate text definition valid (taken _ ⟨text, definition, rfl, valid, rfl⟩ found)

/-- What is said about a file is the same without another file that claims no id of its own. -/
theorem complaint_iff_of_perm_cons {entries rest : Listing} {changed : String}
    {content : Except FileProblem String} (listed : entries.Perm ((changed, content) :: rest))
    (name : String) (own : Except FileProblem String) (message : String)
    (unrelated : ∀ id, Claims own id → ¬ Claims content id) :
    Complaint entries name own message ↔ Complaint rest name own message := by
  have taken (id : String) (claimed : Claims own id) :=
    taken_iff_of_perm_cons listed name id (unrelated id claimed)
  constructor
  · intro complaint
    exact complaint.imp fun id claimed => (taken id claimed).mp
  · intro complaint
    exact complaint.imp fun id claimed => (taken id claimed).mpr

/-- The definition that stays for an id is the same without another file that does not claim the
id. -/
theorem stays_iff_of_perm_cons {entries rest : Listing} {changed : String}
    {content : Except FileProblem String} (listed : entries.Perm ((changed, content) :: rest))
    (name text : String) (definition : Definition) (unclaimed : ¬ Claims content definition.id) :
    Stays entries name text definition ↔ Stays rest name text definition := by
  have taken := taken_iff_of_perm_cons listed name definition.id unclaimed
  constructor
  · rintro ⟨member, named, valid, free⟩
    refine ⟨?_, named, valid, fun found => free (taken.mpr found)⟩
    rcases List.mem_cons.mp (listed.mem_iff.mp member) with same | member
    · obtain ⟨rfl, rfl⟩ := Prod.mk.inj same
      exact absurd ⟨text, definition, rfl, valid, rfl⟩ unclaimed
    · exact member
  · rintro ⟨member, named, valid, free⟩
    exact ⟨listed.mem_iff.mpr (List.mem_cons_of_mem _ member), named, valid,
      fun found => free (taken.mp found)⟩

/-! ## Files that are read in time -/

/-- All definition files of a folder are read in time. -/
def AllInTime (timeout : Nat) (files : List DefinitionFile) : Prop :=
  ∀ file ∈ files, isDefinitionName file.name = true → file.job.endsInTime timeout = true

section

variable (timeout : Nat) (files : List DefinitionFile) (inTime : AllInTime timeout files)

include inTime

/-- An id is taken by the definitions that have been read as the contents of files claim it. -/
theorem taken_listing_iff (name id : String) :
    Taken (listing files) name id ↔ HeldBefore timeout files name id := by
  constructor
  · rintro ⟨entry, listed, named, before, text, definition, content, valid, sameId⟩
    obtain ⟨other, member, rfl⟩ := List.mem_map.mp listed
    exact ⟨other, member, named, before, definition,
      (completed_iff_of_inTime other timeout (inTime other member named) definition).mpr
        ⟨text, content, valid⟩, sameId⟩
  · rintro ⟨other, member, named, before, definition, completed, sameId⟩
    obtain ⟨text, content, valid⟩ :=
      (completed_iff_of_inTime other timeout (inTime other member named) definition).mp completed
    exact ⟨_, List.mem_map.mpr ⟨other, member, rfl⟩, named, before, text, definition,
      content, valid, sameId⟩

/-- What is wrong with a file that is read in time lies in the contents of files. -/
theorem fails_iff_complaint (file : DefinitionFile) (listed : file ∈ files)
    (named : isDefinitionName file.name = true) (message : String) :
    Fails timeout files file message ↔
      Complaint (listing files) file.name file.content message := by
  have own := inTime file listed named
  constructor
  · intro fails
    cases fails with
    | duplicate definition completed held =>
      obtain ⟨text, content, valid⟩ :=
        (completed_iff_of_inTime file timeout own definition).mp completed
      rw [content]
      exact .duplicate text definition valid ((taken_listing_iff timeout files inTime _ _).mpr held)
    | failed message failed =>
      rcases (failed_iff_of_inTime file timeout own message).mp failed with
        ⟨problem, content, rfl⟩ | ⟨text, fault, content, invalid, rfl⟩
      · exact content ▸ .unreadable problem
      · exact content ▸ .refused text fault invalid
    | timedOut late => exact absurd late (not_timedOut_of_inTime file timeout own)
  · intro complaint
    generalize content : file.content = found at complaint
    cases complaint with
    | unreadable problem =>
      exact .failed _ ((failed_iff_of_inTime file timeout own _).mpr (.inl ⟨problem, content, rfl⟩))
    | refused text fault invalid =>
      exact .failed _
        ((failed_iff_of_inTime file timeout own _).mpr (.inr ⟨text, fault, content, invalid, rfl⟩))
    | duplicate text definition valid taken =>
      exact .duplicate definition
        ((completed_iff_of_inTime file timeout own definition).mpr ⟨text, content, valid⟩)
        ((taken_listing_iff timeout files inTime _ _).mp taken)

/-- A definition is kept if it stays for its id. -/
theorem exists_keeps_iff_stays (definition : Definition) :
    (∃ file, Keeps timeout files file definition) ↔
      ∃ name text, Stays (listing files) name text definition := by
  constructor
  · rintro ⟨file, listed, named, completed, first⟩
    obtain ⟨text, content, valid⟩ :=
      (completed_iff_of_inTime file timeout (inTime file listed named) definition).mp completed
    refine ⟨file.name, text, List.mem_map.mpr ⟨file, listed, content ▸ rfl⟩, named, valid, ?_⟩
    rwa [taken_listing_iff timeout files inTime]
  · rintro ⟨name, text, listed, named, valid, free⟩
    obtain ⟨file, member, same⟩ := List.mem_map.mp listed
    obtain ⟨rfl, content⟩ := Prod.mk.inj same
    have completed : file.job.outcome timeout = .completed definition :=
      (completed_iff_of_inTime file timeout (inTime file member named) definition).mpr
        ⟨text, content, valid⟩
    rw [taken_listing_iff timeout files inTime] at free
    exact ⟨file, member, named, completed, free⟩

end

namespace Catalog

section

variable (limits : PoolLimits) (folder : String) (files : List DefinitionFile)
  (distinct : (files.map DefinitionFile.name).Nodup) (inTime : AllInTime limits.timeout files)

include distinct inTime

/-- The report says about a file what is wrong with it among the contents of all files. -/
theorem load_errors_iff_complaint (name : String) (content : Except FileProblem String)
    (listed : (name, content) ∈ listing files) (named : isDefinitionName name = true)
    (message : String) :
    (load limits folder files).report.errors.lookup? (joinPath folder name) = some message ↔
      Complaint (listing files) name content message := by
  obtain ⟨file, member, same⟩ := List.mem_map.mp listed
  obtain ⟨rfl, rfl⟩ := Prod.mk.inj same
  rw [load_errors_of_file_iff limits folder files distinct file member named,
    fails_iff_complaint limits.timeout files inTime file member named]

/-- The catalog has for an id the definition that stays for it. -/
theorem get?_load_iff_stays (id : String) (definition : Definition) :
    (load limits folder files).get? id = some definition ↔
      (∃ name text, Stays (listing files) name text definition) ∧ definition.id = id := by
  rw [get?_load_eq_some_iff limits folder files distinct,
    mem_load_definitions_iff limits folder files distinct,
    exists_keeps_iff_stays limits.timeout files inTime]

/-- The report says about a file what it would say without another file that claims no id of its
own. -/
theorem load_errors_iff_of_perm_cons {changed : String} {content : Except FileProblem String}
    {rest : Listing} (listed : (listing files).Perm ((changed, content) :: rest)) (name : String)
    (own : Except FileProblem String) (member : (name, own) ∈ rest)
    (named : isDefinitionName name = true) (unrelated : ∀ id, Claims own id → ¬ Claims content id)
    (message : String) :
    (load limits folder files).report.errors.lookup? (joinPath folder name) = some message ↔
      Complaint rest name own message := by
  have inFiles : (name, own) ∈ listing files :=
    listed.mem_iff.mpr (List.mem_cons_of_mem _ member)
  rw [load_errors_iff_complaint limits folder files distinct inTime name own inFiles named,
    complaint_iff_of_perm_cons listed name own message unrelated]

/-- The catalog has for an id what it would have without a file that does not claim the id. -/
theorem get?_load_iff_of_perm_cons {changed : String} {content : Except FileProblem String}
    {rest : Listing} (listed : (listing files).Perm ((changed, content) :: rest)) (id : String)
    (unclaimed : ¬ Claims content id) (definition : Definition) :
    (load limits folder files).get? id = some definition ↔
      (∃ name text, Stays rest name text definition) ∧ definition.id = id := by
  rw [get?_load_iff_stays limits folder files distinct inTime]
  refine and_congr_left fun called => exists_congr fun name => exists_congr fun text => ?_
  rw [stays_iff_of_perm_cons listed name text definition (called ▸ unclaimed)]

/-- A file about which nothing is said holds a definition, and the catalog has it. -/
theorem get?_load_of_silent (name : String) (content : Except FileProblem String)
    (listed : (name, content) ∈ listing files) (named : isDefinitionName name = true)
    (silent : (load limits folder files).report.errors.lookup? (joinPath folder name) = none) :
    ∃ text definition, content = .ok text ∧ Definition.ofValidText text = .ok definition ∧
      (load limits folder files).get? definition.id = some definition := by
  have sound (message : String) : ¬ Complaint (listing files) name content message := by
    rw [← load_errors_iff_complaint limits folder files distinct inTime name content listed named,
      silent]
    intro said
    cases said
  cases content with
  | error problem => exact absurd (.unreadable problem) (sound _)
  | ok text =>
    cases valid : Definition.ofValidText text with
    | error fault => exact absurd (.refused text fault valid) (sound _)
    | ok definition =>
      have free : ¬ Taken (listing files) name definition.id := fun taken =>
        sound _ (.duplicate text definition valid taken)
      exact ⟨text, definition, rfl, valid,
        (get?_load_iff_stays limits folder files distinct inTime _ _).mpr
          ⟨⟨name, text, listed, named, valid, free⟩, rfl⟩⟩

end

end Catalog

/-! ## Checking a file alone -/

/-- The engine checks a text by reading and validating it, whatever has been counted. -/
theorem checkDefinition_result (text : String) (tally : Tally) :
    ((Engine.checkDefinition text).run tally).1 = Definition.ofValidText text :=
  rfl

/-- The command that checks a file shows what the engine finds in its text. -/
theorem check_result (path text : String) (tally : Tally) :
    ((CommandLine.check path (.ok text)).run tally).1 =
      match Definition.ofValidText text with
      | .ok definition => .ok definition.toTree
      | .error fault => .error (path ++ ": " ++ fault.tag ++ " (" ++ fault.message ++ ")") := by
  rw [← checkDefinition_result text tally]
  simp only [CommandLine.check, StateT.run_bind]
  cases (Engine.checkDefinition text).run tally with
  | mk found counted => cases found <;> rfl

/-- Checking the file at a path finds this fault in its text, and fails with its tag and message. -/
def CheckFails (path text : String) (fault : Fault) : Prop :=
  ∀ tally, ((Engine.checkDefinition text).run tally).1 = .error fault ∧
    ((CommandLine.check path (.ok text)).run tally).1 =
      .error (path ++ ": " ++ fault.tag ++ " (" ++ fault.message ++ ")")

/-- Checking the file at a path finds this definition in its text, and shows it. -/
def CheckPasses (path text : String) (definition : Definition) : Prop :=
  ∀ tally, ((Engine.checkDefinition text).run tally).1 = .ok definition ∧
    ((CommandLine.check path (.ok text)).run tally).1 = .ok definition.toTree

/-- Checking a file fails exactly with the fault of its text. -/
theorem checkFails_iff (path text : String) (fault : Fault) :
    CheckFails path text fault ↔ Definition.ofValidText text = .error fault := by
  unfold CheckFails
  simp only [check_result, checkDefinition_result]
  constructor
  · intro fails
    exact (fails {}).1
  · intro invalid tally
    rw [invalid]
    exact ⟨rfl, rfl⟩

/-- Checking a file passes exactly with the definition of its text. -/
theorem checkPasses_iff (path text : String) (definition : Definition) :
    CheckPasses path text definition ↔ Definition.ofValidText text = .ok definition := by
  unfold CheckPasses
  simp only [check_result, checkDefinition_result]
  constructor
  · intro passes
    exact (passes {}).1
  · intro valid tally
    rw [valid]
    exact ⟨rfl, rfl⟩

/-- How the tags of faults begin. -/
theorem Fault.tag_initial (fault : Fault) :
    fault.tag.toList.head? ∈ [some 'p', some 'm', some 'i'] := by
  have code : fault.tag.toList.head? = fault.code.toList.head? := by
    unfold Fault.tag
    split <;> simp [String.toList_append, Fault.code]
  rw [code]
  cases fault <;> simp only [Fault.code] <;> decide

/-- No fault has the tag that a duplicate is reported with. -/
theorem Fault.tag_ne_duplicateMessage (fault : Fault) (id : String) :
    fault.tag ≠ duplicateMessage id := by
  intro same
  have initial := fault.tag_initial
  have duplicate : (duplicateMessage id).toList.head? = some 'd' := by
    unfold duplicateMessage
    simp only [String.toList_append]
    simp
  rw [same, duplicate] at initial
  exact absurd initial (by decide)

/-- The verdict of a catalog on a file is the one that checking the file alone gives: the report has
the tag of a fault if checking finds a fault with that tag, and a file that passes is in the
catalog, or reported as a duplicate of an earlier file. -/
structure Catalog.JudgesAsCheck (catalog : Catalog) (entries : Listing)
    (folder name text : String) : Prop where
  fails : ∀ fault : Fault,
    catalog.report.errors.lookup? (joinPath folder name) = some fault.tag ↔
      ∃ found, CheckFails (joinPath folder name) text found ∧ found.tag = fault.tag
  passes : (∀ fault, ¬ CheckFails (joinPath folder name) text fault) →
    ∃ definition, CheckPasses (joinPath folder name) text definition ∧
      (¬ Taken entries name definition.id ∧
          catalog.report.errors.lookup? (joinPath folder name) = none ∧
          catalog.get? definition.id = some definition ∨
        Taken entries name definition.id ∧
          catalog.report.errors.lookup? (joinPath folder name) =
            some (duplicateMessage definition.id))

namespace Catalog

/-- A folder whose files are read in time is judged file by file as checking does. -/
theorem load_judgesAsCheck (limits : PoolLimits) (folder : String) (files : List DefinitionFile)
    (distinct : (files.map DefinitionFile.name).Nodup) (inTime : AllInTime limits.timeout files)
    (name text : String) (listed : (name, .ok text) ∈ listing files)
    (named : isDefinitionName name = true) :
    (load limits folder files).JudgesAsCheck (listing files) folder name text := by
  have reported (message : String) := load_errors_iff_complaint limits folder files distinct inTime
    name (.ok text) listed named message
  refine ⟨?fails, ?passes⟩
  case fails =>
    intro fault
    simp only [reported, checkFails_iff]
    constructor
    · intro complaint
      generalize tagged : fault.tag = message at complaint
      cases complaint with
      | refused _ found invalid => exact ⟨found, invalid, rfl⟩
      | duplicate _ definition valid taken => exact absurd tagged (fault.tag_ne_duplicateMessage _)
    · rintro ⟨found, invalid, tagged⟩
      exact tagged ▸ .refused text found invalid
  case passes =>
    simp only [checkFails_iff, checkPasses_iff]
    intro sound
    cases valid : Definition.ofValidText text with
    | error fault => exact absurd valid (sound fault)
    | ok definition =>
      refine ⟨definition, rfl, ?_⟩
      by_cases taken : Taken (listing files) name definition.id
      · exact .inr ⟨taken, (reported _).mpr (.duplicate text definition valid taken)⟩
      · refine .inl ⟨taken, ?_, ?_⟩
        · rw [Option.eq_none_iff_forall_ne_some]
          intro message found
          cases (reported message).mp found with
          | refused _ fault invalid => exact sound fault invalid
          | duplicate _ other otherValid otherTaken =>
            obtain rfl := Except.ok.inj (valid.symm.trans otherValid)
            exact taken otherTaken
        · exact (get?_load_iff_stays limits folder files distinct inTime _ _).mpr
            ⟨⟨name, text, listed, named, valid, taken⟩, rfl⟩

/-- Files of a folder are isolated from each other, as long as all are read in time. Let two folders
differ in what one file holds. Then the catalogs have the same definition for every id that the file
claims in neither of them, and every other file whose id, if it has one, is none of these has the
same verdict: in both cases the same message, or in both cases its definition is in the catalog. The
verdict on each file is the one that checking it alone gives, apart from duplicates. -/
theorem load_isolates_files (limits otherLimits : PoolLimits) (folder : String)
    (files others : List DefinitionFile) (distinct : (files.map DefinitionFile.name).Nodup)
    (othersDistinct : (others.map DefinitionFile.name).Nodup)
    (inTime : AllInTime limits.timeout files) (othersInTime : AllInTime otherLimits.timeout others)
    (changed : String) (old new : Except FileProblem String) (rest : Listing)
    (listed : (listing files).Perm ((changed, old) :: rest))
    (othersListed : (listing others).Perm ((changed, new) :: rest)) :
    (∀ id, ¬ Claims old id → ¬ Claims new id →
      (load limits folder files).get? id = (load otherLimits folder others).get? id) ∧
      (∀ name content, (name, content) ∈ rest → isDefinitionName name = true →
        (∀ id, Claims content id → ¬ Claims old id ∧ ¬ Claims new id) →
          (load limits folder files).report.errors.lookup? (joinPath folder name) =
              (load otherLimits folder others).report.errors.lookup? (joinPath folder name) ∧
            ((load limits folder files).report.errors.lookup? (joinPath folder name) = none →
              ∃ text definition, content = .ok text ∧
                Definition.ofValidText text = .ok definition ∧
                (load limits folder files).get? definition.id = some definition ∧
                (load otherLimits folder others).get? definition.id = some definition)) ∧
      ∀ name text, (name, .ok text) ∈ listing files → isDefinitionName name = true →
        (load limits folder files).JudgesAsCheck (listing files) folder name text := by
  have sameFound (id : String) (unclaimed : ¬ Claims old id) (stillUnclaimed : ¬ Claims new id) :
      (load limits folder files).get? id = (load otherLimits folder others).get? id := by
    refine Option.ext fun definition => ?_
    rw [get?_load_iff_of_perm_cons limits folder files distinct inTime listed id unclaimed,
      get?_load_iff_of_perm_cons otherLimits folder others othersDistinct othersInTime
        othersListed id stillUnclaimed]
  refine ⟨sameFound, ?_, load_judgesAsCheck limits folder files distinct inTime⟩
  intro name content member named unrelated
  refine ⟨?_, ?_⟩
  · refine Option.ext fun message => ?_
    rw [load_errors_iff_of_perm_cons limits folder files distinct inTime listed name content member
        named fun id claimed => (unrelated id claimed).1,
      load_errors_iff_of_perm_cons otherLimits folder others othersDistinct othersInTime
        othersListed name content member named fun id claimed => (unrelated id claimed).2]
  · intro silent
    obtain ⟨text, definition, rfl, valid, found⟩ := get?_load_of_silent limits folder files distinct
      inTime name content (listed.mem_iff.mpr (List.mem_cons_of_mem _ member)) named silent
    obtain ⟨unclaimed, stillUnclaimed⟩ :=
      unrelated definition.id ⟨text, definition, rfl, valid, rfl⟩
    exact ⟨text, definition, rfl, valid, found,
      (sameFound definition.id unclaimed stillUnclaimed).symm.trans found⟩

/-- Three files, all read at once, of which the second is written again and again. -/
def rewritten (content : String) : List DefinitionFile :=
  [⟨"a.yml", .ok (smallDefinition "one"), some 0⟩, ⟨"b.yml", .ok content, some 0⟩,
    ⟨"c.yml", .ok (smallDefinition "one"), some 0⟩]

/-- Emptying the second file changes nothing for the duplicate that comes after it. -/
theorem rewritten_isolated :
    ((rewritten (smallDefinition "two")).map DefinitionFile.name).Nodup ∧
      AllInTime 10 (rewritten (smallDefinition "two")) ∧ AllInTime 10 (rewritten "") ∧
      (load ⟨2, 10⟩ "d" (rewritten (smallDefinition "two"))).get? "one" =
        (load ⟨1, 10⟩ "d" (rewritten "")).get? "one" ∧
      (load ⟨2, 10⟩ "d" (rewritten (smallDefinition "two"))).report.errors.lookup?
          (joinPath "d" "c.yml") =
        (load ⟨1, 10⟩ "d" (rewritten "")).report.errors.lookup? (joinPath "d" "c.yml") := by
  have distinct : ((rewritten (smallDefinition "two")).map DefinitionFile.name).Nodup := by decide
  have othersDistinct : ((rewritten "").map DefinitionFile.name).Nodup := by decide
  have inTime : AllInTime 10 (rewritten (smallDefinition "two")) := by unfold AllInTime; decide
  have othersInTime : AllInTime 10 (rewritten "") := by unfold AllInTime; decide
  obtain ⟨one, validOne, calledOne⟩ := smallDefinition_valid "one" (by decide)
  obtain ⟨two, validTwo, calledTwo⟩ := smallDefinition_valid "two" (by decide)
  have invalid : (Definition.ofValidText "").toOption.isNone = true := by decide +kernel
  have unclaimed : ¬ Claims (.ok (smallDefinition "two")) "one" := fun claimed =>
    absurd (claimed.unique ⟨_, two, rfl, validTwo, calledTwo⟩) (by decide)
  have stillUnclaimed : ¬ Claims (.ok "") "one" := by
    rintro ⟨_, definition, same, valid, _⟩
    obtain rfl := Except.ok.inj same
    rw [valid] at invalid
    cases invalid
  obtain ⟨found, said, _⟩ :=
    load_isolates_files ⟨2, 10⟩ ⟨1, 10⟩ "d" _ _ distinct othersDistinct inTime othersInTime
      "b.yml" (.ok (smallDefinition "two")) (.ok "")
      [("a.yml", .ok (smallDefinition "one")), ("c.yml", .ok (smallDefinition "one"))]
      (List.Perm.swap _ _ _) (List.Perm.swap _ _ _)
  refine ⟨distinct, inTime, othersInTime, found "one" unclaimed stillUnclaimed, ?_⟩
  refine (said "c.yml" (.ok (smallDefinition "one")) (by simp) (by decide) ?_).1
  intro id claimed
  obtain rfl := claimed.unique ⟨_, one, rfl, validOne, calledOne⟩
  exact ⟨unclaimed, stillUnclaimed⟩

end Catalog

end ReleaseFinder
