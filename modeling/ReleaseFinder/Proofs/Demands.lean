import Mathlib
import ReleaseFinder.Definition.Reading

/-!
# Demands on what is read

A reading makes its demands one after another and stops at the first that is not met. `Obeys` says
this of a reading and a list of demands without looking at how the reading is done: it fails exactly
with the fault of the first unmet demand, and so it succeeds exactly when all are met
(`Obeys.succeeds_iff`).

Readings in sequence obey their demands in sequence, which is what `Obeys.bind` and `obeys_mapM`
state; what comes later has to obey its demands only if what comes before it succeeds.
-/

namespace ReleaseFinder

/-- What has to hold, and the fault if it does not. -/
structure Demand where
  holds : Prop
  fault : Fault

/-- The fault of the first demand that is not met. -/
inductive FirstUnmet : List Demand → Fault → Prop where
  | here (demand : Demand) (rest : List Demand) (unmet : ¬ demand.holds) :
      FirstUnmet (demand :: rest) demand.fault
  | later (demand : Demand) (rest : List Demand) (fault : Fault) (met : demand.holds)
      (first : FirstUnmet rest fault) : FirstUnmet (demand :: rest) fault

/-- The reading fails exactly with the fault of the first demand that is not met. -/
def Obeys {α : Type} (demands : List Demand) (reading : Reading α) : Prop :=
  ∀ fault, reading = .error fault ↔ FirstUnmet demands fault

/-- All demands are met. -/
def AllMet (demands : List Demand) : Prop :=
  ∀ demand ∈ demands, demand.holds

/-- The first demand is looked at before the others. -/
theorem firstUnmet_cons_iff (demand : Demand) (rest : List Demand) (fault : Fault) :
    FirstUnmet (demand :: rest) fault ↔
      ¬ demand.holds ∧ fault = demand.fault ∨ demand.holds ∧ FirstUnmet rest fault := by
  constructor
  · intro first
    cases first with
    | here _ _ unmet => exact .inl ⟨unmet, rfl⟩
    | later _ _ _ met first => exact .inr ⟨met, first⟩
  · rintro (⟨unmet, rfl⟩ | ⟨met, first⟩)
    · exact .here demand rest unmet
    · exact .later demand rest fault met first

/-- Of no demands, none is unmet. -/
theorem not_firstUnmet_nil (fault : Fault) : ¬ FirstUnmet [] fault := by
  intro first
  cases first

/-- No demands are met. -/
theorem allMet_nil : AllMet [] := by
  intro demand member
  cases member

/-- Demands are met if the first and the rest are. -/
theorem allMet_cons (demand : Demand) (rest : List Demand) :
    AllMet (demand :: rest) ↔ demand.holds ∧ AllMet rest :=
  List.forall_mem_cons

/-- The demands on items are met if those on each item are. -/
theorem allMet_flatMap {α : Type} (items : List α) (demands : α → List Demand) :
    AllMet (items.flatMap demands) ↔ ∀ item ∈ items, AllMet (demands item) := by
  simp only [AllMet, List.mem_flatMap]
  constructor
  · intro met item member demand asked
    exact met demand ⟨item, member, asked⟩
  · rintro met demand ⟨item, member, asked⟩
    exact met item member demand asked

/-- Some demand is the first unmet one, unless all are met. -/
theorem exists_firstUnmet_iff (demands : List Demand) :
    (∃ fault, FirstUnmet demands fault) ↔ ¬ AllMet demands := by
  induction demands with
  | nil =>
    refine iff_of_false ?_ (not_not_intro allMet_nil)
    rintro ⟨fault, first⟩
    exact not_firstUnmet_nil fault first
  | cons demand rest inductionHypothesis =>
    rw [allMet_cons]
    simp only [firstUnmet_cons_iff]
    by_cases met : demand.holds
    · simpa [met] using inductionHypothesis
    · simp [met]

/-- The fault is that of a demand which is not met. -/
theorem FirstUnmet.exists_mem {demands : List Demand} {fault : Fault}
    (first : FirstUnmet demands fault) :
    ∃ demand ∈ demands, ¬ demand.holds ∧ demand.fault = fault := by
  induction first with
  | here demand rest unmet => exact ⟨demand, List.mem_cons_self, unmet, rfl⟩
  | later demand rest fault met first inductionHypothesis =>
    obtain ⟨other, member, unmet, same⟩ := inductionHypothesis
    exact ⟨other, List.mem_cons_of_mem demand member, unmet, same⟩

/-- Of two lists of demands, the second counts only if the first is met. -/
theorem firstUnmet_append_iff (before after : List Demand) (fault : Fault) :
    FirstUnmet (before ++ after) fault ↔
      FirstUnmet before fault ∨ AllMet before ∧ FirstUnmet after fault := by
  induction before with
  | nil => simp [not_firstUnmet_nil, allMet_nil]
  | cons demand rest inductionHypothesis =>
    rw [List.cons_append, firstUnmet_cons_iff, firstUnmet_cons_iff, inductionHypothesis,
      allMet_cons]
    tauto

/-- Of the demands on items in turn, those on an item count only if all on the items before it are
met. -/
theorem firstUnmet_flatMap_iff {α : Type} (items : List α) (demands : α → List Demand)
    (fault : Fault) :
    FirstUnmet (items.flatMap demands) fault ↔
      ∃ before item after, items = before ++ item :: after ∧
        (∀ earlier ∈ before, AllMet (demands earlier)) ∧
        FirstUnmet (demands item) fault := by
  induction items with
  | nil => simp [not_firstUnmet_nil]
  | cons item rest inductionHypothesis =>
    rw [List.flatMap_cons, firstUnmet_append_iff, inductionHypothesis]
    constructor
    · rintro (first | ⟨met, before, other, after, rfl, earlierMet, first⟩)
      · exact ⟨[], item, rest, rfl, by simp, first⟩
      · exact ⟨item :: before, other, after, rfl, List.forall_mem_cons.mpr ⟨met, earlierMet⟩, first⟩
    · rintro ⟨before, other, after, split, earlierMet, first⟩
      cases before with
      | nil =>
        obtain ⟨rfl, -⟩ := List.cons.inj split
        exact .inl first
      | cons earlier before =>
        obtain ⟨rfl, rfl⟩ := List.cons.inj split
        obtain ⟨met, earlierMet⟩ := List.forall_mem_cons.mp earlierMet
        exact .inr ⟨met, before, other, after, rfl, earlierMet, first⟩

variable {α β : Type}

/-- A reading succeeds exactly when the demands on it are met. -/
theorem Obeys.succeeds_iff {demands : List Demand} {reading : Reading α}
    (obeys : Obeys demands reading) : (∃ value, reading = .ok value) ↔ AllMet demands := by
  rw [← not_iff_not, ← exists_firstUnmet_iff]
  cases reading with
  | ok value =>
    refine iff_of_false (fun none => none ⟨value, rfl⟩) ?_
    rintro ⟨fault, first⟩
    cases (obeys fault).mpr first
  | error fault =>
    refine iff_of_true ?_ ⟨fault, (obeys fault).mp rfl⟩
    rintro ⟨value, same⟩
    cases same

/-- A value obeys demands that are met. -/
theorem obeys_ok {demands : List Demand} (met : AllMet demands) (value : α) :
    Obeys demands (.ok value : Reading α) := by
  intro fault
  refine iff_of_false (fun same => by cases same) fun first => ?_
  exact (exists_firstUnmet_iff demands).mp ⟨fault, first⟩ met

/-- A fault obeys demands of which it is the first. -/
theorem obeys_error {demand : Demand} {rest : List Demand} (unmet : ¬ demand.holds) :
    Obeys (demand :: rest) (.error demand.fault : Reading α) := by
  intro fault
  rw [firstUnmet_cons_iff]
  simp [unmet, eq_comm]

/-- A demand that is met decides nothing. -/
theorem Obeys.met {demand : Demand} {rest : List Demand} {reading : Reading α}
    (obeys : Obeys rest reading) (met : demand.holds) : Obeys (demand :: rest) reading := by
  intro fault
  rw [obeys fault, firstUnmet_cons_iff]
  simp [met]

/-- A reading and one that depends on what was read make their demands in turn. -/
theorem Obeys.bind {before after : List Demand} {first : Reading α} {next : α → Reading β}
    (obeys : Obeys before first) (rest : ∀ value, first = .ok value → Obeys after (next value)) :
    Obeys (before ++ after) (first >>= next) := by
  intro fault
  rw [firstUnmet_append_iff]
  cases read : first with
  | error found =>
    have unmet : ¬ AllMet before := fun met => by
      obtain ⟨value, same⟩ := obeys.succeeds_iff.mpr met
      cases same.symm.trans read
    rw [← obeys fault, read]
    change (.error found : Reading β) = .error fault ↔ _
    simp [unmet]
  | ok value =>
    have met : AllMet before := obeys.succeeds_iff.mp ⟨value, read⟩
    have none : ¬ FirstUnmet before fault := fun unmet =>
      (exists_firstUnmet_iff before).mp ⟨fault, unmet⟩ met
    simp only [none, met, false_or, true_and]
    exact rest value read fault

/-- What is made of a value in the end makes no demands. -/
theorem Obeys.bind_pure {demands : List Demand} {reading : Reading α}
    (obeys : Obeys demands reading) (make : α → β) :
    Obeys demands (reading >>= fun value => pure (make value)) := by
  have ended := obeys.bind fun value _ => obeys_ok allMet_nil (make value)
  rwa [List.append_nil] at ended

/-- A reading that may find nothing gives what it finds. -/
theorem orFault_eq_ok_iff (fault : Fault) (found : Option α) (value : α) :
    orFault fault found = .ok value ↔ found = some value := by
  cases found with
  | none => exact iff_of_false (fun same => by cases same) (fun same => by cases same)
  | some other => rw [orFault, Except.ok.injEq, Option.some.injEq]

/-- A value that has to be there is one demand. -/
theorem obeys_orFault {holds : Prop} (fault : Fault) {found : Option α}
    (there : holds ↔ found.isSome = true) : Obeys [⟨holds, fault⟩] (orFault fault found) := by
  cases found with
  | none => exact obeys_error (mt there.mp (by simp))
  | some value =>
    refine obeys_ok ?_ value
    simpa [AllMet] using there.mpr rfl

/-- A value that has to be there is the first of several demands. -/
theorem obeys_orFault_bind {holds : Prop} {rest : List Demand} (fault : Fault) {found : Option α}
    {next : α → Reading β} (there : holds ↔ found.isSome = true)
    (obeys : ∀ value, found = some value → Obeys rest (next value)) :
    Obeys (⟨holds, fault⟩ :: rest) (orFault fault found >>= next) :=
  (obeys_orFault fault there).bind fun value read =>
    obeys value ((orFault_eq_ok_iff fault found value).mp read)

/-- A reading that goes on from another succeeds if both do. -/
theorem bind_eq_ok_iff {first : Reading α} {next : α → Reading β} {result : β} :
    (first >>= next) = .ok result ↔ ∃ value, first = .ok value ∧ next value = .ok result := by
  cases first with
  | error fault =>
    refine iff_of_false (fun same => by cases same) ?_
    rintro ⟨value, same, _⟩
    cases same
  | ok value =>
    constructor
    · intro same
      exact ⟨value, rfl, same⟩
    · rintro ⟨other, same, rest⟩
      cases same
      exact rest

/-- Only the faults of demands are reported. -/
theorem Obeys.fault_eq {demands : List Demand} {reading : Reading α} {fault only : Fault}
    (obeys : Obeys demands reading) (failed : reading = .error fault)
    (same : ∀ demand ∈ demands, demand.fault = only) : fault = only := by
  obtain ⟨demand, member, _, rfl⟩ := ((obeys fault).mp failed).exists_mem
  exact same demand member

/-- Each of the values is read from the item in its place. -/
theorem forall₂_of_mapM_eq_ok {read : α → Reading β} {items : List α} {values : List β}
    (done : items.mapM read = .ok values) :
    List.Forall₂ (fun item value => read item = .ok value) items values := by
  induction items generalizing values with
  | nil =>
    cases done
    exact .nil
  | cons item rest inductionHypothesis =>
    rw [List.mapM_cons, bind_eq_ok_iff] at done
    obtain ⟨value, first, done⟩ := done
    obtain ⟨others, later, done⟩ := bind_eq_ok_iff.mp done
    cases done
    exact .cons first (inductionHypothesis later)

/-- If what is read of an item is what is kept of it, then so for the items one after another. -/
theorem filterMap_eq_of_mapM_eq_ok {read : α → Reading β} {kept : α → Option β}
    (agree : ∀ {item value}, read item = .ok value → kept item = some value) {items : List α}
    {values : List β} (done : items.mapM read = .ok values) : items.filterMap kept = values := by
  have each := forall₂_of_mapM_eq_ok done
  clear done
  induction each with
  | nil => rfl
  | cons first _ inductionHypothesis =>
    rw [List.filterMap_cons_some (agree first), inductionHypothesis]

/-- Items are read one after another, and so are the demands on them. -/
theorem obeys_mapM {demands : α → List Demand} {read : α → Reading β} (items : List α)
    (obeys : ∀ item ∈ items, Obeys (demands item) (read item)) :
    Obeys (items.flatMap demands) (items.mapM read) := by
  induction items with
  | nil => exact obeys_ok allMet_nil []
  | cons item rest inductionHypothesis =>
    rw [List.flatMap_cons, List.mapM_cons]
    refine (obeys item List.mem_cons_self).bind fun value _ => ?_
    exact (inductionHypothesis fun other member =>
      obeys other (List.mem_cons_of_mem item member)).bind_pure _

end ReleaseFinder
