import Mathlib
import ReleaseFinder.Proofs.DocumentShapes

/-!
# Edits of documents

A way leads from a value to a mapping inside it, step by step: to what stands under a name, to the
value of an entry whatever its key, or to an item of a sequence. Tags on the way are looked through.
`changeAt` edits the entries of the mapping at the end of a way and leaves everything else as it is;
where a way leads to no mapping there is nothing to edit.

Lookups by name see of an edit only what it does to the entry that counts. To them, an entry that is
null is no entry.
-/

namespace ReleaseFinder.Yaml

/-- One step from a value to a value inside it. -/
inductive Step where
  | under (name : String)
  /-- To the value of an entry, counted from the first. -/
  | entry (index : Nat)
  | item (index : Nat)
deriving DecidableEq, Repr

/-- The value, unless it is null. -/
def Value.real? : Value → Option Value
  | .null => none
  | value => some value

/-- A value other than null is there. -/
theorem Value.real?_eq_some {value : Value} (real : value ≠ .null) : value.real? = some value := by
  cases value with
  | null => exact absurd rfl real
  | _ => rfl

/-- A change that keeps null apart from everything else may be made before or after null is left
out. -/
theorem Value.real?_change {change : Value → Value}
    (keeps : ∀ value, change value = .null ↔ value = .null) (value : Value) :
    (change value).real? = value.real?.map change := by
  by_cases null : value = .null
  · rw [(keeps value).mpr null, null]
    rfl
  · rw [real?_eq_some null, real?_eq_some (mt (keeps value).mp null)]
    rfl

namespace Entries

open Value

/-- The entries with what stands under a name changed. -/
def changeUnder (name : String) (change : Value → Value) (entries : Entries) : Entries :=
  entries.map fun entry => if entry.1.isText name then (entry.1, change entry.2) else entry

/-- The entries without those under a name. -/
def without (name : String) (entries : Entries) : Entries :=
  entries.filter fun entry => !entry.1.isText name

/-- The entries with a value under a name: in the place of what stands there, or behind the
others. -/
def put (name : String) (value : Value) (entries : Entries) : Entries :=
  if (entries.held? name).isSome then entries.changeUnder name fun _ => value
  else entries ++ [(.text name, value)]

/-- The entry in front is held before the others. -/
theorem held?_cons (name : String) (key value : Value) (rest : Entries) :
    held? ((key, value) :: rest) name =
      if key.isText name then some value else rest.held? name := by
  rw [held?, held?, List.find?_cons]
  cases key.isText name <;> rfl

/-- A key that is taken for one name is not taken for another. -/
theorem isText_of_ne {name other : String} {key : Value} (different : other ≠ name)
    (named : key.isText name = true) : key.isText other = false := by
  rw [isText_eq_true_iff] at named
  subst named
  simpa [isText] using Ne.symm different

/-- A change under a name is seen under this name only. -/
theorem held?_changeUnder (name other : String) (change : Value → Value) (entries : Entries) :
    (entries.changeUnder name change).held? other =
      if other = name then (entries.held? other).map change else entries.held? other := by
  induction entries with
  | nil => simp [changeUnder, held?]
  | cons entry rest inductionHypothesis =>
    obtain ⟨key, value⟩ := entry
    rw [changeUnder, List.map_cons, ← changeUnder, held?_cons]
    cases named : key.isText name with
    | true =>
      rw [if_pos rfl, held?_cons, inductionHypothesis]
      by_cases same : other = name
      · subst same
        simp [named]
      · simp [same, isText_of_ne same named]
    | false =>
      rw [if_neg Bool.false_ne_true, held?_cons, inductionHypothesis]
      by_cases same : other = name
      · subst same
        simp [named]
      · simp [same]

/-- What is taken out is not held, and the rest is held as before. -/
theorem held?_without (name other : String) (entries : Entries) :
    (entries.without name).held? other = if other = name then none else entries.held? other := by
  induction entries with
  | nil => simp [without, held?]
  | cons entry rest inductionHypothesis =>
    obtain ⟨key, value⟩ := entry
    rw [without, List.filter_cons, ← without]
    cases named : key.isText name with
    | true =>
      rw [if_neg (by simp), inductionHypothesis, held?_cons]
      by_cases same : other = name
      · rw [if_pos same, if_pos same]
      · simp [same, isText_of_ne same named]
    | false =>
      rw [if_pos (by simp), held?_cons, inductionHypothesis, held?_cons]
      by_cases same : other = name
      · subst same
        simp [named]
      · simp [same]

/-- What is put under a name is held under it, and the rest is held as before. -/
theorem held?_put (name other : String) (value : Value) (entries : Entries) :
    (entries.put name value).held? other =
      if other = name then some value else entries.held? other := by
  rw [put]
  cases found : entries.held? name with
  | some old =>
    rw [Option.isSome_some, if_pos rfl, held?_changeUnder]
    by_cases same : other = name
    · rw [if_pos same, if_pos same, same, found]
      rfl
    · rw [if_neg same, if_neg same]
  | none =>
    rw [Option.isSome_none, if_neg Bool.false_ne_true]
    rw [held?, Option.map_eq_none_iff] at found
    by_cases same : other = name
    · subst same
      have named : (Value.text other).isText other = true := (isText_eq_true_iff ..).mpr rfl
      rw [held?, List.find?_append, found]
      simp [named]
    · have missed : (Value.text name).isText other = false := by simpa [isText] using Ne.symm same
      simp [held?, List.find?_append, same, missed]

/-- What counts under a name is what is held there, unless it is null. -/
theorem get?_eq_bind (entries : Entries) (name : String) :
    entries.get? name = (entries.held? name).bind real? := by
  rw [get?]
  cases entries.held? name with
  | none => rfl
  | some value => cases value <;> rfl

/-- To lookups, an entry put to null is taken out. -/
theorem get?_put_null (name other : String) (entries : Entries) :
    (entries.put name .null).get? other = (entries.without name).get? other := by
  rw [get?_eq_bind, get?_eq_bind, held?_put, held?_without]
  by_cases same : other = name
  · rw [if_pos same, if_pos same]
    rfl
  · rw [if_neg same, if_neg same]

/-- Looking up sees a text that was put under a name, and otherwise what was there before. -/
theorem get?_put_text (name other text : String) (entries : Entries) :
    (entries.put name (.text text)).get? other =
      if other = name then some (.text text) else entries.get? other := by
  rw [get?_eq_bind, held?_put, get?_eq_bind]
  by_cases same : other = name
  · rw [if_pos same, if_pos same]
    rfl
  · rw [if_neg same, if_neg same]

/-- A change that keeps null apart from everything else is seen under its name only. -/
theorem get?_changeUnder {change : Value → Value}
    (keeps : ∀ value, change value = .null ↔ value = .null) (name other : String)
    (entries : Entries) :
    (entries.changeUnder name change).get? other =
      if other = name then (entries.get? other).map change else entries.get? other := by
  rw [get?_eq_bind, held?_changeUnder, get?_eq_bind]
  by_cases same : other = name
  · rw [if_pos same, if_pos same]
    cases entries.held? other with
    | none => rfl
    | some value => exact real?_change keeps value
  · rw [if_neg same, if_neg same]

/-- A change under one name leaves what lookups of other names find. -/
theorem get?_changeUnder_of_ne {change : Value → Value}
    (keeps : ∀ value, change value = .null ↔ value = .null) {name other : String}
    (different : other ≠ name) (entries : Entries) :
    (entries.changeUnder name change).get? other = entries.get? other := by
  rw [get?_changeUnder keeps, if_neg different]

end Entries

namespace Value

/-- The value with a change made under its tags. -/
def mapUntagged (change : Value → Value) : Value → Value
  | .tagged tag value => .tagged tag (mapUntagged change value)
  | value => change value

/-- The value with what a step leads to changed. -/
def stepInto (change : Value → Value) : Step → Value → Value
  | .under name, .mapping entries => .mapping (Entries.changeUnder name change entries)
  | .entry index, .mapping entries =>
    .mapping (entries.modify index fun entry => (entry.1, change entry.2))
  | .item index, .sequence items => .sequence (items.modify index change)
  | _, value => value

/-- The value with the entries of the mapping at the end of a way edited. -/
def changeAt (edit : Entries → Entries) (way : List Step) (value : Value) : Value :=
  match way with
  | [] => value.mapUntagged fun
    | .mapping entries => .mapping (edit entries)
    | value => value
  | step :: rest => value.mapUntagged (stepInto (changeAt edit rest) step)

/-- An edit of entries keeps null apart from everything else. -/
theorem changeAt_eq_null_iff (edit : Entries → Entries) (way : List Step) (value : Value) :
    value.changeAt edit way = .null ↔ value = .null := by
  cases way with
  | nil => cases value <;> simp [changeAt, mapUntagged]
  | cons step rest => cases value <;> cases step <;> simp [changeAt, mapUntagged, stepInto]

end Value

end ReleaseFinder.Yaml
