/-!
# Dictionaries

Maps from names to values, kept in increasing order of the names with each name once. Putting a
value under a name replaces the one before, so of several values under one name the last one stays:
`lookup?_insert` states it.
-/

namespace ReleaseFinder

/-- Pairs in strictly increasing order of their names. -/
structure Dictionary (α : Type) where
  entries : List (String × α)
  ordered : entries.Pairwise (fun left right => left.1 < right.1) := by simp

namespace Dictionary

variable {α β : Type}

/-- Puts a pair into a list that is in order of names. -/
def insertEntry (name : String) (value : α) : List (String × α) → List (String × α)
  | [] => [(name, value)]
  | entry :: rest =>
    if name < entry.1 then (name, value) :: entry :: rest
    else if name = entry.1 then (name, value) :: rest
    else entry :: insertEntry name value rest

/-- An entry of the result is the one put in or one that was there. -/
theorem mem_insertEntry {name : String} {value : α} {entries : List (String × α)}
    {candidate : String × α} (member : candidate ∈ insertEntry name value entries) :
    candidate = (name, value) ∨ candidate ∈ entries := by
  induction entries with
  | nil => simpa [insertEntry] using member
  | cons entry rest inductionHypothesis =>
    rw [insertEntry] at member
    split at member
    · simpa using member
    · split at member
      · rcases List.mem_cons.1 member with found | found
        · exact .inl found
        · exact .inr (List.mem_cons_of_mem _ found)
      · rcases List.mem_cons.1 member with found | found
        · exact .inr (found ▸ List.mem_cons_self)
        · rcases inductionHypothesis found with found | found
          · exact .inl found
          · exact .inr (List.mem_cons_of_mem _ found)

/-- Entries stay in the order of their names when one is put in. -/
theorem pairwise_insertEntry {name : String} {value : α} {entries : List (String × α)}
    (ordered : entries.Pairwise (fun left right => left.1 < right.1)) :
    (insertEntry name value entries).Pairwise (fun left right => left.1 < right.1) := by
  induction entries with
  | nil => simp [insertEntry]
  | cons entry rest inductionHypothesis =>
    obtain ⟨above, restOrdered⟩ := List.pairwise_cons.1 ordered
    rw [insertEntry]
    split
    · next before =>
      refine List.pairwise_cons.2 ⟨?_, ordered⟩
      intro candidate member
      rcases List.mem_cons.1 member with rfl | member
      · exact before
      · exact String.lt_trans before (above candidate member)
    · next notBefore =>
      split
      · next same =>
        refine List.pairwise_cons.2 ⟨?_, restOrdered⟩
        intro candidate member
        exact same ▸ above candidate member
      · next different =>
        refine List.pairwise_cons.2 ⟨?_, inductionHypothesis restOrdered⟩
        intro candidate member
        rcases mem_insertEntry member with rfl | member
        · rcases String.le_total entry.1 name with below | below
          · exact String.not_le.1 fun reached =>
              different (String.le_antisymm reached below)
          · exact absurd (String.le_antisymm below (String.not_lt.1 notBefore)) different
        · exact above candidate member

/-- The dictionary with no names. -/
def empty : Dictionary α := ⟨[], by simp⟩

instance : Inhabited (Dictionary α) := ⟨empty⟩

/-- The dictionary with a value put under a name. -/
def insert (dictionary : Dictionary α) (name : String) (value : α) : Dictionary α :=
  ⟨insertEntry name value dictionary.entries, pairwise_insertEntry dictionary.ordered⟩

/-- The pairs put in one after another. -/
def ofList (pairs : List (String × α)) : Dictionary α :=
  pairs.foldl (fun dictionary pair => dictionary.insert pair.1 pair.2) empty

/-- The value under a name. -/
def lookup? (dictionary : Dictionary α) (name : String) : Option α :=
  dictionary.entries.lookup name

/-- Whether the name has a value. -/
def contains (dictionary : Dictionary α) (name : String) : Bool :=
  (dictionary.lookup? name).isSome

/-- The names in increasing order. -/
def names (dictionary : Dictionary α) : List String :=
  dictionary.entries.map (·.1)

/-- Whether there is no name. -/
def isEmpty (dictionary : Dictionary α) : Bool :=
  dictionary.entries.isEmpty

/-- The dictionary with every value changed. -/
def mapValues (change : α → β) (dictionary : Dictionary α) : Dictionary β :=
  ⟨dictionary.entries.map fun entry => (entry.1, change entry.2), by
    rw [List.pairwise_map]
    exact dictionary.ordered⟩

/-- A dictionary is told by its entries. -/
@[ext] theorem ext {left right : Dictionary α} (same : left.entries = right.entries) :
    left = right := by
  cases left
  cases right
  simp_all

instance [DecidableEq α] : DecidableEq (Dictionary α) := fun left right =>
  if same : left.entries = right.entries then isTrue (ext same)
  else isFalse fun equal => same (congrArg entries equal)

instance [BEq α] : BEq (Dictionary α) := ⟨fun left right => left.entries == right.entries⟩

/-- The first pair is looked at before the others. -/
theorem lookup_pair (name sought : String) (value : α) (rest : List (String × α)) :
    ((name, value) :: rest).lookup sought =
      if sought = name then some value else rest.lookup sought := by
  rw [List.lookup_cons]
  by_cases same : sought = name
  · rw [if_pos same, beq_iff_eq.2 same]
  · rw [if_neg same, beq_eq_false_iff_ne.2 same]

/-- Looking up the name that was put in finds its value, and other names find what they found
before. -/
theorem lookup_insertEntry (name sought : String) (value : α) (entries : List (String × α)) :
    (insertEntry name value entries).lookup sought =
      if sought = name then some value else entries.lookup sought := by
  induction entries with
  | nil => exact lookup_pair name sought value []
  | cons entry rest inductionHypothesis =>
    obtain ⟨held, kept⟩ := entry
    rw [insertEntry]
    split
    · exact lookup_pair name sought value ((held, kept) :: rest)
    · split
      · next same =>
        subst same
        rw [lookup_pair, lookup_pair]
        split
        · rfl
        · rfl
      · next different =>
        rw [lookup_pair, lookup_pair, inductionHypothesis]
        by_cases asked : sought = held
        · rw [if_pos asked, if_neg (asked ▸ Ne.symm different), if_pos asked]
        · rw [if_neg asked, if_neg asked]

/-- Only the pairs of a dictionary are found in it: no later pair has the name of an earlier one. -/
theorem lookup?_eq_some_iff (dictionary : Dictionary α) (name : String) (value : α) :
    dictionary.lookup? name = some value ↔ (name, value) ∈ dictionary.entries := by
  obtain ⟨entries, ordered⟩ := dictionary
  change entries.lookup name = some value ↔ (name, value) ∈ entries
  induction entries with
  | nil => simp
  | cons entry rest inductionHypothesis =>
    obtain ⟨held, kept⟩ := entry
    obtain ⟨above, restOrdered⟩ := List.pairwise_cons.1 ordered
    rw [lookup_pair, List.mem_cons, Prod.mk.injEq]
    by_cases asked : name = held
    · subst asked
      have absent : (name, value) ∉ rest := fun later =>
        String.lt_irrefl name (above (name, value) later)
      simp [absent, eq_comm]
    · simp [asked, inductionHypothesis restOrdered]

/-- The last value put under a name is the one found there; other names are as before. -/
theorem lookup?_insert (dictionary : Dictionary α) (name sought : String) (value : α) :
    (dictionary.insert name value).lookup? sought =
      if sought = name then some value else dictionary.lookup? sought :=
  lookup_insertEntry name sought value dictionary.entries

end Dictionary

end ReleaseFinder
