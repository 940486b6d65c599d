import Mathlib
import ReleaseFinder.Definition.Record
import ReleaseFinder.Decimal.Binary

/-!
# Forms of records

A `Form` is a way to write values as trees together with a way to read them which gives every value
back. Lists and dictionaries have a form if their items have one. The form of a record is put
together from `Slot`s: some are always written, some only if there is a value, and some only if a
list has items. Since the names of the slots differ, each field is found under its name whatever the
other slots hold (`Slot.read_record`), and each kind of slot has its own way of being read.
-/

namespace ReleaseFinder

/-! ## Trees without null -/

/-- The float is a number and not infinite. -/
def IsFinite (value : Float) : Prop :=
  ∃ negative significand exponent,
    Decimal.Binary.ofFloat value = .finite negative significand exponent

namespace Tree

/-- Nothing in the tree is null or becomes null when it is written as JSON, as floats do that are
not finite. -/
inductive NullFree : Tree → Prop where
  | bool (value : Bool) : NullFree (.bool value)
  | integer (value : Int) : NullFree (.integer value)
  | float (value : Float) (finite : IsFinite value) : NullFree (.float value)
  | text (value : String) : NullFree (.text value)
  | list (items : List Tree) (free : ∀ item ∈ items, NullFree item) : NullFree (.list items)
  | record (members : List (String × Tree)) (free : ∀ member ∈ members, NullFree member.2) :
      NullFree (.record members)

/-- A truth value is not null. -/
@[simp] theorem nullFree_bool (value : Bool) : (Tree.bool value).NullFree :=
  .bool value

/-- A text is not null. -/
@[simp] theorem nullFree_text (value : String) : (Tree.text value).NullFree :=
  .text value

/-- A float is written as null unless it is finite. -/
@[simp] theorem nullFree_float_iff (value : Float) :
    (Tree.float value).NullFree ↔ IsFinite value := by
  constructor
  · rintro ⟨⟩
    assumption
  · exact .float value

/-- A list is without null exactly if its items are. -/
@[simp] theorem nullFree_list_iff (items : List Tree) :
    (Tree.list items).NullFree ↔ ∀ item ∈ items, item.NullFree := by
  constructor
  · rintro ⟨⟩
    assumption
  · exact .list items

/-- A record is without null exactly if its members are; their names do not matter. -/
theorem nullFree_record_iff (members : List (String × Tree)) :
    (Tree.record members).NullFree ↔ ∀ member ∈ members, member.2.NullFree := by
  constructor
  · rintro ⟨⟩
    assumption
  · exact .record members

/-- Whatever is not null is read as a value. -/
theorem optional?_of_ne_null {α : Type} {read : Tree → Option α} {tree : Tree}
    (there : tree ≠ .null) : tree.optional? read = (read tree).map some := by
  cases tree with
  | null => exact absurd rfl there
  | _ => rfl

end Tree

/-! ## Dictionaries -/

namespace Dictionary

variable {α : Type}

/-- A name after all others goes to the end. -/
theorem insertEntry_of_after {name : String} {value : α} {entries : List (String × α)}
    (after : ∀ entry ∈ entries, entry.1 < name) :
    insertEntry name value entries = entries ++ [(name, value)] := by
  induction entries with
  | nil => rfl
  | cons entry rest inductionHypothesis =>
    obtain ⟨before, restBefore⟩ := List.forall_mem_cons.mp after
    rw [insertEntry, if_neg (String.lt_asymm before), if_neg (ne_of_gt before),
      inductionHypothesis restBefore, List.cons_append]

/-- Pairs that are in order are kept as they stand. -/
theorem entries_ofList {pairs : List (String × α)}
    (ordered : pairs.Pairwise fun left right => left.1 < right.1) :
    (ofList pairs).entries = pairs := by
  induction pairs using List.reverseRecOn with
  | nil => rfl
  | append_singleton before pair inductionHypothesis =>
    obtain ⟨beforeOrdered, _, apart⟩ := List.pairwise_append.mp ordered
    rw [ofList, List.foldl_append]
    change insertEntry pair.1 pair.2 (ofList before).entries = before ++ [pair]
    rw [inductionHypothesis beforeOrdered]
    exact insertEntry_of_after fun entry member =>
      apart entry member pair (List.mem_singleton_self pair)

/-- A dictionary is made of its pairs. -/
theorem ofList_entries (dictionary : Dictionary α) : ofList dictionary.entries = dictionary :=
  ext (entries_ofList dictionary.ordered)

/-- A dictionary is without null exactly if its values are. -/
@[simp] theorem nullFree_toTree_iff (write : α → Tree) (dictionary : Dictionary α) :
    (dictionary.toTree write).NullFree ↔ ∀ entry ∈ dictionary.entries, (write entry.2).NullFree :=
  (Tree.nullFree_record_iff _).trans List.forall_mem_map

end Dictionary

/-! ## Forms -/

/-- How values are written and read. What is written is read as the same value, and it is not null,
so it is not taken for an absent value. -/
structure Form (α : Type) where
  write : α → Tree
  read : Tree → Option α
  read_write : ∀ value, read (write value) = some value
  write_ne_null : ∀ value, write value ≠ .null

/-- Items that are read one by one as they were written. -/
theorem mapM_map_eq_some {α β : Type} {write : α → β} {read : β → Option α}
    (back : ∀ value, read (write value) = some value) (items : List α) :
    (items.map write).mapM read = some items := by
  induction items with
  | nil => rfl
  | cons item rest inductionHypothesis =>
    rw [List.map_cons, List.mapM_cons, back, inductionHypothesis]
    rfl

namespace Form

variable {α : Type}

/-- Texts. -/
def text : Form String where
  write := .text
  read := Tree.text?
  read_write _ := rfl
  write_ne_null _ := nofun

/-- Truth values. -/
def bool : Form Bool where
  write := .bool
  read := Tree.bool?
  read_write _ := rfl
  write_ne_null _ := nofun

/-- Numbers. -/
def float : Form Float where
  write := .float
  read := Tree.number?
  read_write _ := rfl
  write_ne_null _ := nofun

/-- Lists of what has a form. -/
def list (form : Form α) : Form (List α) where
  write items := .list (items.map form.write)
  read := Tree.list? form.read
  read_write := mapM_map_eq_some form.read_write
  write_ne_null _ := nofun

/-- Dictionaries of what has a form. -/
def dictionary (form : Form α) : Form (Dictionary α) where
  write := Dictionary.toTree form.write
  read := Dictionary.ofTree? form.read
  read_write dictionary := by
    have back (entry : String × α) :
        (form.read (form.write entry.2)).map (entry.1, ·) = some entry := by
      rw [form.read_write, Option.map_some]
    have pairs : Tree.pairs? form.read (dictionary.toTree form.write) = some dictionary.entries :=
      mapM_map_eq_some back dictionary.entries
    rw [Dictionary.ofTree?, pairs, Option.map_some, Dictionary.ofList_entries]
  write_ne_null _ := nofun

/-- The form of texts writes them as text trees. -/
@[simp] theorem write_text : text.write = Tree.text :=
  rfl

/-- The form of truth values writes them as truth value trees. -/
@[simp] theorem write_bool : bool.write = Tree.bool :=
  rfl

/-- The form of numbers writes them as float trees. -/
@[simp] theorem write_float : float.write = Tree.float :=
  rfl

/-- The form of lists writes the items in their order. -/
@[simp] theorem write_list (form : Form α) (items : List α) :
    form.list.write items = .list (items.map form.write) :=
  rfl

/-- The form of dictionaries writes the entries in the order of their names. -/
@[simp] theorem write_dictionary (form : Form α) :
    form.dictionary.write = Dictionary.toTree form.write :=
  rfl

end Form

/-- Texts are written as the form of lists of texts writes them. -/
theorem textsTree_eq : textsTree = Form.text.list.write :=
  rfl

/-! ## Slots -/

/-- A name in a record and what is written under it, if anything. -/
structure Slot where
  name : String
  content : Option Tree

namespace Form

variable {α : Type}

/-- A slot that is always written. -/
def always (form : Form α) (name : String) (value : α) : Slot :=
  ⟨name, some (form.write value)⟩

/-- A slot that is written if there is a value. -/
def ifGiven (form : Form α) (name : String) (value : Option α) : Slot :=
  ⟨name, value.map form.write⟩

/-- A slot that is written if the list has items. -/
def unlessEmpty (form : Form α) (name : String) (items : List α) : Slot :=
  ⟨name, if items.isEmpty then none else some (form.list.write items)⟩

end Form

namespace Slot

/-- The members of a record with these slots. -/
def members (slots : List Slot) : List (String × Tree) :=
  slots.filterMap fun slot => slot.content.map (slot.name, ·)

section Members

variable {α : Type} (form : Form α) (name : String) (rest : List Slot)

/-- No slots give no members. -/
@[simp] theorem members_nil : members [] = [] :=
  rfl

/-- A slot that is always written gives the first member. -/
@[simp] theorem members_always (value : α) :
    members (form.always name value :: rest) = (name, form.write value) :: members rest :=
  rfl

/-- A slot for a value that may be absent gives at most one member. -/
@[simp] theorem members_ifGiven (value : Option α) :
    members (form.ifGiven name value :: rest) = member? name form.write value ++ members rest := by
  cases value with
  | none => rfl
  | some value => rfl

/-- A slot for a list gives a member if the list has items. -/
@[simp] theorem members_unlessEmpty (items : List α) :
    members (form.unlessEmpty name items :: rest) =
      nonempty? name form.list.write items ++ members rest := by
  cases items with
  | nil => rfl
  | cons item items => rfl

end Members

/-- The members are named after slots, in the same order. -/
theorem names_members_sublist (slots : List Slot) :
    ((members slots).map Prod.fst).Sublist (slots.map Slot.name) := by
  induction slots with
  | nil => exact .slnil
  | cons slot rest inductionHypothesis =>
    obtain ⟨name, content⟩ := slot
    cases content with
    | none => exact inductionHypothesis.cons name
    | some tree => exact inductionHypothesis.cons_cons name

/-- What a slot holds is found under its name. -/
theorem lookup_members {slots : List Slot} (distinct : (slots.map Slot.name).Nodup) {slot : Slot}
    (member : slot ∈ slots) : (members slots).lookup slot.name = slot.content := by
  induction slots with
  | nil => cases member
  | cons first rest inductionHypothesis =>
    obtain ⟨fresh, restDistinct⟩ := List.nodup_cons.mp distinct
    obtain ⟨name, content⟩ := first
    rcases List.mem_cons.mp member with rfl | later
    · cases content with
      | none =>
        -- No later slot has the name, so nothing else is found under it.
        have absent : name ∉ (members rest).map Prod.fst := fun found =>
          fresh ((names_members_sublist rest).subset found)
        refine List.lookup_eq_none_iff.mpr fun pair held => bne_iff_ne.mpr ?_
        rintro rfl
        exact absent (List.mem_map_of_mem held)
      | some tree => exact List.lookup_cons_self
    · have other : slot.name ≠ name := by
        rintro rfl
        exact fresh (List.mem_map.mpr ⟨slot, later, rfl⟩)
      cases content with
      | none => exact inductionHypothesis restDistinct later
      | some tree =>
        change ((name, tree) :: members rest).lookup slot.name = slot.content
        rw [Dictionary.lookup_pair, if_neg other]
        exact inductionHypothesis restDistinct later

end Slot

namespace Fields

/-- What the slot holds is what is given under its name. -/
def Holds (fields : Fields) (slot : Slot) : Prop :=
  fields.given.lookup slot.name = slot.content

/-- The slots hold what is given under their names. -/
def HoldsAll (fields : Fields) : List Slot → Prop
  | [] => True
  | slot :: rest => fields.Holds slot ∧ fields.HoldsAll rest

/-- Slots hold what is given one after the other. -/
theorem holdsAll_of_forall {fields : Fields} {slots : List Slot}
    (held : ∀ slot ∈ slots, fields.Holds slot) : fields.HoldsAll slots := by
  induction slots with
  | nil => trivial
  | cons slot rest inductionHypothesis =>
    obtain ⟨first, restHeld⟩ := List.forall_mem_cons.mp held
    exact ⟨first, inductionHypothesis restHeld⟩

end Fields

/-- Reading goes on with what was found. -/
theorem bind_of_eq_some {α β : Type} {reading : Option α} {next : α → Option β} {value : α}
    {result : Option β} (found : reading = some value) (rest : next value = result) :
    (reading >>= next) = result := by
  rw [found]
  exact rest

/-- Reading a record goes on with fields that its slots hold. -/
theorem Slot.read_record {β : Type} {source : TreeSource} {names : List String} {slots : List Slot}
    {next : Fields → Option β} {result : Option β} (named : slots.map Slot.name = names)
    (distinct : names.Nodup)
    (rest : ∀ fields : Fields, fields.HoldsAll slots → next fields = result) :
    (Fields.ofTree? source names [] (.record (members slots)) >>= next) = result := by
  subst named
  have kept : (members slots).map Prod.fst ⊆ slots.map Slot.name :=
    (names_members_sublist slots).subset
  -- Every member is known, and none is given twice, so all of them are taken as they stand.
  have known : (members slots).filter (fun member => (slots.map Slot.name).contains member.1) =
      members slots := by
    refine List.filter_eq_self.mpr fun member found => ?_
    exact List.contains_iff_mem.mpr (kept (List.mem_map_of_mem found))
  have opened : Fields.ofTree? source (slots.map Slot.name) [] (.record (members slots)) =
      some ⟨members slots, false⟩ := by
    simp only [Fields.ofTree?, List.lookup_nil, Option.getD_none, List.map_id', Prod.mk.eta, known]
    exact if_pos (distinct.sublist (names_members_sublist slots))
  refine bind_of_eq_some opened (rest _ ?_)
  exact Fields.holdsAll_of_forall fun slot => lookup_members distinct

namespace Fields.Holds

variable {α : Type} {fields : Fields} {form : Form α} {name : String}

/-- A slot that is always written can be required. -/
theorem required {value : α} (held : fields.Holds (form.always name value)) :
    fields.required name form.read = some value := by
  have found : fields.given.lookup name = some (form.write value) := held
  rw [Fields.required, found, Option.bind_some, form.read_write]

/-- A slot that is always written does not need its standard. -/
theorem withDefault {value : α} (absent : α) (held : fields.Holds (form.always name value)) :
    fields.withDefault name absent form.read = some value := by
  have found : fields.given.lookup name = some (form.write value) := held
  rw [Fields.withDefault, found]
  exact form.read_write value

/-- A slot that is left out is read as absent. -/
theorem optional {value : Option α} (held : fields.Holds (form.ifGiven name value)) :
    fields.optional name form.read = some value := by
  have found : fields.given.lookup name = value.map form.write := held
  rw [Fields.optional, Fields.withDefault, found]
  cases value with
  | none => rfl
  | some value =>
    change (form.write value).optional? form.read = some (some value)
    rw [Tree.optional?_of_ne_null (form.write_ne_null value), form.read_write, Option.map_some]

/-- A list that is left out is read as empty. -/
theorem emptyByDefault {items : List α} (held : fields.Holds (form.unlessEmpty name items)) :
    fields.withDefault name [] (Tree.list? form.read) = some items := by
  have found : fields.given.lookup name =
      if items.isEmpty then none else some (form.list.write items) := held
  rw [Fields.withDefault, found]
  cases items with
  | nil => rfl
  | cons item rest => exact form.list.read_write (item :: rest)

end Fields.Holds

/-- The form of a record from the slots that it is written with. -/
def Form.ofSlots {α : Type} (write : α → Tree) (read : Tree → Option α) (slots : α → List Slot)
    (written : ∀ value, write value = .record (Slot.members (slots value)))
    (back : ∀ value, read (.record (Slot.members (slots value))) = some value) : Form α where
  write := write
  read := read
  read_write value := by rw [written, back]
  write_ne_null value := by
    rw [written]
    nofun

/-! ## Slots without null -/

/-- What the slot holds, if anything, is without null. -/
def Slot.NullFree (slot : Slot) : Prop :=
  ∀ tree, slot.content = some tree → tree.NullFree

/-- A record is without null if what its slots hold is. -/
theorem Slot.nullFree_record_iff (slots : List Slot) :
    (Tree.record (members slots)).NullFree ↔ ∀ slot ∈ slots, slot.NullFree := by
  rw [Tree.nullFree_record_iff]
  constructor
  · intro free slot held tree filled
    refine free (slot.name, tree) (List.mem_filterMap.mpr ⟨slot, held, ?_⟩)
    rw [filled, Option.map_some]
  · intro free pair member
    obtain ⟨slot, held, written⟩ := List.mem_filterMap.mp member
    obtain ⟨tree, filled, rfl⟩ := Option.map_eq_some_iff.mp written
    exact free slot held tree filled

namespace Form

variable {α : Type} (form : Form α) (name : String)

/-- A slot that is always written is without null if its value is. -/
@[simp] theorem nullFree_always_iff (value : α) :
    (form.always name value).NullFree ↔ (form.write value).NullFree := by
  simp [Slot.NullFree, always]

/-- A slot for a value that may be absent is without null if the value is, once there is one. -/
@[simp] theorem nullFree_ifGiven_iff (value : Option α) :
    (form.ifGiven name value).NullFree ↔
      ∀ given, value = some given → (form.write given).NullFree := by
  simp [Slot.NullFree, ifGiven]

/-- A slot for a list is without null if the items are. An empty list leaves no tree to look at. -/
@[simp] theorem nullFree_unlessEmpty_iff (items : List α) :
    (form.unlessEmpty name items).NullFree ↔ ∀ item ∈ items, (form.write item).NullFree := by
  cases items with
  | nil => simp [Slot.NullFree, unlessEmpty]
  | cons item rest => simp [Slot.NullFree, unlessEmpty]

end Form

end ReleaseFinder
