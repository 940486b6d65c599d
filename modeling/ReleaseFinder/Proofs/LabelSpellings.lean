import ReleaseFinder.Proofs.LetterCase
import ReleaseFinder.Proofs.LoweredTexts
import ReleaseFinder.Proofs.ProfileScores

/-!
# Spellings of labels

Indexers spell one source or codec in many ways. A label is put in lower case and then looked up in
the table of its dimension, which joins the spellings that stand in one row. In the tables at hand
no spelling stands in two rows, and what stands for the spellings of a row is one of them
(`AliasTable.IsSound`). Everything else follows: spellings are brought to one exactly if they are
joined, and as every spelling is joined to the one it is brought to, bringing it there twice changes
nothing.

What stands for others is in lower case, and so is a label that is in no row once it has been put
there. So a profile meets only values in lower case, whatever the indexer wrote, and its entries
have to equal them but for the case of ASCII letters.
-/

namespace ReleaseFinder

/-! ## Texts in lower case -/

namespace Text

/-- Lower case has no other lower case. -/
theorem lower_lower (text : String) : lower (lower text) = lower text := by
  rw [lower, lower, String.toList_ofList, lowerChars_lowerChars]

/-- A character that is its own lower case is no ASCII capital. -/
theorem IsLowered.asciiLowerChar_eq {c : Char} (lowered : IsLowered c) : asciiLowerChar c = c := by
  have capitals : ∀ offset < 26,
      lowerInContext [] (Char.ofNat (65 + offset)) [] ≠ [Char.ofNat (65 + offset)] := by
    decide +kernel
  rw [← Char.toNat_inj, toNat_asciiLowerChar, if_neg]
  rintro ⟨above, below⟩
  have changed := capitals (c.toNat - 65) (by omega)
  rw [Nat.add_sub_cancel' above, Char.ofNat_toNat] at changed
  exact changed (lowered [] [])

/-- A lower case has no ASCII capitals left. -/
theorem asciiLower_lower (text : String) : asciiLower (lower text) = lower text := by
  rw [asciiLower, lower, String.toList_ofList, String.ofList_inj]
  have small : ∀ c ∈ lowerChars text.toList, asciiLowerChar c = id c :=
    fun c member => (isLowered_of_mem_lowerChars member).asciiLowerChar_eq
  rw [List.map_congr_left small, List.map_id]

end Text

/-! ## Tables -/

namespace AliasTable

/-- The spellings are equal or stand in one row. -/
def Joins (table : AliasTable) (first second : String) : Prop :=
  first = second ∨ ∃ row ∈ table, first ∈ row.1 ∧ second ∈ row.1

/-- No spelling stands in two rows, and what stands for the spellings of a row is one of them, in
lower case. -/
structure IsSound (table : AliasTable) : Prop where
  apart : table.Pairwise fun row later => ∀ spelling ∈ row.1, spelling ∉ later.1
  own : ∀ row ∈ table, row.2 ∈ row.1
  lowered : ∀ row ∈ table, Text.lower row.2 = row.2

variable {table : AliasTable} {spelling first second third : String}

/-- Spellings are joined in both directions. -/
theorem Joins.symm (joined : table.Joins first second) : table.Joins second first := by
  rcases joined with rfl | ⟨row, inTable, firstIn, secondIn⟩
  · exact .inl rfl
  · exact .inr ⟨row, inTable, secondIn, firstIn⟩

/-- A spelling is brought to the one that stands for a row of its own, or stays. -/
theorem canonical_cases (table : AliasTable) (spelling : String) :
    (∃ row ∈ table, spelling ∈ row.1 ∧ table.canonical spelling = row.2) ∨
      table.canonical spelling = spelling := by
  rw [canonical]
  cases found : table.find? (fun row => row.1.contains spelling) with
  | none => exact .inr rfl
  | some row =>
    exact .inl ⟨row, List.mem_of_find?_eq_some found, by simpa using List.find?_some found, rfl⟩

section

variable (sound : table.IsSound)
include sound

/-- A spelling tells its row. -/
theorem IsSound.row_eq {row other : List String × String} (inTable : row ∈ table)
    (otherIn : other ∈ table) (member : spelling ∈ row.1) (too : spelling ∈ other.1) :
    row = other := by
  have : Std.Symm fun row later : List String × String => ∀ spelling ∈ row.1, spelling ∉ later.1 :=
    ⟨fun _ _ apart spelling later here => apart spelling here later⟩
  by_contra different
  exact sound.apart.forall inTable otherIn different spelling member too

/-- A spelling of a row is brought to the one that stands for them. -/
theorem IsSound.canonical_of_mem {row : List String × String} (inTable : row ∈ table)
    (member : spelling ∈ row.1) : table.canonical spelling = row.2 := by
  rw [canonical]
  cases found : table.find? (fun row => row.1.contains spelling) with
  | none => exact absurd (List.find?_eq_none.mp found row inTable) (by simpa using member)
  | some other =>
    have too : spelling ∈ other.1 := by simpa using List.find?_some found
    rw [sound.row_eq inTable (List.mem_of_find?_eq_some found) member too]

/-- Joined spellings can be chained, because a spelling tells its row. -/
theorem IsSound.joins_trans (joined : table.Joins first second)
    (onward : table.Joins second third) : table.Joins first third := by
  rcases joined with rfl | ⟨row, inTable, firstIn, secondIn⟩
  · exact onward
  · rcases onward with rfl | ⟨other, otherIn, too, thirdIn⟩
    · exact .inr ⟨row, inTable, firstIn, secondIn⟩
    · obtain rfl := sound.row_eq inTable otherIn secondIn too
      exact .inr ⟨row, inTable, firstIn, thirdIn⟩

/-- A spelling is joined to the one that it is brought to. -/
theorem IsSound.joins_canonical (spelling : String) :
    table.Joins spelling (table.canonical spelling) := by
  rcases canonical_cases table spelling with ⟨row, inTable, member, brought⟩ | stays
  · exact .inr ⟨row, inTable, member, brought ▸ sound.own row inTable⟩
  · exact .inl stays.symm

/-- Joined spellings are brought to one. -/
theorem IsSound.canonical_eq_of_joins (joined : table.Joins first second) :
    table.canonical first = table.canonical second := by
  rcases joined with rfl | ⟨row, inTable, firstIn, secondIn⟩
  · rfl
  · rw [sound.canonical_of_mem inTable firstIn, sound.canonical_of_mem inTable secondIn]

/-- Spellings are brought to one exactly if they are joined. -/
theorem IsSound.canonical_eq_iff (first second : String) :
    table.canonical first = table.canonical second ↔ table.Joins first second := by
  constructor
  · intro same
    have back := (sound.joins_canonical second).symm
    exact sound.joins_trans (sound.joins_canonical first) (same ▸ back)
  · exact sound.canonical_eq_of_joins

/-- What stands for a spelling stands for itself. -/
theorem IsSound.canonical_canonical (spelling : String) :
    table.canonical (table.canonical spelling) = table.canonical spelling :=
  sound.canonical_eq_of_joins (sound.joins_canonical spelling).symm

/-- What stands for a spelling in lower case is in lower case. -/
theorem IsSound.lower_canonical (lowered : Text.lower spelling = spelling) :
    Text.lower (table.canonical spelling) = table.canonical spelling := by
  rcases canonical_cases table spelling with ⟨row, inTable, -, brought⟩ | stays
  · rw [brought, sound.lowered row inTable]
  · rw [stays, lowered]

end

end AliasTable

/-! ## Dimensions -/

namespace Dimension

/-- The table of a dimension. A resolution has one spelling. -/
def aliases : Dimension → AliasTable
  | .resolution => []
  | .source => Attributes.sourceAliases
  | .videoCodec => Attributes.videoCodecAliases
  | .audioCodec => Attributes.audioCodecAliases
  | .hdrFormat => Attributes.hdrFormatAliases

/-- A label in the words of profiles. -/
def normal : Dimension → String → String
  | .resolution => Text.lower
  | .source => Attributes.normalSource
  | .videoCodec => Attributes.normalVideoCodec
  | .audioCodec => Attributes.normalAudioCodec
  | .hdrFormat => Attributes.normalHdrFormat

/-- The label that a quality has. High dynamic range of no known format has that of the most common
one. -/
def label? (quality : Quality) : Dimension → Option String
  | .resolution => quality.resolution
  | .source => quality.source
  | .videoCodec => quality.codec
  | .audioCodec => quality.audio
  | .hdrFormat => quality.hdrFormat <|> if quality.hdr then some "hdr10" else none

/-- The tables of all dimensions are sound. -/
theorem aliases_isSound (dimension : Dimension) : dimension.aliases.IsSound := by
  cases dimension with
  | resolution => exact ⟨by decide, by decide, by decide⟩
  | source => exact ⟨by decide, by decide, by decide +kernel⟩
  | videoCodec => exact ⟨by decide, by decide, by decide +kernel⟩
  | audioCodec => exact ⟨by decide, by decide, by decide +kernel⟩
  | hdrFormat => exact ⟨by decide, by decide, by decide +kernel⟩

/-- A label is put in lower case before it is looked up. -/
theorem normal_eq (dimension : Dimension) (label : String) :
    dimension.normal label = dimension.aliases.canonical (Text.lower label) := by
  cases dimension <;> rfl

/-- A label that has been brought to one spelling is in lower case. -/
theorem lower_normal (dimension : Dimension) (label : String) :
    Text.lower (dimension.normal label) = dimension.normal label := by
  rw [normal_eq]
  exact dimension.aliases_isSound.lower_canonical (Text.lower_lower label)

/-- Bringing a label to one spelling twice changes nothing more. -/
theorem normal_normal (dimension : Dimension) (label : String) :
    dimension.normal (dimension.normal label) = dimension.normal label := by
  rw [normal_eq, lower_normal, normal_eq, dimension.aliases_isSound.canonical_canonical]

/-- Labels are brought to one spelling exactly if the table of the dimension joins them in lower
case. -/
theorem normal_eq_iff (dimension : Dimension) (label other : String) :
    dimension.normal label = dimension.normal other ↔
      dimension.aliases.Joins (Text.lower label) (Text.lower other) := by
  rw [normal_eq, normal_eq, dimension.aliases_isSound.canonical_eq_iff]

/-- An entry of a profile matches a label exactly if the entry, its ASCII letters in lower case, is
the spelling that the label is brought to. -/
theorem sameLetters_normal_iff (dimension : Dimension) (label entry : String) :
    Text.sameLetters entry (dimension.normal label) = true ↔
      Text.asciiLower entry = dimension.normal label := by
  apply Text.sameLetters_iff_of_small
  rw [← lower_normal, Text.asciiLower_lower]

/-- The values of a quality are its labels in the words of profiles. -/
theorem value?_ofQuality (dimension : Dimension) (quality : Quality) (fileSizeMb : Float)
    (mediaType : MediaType) :
    dimension.value? (Attributes.ofQuality quality fileSizeMb mediaType) =
      (dimension.label? quality).map dimension.normal := by
  cases dimension with
  | hdrFormat =>
    have common : Attributes.normalHdrFormat "hdr10" = "hdr10" := by decide +kernel
    simp only [value?, Attributes.ofQuality, label?, normal]
    cases quality.hdrFormat with
    | some format => rfl
    | none => cases quality.hdr <;> simp [common]
  | _ => rfl

/-- So are those of a release. Without a quality it has none. -/
theorem value?_ofRelease (dimension : Dimension) (release : Release) (mediaType : MediaType) :
    dimension.value? (Attributes.ofRelease release mediaType) =
      (release.quality.bind dimension.label?).map dimension.normal := by
  rw [Attributes.ofRelease]
  cases release.quality with
  | none => cases dimension <;> rfl
  | some quality => exact dimension.value?_ofQuality quality release.sizeMb mediaType

end Dimension

/-- A label is brought to one spelling. Bringing it there again changes nothing, and the spelling is
its own lower case. Labels are brought to one spelling exactly if they have one lower case or, in
lower case, stand in one row of the table. The values of a quality, and of a release, are the labels
brought there; and the place of such a value in a list is that of the first entry that equals it up
to the case of ASCII letters, which is to say that it equals the entry with its ASCII letters in
lower case. -/
theorem labels_are_brought_to_one_spelling (dimension : Dimension) :
    (∀ label, dimension.normal (dimension.normal label) = dimension.normal label ∧
        Text.lower (dimension.normal label) = dimension.normal label) ∧
      (∀ label other, dimension.normal label = dimension.normal other ↔
        dimension.aliases.Joins (Text.lower label) (Text.lower other)) ∧
      (∀ quality fileSizeMb mediaType,
        dimension.value? (Attributes.ofQuality quality fileSizeMb mediaType) =
          (dimension.label? quality).map dimension.normal) ∧
      (∀ release mediaType, dimension.value? (Attributes.ofRelease release mediaType) =
        (release.quality.bind dimension.label?).map dimension.normal) ∧
      (∀ label entry, Text.sameLetters entry (dimension.normal label) = true ↔
        Text.asciiLower entry = dimension.normal label) ∧
      ∀ quality fileSizeMb mediaType values place,
        (dimension.value? (Attributes.ofQuality quality fileSizeMb mediaType)).bind
            (position? values) = some place ↔
          ∃ label, dimension.label? quality = some label ∧
            FirstPlace values (dimension.normal label) place := by
  refine ⟨?once, dimension.normal_eq_iff, ?qualities, ?releases,
    dimension.sameLetters_normal_iff, ?places⟩
  case once =>
    intro label
    exact ⟨dimension.normal_normal label, dimension.lower_normal label⟩
  case qualities =>
    intro quality fileSizeMb mediaType
    exact dimension.value?_ofQuality quality fileSizeMb mediaType
  case releases =>
    intro release mediaType
    exact dimension.value?_ofRelease release mediaType
  case places =>
    intro quality fileSizeMb mediaType values place
    rw [dimension.value?_ofQuality]
    simp only [Option.bind_eq_some_iff, Option.map_eq_some_iff, position?_eq_some_iff,
      exists_exists_and_eq_and]

end ReleaseFinder
