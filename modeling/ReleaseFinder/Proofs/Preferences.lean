import ReleaseFinder.Proofs.RankingOrder

/-!
# Preferred resolutions

A resolution is listed at the first place of the preference list where it stands, up to the case of
ASCII letters. Two listed resolutions are always ranked by their places. A resolution that is not
listed is ranked as if it stood at place 999. Places below that one are all preferred to it, so a
list of at most 999 resolutions keeps everything listed before everything else. A longer list has
places that tie with the unlisted resolutions, or come after them; which rankings are still in order
is stated exactly.
-/

namespace ReleaseFinder.Options

open Sorting

/-- The release has a known resolution, and this is the first place of the preference list where it
stands. -/
def ListedAt (options : Options) (release : Release) (place : Nat) : Prop :=
  ∃ resolution, release.resolution? = some resolution ∧
    ∃ inside : place < options.preferredQualities.length,
      Text.sameLetters options.preferredQualities[place] resolution = true ∧
        ∀ earlier, ∀ before : earlier < place,
          Text.sameLetters options.preferredQualities[earlier] resolution = false

/-- The release's resolution stands somewhere in the preference list. -/
def IsListed (options : Options) (release : Release) : Prop :=
  ∃ place, options.ListedAt release place

/-- The first release may come before the second: it is listed if the second is, and then at no
later place. -/
def MayPrecede (options : Options) (first second : Ranked) : Prop :=
  (options.IsListed second.release → options.IsListed first.release) ∧
    ∀ firstPlace secondPlace, options.ListedAt first.release firstPlace →
      options.ListedAt second.release secondPlace → firstPlace ≤ secondPlace

/-- What preferring resolutions means for a ranking: everything listed comes before everything that
is not listed, and listed releases come in the order of their places. -/
def PreferredFirst (options : Options) (ranking : List Ranked) : Prop :=
  ranking.Pairwise options.MayPrecede

/-- Two releases, found in this order, are ranked as the preference list asks. Only a listed release
and one that is not listed can fail to be: if the listed place is beyond 999, or if it is 999 and
the listed release has the lower score, or the same score and was found later. -/
def KeepsPreference (options : Options) (first second : Ranked) : Prop :=
  (∀ place, options.ListedAt first.release place → ¬ options.IsListed second.release →
      place < unlistedPlace ∨
        place = unlistedPlace ∧ Decimal.rank second.score.total ≤ Decimal.rank first.score.total) ∧
    ∀ place, options.ListedAt second.release place → ¬ options.IsListed first.release →
      place < unlistedPlace ∨
        place = unlistedPlace ∧ Decimal.rank first.score.total < Decimal.rank second.score.total

/-- The listed place, as it is looked up. -/
def listedPlace? (options : Options) (release : Release) : Option Nat :=
  release.resolution?.bind (position? options.preferredQualities)

/-- Looking a place up finds the first one. -/
theorem listedAt_iff (options : Options) (release : Release) (place : Nat) :
    options.ListedAt release place ↔ options.listedPlace? release = some place := by
  unfold ListedAt listedPlace?
  cases known : release.resolution? with
  | none => simp
  | some resolution =>
    simp [position?, List.findIdx?_eq_some_iff_getElem]

/-- Listed places lie within the list. -/
theorem listedPlace?_lt (options : Options) (release : Release) (place : Nat)
    (listed : options.listedPlace? release = some place) :
    place < options.preferredQualities.length := by
  obtain ⟨_, _, inside, _⟩ := (listedAt_iff options release place).mpr listed
  exact inside

/-- Something listed is something preferred. -/
theorem preferring_of_listed (options : Options) (release : Release) (place : Nat)
    (listed : options.listedPlace? release = some place) : options.preferredQualities ≠ [] := by
  have inside := listedPlace?_lt options release place listed
  exact List.ne_nil_of_length_pos (Nat.lt_of_le_of_lt (Nat.zero_le place) inside)

/-- When one of two releases is listed, their keys compare the places, an unlisted release standing
at 999, and between equal places the scores. -/
theorem orderKey_le_iff_of_listed (options : Options) (first second : Ranked) (place : Nat)
    (listed : options.listedPlace? first.release = some place ∨
      options.listedPlace? second.release = some place) :
    options.orderKey first ≤ options.orderKey second ↔
      (options.listedPlace? first.release).getD unlistedPlace <
          (options.listedPlace? second.release).getD unlistedPlace ∨
        (options.listedPlace? first.release).getD unlistedPlace =
            (options.listedPlace? second.release).getD unlistedPlace ∧
          Decimal.rank second.score.total ≤ Decimal.rank first.score.total := by
  have preferring : options.preferredQualities ≠ [] := by
    rcases listed with listed | listed <;> exact preferring_of_listed options _ place listed
  exact orderKey_le_iff_of_preference options preferring first second

/-- Of two listed releases, the one that may stand first has no later place. -/
theorem listed_le_listed (options : Options) (first second : Ranked) (firstPlace secondPlace : Nat)
    (firstListed : options.listedPlace? first.release = some firstPlace)
    (secondListed : options.listedPlace? second.release = some secondPlace)
    (before : options.orderKey first ≤ options.orderKey second) : firstPlace ≤ secondPlace := by
  rw [orderKey_le_iff_of_listed options first second firstPlace (Or.inl firstListed), firstListed,
    secondListed, Option.getD_some, Option.getD_some] at before
  omega

/-- Two releases are put in the order of preference by their keys exactly if they keep their
preference. Two listed releases always are, and two that are not listed have nothing to keep. -/
theorem keepsPreference_iff (options : Options) (first second : Ranked) :
    ((options.orderKey first ≤ options.orderKey second → options.MayPrecede first second) ∧
        (options.orderKey second < options.orderKey first → options.MayPrecede second first)) ↔
      options.KeepsPreference first second := by
  unfold MayPrecede KeepsPreference IsListed
  simp only [listedAt_iff]
  cases firstListed : options.listedPlace? first.release with
  | none =>
    cases secondListed : options.listedPlace? second.release with
    | none => simp
    | some place =>
      have overtaken : options.orderKey second < options.orderKey first ↔
          place < unlistedPlace ∨ place = unlistedPlace ∧
            Decimal.rank first.score.total < Decimal.rank second.score.total := by
        rw [← not_le, orderKey_le_iff_of_listed options first second place (Or.inr secondListed),
          firstListed, secondListed, Option.getD_some, Option.getD_none]
        omega
      simp [← overtaken]
  | some place =>
    cases secondListed : options.listedPlace? second.release with
    | none =>
      have kept := orderKey_le_iff_of_listed options first second place (Or.inl firstListed)
      rw [firstListed, secondListed, Option.getD_some, Option.getD_none] at kept
      simp [← kept]
    | some other =>
      have forward := listed_le_listed options first second place other firstListed secondListed
      have backward := listed_le_listed options second first other place secondListed firstListed
      have inOrder (below : options.orderKey second < options.orderKey first) : other ≤ place :=
        backward (le_of_lt below)
      simpa using ⟨forward, inOrder⟩

/-- A place within a short list is below the place of the unlisted. -/
theorem keepsPreference_of_short (options : Options)
    (short : options.preferredQualities.length ≤ unlistedPlace) (first second : Ranked) :
    options.KeepsPreference first second := by
  have below (release : Release) (place : Nat) (listed : options.ListedAt release place) :
      place < unlistedPlace := by
    obtain ⟨_, _, inside, _⟩ := listed
    exact Nat.lt_of_lt_of_le inside short
  exact ⟨fun place listed _ => Or.inl (below first.release place listed),
    fun place listed _ => Or.inl (below second.release place listed)⟩

/-- A ranking is in the order of preference exactly if any two survivors keep their preference. -/
theorem preferredFirst_iff_keepsPreference (options : Options) (releases : List Release) :
    options.PreferredFirst (options.rank releases) ↔
      (options.survivors releases).Pairwise options.KeepsPreference := by
  unfold PreferredFirst
  rw [(stableSort_rank options releases).pairwise_iff]
  exact List.Pairwise.iff fun first second => keepsPreference_iff options first second

/-- When a ranking is in the order of preference. It is exactly if no acceptable release is listed
at a place beyond 999 beside an acceptable one that is not listed, and none at place 999 is
outscored by one that is not listed, or equal to one found before it. Lists of at most 999
resolutions never fail, and listed releases always come in the order of their places. -/
theorem preferred_first_iff (options : Options) (releases : List Release) :
    (options.PreferredFirst (options.rank releases) ↔
        (options.survivors releases).Pairwise options.KeepsPreference) ∧
      (options.preferredQualities.length ≤ unlistedPlace →
        options.PreferredFirst (options.rank releases)) ∧
      (options.rank releases).Pairwise fun first second =>
        ∀ firstPlace secondPlace, options.ListedAt first.release firstPlace →
          options.ListedAt second.release secondPlace → firstPlace ≤ secondPlace := by
  refine ⟨preferredFirst_iff_keepsPreference options releases, ?_, ?_⟩
  · intro short
    rw [preferredFirst_iff_keepsPreference]
    exact List.pairwise_of_forall (keepsPreference_of_short options short)
  · refine (stableSort_rank options releases).ordered.imp ?_
    intro first second before firstPlace secondPlace firstListed secondListed
    exact listed_le_listed options first second firstPlace secondPlace
      ((listedAt_iff ..).mp firstListed) ((listedAt_iff ..).mp secondListed) before

/-- Options that prefer one resolution behind a number of entries of another. -/
def crowded (entries : Nat) : Options :=
  { preferredQualities := List.replicate entries "480p" ++ ["720p"] }

/-- A release whose resolution is the last of the crowded list. -/
def crowdedOut : Release :=
  { title := "Listed", sizeBytes := 1, quality := some { resolution := some "720p" } }

/-- A release without a known resolution. -/
def unknownResolution : Release :=
  { title := "Unlisted", sizeBytes := 1 }

/-- The last entry of a crowded list is the first place of its resolution. -/
theorem crowded_place (entries : Nat) :
    (crowded entries).listedPlace? crowdedOut = some entries := by
  have other : Text.sameLetters "480p" "720p" = false := by decide
  have same : Text.sameLetters "720p" "720p" = true := by decide
  simp [listedPlace?, crowded, crowdedOut, Release.resolution?, position?, other, same,
    List.findIdx?_append]

/-- Crowded options accept every release. -/
theorem crowded_accepts (entries : Nat) (release : Release) :
    (crowded entries).rejection? release = none := rfl

/-- Beyond place 999, a listed release is ranked after one that is not listed. -/
theorem crowded_rank (entries : Nat) (beyond : unlistedPlace < entries) :
    (crowded entries).rank [crowdedOut, unknownResolution] =
      [(crowded entries).ranked unknownResolution, (crowded entries).ranked crowdedOut] := by
  have listed : (crowded entries).listedPlace? ((crowded entries).ranked crowdedOut).release =
      some entries := crowded_place entries
  have unlisted :
      (crowded entries).listedPlace? ((crowded entries).ranked unknownResolution).release = none :=
    rfl
  have overtaken : ¬ (crowded entries).orderKey ((crowded entries).ranked crowdedOut) ≤
      (crowded entries).orderKey ((crowded entries).ranked unknownResolution) := by
    rw [orderKey_le_iff_of_listed _ _ _ entries (Or.inl listed), listed, unlisted,
      Option.getD_some, Option.getD_none]
    omega
  rw [← compares_orderKey, Bool.not_eq_true] at overtaken
  simp [rank, acceptable, accepts_iff, crowded_accepts, List.mergeSort, overtaken]

/-- Behind a thousand entries, a listed release comes after one that is not listed, whatever their
scores. -/
theorem crowded_preference_comes_last :
    (crowded 1000).ListedAt crowdedOut 1000 ∧ ¬ (crowded 1000).IsListed unknownResolution ∧
      ((crowded 1000).rank [crowdedOut, unknownResolution]).map Ranked.release =
        [unknownResolution, crowdedOut] ∧
      ¬ (crowded 1000).PreferredFirst ((crowded 1000).rank [crowdedOut, unknownResolution]) := by
  have listed : (crowded 1000).ListedAt crowdedOut 1000 :=
    (listedAt_iff ..).mpr (crowded_place 1000)
  have unlisted : ¬ (crowded 1000).IsListed unknownResolution := by
    rintro ⟨_, _, known, _⟩
    cases known
  rw [crowded_rank 1000 (by decide)]
  refine ⟨listed, unlisted, rfl, ?_⟩
  intro inOrder
  have first := (List.pairwise_pair.mp inOrder).1
  exact unlisted (first ⟨1000, listed⟩)

end ReleaseFinder.Options
