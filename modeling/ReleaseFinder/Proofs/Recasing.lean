import ReleaseFinder.Proofs.PatternReading
import ReleaseFinder.Proofs.RankingOrder

/-!
# The case of ASCII letters never matters

Titles, queries, tags, labels, preferences and profiles may be written in capitals or in small
letters. They are compared in four ways: patterns look at letters in either case, words and tags are
put in lower case, labels are looked up in lower case, and lists are searched up to the case of
ASCII letters. Each way gives one answer for texts that are alike, so rejections and scores are
equal and two rankings of the same releases have one order.
-/

namespace ReleaseFinder

namespace Text

/-- Texts that differ at most in the case of ASCII letters. -/
def Alike (first second : String) : Prop :=
  Recased first.toList second.toList

instance (first second : String) : Decidable (Alike first second) :=
  decidable_of_iff _ (sameLetters_iff first second)

namespace Alike

variable {first second : String}

/-- A text is like itself. -/
theorem refl (text : String) : Alike text text :=
  Recased.refl text.toList

/-- Texts that are alike have one lower case. -/
theorem lower_eq (alike : Alike first second) : lower first = lower second :=
  congrArg String.ofList (Recased.lowerChars_eq alike)

/-- Texts that are alike have one lower case of ASCII letters. -/
theorem asciiLower_eq (alike : Alike first second) : asciiLower first = asciiLower second :=
  congrArg String.ofList ((Recased.iff_map ..).mp alike)

/-- Texts compare as the texts that they are like. -/
theorem sameLetters_eq {left right : String} (alike : Alike first second)
    (otherAlike : Alike left right) : sameLetters first left = sameLetters second right := by
  rw [sameLetters, sameLetters, alike.asciiLower_eq, otherAlike.asciiLower_eq]

end Alike

end Text

open Text Sorting

/-- Related lists are empty together. -/
theorem isEmpty_eq_of_forall₂ {α β : Type} {related : α → β → Prop} {first : List α}
    {second : List β} (lists : List.Forall₂ related first second) :
    first.isEmpty = second.isEmpty := by
  cases lists with
  | nil => rfl
  | cons => rfl

/-- A test that gives one answer for related members gives one answer for related lists. -/
theorem any_eq_of_forall₂ {α β : Type} {related : α → β → Prop} {first : List α} {second : List β}
    {test : α → Bool} {otherTest : β → Bool} (lists : List.Forall₂ related first second)
    (agree : ∀ {member other}, related member other → test member = otherTest other) :
    first.any test = second.any otherTest := by
  induction lists with
  | nil => rfl
  | cons member rest inductionHypothesis =>
    rw [List.any_cons, List.any_cons, agree member, inductionHypothesis]

/-- Related values are both absent, or both there. -/
theorem absent_or_related {α β : Type} {related : α → β → Prop} {left : Option α} {right : Option β}
    (values : Option.Rel related left right) :
    left = none ∧ right = none ∨
      ∃ value other, left = some value ∧ right = some other ∧ related value other := by
  cases values with
  | none => exact Or.inl ⟨rfl, rfl⟩
  | some both => exact Or.inr ⟨_, _, rfl, rfl, both⟩

/-- A function that gives one answer for texts that are alike does so where the texts may be
absent. -/
theorem map_eq_of_alike {β : Type} {left right : Option String} {f : String → β}
    (labels : Option.Rel Alike left right)
    (agree : ∀ {first second}, Alike first second → f first = f second) :
    left.map f = right.map f := by
  rcases absent_or_related labels with ⟨rfl, rfl⟩ | ⟨label, other, rfl, rfl, alike⟩
  · rfl
  · exact congrArg some (agree alike)

/-- A text has the same first place in lists that are alike. -/
theorem position?_eq_of_alike {values others : List String} {value other : String}
    (lists : List.Forall₂ Alike values others) (alike : Alike value other) :
    position? values value = position? others other := by
  induction lists with
  | nil => rfl
  | cons listed rest inductionHypothesis =>
    rw [position?, position?, List.findIdx?_cons, List.findIdx?_cons, listed.sameLetters_eq alike]
    rw [position?, position?] at inductionHypothesis
    rw [inductionHypothesis]

/-! ## Titles and queries -/

/-- Every attribute is read from the patterns that occur in the title. -/
theorem Quality.ofTitle_eq_of_alike {title other : String} (alike : Alike title other) :
    Quality.ofTitle title = Quality.ofTitle other := by
  have found (pattern : Pattern) : pattern.occursIn title.toList = pattern.occursIn other.toList :=
    pattern.occursIn_eq_of_recased alike
  simp only [Quality.ofTitle, Quality.firstLabel?, found]

/-- Relevance looks at the words in lower case. -/
theorem Relevance.ofTitle_eq_of_alike {α : Type} [Scalar α] {title other query otherQuery : String}
    (titles : Alike title other) (queries : Alike query otherQuery) :
    (Relevance.ofTitle title query : α) = Relevance.ofTitle other otherQuery := by
  have words {first second : String} (alike : Alike first second) :
      Relevance.words first = Relevance.words second :=
    congrArg (pieces Relevance.separatesWords) (Recased.lowerChars_eq alike)
  rw [Relevance.ofTitle, Relevance.ofTitle, words titles, words queries]

/-! ## Releases -/

/-- The labels are alike, and the rest is equal. -/
structure Quality.Recased (first second : Quality) : Prop where
  resolution : Option.Rel Alike first.resolution second.resolution
  source : Option.Rel Alike first.source second.source
  codec : Option.Rel Alike first.codec second.codec
  audio : Option.Rel Alike first.audio second.audio
  hdr : first.hdr = second.hdr
  hdrFormat : Option.Rel Alike first.hdrFormat second.hdrFormat
  proper : first.proper = second.proper
  repack : first.repack = second.repack

/-- The titles and the labels are alike, and the rest is equal. -/
structure Release.Recased (first second : Release) : Prop where
  title : Alike first.title second.title
  sizeBytes : first.sizeBytes = second.sizeBytes
  seeders : first.seeders = second.seeders
  leechers : first.leechers = second.leechers
  publishedAt : first.publishedAt = second.publishedAt
  quality : Option.Rel Quality.Recased first.quality second.quality
  indexer : first.indexer = second.indexer

/-- A quality is recased from itself. -/
theorem Quality.Recased.refl (quality : Quality) : quality.Recased quality := by
  have same (label : Option String) : Option.Rel Alike label label := by
    cases label with
    | none => exact .none
    | some label => exact .some (Alike.refl label)
  exact ⟨same _, same _, same _, same _, rfl, same _, rfl, rfl⟩

namespace Release.Recased

variable {first second : Release} (recased : first.Recased second)
include recased

/-- Recased releases have one size. -/
theorem sizeMb : first.sizeMb = second.sizeMb := by
  rw [Release.sizeMb, Release.sizeMb, recased.sizeBytes]

/-- Classified releases are recased if the releases are. -/
theorem classified : first.classified.Recased second.classified := by
  rw [Release.classified, Release.classified]
  rcases absent_or_related recased.quality with
    ⟨given, otherGiven⟩ | ⟨labels, others, given, otherGiven, _⟩
  · rw [given, otherGiven]
    have read := Quality.ofTitle_eq_of_alike recased.title
    have same : Option.Rel Quality.Recased (some (Quality.ofTitle first.title))
        (some (Quality.ofTitle second.title)) := .some (read ▸ Quality.Recased.refl _)
    exact { recased with quality := same }
  · rw [given, otherGiven]
    exact recased

/-- The resolutions of recased releases are alike, or both are unknown. -/
theorem resolution? : Option.Rel Alike first.resolution? second.resolution? := by
  rw [Release.resolution?, Release.resolution?]
  rcases absent_or_related recased.quality with
    ⟨given, otherGiven⟩ | ⟨_, _, given, otherGiven, labels⟩
  · rw [given, otherGiven]
    exact .none
  · rw [given, otherGiven]
    exact labels.resolution

end Release.Recased

/-- Labels are brought to lower case before they are looked up. -/
theorem Attributes.ofQuality_eq_of_recased {first second : Quality} (recased : first.Recased second)
    (fileSizeMb : Float) (mediaType : MediaType) :
    Attributes.ofQuality first fileSizeMb mediaType =
      Attributes.ofQuality second fileSizeMb mediaType := by
  have looked (table : AliasTable) {label other : String} (alike : Alike label other) :
      table.canonical (lower label) = table.canonical (lower other) := by rw [alike.lower_eq]
  have resolution := map_eq_of_alike recased.resolution Alike.lower_eq
  have source := map_eq_of_alike recased.source (looked sourceAliases)
  have codec := map_eq_of_alike recased.codec (looked videoCodecAliases)
  have audio := map_eq_of_alike recased.audio (looked audioCodecAliases)
  have named := map_eq_of_alike recased.hdrFormat (looked hdrFormatAliases)
  have hdrFormat (quality : Quality) :
    (Attributes.ofQuality quality fileSizeMb mediaType).hdrFormat =
      (quality.hdrFormat.map normalHdrFormat).or (if quality.hdr then some "hdr10" else none) := by
    cases given : quality.hdrFormat <;> simp [Attributes.ofQuality, given]
  have screen : (Attributes.ofQuality first fileSizeMb mediaType).hdrFormat =
      (Attributes.ofQuality second fileSizeMb mediaType).hdrFormat := by
    rw [hdrFormat, hdrFormat, recased.hdr]
    exact congrArg (Option.or · _) named
  exact (Attributes.mk.injEq ..).mpr ⟨resolution, source, codec, audio, screen, rfl, rfl⟩

/-- A profile is asked about the same attributes. -/
theorem Attributes.ofRelease_eq_of_recased {first second : Release} (recased : first.Recased second)
    (mediaType : MediaType) :
    Attributes.ofRelease first mediaType = Attributes.ofRelease second mediaType := by
  rw [Attributes.ofRelease, Attributes.ofRelease, recased.sizeMb]
  rcases absent_or_related recased.quality with
    ⟨given, otherGiven⟩ | ⟨_, _, given, otherGiven, labels⟩
  · rw [given, otherGiven]
  · rw [given, otherGiven]
    exact Attributes.ofQuality_eq_of_recased labels _ mediaType

/-! ## Profiles -/

/-- The values of every list are alike, and the sizes are equal. -/
structure Profile.Recased (first second : Profile) : Prop where
  resolutions : List.Forall₂ Alike first.resolutions second.resolutions
  sources : List.Forall₂ Alike first.sources second.sources
  videoCodecs : List.Forall₂ Alike first.videoCodecs second.videoCodecs
  audioCodecs : List.Forall₂ Alike first.audioCodecs second.audioCodecs
  hdrFormats : List.Forall₂ Alike first.hdrFormats second.hdrFormats
  allowedResolutions : List.Forall₂ Alike first.allowedResolutions second.allowedResolutions
  minSizeMb : first.minSizeMb = second.minSizeMb
  maxSizeMb : first.maxSizeMb = second.maxSizeMb

namespace Profile.Recased

variable {first second : Profile} (recased : first.Recased second)
include recased

/-- The lists of recased profiles are alike in every dimension. -/
theorem preferred (dimension : Dimension) :
    List.Forall₂ Alike (dimension.preferred first) (dimension.preferred second) := by
  cases dimension with
  | audioCodec => exact recased.audioCodecs
  | hdrFormat => exact recased.hdrFormats
  | resolution => exact recased.resolutions
  | source => exact recased.sources
  | videoCodec => exact recased.videoCodecs

end Profile.Recased

/-- A value earns the same in lists that are alike. -/
theorem Profile.preference_eq_of_alike {α : Type} [Scalar α] {values others : List String}
    (lists : List.Forall₂ Alike values others) (value : Option String) :
    (Profile.preference values value : α) = Profile.preference others value := by
  have place (value : String) : position? values value = position? others value :=
    position?_eq_of_alike lists (.refl value)
  rw [Profile.preference, Profile.preference, isEmpty_eq_of_forall₂ lists, lists.length_eq,
    funext place]

/-- Recased profiles judge alike. -/
theorem Profile.judge_eq_of_recased {first second : Profile} (recased : first.Recased second) :
    first.judge = second.judge := by
  funext attributes
  have contributions (dimension : Dimension) :
      (first.contribution attributes dimension : Float) =
        second.contribution attributes dimension := by
    rw [contribution, contribution, preference_eq_of_alike (recased.preferred dimension)]
  have place (value : String) : position? first.allowedResolutions value =
      position? second.allowedResolutions value :=
    position?_eq_of_alike recased.allowedResolutions (.refl value)
  have allows : first.allowsResolution attributes = second.allowsResolution attributes := by
    simp only [allowsResolution, isEmpty_eq_of_forall₂ recased.allowedResolutions, place]
  have violations : first.violations attributes = second.violations attributes := by
    rw [Profile.violations, Profile.violations, allows, recased.minSizeMb, recased.maxSizeMb]
  simp only [judge, score, funext contributions, violations]

/-- The same judge, or two recased profiles. -/
inductive Scorer.Recased : Scorer → Scorer → Prop where
  | same (scorer : Scorer) : Recased scorer scorer
  | profiles {first second : Profile} (recased : first.Recased second) :
    Recased first.judge second.judge

/-- Recased judges judge alike. -/
theorem Scorer.Recased.eq {first second : Scorer} (recased : Scorer.Recased first second) :
    first = second := by
  cases recased with
  | same => rfl
  | profiles recased => exact Profile.judge_eq_of_recased recased

/-! ## Options -/

/-- The tags, the preferred resolutions, the query and the judge are recased, and the rest is
equal. -/
structure Options.Recased (first second : Options) : Prop where
  minSeeders : first.minSeeders = second.minSeeders
  minRatio : first.minRatio = second.minRatio
  sizeRange : first.sizeRange = second.sizeRange
  blockedTags : List.Forall₂ Alike first.blockedTags second.blockedTags
  preferredQualities : List.Forall₂ Alike first.preferredQualities second.preferredQualities
  searchQuery : Option.Rel Alike first.searchQuery second.searchQuery
  scorer : Option.Rel Scorer.Recased first.scorer second.scorer
  mediaType : first.mediaType = second.mediaType

/-- Tags are trimmed, put in lower case and looked for in the title in lower case. -/
theorem Criteria.hasBlockedTag_eq_of_alike {first second : Criteria} {release other : Release}
    (tags : List.Forall₂ Alike first.blockedTags second.blockedTags)
    (titles : Alike release.title other.title) :
    first.hasBlockedTag release = second.hasBlockedTag other := by
  rw [hasBlockedTag, hasBlockedTag, Recased.lowerChars_eq titles]
  apply any_eq_of_forall₂ tags
  intro tag otherTag alike
  have trimmed : Recased (tagText tag) (tagText otherTag) := Recased.trimChars alike
  rw [isEmpty_eq_of_forall₂ trimmed, trimmed.lowerChars_eq]

namespace Options.Recased

variable {first second : Options} (options : first.Recased second) {release other : Release}
  (recased : release.Recased other)
include options recased

/-- Recased releases pass the same checks. -/
theorem rejection?_eq : first.rejection? release = second.rejection? other := by
  have share : first.failsRatio release = second.failsRatio other := by
    rw [Criteria.failsRatio, Criteria.failsRatio, options.minRatio, recased.seeders,
      recased.leechers]
  have window : first.failsSize release = second.failsSize other := by
    rw [Criteria.failsSize, Criteria.failsSize, options.sizeRange, recased.sizeMb]
  have tags : first.hasBlockedTag release = second.hasBlockedTag other :=
    Criteria.hasBlockedTag_eq_of_alike options.blockedTags recased.title
  rw [Criteria.rejection?, Criteria.rejection?, share, window, tags, options.minSeeders,
    recased.seeders]

/-- Recased options accept recased releases alike. -/
theorem accepts_eq : first.accepts release = second.accepts other := by
  rw [Criteria.accepts, Criteria.accepts, options.rejection?_eq recased]

/-- Recased releases are judged alike. -/
theorem judgement?_eq : first.judgement? release = second.judgement? other := by
  have judges : first.scorer = second.scorer := by
    rcases absent_or_related options.scorer with
      ⟨given, otherGiven⟩ | ⟨_, _, given, otherGiven, judges⟩
    · rw [given, otherGiven]
    · rw [given, otherGiven, judges.eq]
  rw [judgement?, judgement?, judges, options.mediaType,
    Attributes.ofRelease_eq_of_recased recased]

/-- Recased releases are as relevant to recased queries. -/
theorem relevance_eq : (first.parts release).relevance = (second.parts other).relevance := by
  rw [parts, parts]
  rcases absent_or_related options.searchQuery with
    ⟨given, otherGiven⟩ | ⟨_, _, given, otherGiven, queries⟩
  · rw [given, otherGiven]
  · rw [given, otherGiven]
    exact Relevance.ofTitle_eq_of_alike recased.title queries

/-- Recased releases have the same score, with the same parts and violations. -/
theorem score_eq : first.score release = second.score other := by
  have judgement := options.judgement?_eq recased
  have quality : (first.parts release).quality = (second.parts other).quality := by
    rw [parts, parts, judgement, recased.seeders]
  have same : first.parts release = second.parts other :=
    (Parts.mk.injEq ..).mpr ⟨quality, recased.seeders, options.relevance_eq recased⟩
  rw [score, score, same, judgement, recased.seeders]

/-- Recased releases have the same place among preferred resolutions. -/
theorem preferencePlace_eq : first.preferencePlace release = second.preferencePlace other := by
  rw [preferencePlace, preferencePlace]
  rcases absent_or_related recased.resolution? with
    ⟨given, otherGiven⟩ | ⟨_, _, given, otherGiven, alike⟩
  · rw [given, otherGiven]
    rfl
  · have place := position?_eq_of_alike options.preferredQualities alike
    rw [given, otherGiven, Option.bind_some, Option.bind_some, place]

/-- Recased releases are ranked by the same key. -/
theorem orderKey_eq :
    first.orderKey (first.ranked release) = second.orderKey (second.ranked other) := by
  have preferring : first.preferredQualities = [] ↔ second.preferredQualities = [] := by
    rw [← List.isEmpty_iff, ← List.isEmpty_iff, isEmpty_eq_of_forall₂ options.preferredQualities]
  simp only [orderKey, ranked, preferring, options.preferencePlace_eq recased,
    options.score_eq recased]

omit recased

/-- Two rankings of recased releases go through them in one order. -/
theorem exists_common_order {pairs : List (Release × Release)}
    (recased : ∀ pair ∈ pairs, pair.1.Recased pair.2) :
    ∃ order : List (Release × Release),
      order.Perm (pairs.filter fun pair => first.accepts pair.1) ∧
        first.rank (pairs.map Prod.fst) = order.map (fun pair => first.ranked pair.1) ∧
        second.rank (pairs.map Prod.snd) = order.map (fun pair => second.ranked pair.2) := by
  apply rank_in_common_order
  · intro pair member
    exact options.accepts_eq (recased pair member)
  · intro pair member
    exact options.orderKey_eq (recased pair member)

/-- Two rankings of recased releases have the same scores, place by place. -/
theorem rank_scores_eq {pairs : List (Release × Release)}
    (recased : ∀ pair ∈ pairs, pair.1.Recased pair.2) :
    (first.rank (pairs.map Prod.fst)).map (·.score) =
      (second.rank (pairs.map Prod.snd)).map (·.score) := by
  obtain ⟨order, kept, ranked, otherRanked⟩ := options.exists_common_order recased
  rw [ranked, otherRanked, List.map_map, List.map_map]
  apply List.map_congr_left
  intro pair member
  have among : pair ∈ pairs := (List.mem_filter.mp (kept.mem_iff.mp member)).1
  exact options.score_eq (recased pair among)

end Options.Recased

/-- The case of ASCII letters never matters. Titles that are alike have the same attributes, and the
same relevance to queries that are alike. With options that are recased, recased releases are
rejected for the same reason and have the same score, with its parts and violations; two rankings of
them go through the same releases in one order. -/
theorem letter_case_never_matters {first second : Options} (options : first.Recased second) :
    (∀ title other : String, Alike title other → Quality.ofTitle title = Quality.ofTitle other) ∧
      (∀ (α : Type) [Scalar α] (title other query otherQuery : String), Alike title other →
        Alike query otherQuery →
        (Relevance.ofTitle title query : α) = Relevance.ofTitle other otherQuery) ∧
      (∀ release other : Release, release.Recased other →
        release.classified.Recased other.classified ∧
          first.rejection? release = second.rejection? other ∧
          first.score release = second.score other) ∧
      ∀ pairs : List (Release × Release), (∀ pair ∈ pairs, pair.1.Recased pair.2) →
        ∃ order : List (Release × Release),
          order.Perm (pairs.filter fun pair => first.accepts pair.1) ∧
            first.rank (pairs.map Prod.fst) = order.map (fun pair => first.ranked pair.1) ∧
            second.rank (pairs.map Prod.snd) = order.map (fun pair => second.ranked pair.2) ∧
            (first.rank (pairs.map Prod.fst)).map (·.score) =
              (second.rank (pairs.map Prod.snd)).map (·.score) := by
  refine ⟨?labels, ?relevance, ?verdicts, ?rankings⟩
  case labels =>
    intro title other alike
    exact Quality.ofTitle_eq_of_alike alike
  case relevance =>
    intro α _ title other query otherQuery titles queries
    exact Relevance.ofTitle_eq_of_alike titles queries
  case verdicts =>
    intro release other recased
    exact ⟨recased.classified, options.rejection?_eq recased, options.score_eq recased⟩
  case rankings =>
    intro pairs recased
    obtain ⟨order, kept, ranked, otherRanked⟩ := options.exists_common_order recased
    exact ⟨order, kept, ranked, otherRanked, options.rank_scores_eq recased⟩

/-- Options in small letters. -/
def Options.quiet : Options :=
  { blockedTags := [" cam"], preferredQualities := ["1080p"], searchQuery := some "the ångström",
    scorer := some ({ resolutions := ["1080p"] } : Profile).judge }

/-- The same options in capitals. Letters beyond ASCII stay. -/
def Options.loud : Options :=
  { blockedTags := [" CAM"], preferredQualities := ["1080P"], searchQuery := some "THE åNGSTRöM",
    scorer := some ({ resolutions := ["1080P"] } : Profile).judge }

/-- Offers in small letters and in capitals. -/
def recasedOffers : List (Release × Release) :=
  [({ title := "the.ångström.1080p.cam", sizeBytes := 734003200, seeders := 9 },
      { title := "THE.åNGSTRöM.1080P.CAM", sizeBytes := 734003200, seeders := 9 }),
    ({ title := "the.ångström.1080p.web", sizeBytes := 734003200, seeders := 9 },
      { title := "The.ångström.1080p.WEB", sizeBytes := 734003200, seeders := 9 })]

/-- Options in small letters and in capitals rank the same releases, with the same scores. -/
theorem quiet_and_loud_rank_alike :
    Options.quiet.Recased Options.loud ∧ (∀ pair ∈ recasedOffers, pair.1.Recased pair.2) ∧
      (Options.quiet.rank (recasedOffers.map Prod.fst)).map (·.score) =
        (Options.loud.rank (recasedOffers.map Prod.snd)).map (·.score) ∧
      (Options.quiet.acceptable (recasedOffers.map Prod.fst)).length = 1 := by
  have profiles : Profile.Recased { resolutions := ["1080p"] } { resolutions := ["1080P"] } :=
    ⟨.cons (by decide) .nil, .nil, .nil, .nil, .nil, .nil, rfl, rfl⟩
  have options : Options.quiet.Recased Options.loud :=
    ⟨rfl, rfl, rfl, .cons (by decide) .nil, .cons (by decide) .nil, .some (by decide),
      .some (.profiles profiles), rfl⟩
  have offers : ∀ pair ∈ recasedOffers, pair.1.Recased pair.2 := by
    simp only [recasedOffers, List.forall_mem_cons]
    exact ⟨⟨by decide, rfl, rfl, rfl, rfl, .none, rfl⟩, ⟨by decide, rfl, rfl, rfl, rfl, .none, rfl⟩,
      List.forall_mem_nil _⟩
  obtain ⟨_, _, _, rankings⟩ := letter_case_never_matters options
  obtain ⟨_, _, _, _, scores⟩ := rankings recasedOffers offers
  exact ⟨options, offers, scores, by decide⟩

end ReleaseFinder
