import ReleaseFinder.Proofs.FloatComparison
import ReleaseFinder.Settings.Basic

/-!
# Valid settings

Settings are checked in four steps, and the first check that fails is the fault that is reported:
the least share of seeders, the window of sizes, the number of files that are read at once, the time
that a file may take. A share has to compare with both ends of its range. A window is refused only
if its bounds compare, and compare the wrong way.

So a bound that is no number makes a share invalid, while a window passes with it. Such a window is
not ordered and lets no size through; apart from it, the settings that pass are those whose window
is ordered, and every window with two bounds then lets through its least size.
-/

namespace ReleaseFinder

namespace SizeRange

/-- A window with two bounds lets a size through exactly if the bounds are ordered. -/
theorem contains_some_iff (least most : Float) :
    (∃ size, contains { minMb := some least, maxMb := some most } size = true) ↔ least ≤ most := by
  simp only [contains, Option.all_some, Bool.and_eq_true, decide_eq_true_eq]
  constructor
  · rintro ⟨size, above, below⟩
    exact Decimal.le_trans above below
  · intro ordered
    exact ⟨least, Decimal.le_self (Decimal.number_of_le_left ordered), ordered⟩

end SizeRange

namespace Settings

variable (settings : Settings)

/-- The least share of seeders, if there is one, lies between zero and one. -/
def RatioInRange : Prop :=
  ∀ ratio, settings.scoring.minRatio = some ratio → 0.0 ≤ ratio ∧ ratio ≤ 1.0

/-- The window of sizes has these two bounds. -/
def Window (least most : Float) : Prop :=
  settings.scoring.sizeRange = some { minMb := some least, maxMb := some most }

/-- The least size is at most the greatest one, if there are both. -/
def SizesOrdered : Prop :=
  ∀ least most, settings.Window least most → least ≤ most

/-- There are both sizes, and one of them is not a number. -/
def SizesIncomparable : Prop :=
  ∃ least most, settings.Window least most ∧ (least.isNaN = true ∨ most.isNaN = true)

/-- What is said first about settings: a check fails, and those before it do not. -/
inductive FirstFault : SettingsFault → Prop where
  | ratio {ratio : Float} (asked : settings.scoring.minRatio = some ratio)
      (outside : ¬ (0.0 ≤ ratio ∧ ratio ≤ 1.0)) : FirstFault (.ratioOutOfRange ratio)
  | sizes {least most : Float} (share : settings.RatioInRange) (window : settings.Window least most)
      (reversed : most < least) : FirstFault (.sizesReversed least most)
  | concurrency (share : settings.RatioInRange)
      (sizes : settings.SizesOrdered ∨ settings.SizesIncomparable)
      (files : settings.definitions.maxConcurrency = 0) : FirstFault .noConcurrency
  | time (share : settings.RatioInRange)
      (sizes : settings.SizesOrdered ∨ settings.SizesIncomparable)
      (files : 0 < settings.definitions.maxConcurrency)
      (seconds : settings.definitions.timeoutSeconds = 0) : FirstFault .noTime

/-- The fault of the ratio is the one of a least ratio outside of its range. -/
theorem ratioFault?_eq_some_iff (fault : SettingsFault) :
    settings.ratioFault? = some fault ↔
      ∃ ratio, settings.scoring.minRatio = some ratio ∧ ¬ (0.0 ≤ ratio ∧ ratio ≤ 1.0) ∧
        fault = .ratioOutOfRange ratio := by
  rw [ratioFault?]
  cases settings.scoring.minRatio with
  | none => simp
  | some ratio =>
    by_cases inside : 0.0 ≤ ratio ∧ ratio ≤ 1.0
    · simp [inside]
    · simp only [← Bool.decide_and, if_neg (mt of_decide_eq_true inside)]
      have outside := not_and.mp inside
      simpa [eq_comm] using fun _ => outside

/-- The ratio has no fault exactly if it is in its range. -/
theorem ratioFault?_eq_none_iff : settings.ratioFault? = none ↔ settings.RatioInRange := by
  rw [Option.eq_none_iff_forall_ne_some]
  simp only [ne_eq, ratioFault?_eq_some_iff, RatioInRange]
  grind

/-- The fault of the sizes is the one of a window whose bounds are reversed. -/
theorem sizeFault?_eq_some_iff (fault : SettingsFault) :
    settings.sizeFault? = some fault ↔
      ∃ least most, settings.Window least most ∧ most < least ∧
        fault = .sizesReversed least most := by
  rw [sizeFault?]
  unfold Window
  rcases settings.scoring.sizeRange with _ | ⟨_ | least, _ | most⟩
  case some.some.some =>
    by_cases reversed : most < least
    · simp [reversed, eq_comm]
    · simp only [if_neg reversed]
      grind
  all_goals simp

/-- Settings have at most one window. -/
theorem Window.unique {settings : Settings} {least most otherLeast otherMost : Float}
    (window : settings.Window least most) (other : settings.Window otherLeast otherMost) :
    otherLeast = least ∧ otherMost = most := by
  rw [Window] at window other
  rw [window] at other
  simp_all

/-- The window passes if its bounds are ordered, and also if they cannot be compared. -/
theorem sizeFault?_eq_none_iff :
    settings.sizeFault? = none ↔ settings.SizesOrdered ∨ settings.SizesIncomparable := by
  rw [Option.eq_none_iff_forall_ne_some]
  simp only [ne_eq, sizeFault?_eq_some_iff]
  constructor
  · intro passes
    by_cases incomparable : settings.SizesIncomparable
    · exact Or.inr incomparable
    · refine Or.inl ?_
      intro least most window
      have kept : ¬ most < least := fun reversed => passes _ ⟨least, most, window, reversed, rfl⟩
      rcases (Decimal.not_lt_iff least most).mp kept with ordered | absent
      · exact ordered
      · exact absurd ⟨least, most, window, absent⟩ incomparable
  · rintro passes fault ⟨least, most, window, reversed, rfl⟩
    refine (Decimal.not_lt_iff least most).mpr ?_ reversed
    rcases passes with ordered | ⟨otherLeast, otherMost, other, absent⟩
    · exact Or.inl (ordered least most window)
    · obtain ⟨rfl, rfl⟩ := window.unique other
      exact Or.inr absent

/-- The fault that is reported is that of the first check that fails. -/
theorem fault?_eq_some_iff (fault : SettingsFault) :
    settings.fault? = some fault ↔ settings.FirstFault fault := by
  simp only [fault?, Option.orElse_eq_orElse, Option.orElse_eq_or, Option.or_eq_some_iff,
    ratioFault?_eq_some_iff, ratioFault?_eq_none_iff, sizeFault?_eq_some_iff,
    sizeFault?_eq_none_iff, Option.ite_none_right_eq_some, ite_eq_right_iff, reduceCtorEq,
    imp_false, Option.some.injEq]
  constructor
  · rintro (⟨ratio, asked, outside, rfl⟩ | ⟨share, ⟨least, most, window, reversed, rfl⟩ |
      ⟨sizes, ⟨files, rfl⟩ | ⟨files, seconds, rfl⟩⟩⟩)
    · exact .ratio asked outside
    · exact .sizes share window reversed
    · exact .concurrency share sizes files
    · exact .time share sizes (Nat.pos_of_ne_zero files) seconds
  · rintro (⟨asked, outside⟩ | ⟨share, window, reversed⟩ | ⟨share, sizes, files⟩ |
      ⟨share, sizes, files, seconds⟩)
    · exact Or.inl ⟨_, asked, outside, rfl⟩
    · exact Or.inr ⟨share, Or.inl ⟨_, _, window, reversed, rfl⟩⟩
    · exact Or.inr ⟨share, Or.inr ⟨sizes, Or.inl ⟨files, rfl⟩⟩⟩
    · exact Or.inr ⟨share, Or.inr ⟨sizes, Or.inr ⟨Nat.ne_of_gt files, seconds, rfl⟩⟩⟩

/-- Settings pass if no check fails. -/
theorem fault?_eq_none_iff :
    settings.fault? = none ↔
      settings.RatioInRange ∧ (settings.SizesOrdered ∨ settings.SizesIncomparable) ∧
        0 < settings.definitions.maxConcurrency ∧ 0 < settings.definitions.timeoutSeconds := by
  simp only [fault?, Option.orElse_eq_orElse, Option.orElse_eq_or, Option.or_eq_none_iff,
    ratioFault?_eq_none_iff, sizeFault?_eq_none_iff, ite_eq_right_iff, reduceCtorEq, imp_false,
    Nat.pos_iff_ne_zero]

/-- Settings pass exactly if the share of seeders is in range, the window of sizes is ordered, and
neither the number of files nor the time is zero; except that a window passes too if one of its two
bounds is not a number. Otherwise the first check that fails is reported. If the settings pass, a
window with two bounds lets a size through exactly if both are numbers. -/
theorem settings_pass_unless_a_check_fails (settings : Settings) :
    (settings.fault? = none ↔
        settings.RatioInRange ∧ (settings.SizesOrdered ∨ settings.SizesIncomparable) ∧
          0 < settings.definitions.maxConcurrency ∧ 0 < settings.definitions.timeoutSeconds) ∧
      (∀ fault, settings.fault? = some fault ↔ settings.FirstFault fault) ∧
      (settings.fault? = none → ∀ range least most, settings.scoring.sizeRange = some range →
        range.minMb = some least → range.maxMb = some most →
          ((∃ size, range.contains size = true) ↔ ¬ settings.SizesIncomparable)) := by
  refine ⟨settings.fault?_eq_none_iff, settings.fault?_eq_some_iff, ?accepts⟩
  case accepts =>
    rintro passes ⟨_, _⟩ least most window ⟨rfl⟩ ⟨rfl⟩
    have sizes := (settings.fault?_eq_none_iff.mp passes).2.1
    rw [SizeRange.contains_some_iff]
    constructor
    · rintro ordered ⟨otherLeast, otherMost, other, absent⟩
      obtain ⟨rfl, rfl⟩ := Window.unique window other
      rcases absent with absent | absent
      · exact Decimal.not_le_of_isNaN_left absent ordered
      · exact Decimal.not_le_of_isNaN_right absent ordered
    · intro comparable
      exact (sizes.resolve_right comparable) least most window

/-- A window that starts at what is not a number. -/
def hollowWindow : SizeRange :=
  { minMb := some (0.0 / 0.0), maxMb := some 1.0 }

/-- Such a window passes, although it is not ordered and lets no size through. -/
theorem hollow_window_passes :
    fault? { scoring := { sizeRange := some hollowWindow } } = none ∧
      ¬ SizesOrdered { scoring := { sizeRange := some hollowWindow } } ∧
      ∀ size, hollowWindow.contains size = false := by
  have absent : (0.0 / 0.0 : Float).isNaN = true := by decide
  have unordered : ¬ (0.0 / 0.0 : Float) ≤ 1.0 := Decimal.not_le_of_isNaN_left absent
  refine ⟨?passes, ?ordered, ?empty⟩
  case passes =>
    refine (fault?_eq_none_iff _).mpr ⟨nofun, Or.inr ⟨_, _, rfl, Or.inl absent⟩, ?_, ?_⟩ <;> decide
  case ordered =>
    intro ordered
    exact unordered (ordered _ _ rfl)
  case empty =>
    intro size
    rw [← Bool.not_eq_true]
    intro inside
    exact unordered ((SizeRange.contains_some_iff _ _).mp ⟨size, inside⟩)

end Settings

end ReleaseFinder
