import Reminders.Config.Toml
import Reminders.Proofs.Lists

/-!
The distance of the clock from UTC.

The distance is given in minutes and taken in seconds, and it is compared with a day only after it was
multiplied. The product has 32 bits. So minutes of a day and more are refused by name as long as 32
bits hold their seconds; beyond that nothing is refused, and the program stops.

* `SchedulerConfig.offset_of_isNear`, `SchedulerConfig.offset_of_fitsWord`,
  `SchedulerConfig.offset_of_not_fitsWord`: what comes of some minutes.
* `Config.validate_eq_ok_iff`, `Config.validate_eq_overflow_iff`, `Config.exists_validate_eq_refused`:
  which configurations are accepted, which stop the program, and which are refused.
* `Config.offset_outcomes`, with `Config.stops_at_offset_of_many_days`
-/

namespace Reminders

namespace SchedulerConfig

variable {s : SchedulerConfig} {seconds : Int} {e : ConfigError}

/-- The clock is less than a day away from UTC. -/
structure IsNear (s : SchedulerConfig) : Prop where
  after : -1440 < s.utcOffsetMinutes.toInt
  before : s.utcOffsetMinutes.toInt < 1440

/-- 32 bits hold the distance of the clock from UTC in seconds. -/
structure FitsWord (s : SchedulerConfig) : Prop where
  least : -35791394 ≤ s.utcOffsetMinutes.toInt
  greatest : s.utcOffsetMinutes.toInt ≤ 35791394

theorem IsNear.fitsWord (near : s.IsNear) : s.FitsWord where
  least := by have := near.after; omega
  greatest := by have := near.before; omega

/-- The product fits exactly when the minutes are not too many. -/
theorem isInt32_mul_iff : Width.IsInt32 (s.utcOffsetMinutes.toInt * 60) ↔ s.FitsWord := by
  unfold Width.IsInt32 Width.minInt32 Width.maxInt32
  constructor
  · rintro ⟨low, high⟩
    exact ⟨by omega, by omega⟩
  · rintro ⟨least, greatest⟩
    constructor <;> omega

/-- Minutes of less than a day come out as their seconds. -/
theorem offset_of_isNear (near : s.IsNear) :
    s.offset = .ok (60 * s.utcOffsetMinutes.toInt) := by
  obtain ⟨after, before⟩ := near
  unfold offset
  dsimp only
  rw [if_neg (not_not_intro (isInt32_mul_iff.mpr (IsNear.fitsWord ⟨after, before⟩))),
    if_pos ⟨by omega, by omega⟩, Int.mul_comm]

/-- Minutes of a day and more are refused, and the error names them. -/
theorem offset_of_fitsWord (far : ¬s.IsNear) (fits : s.FitsWord) :
    s.offset = .error (.refused (.offsetOutOfRange s.utcOffsetMinutes)) := by
  unfold offset
  dsimp only
  rw [if_neg (not_not_intro (isInt32_mul_iff.mpr fits)), if_neg]
  rintro ⟨after, before⟩
  exact far ⟨by omega, by omega⟩

/-- Minutes whose seconds 32 bits do not hold stop the program. -/
theorem offset_of_not_fitsWord (large : ¬s.FitsWord) : s.offset = .error .overflow :=
  if_pos (mt isInt32_mul_iff.mp large)

/-- **Which distance comes out.** -/
theorem offset_eq_ok_iff :
    s.offset = .ok seconds ↔ s.IsNear ∧ seconds = 60 * s.utcOffsetMinutes.toInt := by
  by_cases near : s.IsNear
  · simp [offset_of_isNear near, near, eq_comm]
  by_cases fits : s.FitsWord
  · simp [offset_of_fitsWord near fits, near]
  · simp [offset_of_not_fitsWord fits, near]

theorem offset_eq_refused_iff : s.offset = .error (.refused e) ↔
    ¬s.IsNear ∧ s.FitsWord ∧ e = .offsetOutOfRange s.utcOffsetMinutes := by
  by_cases near : s.IsNear
  · simp [offset_of_isNear near, near]
  by_cases fits : s.FitsWord
  · simp [offset_of_fitsWord near fits, near, fits, eq_comm]
  · simp [offset_of_not_fitsWord fits, fits]

theorem offset_eq_overflow_iff : s.offset = .error .overflow ↔ ¬s.FitsWord := by
  by_cases near : s.IsNear
  · simp [offset_of_isNear near, near.fitsWord]
  by_cases fits : s.FitsWord
  · simp [offset_of_fitsWord near fits, fits]
  · simp [offset_of_not_fitsWord fits, fits]

end SchedulerConfig

namespace Config

variable {c : Config} {text : String}

/-- The numbers that must not be zero. -/
structure HasPositiveNumbers (c : Config) : Prop where
  userConcurrency : 1 ≤ c.scheduler.userConcurrency
  jobConcurrency : 1 ≤ c.scheduler.jobConcurrency
  tickIntervalSecs : 1 ≤ c.scheduler.tickIntervalSecs

/-- The scheduler can run with the configuration, as far as its numbers and its clock go. -/
structure IsFit (c : Config) : Prop extends HasPositiveNumbers c where
  near : c.scheduler.IsNear

/-- The clock is so far away that finding out stops the program. -/
structure Stops (c : Config) : Prop extends HasPositiveNumbers c where
  large : ¬c.scheduler.FitsWord

/-- The numbers are checked before the clock. -/
theorem validate_of_hasPositiveNumbers (positive : c.HasPositiveNumbers) :
    c.validate = c.scheduler.offset.map fun _ => () := by
  have nonzero {n : UInt64} (le : 1 ≤ n) : n ≠ 0 := by
    rintro rfl
    exact absurd le (by decide)
  rw [validate, if_neg (not_or.mpr
    ⟨nonzero positive.userConcurrency, nonzero positive.jobConcurrency⟩),
    if_neg (nonzero positive.tickIntervalSecs)]

theorem exists_validate_of_not_hasPositiveNumbers (zero : ¬c.HasPositiveNumbers) :
    ∃ e ∈ [ConfigError.zeroConcurrency, .zeroInterval], c.validate = .error (.refused e) := by
  have positive {n : UInt64} (nonzero : n ≠ 0) : 1 ≤ n := by
    rw [ne_eq, ← UInt64.toNat_inj] at nonzero
    exact UInt64.le_iff_toNat_le.mpr (Nat.one_le_iff_ne_zero.mpr nonzero)
  unfold validate
  split
  · exact ⟨_, by simp, rfl⟩
  · rename_i concurrent
    obtain ⟨users, jobs⟩ := not_or.mp concurrent
    split
    · exact ⟨_, by simp, rfl⟩
    · rename_i ticks
      exact absurd ⟨positive users, positive jobs, positive ticks⟩ zero

/-- **What is accepted.** -/
theorem validate_eq_ok_iff : c.validate = .ok () ↔ c.IsFit := by
  constructor
  · intro valid
    by_cases positive : c.HasPositiveNumbers
    · rw [validate_of_hasPositiveNumbers positive, except_map_eq_ok_iff] at valid
      obtain ⟨seconds, taken, -⟩ := valid
      exact ⟨positive, (SchedulerConfig.offset_eq_ok_iff.mp taken).1⟩
    · obtain ⟨e, -, refused⟩ := exists_validate_of_not_hasPositiveNumbers positive
      cases valid.symm.trans refused
  · intro fit
    rw [validate_of_hasPositiveNumbers fit.toHasPositiveNumbers,
      SchedulerConfig.offset_of_isNear fit.near]
    rfl

/-- What stops the program. -/
theorem validate_eq_overflow_iff : c.validate = .error .overflow ↔ c.Stops := by
  constructor
  · intro stopped
    by_cases positive : c.HasPositiveNumbers
    · rw [validate_of_hasPositiveNumbers positive, except_map_eq_error_iff] at stopped
      exact ⟨positive, SchedulerConfig.offset_eq_overflow_iff.mp stopped⟩
    · obtain ⟨e, -, refused⟩ := exists_validate_of_not_hasPositiveNumbers positive
      cases stopped.symm.trans refused
  · intro stops
    rw [validate_of_hasPositiveNumbers stops.toHasPositiveNumbers,
      SchedulerConfig.offset_of_not_fitsWord stops.large]
    rfl

/-- What is refused, and by which error. -/
theorem exists_validate_eq_refused (unfit : ¬c.IsFit) (goes : ¬c.Stops) :
    ∃ e ∈ [.zeroConcurrency, .zeroInterval, .offsetOutOfRange c.scheduler.utcOffsetMinutes],
      c.validate = .error (.refused e) := by
  by_cases positive : c.HasPositiveNumbers
  · have far : ¬c.scheduler.IsNear := fun near => unfit ⟨positive, near⟩
    have fits : c.scheduler.FitsWord := not_not.mp fun large => goes ⟨positive, large⟩
    refine ⟨.offsetOutOfRange c.scheduler.utcOffsetMinutes, by simp, ?_⟩
    rw [validate_of_hasPositiveNumbers positive, SchedulerConfig.offset_of_fitsWord far fits]
    rfl
  · obtain ⟨e, mem, refused⟩ := exists_validate_of_not_hasPositiveNumbers positive
    exact ⟨e, List.mem_append_left [_] mem, refused⟩

/-- A text of a configuration is judged as the configuration is. -/
theorem ofText_eq (read : (Toml.parse? text).bind ofEntries? = some c) :
    ofText text = c.validate.map fun _ => c := by
  rw [ofText, read]

theorem ofText_eq_ok_iff : ofText text = .ok c ↔
    (Toml.parse? text).bind ofEntries? = some c ∧ c.IsFit := by
  rw [← validate_eq_ok_iff]
  constructor
  · intro taken
    cases read : (Toml.parse? text).bind ofEntries? with
    | none =>
      rw [ofText, read] at taken
      cases taken
    | some c' =>
      rw [ofText_eq read, except_map_eq_ok_iff] at taken
      obtain ⟨⟨⟩, valid, rfl⟩ := taken
      exact ⟨rfl, valid⟩
  · rintro ⟨read, valid⟩
    rw [ofText_eq read, valid]
    rfl

/-- **Offsets are exact, refused, or stop the program.** Minutes of less than a day come out as 60
times as many seconds, and no others come out. Minutes of a day and more are refused by name as long
as 32 bits hold their seconds, which is up to 35791394 minutes in either direction; beyond that the
program stops. A configuration is accepted exactly when its numbers are at least one and its minutes
are less than a day. It stops the program exactly when its numbers are at least one and 32 bits do not
hold its seconds. Every other one is refused by an error of the configuration. A text that describes
the configuration is judged in the same way. -/
theorem offset_outcomes (c : Config) :
    (∀ seconds, c.scheduler.offset = .ok seconds ↔
      c.scheduler.IsNear ∧ seconds = 60 * c.scheduler.utcOffsetMinutes.toInt) ∧
    (∀ e, c.scheduler.offset = .error (.refused e) ↔
      ¬c.scheduler.IsNear ∧ c.scheduler.FitsWord ∧
        e = .offsetOutOfRange c.scheduler.utcOffsetMinutes) ∧
    (c.scheduler.offset = .error .overflow ↔ ¬c.scheduler.FitsWord) ∧
    (c.validate = .ok () ↔ c.IsFit) ∧
    (c.validate = .error .overflow ↔ c.Stops) ∧
    (∀ text, ofText text = .ok c ↔ (Toml.parse? text).bind ofEntries? = some c ∧ c.IsFit) ∧
    (c.Stops → ∀ text, (Toml.parse? text).bind ofEntries? = some c →
      ofText text = .error .overflow) ∧
    (¬c.IsFit → ¬c.Stops → ∃ e ∈
      [.zeroConcurrency, .zeroInterval, .offsetOutOfRange c.scheduler.utcOffsetMinutes],
      c.validate = .error (.refused e) ∧
      ∀ text, (Toml.parse? text).bind ofEntries? = some c → ofText text = .error (.refused e)) := by
  refine ⟨fun _ => SchedulerConfig.offset_eq_ok_iff, fun _ => SchedulerConfig.offset_eq_refused_iff,
    SchedulerConfig.offset_eq_overflow_iff, validate_eq_ok_iff, validate_eq_overflow_iff,
    fun _ => ofText_eq_ok_iff, fun stops text read => ?_, fun unfit goes => ?_⟩
  · rw [ofText_eq read, validate_eq_overflow_iff.mpr stops]
    rfl
  · obtain ⟨e, named, refused⟩ := exists_validate_eq_refused unfit goes
    refine ⟨e, named, refused, fun text read => ?_⟩
    rw [ofText_eq read, refused]
    rfl

end Config

namespace Sample

/-- The default configuration with some minutes. -/
def ahead (minutes : Int32) : Config :=
  { Config.default with scheduler := { SchedulerConfig.default with utcOffsetMinutes := minutes } }

end Sample

namespace Config

/-- **Minutes of many days stop the program.** -/
theorem stops_at_offset_of_many_days :
    (Sample.ahead 71582789).scheduler.offset = .error .overflow ∧
      (Sample.ahead 71582789).validate = .error .overflow ∧
      ofText "[scheduler]\nutc_offset_minutes = 71582789\n" = .error .overflow := by
  decide +kernel

/-- A clock eight hours ahead is accepted, one of two thousand minutes is refused by name, and one of
many days stops the program. -/
theorem offset_outcomes_sample :
    (Sample.ahead 480).scheduler.offset = .ok 28800 ∧
      (Sample.ahead 480).validate = .ok () ∧
      (Sample.ahead 2000).scheduler.offset = .error (.refused (.offsetOutOfRange 2000)) ∧
      (∃ e, (Sample.ahead 2000).validate = .error (.refused e) ∧
        ofText "[scheduler]\nutc_offset_minutes = 2000\n" = .error (.refused e)) ∧
      ofText "[scheduler]\nutc_offset_minutes = 71582789\n" = .error .overflow := by
  obtain ⟨offset, -, -, valid, -⟩ := offset_outcomes (Sample.ahead 480)
  obtain ⟨-, refused, -, -, -, -, -, unfit⟩ := offset_outcomes (Sample.ahead 2000)
  obtain ⟨-, -, -, -, -, -, stops, -⟩ := offset_outcomes (Sample.ahead 71582789)
  have near : (Sample.ahead 480).scheduler.IsNear := ⟨by decide, by decide⟩
  have far : ¬(Sample.ahead 2000).scheduler.IsNear := fun near => absurd near.before (by decide)
  have fits : (Sample.ahead 2000).scheduler.FitsWord := ⟨by decide, by decide⟩
  have large : ¬(Sample.ahead 71582789).scheduler.FitsWord := fun fits =>
    absurd fits.greatest (by decide)
  obtain ⟨e, -, rejected, texts⟩ := unfit (fun fit => far fit.near) fun stops => stops.large fits
  exact ⟨(offset _).mpr ⟨near, rfl⟩, valid.mpr ⟨⟨by decide, by decide, by decide⟩, near⟩,
    (refused _).mpr ⟨far, fits, rfl⟩, ⟨e, rejected, texts _ (by decide +kernel)⟩,
    stops ⟨⟨by decide, by decide, by decide⟩, large⟩ _ (by decide +kernel)⟩

end Config

end Reminders
