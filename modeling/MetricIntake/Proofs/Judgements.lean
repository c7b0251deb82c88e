import MetricIntake.Proofs.Rows
import MetricIntake.Proofs.Times

/-!
# What samples come to

Every sample is taken, is rejected with one warning and one count, or has a time that its offset
puts outside the calendar: `readSample_outcomes`.  The last of these raises; it is told from the
text alone (`OffCalendar`), and only the first and the last day of the calendar can have it.
-/

namespace MetricIntake

variable {ω : Type}

/-! ### Times outside the calendar -/

/-- A text is a valid time of the first or the last day that can be written, and in UTC it is before
that day or after it. -/
structure OffCalendar (text : CodeText) (f : TimeFields) (offset : Offset) : Prop where
  read : (fillSeparator text.trim).chars?.bind readTimeFields? = some (f, offset)
  valid : f.isValid = true
  outside : (f.date = ⟨1, 1, 1⟩ ∧ (f.micros : Int) < offset.micros) ∨
    f.date = ⟨Calendar.lastYear, 12, 31⟩ ∧ (microsLimit : Int) ≤ f.micros - offset.micros

namespace UtcTime

theorem ofMicros?_eq_none_iff {micros : Int} :
    ofMicros? micros = none ↔ micros < 0 ∨ (microsLimit : Int) ≤ micros := by
  unfold ofMicros?
  split
  · simp only [reduceCtorEq, false_iff]
    omega
  · simp only [true_iff]
    omega

end UtcTime

namespace TimeFields

variable {f : TimeFields}

/-- Less than a day after the start of the calendar is the first day. -/
theorem date_eq_first (h : f.isValid = true) (hlt : f.micros < microsPerDay) :
    f.date = ⟨1, 1, 1⟩ := by
  obtain ⟨r, -, hmicros⟩ := micros_eq h
  have hday : f.date.dayNumber = 0 := by
    unfold microsPerDay at hmicros hlt
    omega
  exact Date.dayNumber_inj (isValid_eq_true_iff.1 h).1 (by decide) (hday.trans (by decide))

/-- Less than a day before the end of the calendar is the last day. -/
theorem date_eq_last (h : f.isValid = true) (hlt : microsLimit < f.micros + microsPerDay) :
    f.date = ⟨Calendar.lastYear, 12, 31⟩ := by
  obtain ⟨r, hr, hmicros⟩ := micros_eq h
  have hlimit := Date.dayNumber_lt (isValid_eq_true_iff.1 h).1
  have hday : f.date.dayNumber = Calendar.dayLimit - 1 := by
    unfold microsLimit microsPerDay at hlt
    unfold microsPerDay at hr hmicros
    unfold Calendar.dayLimit at hlimit hlt ⊢
    omega
  exact Date.dayNumber_inj (isValid_eq_true_iff.1 h).1 (by decide) (hday.trans (by decide))

end TimeFields

/-- **A time that is read is out of range just if it is off the calendar.** -/
theorem readUtcTime_eq_outOfRange_iff_offCalendar {text : CodeText} :
    readUtcTime text = .error .outOfRange ↔ ∃ f offset, OffCalendar text f offset := by
  rw [readUtcTime_eq_outOfRange_iff]
  constructor
  · rintro ⟨f, offset, hread, hnone⟩
    obtain ⟨cs, -, htime⟩ := Option.bind_eq_some_iff.1 hread
    obtain ⟨hvalid, hoffset⟩ := isValid_of_readTimeFields? htime
    obtain ⟨hback, hahead⟩ := abs_lt.1 hoffset
    -- an offset is less than a day, so that only the days at the ends can leave the calendar
    refine ⟨f, offset, hread, hvalid, (UtcTime.ofMicros?_eq_none_iff.1 hnone).imp ?_ ?_⟩
    · intro hearly
      exact ⟨TimeFields.date_eq_first hvalid (by omega), by omega⟩
    · intro hlate
      exact ⟨TimeFields.date_eq_last hvalid (by omega), hlate⟩
  · rintro ⟨f, offset, h⟩
    refine ⟨f, offset, h.read, UtcTime.ofMicros?_eq_none_iff.2 (h.outside.imp ?_ And.right)⟩
    intro ⟨_, hearly⟩
    omega

/-! ### Rejections -/

/-- Only a sample whose source ran out of time is said to be timed out. -/
theorem Rejection.message_eq_timedOut_iff {why : Rejection} :
    why.message = "timed out" ↔ why = .timedOut := by
  constructor
  · intro h
    -- the other messages start with another letter
    have hfirst := congrArg (·.toList.head?) h
    cases why with
    | timedOut => rfl
    | badTime e => simp [message] at hfirst
    | badValue e => simp [message] at hfirst
  · rintro rfl
    rfl

/-- A source that ran out of time gives no number. -/
theorem readNumber_timeoutValue :
    readNumber Sample.timeoutValue = .error (.notANumber Sample.timeoutValue) := by
  decide

namespace Sample

variable {s : Sample}

/-- A sample that is rejected timed out just if there is nothing against its time. -/
theorem judge_eq_rejected {why : Rejection} (h : s.judge = .rejected why) :
    why = .timedOut ↔
      (∃ time, readUtcTime s.updatedAt = .ok time) ∧ s.value = timeoutValue := by
  unfold judge at h
  split at h
  · cases h
  · rename_i htime
    obtain rfl := Judgement.rejected.inj h
    simp [htime]
  · rename_i time htime
    split at h
    · obtain rfl := Judgement.rejected.inj h
      by_cases hvalue : s.value = timeoutValue <;> simp [isTimedOut, hvalue, htime]
    · cases h

/-- Only a time that is out of range keeps a sample from being judged. -/
theorem judge_eq_fault_iff {f : Fault} :
    s.judge = .fault f ↔ f = .dateOutOfRange ∧ readUtcTime s.updatedAt = .error .outOfRange := by
  unfold judge
  split
  · rename_i htime
    simp [htime, eq_comm]
  · rename_i hrange htime
    simp only [htime, reduceCtorEq, Except.error.injEq, false_iff, not_and]
    exact fun _ => hrange
  · rename_i htime
    split <;> simp [htime]

end Sample

/-! ### What is done with a sample -/

/-- A reading is what a sample says, with nothing to be said about it. -/
structure Reading.Takes (reading : Reading) (sample : Sample) : Prop where
  time : readUtcTime sample.updatedAt = .ok reading.time
  value : readNumber sample.value = .ok reading.value
  inTime : sample.value ≠ Sample.timeoutValue
  unadjusted : reading.value = reading.rawValue
  finite : reading.value.isFinite = true
  name : reading.name = sample.name
  messages : reading.messages = []

theorem Reading.takes_of_accepted {sample : Sample} {reading : Reading}
    (h : sample.judge = .accepted reading) : reading.Takes sample := by
  obtain ⟨htime, hvalue, hname, hraw, hmessages⟩ := Visit.judge_eq_accepted h
  refine ⟨htime, hvalue, ?_, hraw.symm, isFinite_of_readNumber hvalue, hname, hmessages⟩
  intro hout
  rw [hout, readNumber_timeoutValue] at hvalue
  cases hvalue

/-- An intake has one request without data more, and one warning. -/
structure Intake.Misses (before after : Intake ω) (warning : LogRecord) : Prop where
  counts : ∀ o, after.metrics.counts.get o =
    before.metrics.counts.get o + if o = .noData then 1 else 0
  /-- Besides the warning there is what is said about every count. -/
  records : ∃ record, record.level = .debug ∧ after.records = before.records ++ [warning, record]
  rest : { after.quiet with metrics := { after.metrics with counts := before.metrics.counts } } =
    before.quiet

/-- One count of a request without data, and a warning in front of what is said about it. -/
theorem Intake.misses_count (k : Intake ω) (warning : LogRecord) :
    k.Misses ((k.say [warning]).count .noData) warning where
  counts o := Counts.get_add k.metrics.counts .noData o
  records := ⟨k.metrics.outcomeRecord .noData, rfl, List.append_assoc ..⟩
  rest := rfl

/-- **What a sample comes to.**  It is taken, and the intake stays as it is; or it is rejected, with
one warning and one count, and the warning says that it timed out just if its time is accepted and
its value is that of a source that ran out of time; or it raises, and the intake stays as it is,
which it does just if its time is off the calendar. -/
theorem readSample_outcomes (sample : Sample) (source : String) (k : Intake ω) :
    ((∃ reading, k.readSample sample source = (.ok (some reading), k) ∧ reading.Takes sample) ∨
      (∃ after reason, k.readSample sample source = (.ok none, after) ∧
        k.Misses after ⟨.warning, .reading,
          "No data for " ++ sample.name.plain ++ ", source " ++ source ++ "; " ++ reason⟩ ∧
        (reason = "timed out" ↔
          (∃ time, readUtcTime sample.updatedAt = .ok time) ∧
            sample.value = Sample.timeoutValue)) ∨
      k.readSample sample source = (.error (.fault .dateOutOfRange), k)) ∧
    ((k.readSample sample source).1 = .error (.fault .dateOutOfRange) ↔
      ∃ f offset, OffCalendar sample.updatedAt f offset) := by
  have hfault : (k.readSample sample source).1 = .error (.fault .dateOutOfRange) ↔
      sample.judge = .fault .dateOutOfRange := by
    unfold Intake.readSample
    cases sample.judge <;> simp
  rw [hfault, Sample.judge_eq_fault_iff, readUtcTime_eq_outOfRange_iff_offCalendar]
  refine ⟨?_, by simp⟩
  -- one alternative for each judgement
  cases hjudge : sample.judge with
  | accepted reading =>
    exact .inl ⟨reading, by rw [Intake.readSample, hjudge], Reading.takes_of_accepted hjudge⟩
  | rejected why =>
    refine .inr (.inl ⟨_, why.message, ?_, k.misses_count _, ?_⟩)
    · rw [Intake.readSample, hjudge]
      rfl
    · rw [Rejection.message_eq_timedOut_iff, Sample.judge_eq_rejected hjudge]
  | fault f =>
    obtain ⟨rfl, -⟩ := Sample.judge_eq_fault_iff.1 hjudge
    exact .inr (.inr (by rw [Intake.readSample, hjudge]))

/-- The first minute of the calendar is before it where local time is ahead of UTC. -/
theorem readSample_before_calendar :
    (Intake.unused.readSample
      { name := "m1", value := "1", updatedAt := "0001-01-01T00:00:00+00:01" } "s1").1 =
      .error (.fault .dateOutOfRange) := by
  decide

end MetricIntake
