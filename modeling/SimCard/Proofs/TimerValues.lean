import SimCard.Proofs.Messages

/-!
# Timers beyond a hundred hours

A timer is written as hours, minutes and seconds with two digits each, so the last time it can show
is `99:59:59`.  A longer time has its hours held at `99`, but only its hours: the minutes and the
seconds are those of the time itself.

What is read of a timer is therefore `shownSeconds`.  Up to the last time that can be shown it is
the time that was written.  From then on it goes through the last hour over and over: it is at the
end of it once in an hour (`shownSeconds_eq_min_iff`) and falls back from there, so that of two long
times the later one may be shown as the earlier (`shownSeconds_le_iff`).
-/

set_option autoImplicit false

namespace SimCard

variable {seconds later : Nat}

/-! ## The time that is shown -/

theorem shownSeconds_of_lt (h : seconds < 360000) : shownSeconds seconds = seconds := if_pos h

theorem shownSeconds_of_le (h : 360000 ≤ seconds) :
    shownSeconds seconds = 356400 + seconds % 3600 := if_neg (Nat.not_lt.2 h)

/-- Nothing is shown beyond `99:59:59`. -/
theorem shownSeconds_le (seconds : Nat) : shownSeconds seconds ≤ 359999 := by
  rcases Nat.lt_or_ge seconds 360000 with h | h
  · rw [shownSeconds_of_lt h]
    omega
  · rw [shownSeconds_of_le h]
    omega

theorem shownSeconds_eq_self_iff : shownSeconds seconds = seconds ↔ seconds < 360000 := by
  constructor
  · intro h
    have hle := shownSeconds_le seconds
    omega
  · exact shownSeconds_of_lt

/-- **A time is held at the last one that can be shown** only in the last second of an hour. -/
theorem shownSeconds_eq_min_iff :
    shownSeconds seconds = min seconds 359999 ↔ seconds < 360000 ∨ seconds % 3600 = 3599 := by
  rcases Nat.lt_or_ge seconds 360000 with h | h
  · rw [shownSeconds_of_lt h]
    omega
  · rw [shownSeconds_of_le h]
    omega

/-- **Which times are shown in order**: all that can be shown, all that are followed by a long time
and lie before the last hour, and others if they are as far into their hour in this order. -/
theorem shownSeconds_le_iff (h : seconds ≤ later) :
    shownSeconds seconds ≤ shownSeconds later ↔
      later < 360000 ∨ seconds < 356400 ∨ seconds % 3600 ≤ later % 3600 := by
  rcases Nat.lt_or_ge later 360000 with hlater | hlater
  · rw [shownSeconds_of_lt hlater, shownSeconds_of_lt (Nat.lt_of_le_of_lt h hlater)]
    omega
  · rw [shownSeconds_of_le hlater]
    rcases Nat.lt_or_ge seconds 360000 with hseconds | hseconds
    · rw [shownSeconds_of_lt hseconds]
      omega
    · rw [shownSeconds_of_le hseconds]
      omega

/-! ## The time that is read -/

namespace Value

theorem interpret_timerValue (seconds : Nat) :
    interpret 0x25 (Value.timerValue seconds).toOctets = .timerValue (shownSeconds seconds) := by
  change interpret Tag.timerValue.code (timerOctets seconds) = _
  rw [interpret_code, secondsOf_timerOctets, Option.getD_some]

/-- **A timer is held at its limit except for the minutes and the seconds.**  What is read of a
timer is never beyond `99:59:59`, and it is the time that was written up to there.  A longer time is
read as the limit just when it is in the last second of its hour.  Two times are read in their
order unless the later one is a long time, the earlier one is in the last hour that can be shown or
behind it, and is further into its hour. -/
theorem timer_is_held_at_limit_iff (h : seconds ≤ later) :
    let read := fun time => interpret 0x25 (Value.timerValue time).toOctets
    (∀ time, read time = .timerValue (shownSeconds time) ∧ shownSeconds time ≤ 359999) ∧
      (read seconds = .timerValue seconds ↔ seconds < 360000) ∧
      (read seconds = .timerValue (min seconds 359999) ↔
        seconds < 360000 ∨ seconds % 3600 = 3599) ∧
      (shownSeconds seconds ≤ shownSeconds later ↔
        later < 360000 ∨ seconds < 356400 ∨ seconds % 3600 ≤ later % 3600) := by
  intro read
  have hread : ∀ time, read time = .timerValue (shownSeconds time) := interpret_timerValue
  refine ⟨fun time => ⟨hread time, shownSeconds_le time⟩, ?_, ?_, shownSeconds_le_iff h⟩
  · rw [hread, timerValue.injEq, shownSeconds_eq_self_iff]
  · rw [hread, timerValue.injEq, shownSeconds_eq_min_iff]

/-- The last second before a hundred hours, and the last second of the hour after that. -/
theorem timer_is_held_at_limit_iff_hour_end :
    let read := fun time => interpret 0x25 (Value.timerValue time).toOctets
    359999 ≤ 363599 ∧ read 359999 = .timerValue 359999 ∧
      shownSeconds 359999 ≤ shownSeconds 363599 := by
  intro read
  have hle : 359999 ≤ 363599 := by decide
  obtain ⟨-, hself, -, horder⟩ := timer_is_held_at_limit_iff hle
  exact ⟨hle, hself.2 (by decide), horder.2 (by decide)⟩

/-- One second more than `99:59:59` is read as `99:00:00`. -/
theorem timer_falls_back_at_limit :
    let read := fun time => interpret 0x25 (Value.timerValue time).toOctets
    359999 ≤ 360000 ∧ read 359999 = .timerValue 359999 ∧ read 360000 = .timerValue 356400 ∧
      read 360000 ≠ .timerValue 359999 := by
  decide +kernel

end Value

end SimCard
