import MakeLauncher.Subscriber

/-! What reaches the console of what is written into a log. Main statements: what is written before there
is a subscriber goes nowhere; behind that each entry down to the last level of the subscriber is printed
once, in the order of the log; and in colours or without, no entry is printed as the warning is but the
warning. -/

namespace MakeLauncher

/-- The one warning is of a flag without its path. -/
theorem Event.level_eq_warn_iff {event : Event} : event.level = .warn ↔ event = .danglingFlag := by
  cases event <;> simp [level]

theorem Level.depth_le_warn_iff {level : Level} : level.depth ≤ Level.warn.depth ↔ level = .warn := by
  cases level <;> decide

theorem Level.depth_le_debug (level : Level) : level.depth ≤ Level.debug.depth := by
  cases level <;> decide

namespace Subscriber

/-- A subscriber prints the whole log when that is asked for, and otherwise the warnings. -/
theorem filter_takes_ofRun (verbose : Bool) (vars : Variables) (log : List Event) :
    log.filter (ofRun verbose vars).takes =
      if verbose then log else log.filter (·.level = .warn) := by
  cases verbose with
  | false =>
      apply List.filter_congr
      intro event _
      exact decide_eq_decide.mpr Level.depth_le_warn_iff
  | true =>
      apply List.filter_eq_self.mpr
      intro event _
      exact decide_eq_true (Level.depth_le_debug event.level)

variable {subscriber : Subscriber}

theorem takes_danglingFlag (subscriber : Subscriber) : subscriber.takes .danglingFlag = true := by
  obtain ⟨last, coloured⟩ := subscriber
  cases last <;> rfl

theorem length_label (subscriber : Subscriber) (level : Level) :
    (subscriber.label level).toList.length = if subscriber.coloured then 14 else 5 := by
  obtain ⟨last, coloured⟩ := subscriber
  cases last <;> cases coloured <;> cases level <;> decide

theorem label_injective {level other : Level}
    (h : (subscriber.label level).toList = (subscriber.label other).toList) : level = other := by
  obtain ⟨last, coloured⟩ := subscriber
  cases last <;> cases coloured <;> cases level <;> cases other <;>
    first | rfl | exact absurd h (by decide)

/-- A line tells its level. -/
theorem eq_of_label_append {level other : Level} {rest rest' : String}
    (h : subscriber.label level ++ rest = subscriber.label other ++ rest') : level = other := by
  have hchars : (subscriber.label level).toList ++ rest.toList =
      (subscriber.label other).toList ++ rest'.toList := by
    rw [← String.toList_append, ← String.toList_append, h]
  have hlength : (subscriber.label level).toList.length =
      (subscriber.label other).toList.length := by
    rw [length_label, length_label]
  exact label_injective (List.append_inj_left hchars hlength)

theorem line_eq_label_append (subscriber : Subscriber) (event : Event) :
    ∃ rest, subscriber.line event = subscriber.label event.level ++ rest := by
  unfold line
  simp only [String.append_assoc]
  exact ⟨_, rfl⟩

/-- No other entry is printed as the warning is, whatever texts and paths it shows. -/
theorem line_eq_danglingFlag_iff {event : Event} :
    subscriber.line event = subscriber.line .danglingFlag ↔ event = .danglingFlag := by
  constructor
  · intro h
    obtain ⟨rest, hline⟩ := subscriber.line_eq_label_append event
    obtain ⟨rest', hline'⟩ := subscriber.line_eq_label_append .danglingFlag
    rw [hline, hline'] at h
    exact Event.level_eq_warn_iff.mp (eq_of_label_append h)
  · rintro rfl
    rfl

theorem count_line_danglingFlag (subscriber : Subscriber) (log : List Event) :
    (log.map subscriber.line).count (subscriber.line .danglingFlag) = log.count .danglingFlag := by
  rw [List.count, List.count, List.countP_map]
  apply List.countP_congr
  intro event _
  simp only [Function.comp_apply, beq_iff_eq]
  exact line_eq_danglingFlag_iff

end Subscriber

namespace Console

variable {console : Console} {subscriber : Subscriber}

theorem writeAll_cons (console : Console) (event : Event) (log : List Event) :
    console.writeAll (event :: log) = (console.write event).writeAll log := rfl

theorem subscriber?_write (console : Console) (event : Event) :
    (console.write event).subscriber? = console.subscriber? := by
  unfold write
  split
  · rfl
  · split <;> rfl

theorem write_of_none (h : console.subscriber? = none) (event : Event) :
    console.write event = console := by
  unfold write
  rw [h]

theorem lines_write (h : console.subscriber? = some subscriber) (event : Event) :
    (console.write event).lines =
      console.lines ++ ([event].filter subscriber.takes).map subscriber.line := by
  unfold write
  rw [h]
  cases htakes : subscriber.takes event <;> simp [htakes]

theorem writeAll_of_none (h : console.subscriber? = none) (log : List Event) :
    console.writeAll log = console := by
  induction log with
  | nil => rfl
  | cons event log ih => rw [writeAll_cons, write_of_none h, ih]

theorem lines_writeAll (h : console.subscriber? = some subscriber) (log : List Event) :
    (console.writeAll log).lines =
      console.lines ++ (log.filter subscriber.takes).map subscriber.line := by
  induction log generalizing console with
  | nil => exact (List.append_nil _).symm
  | cons event log ih =>
      have hwritten : (console.write event).subscriber? = some subscriber := by
        rw [subscriber?_write, h]
      rw [writeAll_cons, ih hwritten, lines_write h, List.append_assoc, ← List.map_append,
        ← List.filter_append, List.singleton_append]

/-- Of two logs with the subscriber coming between them, the second is what is printed. -/
theorem lines_writeAll_install (subscriber : Subscriber) (before log : List Event) :
    (((writeAll {} before).install subscriber).writeAll log).lines =
      (log.filter subscriber.takes).map subscriber.line := by
  have hbefore : writeAll {} before = {} := writeAll_of_none rfl before
  rw [hbefore, lines_writeAll rfl]
  rfl

end Console
end MakeLauncher
