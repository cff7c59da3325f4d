/-
  Which messages can be taken for the last ones of a session.

  A session ends with up to two messages, which begin with `Halted after` and `Stopped after` and tell a
  number of cycles.  No other message begins so, whatever it is about: that is settled by its first two
  or three characters (`not_closing`), and makes a list of messages QUIET.
-/
import Chip8.Machine

namespace Chip8

namespace Log

/-- Whether a text begins as one of the last messages of a session. -/
def Closing (text : String) : Prop :=
  "Halted after".toList <+: text.toList ∨ "Stopped after".toList <+: text.toList

theorem begins_append {s t : String} (begins : s.toList <+: t.toList) (u : String) :
    s.toList <+: (t ++ u).toList := by
  rw [String.toList_append]
  exact begins.trans (List.prefix_append _ _)

/-- A text is told apart from the last messages by the characters that it begins with. -/
theorem not_closing {s text : String} (begins : s.toList <+: text.toList) (k : Nat)
    (apart : k ≤ 12 ∧ k ≤ s.toList.length ∧ s.toList.take k ≠ "Halted after".toList.take k ∧
      s.toList.take k ≠ "Stopped after".toList.take k) : ¬ Closing text := by
  obtain ⟨short, long, halted, stopped⟩ := apart
  have taken : ∀ p : List Char, k ≤ p.length → p <+: text.toList → text.toList.take k = p.take k := by
    rintro p fits ⟨rest, same⟩
    rw [← same, List.take_append_of_le_length fits]
  have own := taken _ long begins
  rintro (other | other)
  · exact halted (own.symm.trans (taken _ (Nat.le_trans short (by decide)) other))
  · exact stopped (own.symm.trans (taken _ (Nat.le_trans short (by decide)) other))

/-- Messages none of which is one of the last. -/
def Quiet (entries : List Entry) : Prop := ∀ e ∈ entries, ¬ Closing e.text

theorem Quiet.append {es es' : List Entry} (quiet : Quiet es) (quiet' : Quiet es') :
    Quiet (es ++ es') := by
  intro e member
  rcases List.mem_append.mp member with first | second
  · exact quiet e first
  · exact quiet' e second

theorem quiet_nil : Quiet [] := fun _ member => absurd member List.not_mem_nil

/-- Messages are as quiet with their times as without. -/
theorem Quiet.stamped {es : List Entry} (quiet : Quiet es) (time : Float) :
    Quiet ((es.map fun e => (time, e)).map Prod.snd) := by
  rw [List.map_map]
  exact (List.map_id es).symm ▸ quiet

theorem quiet_note {threshold level : Level} {text : String} (other : ¬ Closing text) :
    Quiet (note threshold level text) := by
  intro e member
  unfold note at member
  split at member
  · rw [List.mem_singleton.mp member]
    exact other
  · exact absurd member List.not_mem_nil

end Log

open Log

/-- A fault is described in other words. -/
theorem Fault.not_closing_message (f : Fault) : ¬ Closing f.message := by
  have begins : ∀ s : String, s.toList <+: f.describe.toList → s.toList <+: f.message.toList := by
    intro s described
    unfold message
    split
    · exact described
    · exact begins_append (begins_append described _) _
  unfold describe at begins
  cases kind : f.kind with
  | unknownOpcode =>
    rw [kind] at begins
    exact not_closing (begins _ (begins_append List.prefix_rfl _)) 3 (by decide)
  | machineCall =>
    rw [kind] at begins
    exact not_closing (begins _ (begins_append (begins_append List.prefix_rfl _) _)) 3 (by decide)
  | stackOverflow =>
    rw [kind] at begins
    exact not_closing (begins _ (begins_append List.prefix_rfl _)) 3 (by decide)
  | stackUnderflow =>
    rw [kind] at begins
    exact not_closing (begins _ (begins_append (begins_append List.prefix_rfl _) _)) 3 (by decide)
  | unspecified =>
    rw [kind] at begins
    exact not_closing (begins _ (begins_append List.prefix_rfl _)) 3 (by decide)

namespace Machine

theorem quiet_cycleLogged (threshold : Log.Level) (m : Machine) (d : Devices) :
    Quiet (m.cycleLogged threshold d).1 := by
  have traced : Quiet (Log.note threshold .debug m.trace) := by
    refine quiet_note ?_
    unfold trace
    exact not_closing (begins_append (begins_append (begins_append List.prefix_rfl _) _) _) 2
      (by decide)
  unfold cycleLogged
  dsimp only
  split
  · exact traced.append (quiet_note (Fault.not_closing_message _))
  · exact traced

theorem quiet_loadEntries (threshold : Log.Level) (program : Bytes) :
    Quiet (loadEntries threshold program) := by
  have loaded : ¬ Closing s!"Loaded ROM ({program.size} bytes)" :=
    not_closing (s := "Loaded ROM (") (begins_append (begins_append List.prefix_rfl _) _) 3 (by decide)
  unfold loadEntries
  refine Quiet.append ?_ (quiet_note loaded)
  split
  · refine quiet_note (not_closing (s := "ROM is ") ?_ 3 (by decide))
    exact begins_append (begins_append (begins_append (begins_append List.prefix_rfl _) _) _) _
  · exact quiet_nil

end Machine

end Chip8
