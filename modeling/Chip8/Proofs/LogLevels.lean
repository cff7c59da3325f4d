/-
  The log level is an observer.

  A logger of a higher threshold lets fewer messages through, and that is ALL that its threshold does.
  Whatever is asked of a machine, in whatever order and with whatever devices, the machine, the devices
  and the refusals are the same at every threshold, and the messages are those of the lowest one with
  the levels below the threshold left out.

  A single message is filtered by `Log.note_eq_filter`; `serve_eq_above` puts the messages of one request
  together, for each kind of request, and `serveAll_eq_above` is the induction on the turns.  It goes through
  because the next request finds the machine and the devices of the last reply, and a filter changes neither.
-/
import Chip8.Proofs.Requests

namespace Chip8

/-! ## Replies at a threshold -/

/-- A reply with the messages that a threshold lets through. -/
def Reply.above (threshold : Log.Level) (r : Reply) : Reply :=
  { r with log := r.log.filter fun e => threshold.admits e.level }

/-- What a reply does, messages aside. -/
def Reply.effect (r : Reply) : Machine × Devices × Option Refusal := (r.machine, r.devices, r.refusal)

theorem Reply.effect_above (threshold : Log.Level) (r : Reply) :
    (r.above threshold).effect = r.effect := rfl

namespace Machine

/-! ## One request -/

theorem loadEntries_eq_filter (threshold : Log.Level) (program : Bytes) :
    loadEntries threshold program =
      (loadEntries .debug program).filter fun e => threshold.admits e.level := by
  unfold loadEntries
  rw [List.filter_append, ← Log.note_eq_filter]
  split
  · rw [← Log.note_eq_filter]
  · rfl

/-- The messages of a cycle at `DEBUG`: the cycle, and its fault if it has one. -/
def cycleEntries (m : Machine) (refusal : Option Refusal) : List Log.Entry :=
  ⟨.debug, m.trace⟩ ::
    (match refusal with
      | some (.trapped (.fault f)) => [⟨.error, f.message⟩]
      | _ => [])

theorem log_serve_cycle (m : Machine) (d : Devices) :
    (m.serve .debug d .cycle).log = m.cycleEntries (m.serve .debug d .cycle).refusal := by
  rw [serve_cycle]
  unfold cycleLogged
  dsimp only
  rcases (m.cycle d).trap with _ | _ | _ | _ <;> rfl

theorem log_cycleLogged_eq_filter (m : Machine) (threshold : Log.Level) (d : Devices) :
    (m.cycleLogged threshold d).1 =
      (m.cycleLogged .debug d).1.filter fun e => threshold.admits e.level := by
  unfold cycleLogged
  dsimp only
  split
  · rw [List.filter_append, ← Log.note_eq_filter, ← Log.note_eq_filter]
  · rw [← Log.note_eq_filter]

/-- A threshold leaves messages out of the reply to a request, and does nothing else to it. -/
theorem serve_eq_above (m : Machine) (threshold : Log.Level) (d : Devices) (r : Request) :
    m.serve threshold d r = (m.serve .debug d r).above threshold := by
  rcases r with ⟨directory, source⟩ | _ | word
  · rcases read : source.read directory with e | program
    · rw [serve_load_of_unread read, serve_load_of_unread read]
      rfl
    · rw [serve_load_of_read read, serve_load_of_read read, loadEntries_eq_filter]
      rfl
  · rw [serve_cycle, serve_cycle, log_cycleLogged_eq_filter]
    rfl
  · rfl

/-! ## One turn after the other -/

theorem serveAll_eq_above (threshold : Log.Level) : ∀ (turns : List Turn) (m : Machine) (d : Devices),
    m.serveAll threshold d turns = (m.serveAll .debug d turns).map (Reply.above threshold) := by
  intro turns
  induction turns with
  | nil => intro m d; rfl
  | cons t rest ih =>
    intro m d
    show m.serve threshold (t.prepare d) t.request :: _ = _
    rw [serve_eq_above]
    exact congrArg _ (ih _ _)

theorem length_serveAll (threshold : Log.Level) : ∀ (turns : List Turn) (m : Machine) (d : Devices),
    (m.serveAll threshold d turns).length = turns.length := by
  intro turns
  induction turns with
  | nil => intro m d; rfl
  | cons t rest ih =>
    intro m d
    exact congrArg (· + 1) (ih _ _)

/-- Each reply is the one to its own turn, asked of what the turns before it have left. -/
theorem getElem?_serveAll (threshold : Log.Level) :
    ∀ (turns : List Turn) (m : Machine) (d : Devices) (k : Nat),
      (m.serveAll threshold d turns)[k]? = turns[k]?.map fun t =>
        (m.afterAll threshold d (turns.take k)).1.serve threshold
          (t.prepare (m.afterAll threshold d (turns.take k)).2) t.request := by
  intro turns
  induction turns with
  | nil => intro m d k; rfl
  | cons t rest ih =>
    intro m d k
    rcases k with _ | k
    · rfl
    · exact ih _ _ k

/-- **The log level is an observer.**  At any threshold, one turn after the other leaves the machines,
    devices and refusals that it leaves at `DEBUG`, and the messages are those of `DEBUG` with the levels
    below the threshold left out.  At `DEBUG` every cycle has the message that tells where it fetches
    from and what, then the message of its fault, if it has one, and no other; a single word has none. -/
theorem serveAll_observed (m : Machine) (threshold : Log.Level) (d : Devices) (turns : List Turn) :
    let full := m.serveAll .debug d turns
    let quiet := m.serveAll threshold d turns
    quiet.map Reply.effect = full.map Reply.effect ∧
    quiet.flatMap Reply.log = (full.flatMap Reply.log).filter (fun e => threshold.admits e.level) ∧
    full.length = turns.length ∧
    ∀ k t r, turns[k]? = some t → full[k]? = some r →
      let now := (m.afterAll .debug d (turns.take k)).1.state
      (t.request = .cycle →
        r.log =
          ⟨.debug, "0x" ++ Hex.padded 3 (now.counter % 4096) ++ ": " ++
            Hex.padded 4 now.fetch.1.toNat⟩ ::
          (match r.refusal with
            | some (.trapped (.fault f)) => [⟨.error, f.message⟩]
            | _ => [])) ∧
      ∀ word, t.request = .execute word → r.log = [] := by
  intro full quiet
  have seen : quiet = full.map (Reply.above threshold) := serveAll_eq_above threshold turns m d
  refine ⟨?_, ?_, ?_, ?_⟩
  · rw [seen, List.map_map]
    exact List.map_congr_left fun r _ => Reply.effect_above threshold r
  · rw [seen, List.flatMap_map, List.filter_flatMap]
    rfl
  · exact length_serveAll .debug turns m d
  · intro k t r turn reply now
    have answered := getElem?_serveAll .debug turns m d k
    rw [turn, Option.map_some] at answered
    obtain rfl := Option.some.inj (answered.symm.trans reply)
    constructor
    · intro cycle
      rw [cycle]
      exact log_serve_cycle _ _
    · intro word execute
      rw [execute]
      rfl

/-- A machine-language call at `ERROR`: the fault is told and the trace left out, and the single word that
    fails after it is not told of. -/
theorem serveAll_observed_at_a_fault :
    let m := ofProgram RandomKey.zero #[0x01, 0x23]
    let turns : List Turn := [⟨id, .cycle⟩, ⟨id, .execute 0x0123⟩]
    (m.serveAll .error Devices.idle turns).flatMap Reply.log =
        [⟨.error, "Machine-language call 0x0123 is not supported at 0x200"⟩] ∧
      (m.serveAll .error Devices.idle turns).map Reply.effect =
        (m.serveAll .debug Devices.idle turns).map Reply.effect := by
  intro m turns
  obtain ⟨effects, logs, -, told⟩ := serveAll_observed m .error Devices.idle turns
  have word : m.state.nextWord = 0x0123 := nextWord_ofProgram RandomKey.zero #[0x01, 0x23]
  have fault : m.state.nextWord.fault? m.state.stack = some .machineCall := by
    rw [word]
    rfl
  have stop : m.cycle Devices.idle =
      ⟨m, Devices.idle, some (.fault ⟨.machineCall, 0x0123, some 0x200⟩)⟩ := by
    rw [cycle_of_fault fault, word]
    rfl
  -- what the two requests log at `DEBUG`
  have cycle : (m.serve .debug Devices.idle .cycle).log =
      [⟨.debug, "0x200: 0123"⟩, ⟨.error, "Machine-language call 0x0123 is not supported at 0x200"⟩] := by
    have log := (told 0 ⟨id, .cycle⟩ (m.serve .debug Devices.idle .cycle) rfl rfl).1 rfl
    have refusal : (m.serve .debug Devices.idle .cycle).refusal =
        some (.trapped (.fault ⟨.machineCall, 0x0123, some 0x200⟩)) := by
      rw [serve_cycle, stop]
      rfl
    rw [refusal, show (m.afterAll .debug Devices.idle (turns.take 0)).1.state.fetch.1 = 0x0123 from word]
      at log
    rw [log]
    show [Log.Entry.mk .debug ("0x" ++ Hex.padded 3 0x200 ++ ": " ++ Hex.padded 4 0x0123),
      Log.Entry.mk .error (Fault.message ⟨.machineCall, 0x0123, some 0x200⟩)] = _
    decide +kernel
  have execute := (told 1 ⟨id, .execute 0x0123⟩ _ rfl rfl).2 0x0123 rfl
  have full : (m.serveAll .debug Devices.idle turns).flatMap Reply.log =
      (m.serve .debug Devices.idle .cycle).log ++ [] := by
    show (m.serve .debug Devices.idle .cycle).log ++ (_ ++ []) = _
    exact congrArg _ execute
  rw [logs, full, cycle]
  exact ⟨rfl, effects⟩

end Machine

end Chip8
