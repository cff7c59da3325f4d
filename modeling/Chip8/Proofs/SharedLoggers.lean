/-
  What has become of the shared loggers.

  The registry is asked for loggers, its loggers are given thresholds all at once, and messages go to the
  loggers that it has handed out, in any order.  What one call can do is said once (`on_cases`): it makes a
  logger of a new name, or it gives every logger the threshold that a text names, or it does nothing to the
  registry.  A call that is refused is of the last kind.

  So a name has one logger (`nodup_after`), and a logger is what it was made as, with a threshold that is the
  last one given to all loggers SINCE it was made (`made_of_mem_after`).  The second is an induction on the
  last call.  Where that call makes a logger, nothing has been given to it yet; where it gives a threshold,
  the loggers that it gives it to are those that are there.
-/
import Chip8.Log.Registry
import Mathlib.Data.List.Induction
import Mathlib.Data.List.Nodup

namespace Chip8.Log

/-! ## Calls -/

/-- What can be asked of a registry and of the loggers that it has handed out. -/
inductive Call
  /-- The logger of a name, with a threshold in case it has to be made. -/
  | get (name level : String) (now : Float)
  /-- A threshold for all loggers. -/
  | setLevel (level : String)
  /-- A message for the logger that is handed out under a name. -/
  | log (name level message : String) (now : Float)

/-- What a call is answered with. -/
inductive Reply
  /-- The logger that was asked for. -/
  | handed (l : Logger)
  /-- The thresholds are changed. -/
  | changed
  /-- The text names no level. -/
  | refused (e : UnknownLevel)
  /-- The lines that are printed. -/
  | printed (lines : List String)

/-- The threshold that a call gives to all loggers, if its text names one. -/
def Call.given? : Call → Option Level
  | .setLevel level => Level.ofText? level
  | _ => none

namespace Registry

/-- A call, and the registry that it leaves.  `terminal` tells whether loggers print to a terminal. -/
def on (terminal : Bool) (r : Registry) : Call → Reply × Registry
  | .get name level now => match r.get name level now terminal with
    | .ok (l, r') => (.handed l, r')
    | .error e => (.refused e, r)
  | .setLevel level =>
    let set := setEach level r.loggers
    ((match set.2 with | none => .changed | some e => .refused e), ⟨set.1⟩)
  | .log name level message now => match r.find? name with
    | some l => (.printed (l.log now level message).toList, r)
    | none => (.printed [], r)

/-- The registry after calls, one after the other, of which the first finds it empty. -/
def after (terminal : Bool) (calls : List Call) : Registry :=
  calls.foldl (fun r call => (r.on terminal call).2) empty

variable {r : Registry} {l : Logger} {name level : String} {terminal : Bool} {now : Float}

theorem after_snoc (terminal : Bool) (calls : List Call) (call : Call) :
    after terminal (calls ++ [call]) = ((after terminal calls).on terminal call).2 := by
  rw [after, List.foldl_append]
  rfl

/-! ## The logger of a name -/

theorem find?_eq_none_iff : r.find? name = none ↔ ∀ l ∈ r.loggers, l.name ≠ name := by
  simp [find?, List.find?_eq_none]

theorem find?_of_mem (distinct : (r.loggers.map Logger.name).Nodup) (member : l ∈ r.loggers) :
    r.find? l.name = some l := by
  cases found : r.find? l.name with
  | none => exact absurd rfl (find?_eq_none_iff.mp found l member)
  | some first =>
    rw [find?] at found
    have named := List.find?_some found
    rw [List.inj_on_of_nodup_map distinct (List.mem_of_find?_eq_some found) member (eq_of_beq named)]

/-- A logger is made with the threshold that is asked for, or not at all. -/
theorem create_of_known {threshold : Level} (known : Level.ofText? level = some threshold) :
    Logger.create name level true terminal true now =
      .ok { name, threshold, colors := terminal, timestamps := true, start := now } := by
  rw [Logger.create, Level.parse, known]
  rfl

theorem create_of_unknown (unknown : Level.ofText? level = none) :
    Logger.create name level true terminal true now = .error ⟨level⟩ := by
  rw [Logger.create, Level.parse, unknown]
  rfl

theorem name_of_create {made : Logger}
    (created : Logger.create name level true terminal true now = .ok made) : made.name = name := by
  cases known : Level.ofText? level with
  | none =>
    rw [create_of_unknown known] at created
    cases created
  | some threshold =>
    rw [create_of_known known] at created
    cases created
    rfl

/-! ## One call -/

theorem on_get_of_mem (distinct : (r.loggers.map Logger.name).Nodup) (member : l ∈ r.loggers) :
    r.on terminal (.get l.name level now) = (.handed l, r) := by
  rw [on, get, find?_of_mem distinct member]

theorem on_get_of_known {threshold : Level} (new : r.find? name = none)
    (known : Level.ofText? level = some threshold) :
    let made : Logger := { name, threshold, colors := terminal, timestamps := true, start := now }
    r.on terminal (.get name level now) = (.handed made, ⟨r.loggers ++ [made]⟩) := by
  rw [on, get, new, create_of_known known]
  rfl

theorem on_get_of_unknown (new : r.find? name = none) (unknown : Level.ofText? level = none) :
    r.on terminal (.get name level now) = (.refused ⟨level⟩, r) := by
  rw [on, get, new, create_of_unknown unknown]
  rfl

theorem on_setLevel_of_known {threshold : Level} (known : Level.ofText? level = some threshold) :
    r.on terminal (.setLevel level) = (.changed, ⟨r.loggers.map ({ · with threshold })⟩) := by
  rw [on, setEach_of_known known]

theorem on_setLevel_of_unknown (unknown : Level.ofText? level = none) :
    r.on terminal (.setLevel level) =
      (if r.loggers.isEmpty then .changed else .refused ⟨level⟩, r) := by
  obtain ⟨loggers⟩ := r
  rw [on, setEach_of_unknown unknown]
  cases loggers <;> rfl

theorem on_log_of_mem (distinct : (r.loggers.map Logger.name).Nodup) (member : l ∈ r.loggers)
    (level message : String) (now : Float) :
    r.on terminal (.log l.name level message now) =
      (.printed (l.log now level message).toList, r) := by
  rw [on, find?_of_mem distinct member]

/-- **What a call can do**: make a logger of a new name, give all loggers a threshold, or nothing. -/
theorem on_cases (terminal : Bool) (r : Registry) (call : Call) :
    (∃ name level now made, call = .get name level now ∧ r.find? name = none ∧
      Logger.create name level true terminal true now = .ok made ∧
      r.on terminal call = (.handed made, ⟨r.loggers ++ [made]⟩)) ∨
    (∃ threshold, call.given? = some threshold ∧
      r.on terminal call = (.changed, ⟨r.loggers.map ({ · with threshold })⟩)) ∨
    call.given? = none ∧ (r.on terminal call).2 = r := by
  cases call with
  | get name level now =>
    cases found : r.find? name with
    | some l =>
      refine Or.inr (Or.inr ⟨rfl, ?_⟩)
      rw [on, get, found]
    | none =>
      cases known : Level.ofText? level with
      | none => exact Or.inr (Or.inr ⟨rfl, by rw [on_get_of_unknown found known]⟩)
      | some threshold =>
        exact Or.inl ⟨name, level, now, _, rfl, found, create_of_known known,
          on_get_of_known found known⟩
  | setLevel level =>
    cases known : Level.ofText? level with
    | none => exact Or.inr (Or.inr ⟨known, by rw [on_setLevel_of_unknown known]⟩)
    | some threshold => exact Or.inr (Or.inl ⟨threshold, known, on_setLevel_of_known known⟩)
  | log name level message now =>
    refine Or.inr (Or.inr ⟨rfl, ?_⟩)
    rw [on]
    cases r.find? name <;> rfl

/-- A refusal leaves the registry as it was. -/
theorem on_of_refused {call : Call} {e : UnknownLevel} (refused : (r.on terminal call).1 = .refused e) :
    (r.on terminal call).2 = r := by
  rcases on_cases terminal r call with ⟨_, _, _, _, _, _, _, made⟩ | ⟨_, _, set⟩ | ⟨-, same⟩
  · rw [made] at refused
    cases refused
  · rw [set] at refused
    cases refused
  · exact same

/-! ## One call after the other -/

/-- A name has one logger at most. -/
theorem nodup_after (terminal : Bool) (calls : List Call) :
    ((after terminal calls).loggers.map Logger.name).Nodup := by
  induction calls using List.reverseRecOn with
  | nil => exact List.nodup_nil
  | append_singleton calls call ih =>
    rw [after_snoc]
    rcases on_cases terminal (after terminal calls) call with
      ⟨name, level, now, made, -, new, created, on⟩ | ⟨threshold, -, on⟩ | ⟨-, same⟩
    · rw [on, List.map_append, List.nodup_append]
      refine ⟨ih, List.nodup_singleton _, ?_⟩
      rintro _ old _ added rfl
      obtain ⟨l, member, same⟩ := List.mem_map.mp old
      rw [List.map_singleton, List.mem_singleton, name_of_create created] at added
      exact find?_eq_none_iff.mp new l member (same.trans added)
    · rw [on, List.map_map]
      exact ih
    · rw [same]
      exact ih

/-- A logger was made in one of the calls, under a name that no logger had, and has the last of the
    thresholds that were given to all loggers SINCE, or the one that it was made with if there was none. -/
def Kept (terminal : Bool) (calls : List Call) (l : Logger) : Prop :=
  ∃ earlier level now later made,
    calls = earlier ++ .get l.name level now :: later ∧
    (∀ other ∈ (after terminal earlier).loggers, other.name ≠ l.name) ∧
    Logger.create l.name level true terminal true now = .ok made ∧
    l = { made with threshold := (later.filterMap Call.given?).getLastD made.threshold }

/-- One more call, and the threshold that it gives. -/
theorem Kept.snoc {calls : List Call} (kept : Kept terminal calls l) (call : Call) :
    Kept terminal (calls ++ [call]) { l with threshold := call.given?.getD l.threshold } := by
  obtain ⟨earlier, level, now, later, made, split, new, created, same⟩ := kept
  refine ⟨earlier, level, now, later ++ [call], made, ?_, new, created, ?_⟩
  · rw [split, List.append_assoc, List.cons_append]
  · rw [same, List.filterMap_append]
    cases given : call.given? with
    | none => rw [List.filterMap_cons_none given, List.filterMap_nil, List.append_nil]; rfl
    | some threshold =>
      rw [List.filterMap_cons_some given, List.filterMap_nil, List.getLastD_concat]
      rfl

theorem kept_after (terminal : Bool) (calls : List Call) :
    ∀ l ∈ (after terminal calls).loggers, Kept terminal calls l := by
  induction calls using List.reverseRecOn with
  | nil => exact fun _ member => absurd member List.not_mem_nil
  | append_singleton calls call ih =>
    intro l member
    rw [after_snoc] at member
    rcases on_cases terminal (after terminal calls) call with
      ⟨name, level, now, made, rfl, new, created, on⟩ | ⟨threshold, given, on⟩ | ⟨given, same⟩
    · rw [on] at member
      rcases List.mem_append.mp member with old | added
      · exact (ih l old).snoc (.get name level now)
      · -- nothing has been given to it yet
        obtain rfl := List.mem_singleton.mp added
        obtain rfl := name_of_create created
        exact ⟨calls, level, now, [], l, rfl, find?_eq_none_iff.mp new, created, rfl⟩
    · rw [on] at member
      obtain ⟨old, there, rfl⟩ := List.mem_map.mp member
      have kept := (ih old there).snoc call
      rw [given] at kept
      exact kept
    · rw [same] at member
      have kept := (ih l member).snoc call
      rw [given] at kept
      exact kept

/-! ## Messages -/

/-- A text that names no level ranks as `INFO`. -/
theorem textRank_eq (level : String) :
    Level.textRank level = ((Level.ofText? level).getD .info).rank := by
  rw [Level.textRank]
  cases Level.ofText? level <;> rfl

theorem toList_log (l : Logger) (now : Float) (level message : String) :
    (l.log now level message).toList =
      if l.threshold.rank ≤ ((Level.ofText? level).getD .info).rank then
        [l.format now (UpperCase.upper level) message]
      else [] := by
  rw [Logger.log, Logger.enabled, textRank_eq]
  simp only [decide_eq_true_eq]
  split <;> rfl

/-- **The registry and its loggers over any history.**  After any calls to an empty registry a name has one
    logger at most, and its threshold is one of the five levels.  A known name is answered with its logger,
    whatever threshold is asked for.  A new name gets a logger with the threshold that the text names, or is
    refused if it names none.  A refusal changes nothing.  A threshold that is not refused is what all
    loggers have then.  Every logger is what it was made as, with the last threshold that was given to all
    since; and it prints one line for a message that ranks at least as high as its threshold, and none for
    one that does not. -/
theorem registry_after (terminal : Bool) (calls : List Call) :
    let r := after terminal calls
    (r.loggers.map Logger.name).Nodup ∧
      (∀ l ∈ r.loggers, l.threshold ∈ Level.all) ∧
      (∀ l ∈ r.loggers, ∀ level now, r.on terminal (.get l.name level now) = (.handed l, r)) ∧
      (∀ name level now, (∀ l ∈ r.loggers, l.name ≠ name) →
        (Level.ofText? level = none → r.on terminal (.get name level now) = (.refused ⟨level⟩, r)) ∧
        ∀ threshold, Level.ofText? level = some threshold → ∃ made,
          made.name = name ∧ made.threshold = threshold ∧
          r.on terminal (.get name level now) = (.handed made, ⟨r.loggers ++ [made]⟩)) ∧
      (∀ call e, (r.on terminal call).1 = .refused e → (r.on terminal call).2 = r) ∧
      (∀ level, (r.on terminal (.setLevel level)).1 = .changed →
        (r.on terminal (.setLevel level)).2.loggers.map Logger.name = r.loggers.map Logger.name ∧
        ∀ l ∈ (r.on terminal (.setLevel level)).2.loggers, Level.ofText? level = some l.threshold) ∧
      (∀ l ∈ r.loggers, ∃ earlier level now later made,
        calls = earlier ++ .get l.name level now :: later ∧
        (∀ other ∈ (after terminal earlier).loggers, other.name ≠ l.name) ∧
        Logger.create l.name level true terminal true now = .ok made ∧
        l = { made with threshold := (later.filterMap Call.given?).getLastD made.threshold }) ∧
      ∀ l ∈ r.loggers, ∀ level message now,
        r.on terminal (.log l.name level message now) =
          (.printed (if l.threshold.rank ≤ ((Level.ofText? level).getD .info).rank then
            [l.format now (UpperCase.upper level) message] else []), r) := by
  intro r
  have distinct := nodup_after terminal calls
  refine ⟨distinct, fun l _ => ?_, fun l member level now => on_get_of_mem distinct member,
    fun name level now new => ?_, fun call e => on_of_refused, fun level changed => ?_,
    kept_after terminal calls, fun l member level message now => ?_⟩
  · cases l.threshold <;> decide
  · have new : r.find? name = none := find?_eq_none_iff.mpr new
    refine ⟨on_get_of_unknown new, fun threshold known => ?_⟩
    exact ⟨_, rfl, rfl, on_get_of_known new known⟩
  · cases known : Level.ofText? level with
    | none =>
      -- without loggers no text is looked at
      rw [on_setLevel_of_unknown known] at changed ⊢
      cases none : r.loggers with
      | nil => exact ⟨rfl, fun l member => absurd member List.not_mem_nil⟩
      | cons first rest =>
        rw [none] at changed
        cases changed
    | some threshold =>
      rw [on_setLevel_of_known known, List.map_map]
      refine ⟨rfl, fun l member => ?_⟩
      obtain ⟨old, -, rfl⟩ := List.mem_map.mp member
      rfl
  · rw [on_log_of_mem distinct member, toList_log]

/-- Two loggers, with refusals in between.  The first has been given `WARNING` and keeps it when a text that
    names no level is given to both; the second was made later.  A message of an unknown level ranks as
    `INFO`. -/
theorem registry_after_refusals :
    let calls : List Call :=
      [.get "main" "debug" 0, .setLevel "Warning", .get "vm" "loud" 0, .get "vm" "error" 1,
        .setLevel "loud", .get "main" "critical" 2]
    let r := after false calls
    ∃ first second, r.loggers = [first, second] ∧
      first.threshold = .warning ∧ second.threshold = .error ∧
      r.on false (.get "main" "debug" 3) = (.handed first, r) ∧
      r.on false (.log "main" "notice" "hidden" 3) = (.printed [], r) ∧
      r.on false (.log "vm" "Error" "shown" 3) = (.printed ["[    2.00s][   ERROR][vm] shown"], r) := by
  intro calls r
  obtain ⟨-, -, known, -, -, -, -, printed⟩ := registry_after false calls
  have two : r.loggers =
      [{ name := "main", threshold := .warning, start := 0 },
        { name := "vm", threshold := .error, start := 1 }] := by
    rfl
  have main := printed _ (two ▸ List.mem_cons_self) "notice" "hidden" 3
  have vm := printed _ (two ▸ List.mem_cons_of_mem _ List.mem_cons_self) "Error" "shown" 3
  have unknown : Level.ofText? "notice" = none := by decide +kernel
  have error : Level.ofText? "Error" = some .error := by decide +kernel
  rw [unknown, if_neg (by decide)] at main
  rw [error, if_pos (by decide)] at vm
  refine ⟨_, _, two, rfl, rfl, known _ (two ▸ List.mem_cons_self) "debug" 3, main, ?_⟩
  have line : ({ name := "vm", threshold := .error, start := 1 } : Logger).format 3
      (UpperCase.upper "Error") "shown" = "[    2.00s][   ERROR][vm] shown" := by decide +kernel
  rw [vm, line]

end Registry

end Chip8.Log
