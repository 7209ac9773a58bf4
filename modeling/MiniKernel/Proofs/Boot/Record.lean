/-
**A boot tells the truth.**

* `Board.get?_passed` — a phase that is marked is marked, and no other one.
* `Phase.Went` — how a phase went: what the board says of it, and what it left.
* `Startup.Told` — board and effects tell how every phase went; `Startup.Come` — the first phases
  were completed, with one lemma for one more of them and one for the end of the run.
* `Startup.boot_truthful` — **a run of the phases succeeds just when each phase has what it needs**,
  and board, effects and state tell how far it came.
-/

import MiniKernel.Proofs.Boot.Phases
import MiniKernel.Proofs.Interrupt.VectorChips

namespace MiniKernel

/-! ### The board -/

namespace Board

variable {board : Board} {name other : String} {phase : Phase} {progress : Progress}

theorem get?_update (board : Board) (name other : String) (progress : Progress) :
    (board.update name progress).get? other =
      if name = other then (board.get? other).map fun _ => progress else board.get? other := by
  obtain ⟨components⟩ := board
  unfold update get?
  induction components with
  | nil =>
    split <;> rfl
  | cons component rest ih =>
    dsimp only [updateFirst] at ih ⊢
    by_cases here : component.name = name
    · subst here
      rw [if_pos rfl, List.find?_cons, List.find?_cons]
      by_cases asked : component.name = other
      · simp [asked]
      · simp [asked, beq_eq_false_iff_ne.mpr asked]
    · rw [if_neg here, List.find?_cons, List.find?_cons]
      by_cases asked : component.name = other
      · have differ : name ≠ other := fun same => here (asked.trans same.symm)
        simp [asked, differ]
      · have off : (component.name == other) = false := beq_eq_false_iff_ne.mpr asked
        rw [off]
        exact ih

/-- **A phase that is marked is marked, and no other one.** -/
theorem get?_passed (board : Board) (phase other : Phase) (progress : Progress) :
    (board.passed phase progress).get? other.name =
      if phase = other then (board.get? other.name).map fun _ => progress
      else board.get? other.name := by
  have names : phase.name = other.name ↔ phase = other := by
    cases phase <;> cases other <;> decide
  unfold passed
  rw [get?_update, get?_update]
  by_cases same : phase = other
  · rw [if_pos (names.mpr same), if_pos (names.mpr same), if_pos same, Option.map_map]
    rfl
  · rw [if_neg (mt names.mp same), if_neg (mt names.mp same), if_neg same]

end Board

/-! ### How phases went -/

namespace Phase

variable {region : Region} {config : Config} {phase other : Phase} {done rest : List Phase}

theorem mem_all (phase : Phase) : phase ∈ all := by
  cases phase <;> decide

/-- Every earlier phase has what it needs. -/
def Due (region : Region) (config : Config) (phase : Phase) : Prop :=
  ∀ earlier : Phase, earlier.number < phase.number → earlier.Provided region config

/-- **How a phase went** by the time the run of all phases but the last is over: what the board says
of it, and what it left. -/
inductive Went (region : Region) (config : Config) (phase : Phase) : Progress → List Effect → Prop
  | completed {span : List Effect} (due : phase.Due region config)
    (completes : phase.Completes region config span) (early : phase ≠ .interrupts) :
    Went region config phase .completed span
  | failed (due : phase.Due region config) (lacking : ¬phase.Provided region config) :
    Went region config phase (.failed .invalidArgument) phase.failing
  | notStarted (late : ¬phase.Due region config ∨ phase = .interrupts) :
    Went region config phase .notStarted []

/-- What comes before one of the first phases is one of them. -/
theorem mem_of_number_lt (whole : all = done ++ rest) (member : phase ∈ done)
    (less : other.number < phase.number) : other ∈ done := by
  by_contra off
  unfold number at less
  rw [whole, List.idxOf_append_of_mem member, List.idxOf_append_of_notMem off] at less
  have inside := List.idxOf_lt_length_of_mem member
  omega

theorem number_inj (same : phase.number = other.number) : phase = other := by
  revert same
  cases phase <;> cases other <;> decide

theorem due_heap : Phase.heap.Due region config := fun _ less =>
  absurd less (Nat.not_lt.mpr (Nat.succ_le_succ (Nat.zero_le _)))

/-- The phase behind one that has what it needs is due if that one is. -/
theorem Due.next (due : phase.Due region config) (provided : phase.Provided region config)
    (follows : other.number = phase.number + 1) : other.Due region config := by
  intro earlier less
  rw [follows] at less
  rcases Nat.lt_succ_iff_lt_or_eq.mp less with before | same
  · exact due earlier before
  · rw [number_inj same]
    exact provided

/-- What comes before the next phase is one of the first ones. -/
theorem mem_of_lt_next (whole : all = done ++ phase :: rest)
    (less : other.number < phase.number) : other ∈ done := by
  rw [List.append_cons] at whole
  have member := mem_of_number_lt whole (List.mem_append_right _ (List.mem_singleton.mpr rfl)) less
  refine (List.mem_append.mp member).resolve_right fun same => ?_
  cases List.mem_singleton.mp same
  exact Nat.lt_irrefl _ less

/-- What comes behind a phase comes later. -/
theorem next_lt_number (whole : all = done ++ phase :: rest) (behind : other ∈ rest) :
    phase.number < other.number := by
  have once : (done ++ phase :: rest).Nodup := whole ▸ (by decide : all.Nodup)
  rw [List.nodup_append, List.nodup_cons] at once
  obtain ⟨-, ⟨alone, -⟩, apart⟩ := once
  by_contra early
  rcases Nat.lt_or_eq_of_le (Nat.le_of_not_lt early) with less | same
  · exact apart other (mem_of_lt_next whole less) other (List.mem_cons_of_mem _ behind) rfl
  · rw [number_inj same] at behind
    exact alone behind

/-- No phase but the last writes the interrupt flag. -/
theorem Completes.unflagged {span : List Effect} (completes : phase.Completes region config span)
    (early : phase ≠ .interrupts) (enabled : Bool) : .interruptFlag enabled ∉ span := by
  obtain ⟨_, work, touches, rfl⟩ := completes
  intro inside
  unfold completing opening at inside
  have touched : phase.Touches (.interruptFlag enabled) := touches _ (by simpa using inside)
  cases phase with
  | interrupts => exact early rfl
  | heap | processes => exact touched
  | controller | table => exact touched.elim id id
  | timer => exact touched.elim id fun rest => rest.elim id id

end Phase

/-- **The board and what was left tell how every phase went.** -/
def Startup.Told (region : Region) (config : Config) (board : Board) (effects : List Effect) : Prop :=
  ∃ spans : Phase → List Effect, effects = Phase.all.flatMap spans ∧
    ∀ phase : Phase, ∃ progress, board.get? phase.name = some progress ∧
      phase.Went region config progress (spans phase)

/-- **The first phases were completed** and no other one was started. -/
structure Startup.Come (region : Region) (config : Config) (done : List Phase) (board : Board)
    (effects : List Effect) : Prop where
  completed : ∀ phase ∈ done, board.get? phase.name = some .completed
  waiting : ∀ phase ∉ done, board.get? phase.name = some .notStarted
  spans : ∃ spans : Phase → List Effect, effects = done.flatMap spans ∧
    ∀ phase ∈ done, phase.Completes region config (spans phase)

namespace Startup

variable {region : Region} {config : Config} {done rest : List Phase} {board : Board}
  {effects span : List Effect} {phase : Phase}

/-- One more phase is completed. -/
theorem Come.complete (come : Come region config done board effects) (new : phase ∉ done)
    (completes : phase.Completes region config span) :
    Come region config (done ++ [phase]) (board.passed phase .completed) (effects ++ span) := by
  obtain ⟨spans, rfl, each⟩ := come.spans
  have differ : ∀ other ∈ done, phase ≠ other := by
    rintro other member rfl
    exact new member
  have kept : ∀ other ∈ done, Function.update spans phase span other = spans other :=
    fun other member => Function.update_of_ne (differ other member).symm _ _
  refine ⟨fun other member => ?_, fun other off => ?_, Function.update spans phase span, ?_,
    fun other member => ?_⟩
  · rw [Board.get?_passed]
    rcases List.mem_append.mp member with before | here
    · rw [if_neg (differ other before), come.completed other before]
    · cases List.mem_singleton.mp here
      rw [if_pos rfl, come.waiting phase new]
      rfl
  · rw [List.mem_append, not_or, List.mem_singleton] at off
    rw [Board.get?_passed, if_neg (Ne.symm off.2), come.waiting other off.1]
  · rw [List.flatMap_append, List.flatMap_singleton, Function.update_self,
      List.flatMap_congr kept]
  · rcases List.mem_append.mp member with before | here
    · rw [kept other before]
      exact each other before
    · cases List.mem_singleton.mp here
      rw [Function.update_self]
      exact completes

/-- Before a phase that is due the earlier ones were completed. -/
theorem Come.due (come : Come region config done board effects)
    (before : ∀ earlier : Phase, earlier.number < phase.number → earlier ∈ done) :
    phase.Due region config := by
  obtain ⟨spans, _, each⟩ := come.spans
  exact fun earlier less => (each earlier (before earlier less)).1

/-- What every phase left when some were completed and the one behind them was the last to start. -/
def lastSpans (done : List Phase) (spans : Phase → List Effect) (phase : Phase)
    (span : List Effect) (other : Phase) : List Effect :=
  if other ∈ done then spans other else if other = phase then span else []

section Last

variable {spans : Phase → List Effect} {other : Phase}

theorem lastSpans_done (member : other ∈ done) :
    lastSpans done spans phase span other = spans other :=
  if_pos member

theorem lastSpans_last (new : phase ∉ done) : lastSpans done spans phase span phase = span :=
  (if_neg new).trans (if_pos rfl)

theorem lastSpans_late (off : other ∉ done) (differ : other ≠ phase) :
    lastSpans done spans phase span other = [] :=
  (if_neg off).trans (if_neg differ)

/-- All that was left is what the completed phases left, and what the last one did. -/
theorem flatMap_lastSpans (once : (done ++ phase :: rest).Nodup) :
    (done ++ phase :: rest).flatMap (lastSpans done spans phase span) =
      done.flatMap spans ++ span := by
  obtain ⟨-, alone, apart⟩ := List.nodup_append.mp once
  have late : ∀ other ∈ rest, lastSpans done spans phase span other = [] := by
    intro other member
    refine lastSpans_late (fun inside => apart other inside other ?_ rfl) ?_
    · exact List.mem_cons_of_mem _ member
    · rintro rfl
      exact (List.nodup_cons.mp alone).1 member
  have new : phase ∉ done := fun inside => apart phase inside phase List.mem_cons_self rfl
  rw [List.flatMap_append, List.flatMap_cons, lastSpans_last new,
    List.flatMap_congr fun other => lastSpans_done, List.flatMap_eq_nil_iff.mpr late,
    List.append_nil]

end Last

/-- **A run ends after some completed phases**, with the next one as it went and no later one
started. -/
theorem Come.ends {next : Board} {progress : Progress}
    (come : Come region config done board effects) (whole : Phase.all = done ++ phase :: rest)
    (early : .interrupts ∉ done) (went : phase.Went region config progress span)
    (marked : next.get? phase.name = some progress)
    (others : ∀ other ≠ phase, next.get? other.name = board.get? other.name)
    (late : ∀ other ∈ rest, ¬other.Due region config) :
    Told region config next (effects ++ span) := by
  obtain ⟨spans, rfl, each⟩ := come.spans
  have once : (done ++ phase :: rest).Nodup := whole ▸ (by decide : Phase.all.Nodup)
  have new : phase ∉ done := fun inside =>
    (List.nodup_append.mp once).2.2 phase inside phase List.mem_cons_self rfl
  refine ⟨lastSpans done spans phase span, ?_, fun other => ?_⟩
  · rw [whole, flatMap_lastSpans once]
  by_cases before : other ∈ done
  · have differ : other ≠ phase := fun same => new (same ▸ before)
    rw [lastSpans_done before, others other differ, come.completed other before]
    refine ⟨_, rfl, .completed (come.due fun _ => Phase.mem_of_number_lt whole before)
      (each other before) ?_⟩
    rintro rfl
    exact early before
  by_cases here : other = phase
  · subst here
    rw [lastSpans_last new]
    exact ⟨progress, marked, went⟩
  · have listed := Phase.mem_all other
    rw [whole, List.mem_append, List.mem_cons] at listed
    have later := (listed.resolve_left before).resolve_left here
    rw [lastSpans_late before here, others other here, come.waiting other before]
    exact ⟨_, rfl, .notStarted (Or.inl (late other later))⟩

/-- **A run that ends with a phase that lacks what it needs.** -/
theorem Come.failed (come : Come region config done board effects)
    (whole : Phase.all = done ++ phase :: rest) (early : .interrupts ∉ done) (new : phase ∉ done)
    (lacking : ¬phase.Provided region config) :
    Told region config (board.passed phase (.failed .invalidArgument))
      (effects ++ phase.failing) := by
  refine come.ends whole early
    (.failed (come.due fun _ => Phase.mem_of_lt_next whole) lacking) ?_ (fun other differ => ?_)
    fun other later due => lacking (due phase (Phase.next_lt_number whole later))
  · rw [Board.get?_passed, if_pos rfl, come.waiting phase new]
    rfl
  · rw [Board.get?_passed, if_neg differ.symm]

/-- **A run in which every phase but the last was completed.** -/
theorem Come.up (come : Come region config done board effects)
    (whole : Phase.all = done ++ [.interrupts]) (early : .interrupts ∉ done) :
    Told region config board effects := by
  have told := come.ends whole early (.notStarted (Or.inr rfl)) (come.waiting _ early)
    (fun _ _ => rfl) nofun
  rwa [List.append_nil] at told

/-! ### Every run -/

variable {C : Type} [Controller C] {stubs : Stubs} {handler : Handler} {before : Startup C}
  {outcome : Outcome (Startup C) KernelRefusal Core}

/-- **Board and effects tell how far a run came.** -/
theorem Course.told (course : Course region stubs config handler before outcome)
    (fresh : ∀ phase : Phase, before.board.get? phase.name = some .notStarted) :
    Told region config outcome.state.board outcome.effects := by
  have start : Come region config [] before.board [] :=
    ⟨nofun, fun phase _ => fresh phase, fun _ => [], rfl, nofun⟩
  cases course with
  | noHeap lacking => exact start.failed rfl nofun nofun lacking
  | noOffsets made lacking =>
    exact (start.complete (by decide) made).failed rfl (by decide) (by decide) lacking
  | noRate made moved bound loaded handlers lacking =>
    have tabled := ((start.complete (by decide) made).complete (by decide) moved).complete
      (by decide) bound
    have told := tabled.failed rfl (by decide) (by decide) lacking
    rwa [List.append_assoc, List.append_assoc] at told
  | noStack made moved bound loaded counts lacking =>
    have timed := (((start.complete (by decide) made).complete (by decide) moved).complete
      (by decide) bound).complete (by decide) counts
    have told := timed.failed rfl (by decide) (by decide) lacking
    rwa [List.append_assoc, List.append_assoc, List.append_assoc] at told
  | up now inside made moved bound loaded counts handles enlists =>
    have enlisted := ((((start.complete (by decide) made).complete (by decide) moved).complete
      (by decide) bound).complete (by decide) counts).complete (by decide) enlists
    have told := enlisted.up rfl (by decide)
    rwa [List.append_assoc, List.append_assoc, List.append_assoc] at told

/-- **A run succeeds just when each phase has what it needs.** -/
theorem Course.answers_iff (course : Course region stubs config handler before outcome) :
    (∃ core, outcome.result = .ok core) ↔ ∀ phase : Phase, phase.Provided region config := by
  cases course with
  | noHeap lacking | noOffsets _ lacking | noRate _ _ _ _ _ lacking | noStack _ _ _ _ _ lacking =>
    refine iff_of_false ?_ fun provided => lacking (provided _)
    rintro ⟨core, answered⟩
    cases answered
  | up now inside made moved bound loaded counts handles enlists =>
    refine iff_of_true ⟨_, rfl⟩ fun phase => ?_
    cases phase with
    | heap => exact made.1
    | controller => exact moved.1
    | timer => exact counts.1
    | processes => exact enlists.1
    | table | interrupts => exact True.intro

/-- **A run that does not succeed is refused** as an invalid argument. -/
theorem Course.refused (course : Course region stubs config handler before outcome)
    (lacking : ¬∀ phase : Phase, phase.Provided region config) :
    outcome.result = .error (.refused .invalidArgument) := by
  rw [← course.answers_iff] at lacking
  cases course with
  | noHeap | noOffsets | noRate | noStack => rfl
  | up => exact absurd ⟨_, rfl⟩ lacking

/-- Up to a successful controller phase the dispatcher is as it was. -/
theorem Course.dispatcher_kept (course : Course region stubs config handler before outcome)
    (early : ¬Phase.table.Due region config) :
    outcome.state.dispatcher = before.dispatcher := by
  cases course with
  | noHeap | noOffsets => rfl
  | noRate made moved | noStack made moved | up _ _ made moved =>
    exact absurd ((Phase.due_heap.next made.1 rfl).next moved.1 rfl) early

/-- Up to a successful timer phase timer and handlers are as they were. -/
theorem Course.timer_kept (course : Course region stubs config handler before outcome)
    (early : ¬Phase.processes.Due region config) :
    outcome.state.timer = before.timer ∧
      outcome.state.dispatcher.handlers = before.dispatcher.handlers := by
  cases course with
  | noHeap | noOffsets => exact ⟨rfl, rfl⟩
  | noRate _ _ _ _ handlers => exact ⟨rfl, handlers⟩
  | noStack made moved bound _ counts | up _ _ made moved bound _ counts =>
    exact absurd ((((Phase.due_heap.next made.1 rfl).next moved.1 rfl).next bound.1 rfl).next
      counts.1 rfl) early

/-- **The interrupt flag is not written.** -/
theorem Course.flag_kept (course : Course region stubs config handler before outcome) :
    outcome.state.dispatcher.cpu.flag = before.dispatcher.cpu.flag ∧
      outcome.state.dispatcher.cpu.flagWrites = before.dispatcher.cpu.flagWrites := by
  cases course with
  | noHeap | noOffsets => exact ⟨rfl, rfl⟩
  | noRate _ _ _ loaded | noStack _ _ _ loaded | up _ _ _ _ _ loaded =>
    dsimp only
    rw [loaded.pointed]
    exact ⟨rfl, rfl⟩

/-- **Nor is it among what is left.** -/
theorem Course.unflagged (course : Course region stubs config handler before outcome)
    (enabled : Bool) : .interruptFlag enabled ∉ outcome.effects := by
  have failing : ∀ phase : Phase, .interruptFlag enabled ∉ phase.failing := fun phase => by
    simp [Phase.failing, Phase.opening]
  cases course with
  | noHeap => exact failing _
  | noOffsets made =>
    exact List.not_mem_append (made.unflagged (by decide) enabled) (failing _)
  | noRate made moved bound =>
    exact List.not_mem_append (made.unflagged (by decide) enabled) <|
      List.not_mem_append (moved.unflagged (by decide) enabled) <|
      List.not_mem_append (bound.unflagged (by decide) enabled) (failing _)
  | noStack made moved bound _ counts =>
    exact List.not_mem_append (made.unflagged (by decide) enabled) <|
      List.not_mem_append (moved.unflagged (by decide) enabled) <|
      List.not_mem_append (bound.unflagged (by decide) enabled) <|
      List.not_mem_append (counts.unflagged (by decide) enabled) (failing _)
  | up _ _ made moved bound _ counts _ enlists =>
    exact List.not_mem_append (made.unflagged (by decide) enabled) <|
      List.not_mem_append (moved.unflagged (by decide) enabled) <|
      List.not_mem_append (bound.unflagged (by decide) enabled) <|
      List.not_mem_append (counts.unflagged (by decide) enabled)
        (enlists.unflagged (by decide) enabled)

variable [LawfulController C]

/-- **A run of the phases but the last succeeds just when each phase has what it needs**, and is
refused as an invalid argument otherwise. Each phase before the first one that lacks something is
completed on the board and that one has failed; no later one is started, nor are the interrupts
ever. What is left is, phase by phase, what each may touch. The dispatcher is untouched before the
controller is moved, timer and handlers before the tick rate is accepted, and the interrupt flag is
never written. -/
theorem boot_truthful {startup : Startup C} (idle : startup.dispatcher.stage ≠ .live)
    (fresh : ∀ phase : Phase, startup.board.get? phase.name = some .notStarted) (region : Region)
    (stubs : Stubs) (config : Config) (handler : Handler) :
    ((∃ core, (run region stubs config handler startup).result = .ok core) ↔
      ∀ phase : Phase, phase.Provided region config) ∧
    ((¬∀ phase : Phase, phase.Provided region config) →
      (run region stubs config handler startup).result = .error (.refused .invalidArgument)) ∧
    (∃ spans : Phase → List Effect,
      (run region stubs config handler startup).effects = Phase.all.flatMap spans ∧
      ∀ phase : Phase, ∃ progress,
        (run region stubs config handler startup).state.board.get? phase.name = some progress ∧
        phase.Went region config progress (spans phase)) ∧
    (¬Phase.table.Due region config →
      (run region stubs config handler startup).state.dispatcher = startup.dispatcher) ∧
    (¬Phase.processes.Due region config →
      (run region stubs config handler startup).state.timer = startup.timer ∧
      (run region stubs config handler startup).state.dispatcher.handlers =
        startup.dispatcher.handlers) ∧
    (run region stubs config handler startup).state.dispatcher.cpu.flag =
      startup.dispatcher.cpu.flag ∧
    (run region stubs config handler startup).state.dispatcher.cpu.flagWrites =
      startup.dispatcher.cpu.flagWrites ∧
    ∀ enabled, .interruptFlag enabled ∉ (run region stubs config handler startup).effects := by
  have course := run_course idle region stubs config handler
  have told := course.told fresh
  exact ⟨course.answers_iff, course.refused, told, course.dispatcher_kept, course.timer_kept,
    course.flag_kept.1, course.flag_kept.2, course.unflagged⟩

/-- Two chips told by vector, and a board with every phase. -/
def listedStartup : Startup (VectorPair ChainedChips) where
  dispatcher := { controller := {} }
  timer := { frequency := 100 }
  board := .ofNames (Phase.all.map Phase.name)

/-- Stubs for every vector in use and for system calls. -/
def sampleStubs : Stubs := ⟨.replicate 32 0x1000, .replicate 16 0x2000, some 0x3000⟩

/-- Without a tick rate the timer phase is the one that has failed. -/
theorem boot_truthful_still :
    (listedStartup.dispatcher.stage ≠ .live ∧
      ∀ phase : Phase, listedStartup.board.get? phase.name = some .notStarted) ∧
    (run Heap.smallRegion sampleStubs { tickRate := 0 } .tick listedStartup).result =
      .error (.refused .invalidArgument) ∧
    (run Heap.smallRegion sampleStubs { tickRate := 0 } .tick listedStartup).state.board.get?
      "Timer" = some (.failed .invalidArgument) ∧
    (run Heap.smallRegion sampleStubs { tickRate := 0 } .tick listedStartup).state.timer =
      listedStartup.timer := by
  have idle : listedStartup.dispatcher.stage ≠ .live := nofun
  have fresh : ∀ phase : Phase, listedStartup.board.get? phase.name = some .notStarted := by
    intro phase
    cases phase <;> decide
  have heap : Phase.heap.Provided Heap.smallRegion { tickRate := 0 } :=
    ⟨0, by decide, by decide, by decide⟩
  have controller : Phase.controller.Provided Heap.smallRegion { tickRate := 0 } :=
    Phase.provided_controller_iff.mpr (by decide)
  have table : Phase.table.Provided Heap.smallRegion { tickRate := 0 } := True.intro
  have due : Phase.timer.Due Heap.smallRegion { tickRate := 0 } :=
    ((Phase.due_heap.next heap rfl).next controller rfl).next table rfl
  have lacking : ¬Phase.timer.Provided Heap.smallRegion { tickRate := 0 } := fun counts => counts rfl
  obtain ⟨-, refused, ⟨spans, -, told⟩, -, kept, -⟩ :=
    boot_truthful idle fresh Heap.smallRegion sampleStubs { tickRate := 0 } .tick
  obtain ⟨progress, marked, went⟩ := told .timer
  refine ⟨⟨idle, fresh⟩, refused fun every => lacking (every .timer), ?_,
    (kept fun late => lacking (late .timer (by decide))).1⟩
  generalize spans .timer = span at went
  cases went with
  | completed due completes early => exact absurd completes.1 lacking
  | failed due lacking => exact marked
  | notStarted late => exact (late.resolve_right (by decide) due).elim

end Startup

end MiniKernel
