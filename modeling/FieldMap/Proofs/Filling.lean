import FieldMap.Settings.Basic

/-!
# Cells are filled once

What a cell of settings answers is told by the calls before. The first call that can fill an empty
cell decides what the cell holds (`Cell.FilledWith`), whether it is a configuration or a question
for the settings with the defaults as a reserve. One call fills a cell only if it is empty
(`value_perform`), and so a run of calls leaves what was there and else the settings of the first
call that fills (`value_run`). A call that is refused leaves the cell as it was
(`perform_of_refused`), so that the other calls answer as they do without it (`run_writeOnce`).
-/

namespace FieldMap.Settings.Cell

/-! ## Calls -/

/-- A use of a cell. -/
inductive Call where
  | configure (settings : Settings)
  | get
  | getOrDefault
  | isConfigured

/-- What a use of a cell answers. -/
inductive Answer where
  | done
  | settings (s : Settings)
  | isFilled (filled : Bool)
  | refused (e : CellError)

/-- One call: its answer, and the cell afterwards. -/
def perform (cell : Cell) : Call → Answer × Cell
  | .configure settings =>
    match cell.configure settings with
    | .ok filled => (.done, filled)
    | .error e => (.refused e, cell)
  | .get =>
    match cell.get with
    | .ok settings => (.settings settings, cell)
    | .error e => (.refused e, cell)
  | .getOrDefault => (.settings cell.getOrDefault.1, cell.getOrDefault.2)
  | .isConfigured => (.isFilled cell.isConfigured, cell)

/-- Calls one after the other, also after refused ones: the answers, and the cell at the end. -/
def run (cell : Cell) : List Call → List Answer × Cell
  | [] => ([], cell)
  | call :: calls =>
    let rest := (cell.perform call).2.run calls
    ((cell.perform call).1 :: rest.1, rest.2)

/-! ## What decides the answers -/

/-- The settings that a call fills an empty cell with. -/
def Call.fills? : Call → Option Settings
  | .configure settings => some settings
  | .getOrDefault => some {}
  | .get | .isConfigured => none

/-- The first call of a history that can fill a cell does so with these settings. -/
def FilledWith (history : List Call) (s : Settings) : Prop :=
  ∃ before call after, history = before ++ call :: after ∧ call.fills? = some s ∧
    ∀ c ∈ before, c.fills? = none

/-- Some call of a history can fill a cell. -/
def Filled (history : List Call) : Prop :=
  ∃ s, FilledWith history s

/-- What a call has to answer after a history of calls. -/
def Answers (history : List Call) (answer : Answer) : Call → Prop
  | .configure _ =>
    (answer = .refused .alreadyConfigured ↔ Filled history) ∧ (answer = .done ↔ ¬Filled history)
  | .get =>
    (∀ s, answer = .settings s ↔ FilledWith history s) ∧
      (answer = .refused .notConfigured ↔ ¬Filled history)
  | .getOrDefault =>
    (∀ s, FilledWith history s → answer = .settings s) ∧
      (¬Filled history → answer = .settings {})
  | .isConfigured =>
    (answer = .isFilled true ↔ Filled history) ∧ (answer = .isFilled false ↔ ¬Filled history)

theorem filledWith_iff {history : List Call} {s : Settings} :
    FilledWith history s ↔ history.findSome? Call.fills? = some s :=
  List.findSome?_eq_some_iff.symm

theorem filled_iff {history : List Call} :
    Filled history ↔ (history.findSome? Call.fills?).isSome = true := by
  simp only [Filled, filledWith_iff, Option.isSome_iff_exists]

/-! ## One call -/

variable {cell : Cell} {call : Call} {history calls : List Call}

/-- A call fills the cell only if it is empty. -/
theorem value_perform (cell : Cell) (call : Call) :
    (cell.perform call).2.value = cell.value.or call.fills? := by
  obtain ⟨value⟩ := cell
  cases value <;> cases call <;> rfl

/-- A refused call leaves the cell as it was. -/
theorem perform_of_refused {e : CellError} (h : (cell.perform call).1 = .refused e) :
    (cell.perform call).2 = cell := by
  obtain ⟨value⟩ := cell
  cases value <;> cases call <;> first | rfl | cases h

/-- The answer of a call is told by what fills the cell that it is made to. -/
theorem answers_perform (hv : cell.value = history.findSome? Call.fills?) :
    Answers history (cell.perform call).1 call := by
  obtain ⟨value⟩ := cell
  subst hv
  cases h : history.findSome? Call.fills? with
  | none =>
    have hn : ¬Filled history := by
      rw [filled_iff, h]
      exact Bool.false_ne_true
    have hw (s : Settings) : ¬FilledWith history s := fun hs => hn ⟨s, hs⟩
    cases call with
    | configure settings => exact ⟨iff_of_false nofun hn, iff_of_true rfl hn⟩
    | get => exact ⟨fun s => iff_of_false nofun (hw s), iff_of_true rfl hn⟩
    | getOrDefault => exact ⟨fun s hs => absurd hs (hw s), fun _ => rfl⟩
    | isConfigured => exact ⟨iff_of_false nofun hn, iff_of_true rfl hn⟩
  | some t =>
    have hw : FilledWith history t := filledWith_iff.mpr h
    have hu (s : Settings) (hs : FilledWith history s) : s = t :=
      Option.some.inj ((filledWith_iff.mp hs).symm.trans h)
    have hf : Filled history := ⟨t, hw⟩
    cases call with
    | configure settings => exact ⟨iff_of_true rfl hf, iff_of_false nofun (not_not_intro hf)⟩
    | get =>
      refine ⟨fun s => ⟨fun he => ?_, fun hs => ?_⟩, iff_of_false nofun (not_not_intro hf)⟩
      · cases he
        exact hw
      · rw [hu s hs]
        rfl
    | getOrDefault =>
      refine ⟨fun s hs => ?_, fun hn => absurd hf hn⟩
      rw [hu s hs]
      rfl
    | isConfigured => exact ⟨iff_of_true rfl hf, iff_of_false nofun (not_not_intro hf)⟩

/-! ## Runs -/

/-- Each call of a run is answered. -/
theorem length_run (cell : Cell) (calls : List Call) :
    (cell.run calls).1.length = calls.length := by
  induction calls generalizing cell with
  | nil => rfl
  | cons call calls ih => exact congrArg (· + 1) (ih _)

/-- A run goes on from the cell that its first part leaves. -/
theorem run_append (cell : Cell) (calls later : List Call) :
    cell.run (calls ++ later) =
      ((cell.run calls).1 ++ ((cell.run calls).2.run later).1,
        ((cell.run calls).2.run later).2) := by
  induction calls generalizing cell with
  | nil => rfl
  | cons call calls ih =>
    rw [List.cons_append, run, ih]
    rfl

/-- A run leaves what the cell held, and else the settings of the first call that fills. -/
theorem value_run (cell : Cell) (calls : List Call) :
    (cell.run calls).2.value = cell.value.or (calls.findSome? Call.fills?) := by
  induction calls generalizing cell with
  | nil => exact (Option.or_none).symm
  | cons call calls ih =>
    show ((cell.perform call).2.run calls).2.value = _
    rw [ih, value_perform, Option.or_assoc, List.findSome?_cons]
    cases call.fills? <;> rfl

/-- A run from an empty cell leaves the settings of the first call that fills, and further calls do
not change them. Each call is answered as the calls before it have filled the cell: a configuration
is refused exactly if they have, a question without a reserve exactly if they have not, and both
questions for the settings get the settings that were filled in. A refused call changes neither the
cell nor any other answer. -/
theorem run_writeOnce (calls : List Call) :
    (∀ s, (({} : Cell).run calls).2.value = some s ↔ FilledWith calls s) ∧
    (∀ s later, FilledWith calls s → (({} : Cell).run (calls ++ later)).2.value = some s) ∧
    ∀ before call after, calls = before ++ call :: after → ∃ earlier answer later,
      (({} : Cell).run calls).1 = earlier ++ answer :: later ∧ earlier.length = before.length ∧
      Answers before answer call ∧
      ∀ e, answer = .refused e →
        ({} : Cell).run (before ++ after) = (earlier ++ later, (({} : Cell).run calls).2) := by
  have hvalue (calls : List Call) :
      (({} : Cell).run calls).2.value = calls.findSome? Call.fills? := value_run {} calls
  refine ⟨fun s => ?_, fun s later h => ?_, fun before call after h => ?_⟩
  · rw [hvalue, filledWith_iff]
  · rw [hvalue, List.findSome?_append, filledWith_iff.mp h]
    rfl
  · subst h
    rcases hb : ({} : Cell).run before with ⟨earlier, cell⟩
    have hv : cell.value = before.findSome? Call.fills? := by rw [← hvalue, hb]
    have hl : earlier.length = before.length := by rw [← length_run {} before, hb]
    refine ⟨earlier, (cell.perform call).1, ((cell.perform call).2.run after).1, ?_, hl,
      answers_perform hv, fun e he => ?_⟩
    · rw [run_append, hb]
      rfl
    · rw [run_append, run_append, hb]
      show (earlier ++ (cell.run after).1, (cell.run after).2) = _
      rw [run, perform_of_refused he]

end FieldMap.Settings.Cell
