import UInventario.Foundations.Processes
import UInventario.Inventory.Schema

/-!
# The lifecycle of a data export

`get`, `retry` and `process` of `DataExportService` on one export, statement by statement: a run
claims the export, generates its file and completes it, and none of this is a transaction. A look at
the export (`get`) expires it, and gives it back when it has been `PROCESSING` for five minutes.

## What holds, and what it rests on

`Lawful` is what one step owes: an export that is `EXPIRED` stays so, without a file; one that is
`COMPLETED` has its file and no error, and is left only for `EXPIRED`; and no second run completes
it. The claim of a run, its failure and the sweep of `create` look at the status in their statement.
The completion of a run, the reset by `get` and that by `retry` name the export only, and write
whatever has become of it since the row was read. `InTime` is the condition that it has not become
`COMPLETED` or `EXPIRED`; `export_lifecycle` is the result for runs, and `overtaken_runs` has an
export that is completed after it has expired, and one that is completed twice.

Times are milliseconds. `content_type` and `filename` are written with the content and left out, and
so are the requests of other users, which `find` refuses.
-/

namespace UInventario.Reports

open Outcome Processes

/-! ### The row -/

inductive ExportStatus
  | PENDING | PROCESSING | COMPLETED | FAILED | EXPIRED
  deriving DecidableEq

inductive ExportError
  | EXPORT_ROW_LIMIT_EXCEEDED | EXPORT_GENERATION_FAILED
  deriving DecidableEq

variable {κ : Type}

/-- A row of `data_exports`; `κ` are the contents of files. -/
structure ExportRow (κ : Type) where
  status : ExportStatus
  rowCount : Option ℕ
  fileContent : Option κ
  errorCode : Option ExportError
  (expiresAt updatedAt : Timestamp)
  completedAt : Option Timestamp
  deriving DecidableEq

structure ExportStore (κ : Type) where
  now : Timestamp
  row : ExportRow κ

/-- `UPDATE data_exports SET …`; `updated_at` is set when another column changes. -/
def ExportStore.update [DecidableEq κ] (s : ExportStore κ) (f : ExportRow κ → ExportRow κ) :
    ExportStore κ :=
  { s with row := if f s.row = s.row then s.row else { f s.row with updatedAt := s.now } }

/-- The row that `create` inserts. -/
def createdExport (κ : Type) (now : Timestamp) : ExportRow κ where
  status := .PENDING
  rowCount := none
  fileContent := none
  errorCode := none
  expiresAt := now + 24 * 60 * 60_000
  updatedAt := now
  completedAt := none

/-! ### The requests -/

def MAX_ROWS : ℕ := 100_000

inductive Generation (κ : Type)
  | fails
  | makes (rowCount : ℕ) (file : κ)

inductive ExportRequest (κ : Type)
  | get
  | retry
  /-- `process`, with what its generation will come to; a completion that fails to be written is a
  generation that fails. -/
  | process (generation : Generation κ)
  /-- The sweep of expired exports in the `create` of another one. -/
  | sweep
  | elapse (time : ℕ)

/-- **Where a request stands**, before its next statement. -/
inductive ExportProcess (κ : Type)
  | finding
  /-- `get` has the row, and looks at the clock. -/
  | found (row : ExportRow κ)
  | expiring
  | resetting
  | findingFailed
  | retrying
  | claiming (generation : Generation κ)
  | claimed (generation : Generation κ)
  | completing (rowCount : ℕ) (file : κ)
  | failing (code : ExportError)
  | sweeping
  | elapsing (time : ℕ)
  | done

/-- `get` after `find`: what it does with the row it has read. -/
def ExportRow.next (row : ExportRow κ) (now : Timestamp) : ExportProcess κ :=
  if row.expiresAt ≤ now ∧ row.status ≠ .EXPIRED then .expiring
  else if row.status = .PROCESSING ∧ row.updatedAt + 5 * 60_000 < now then .resetting
  else .done

/-- `process` after its `find`: the file is written, or the failure. -/
def Generation.next : Generation κ → ExportProcess κ
  | .fails => .failing .EXPORT_GENERATION_FAILED
  | .makes rowCount file =>
    if MAX_ROWS < rowCount then .failing .EXPORT_ROW_LIMIT_EXCEEDED else .completing rowCount file

/-- `SET status = 'EXPIRED', file_content = NULL`. -/
def ExportRow.expire (row : ExportRow κ) : ExportRow κ :=
  { row with status := .EXPIRED, fileContent := none }

/-- `SET status = 'COMPLETED', row_count = ?, file_content = ?, …, error_code = NULL`. -/
def ExportRow.complete (rowCount : ℕ) (file : κ) (now : Timestamp) (row : ExportRow κ) :
    ExportRow κ :=
  { row with
    status := .COMPLETED, rowCount := some rowCount, fileContent := some file,
    completedAt := some now, errorCode := none }

/-- **The next statement of a request.** -/
def exportTurn [DecidableEq κ] (p : ExportProcess κ) (s : ExportStore κ) : ExportStore κ ×
    ExportProcess κ :=
  match p with
  | .finding => (s, .found s.row)
  | .found row => (s, row.next s.now)
  | .expiring => (s.update ExportRow.expire, .done)
  | .resetting => (s.update fun row ↦ { row with status := .PENDING }, .done)
  | .findingFailed => (s, if s.row.status = .FAILED then .retrying else .done)
  | .retrying => (s.update fun row ↦ { row with status := .PENDING, errorCode := none }, .finding)
  | .claiming generation =>
    if s.row.status = .PENDING then
      (s.update fun row ↦ { row with status := .PROCESSING }, .claimed generation)
    else (s, .done)
  | .claimed generation => (s, generation.next)
  | .completing rowCount file => (s.update (ExportRow.complete rowCount file s.now), .done)
  | .failing code =>
    if s.row.status = .PROCESSING then
      (s.update fun row ↦
        { row with status := .FAILED, errorCode := some code, fileContent := none }, .done)
    else (s, .done)
  | .sweeping =>
    if s.row.expiresAt ≤ s.now ∧ s.row.status ≠ .EXPIRED then (s.update ExportRow.expire, .done)
    else (s, .done)
  | .elapsing time => ({ s with now := s.now + time }, .done)
  | .done => (s, .done)

def exportSystem (κ : Type) [DecidableEq κ] :
    System (ExportStore κ) (ExportProcess κ) (ExportRequest κ) where
  start
    | .get => .finding
    | .retry => .findingFailed
    | .process generation => .claiming generation
    | .sweep => .sweeping
    | .elapse time => .elapsing time
  turn := exportTurn

/-! ### What a step owes -/

/-- **What holds of the row**: a completed export has its file and no error, an expired one no file.
-/
structure ExportRow.Sound (row : ExportRow κ) : Prop where
  completed : row.status = .COMPLETED → row.fileContent.isSome = true ∧ row.errorCode = none
  expired : row.status = .EXPIRED → row.fileContent = none

/-- **What a step owes**, `completes` being whether it is the completion of a run. -/
structure Lawful (completes : Prop) (row row' : ExportRow κ) : Prop where
  sound : row'.Sound
  expired : row.status = .EXPIRED → row'.status = .EXPIRED
  completed : row.status = .COMPLETED →
    row'.status = .EXPIRED ∨ row'.status = .COMPLETED ∧ row'.fileContent = row.fileContent
  once : row.status = .COMPLETED → ¬completes

def ExportProcess.Completes : ExportProcess κ → Prop
  | .completing _ _ => True
  | _ => False

/-- **The condition on a turn**: the export that is completed or given back has not become
`COMPLETED` or `EXPIRED`. -/
def ExportProcess.InTime (s : ExportStore κ) : ExportProcess κ → Prop
  | .completing _ _ | .resetting | .retrying =>
    s.row.status ≠ .COMPLETED ∧ s.row.status ≠ .EXPIRED
  | _ => True

instance decidableInTime (s : ExportStore κ) : (p : ExportProcess κ) → Decidable (p.InTime s)
  | .completing _ _ | .resetting | .retrying => inferInstanceAs (Decidable (_ ∧ _))
  | .finding | .found _ | .expiring | .findingFailed | .claiming _ | .claimed _ | .failing _
  | .sweeping | .elapsing _ | .done => isTrue trivial

section

variable {s : ExportStore κ} {f : ExportRow κ → ExportRow κ} {completes : Prop} {row : ExportRow κ}

theorem Lawful.refl (h : s.row.Sound) (hnot : ¬completes) : Lawful completes s.row s.row :=
  ⟨h, id, fun hstatus ↦ Or.inr ⟨hstatus, rfl⟩, fun _ ↦ hnot⟩

/-- The stamp of a row is nobody's concern. -/
theorem Lawful.update [DecidableEq κ] (h : Lawful completes s.row (f s.row)) :
    Lawful completes s.row (s.update f).row := by
  show Lawful completes s.row (if f s.row = s.row then s.row else _)
  split
  next heq =>
    rw [heq] at h
    exact h
  next => exact ⟨⟨h.sound.completed, h.sound.expired⟩, h.expired, h.completed, h.once⟩

theorem lawful_expire (row : ExportRow κ) (hnot : ¬completes) : Lawful completes row row.expire :=
  ⟨⟨nofun, fun _ ↦ rfl⟩, fun _ ↦ rfl, fun _ ↦ Or.inl rfl, fun _ ↦ hnot⟩

/-- A write to an export that is neither completed nor expired. -/
theorem lawful_open {row' : ExportRow κ}
    (hopen : row.status ≠ .COMPLETED ∧ row.status ≠ .EXPIRED) (hsound : row'.Sound) :
    Lawful completes row row' :=
  ⟨hsound, fun h ↦ absurd h hopen.2, fun h ↦ absurd h hopen.1, fun h ↦ absurd h hopen.1⟩

theorem sound_of_open (hcompleted : row.status ≠ .COMPLETED)
    (hexpired : row.status ≠ .EXPIRED) : row.Sound :=
  ⟨fun h ↦ absurd h hcompleted, fun h ↦ absurd h hexpired⟩

end

variable [DecidableEq κ] {st : State (ExportStore κ) (ExportProcess κ)}

/-- **A turn in time is lawful.** -/
theorem exportTurn_lawful {p : ExportProcess κ} {s : ExportStore κ} (h : s.row.Sound)
    (hintime : p.InTime s) : Lawful p.Completes s.row (exportTurn p s).1.row := by
  cases p with
  | finding | found | findingFailed | claimed | elapsing | done => exact Lawful.refl h id
  | expiring => exact (lawful_expire s.row id).update
  | resetting | retrying =>
    refine Lawful.update (lawful_open hintime ?_)
    exact sound_of_open nofun nofun
  | completing rowCount file =>
    refine Lawful.update (lawful_open hintime ?_)
    exact ⟨fun _ ↦ ⟨rfl, rfl⟩, nofun⟩
  | claiming generation | failing code =>
    rw [exportTurn]
    split
    next hstatus =>
      refine Lawful.update (lawful_open (by rw [hstatus]; decide) ?_)
      exact sound_of_open nofun nofun
    next => exact Lawful.refl h id
  | sweeping =>
    rw [exportTurn]
    split
    next => exact (lawful_expire s.row id).update
    next => exact Lawful.refl h id

/-! ### Runs -/

def turnOf (st : State (ExportStore κ) (ExportProcess κ)) :
    Event (ExportRequest κ) → Option (ExportProcess κ)
  | .start _ => none
  | .turn n => st.processes[n]?

/-- **The condition on an event.** -/
def InTime (st : State (ExportStore κ) (ExportProcess κ)) (event : Event (ExportRequest κ)) :
    Prop :=
  ∀ p ∈ turnOf st event, p.InTime st.store
deriving Decidable

/-- **What an event does is lawful.** -/
def StepLawful (st : State (ExportStore κ) (ExportProcess κ)) (event : Event (ExportRequest κ)) :
    Prop :=
  ∀ st', step (exportSystem κ) st event = .ok st' →
    Lawful (∃ p ∈ turnOf st event, p.Completes) st.store.row st'.store.row

theorem step_lawful
    {event : Event (ExportRequest κ)} (h : st.store.row.Sound) (hintime : InTime st event) :
    StepLawful st event := by
  intro st' hstep
  cases event with
  | start request =>
    cases hstep
    exact Lawful.refl h fun ⟨p, hp, _⟩ ↦ absurd hp nofun
  | turn n =>
    obtain ⟨p, hp, rfl⟩ := step_turn_eq_ok.mp hstep
    have hlawful := exportTurn_lawful h (hintime p hp)
    refine ⟨hlawful.sound, hlawful.expired, hlawful.completed, fun hstatus ↦ ?_⟩
    rintro ⟨q, hq, hcompletes⟩
    have hqp : q = p := Option.some.inj ((Option.mem_def.mp hq).symm.trans hp)
    exact hlawful.once hstatus (hqp ▸ hcompletes)

theorem along_lawful (h : st.store.row.Sound) (events : List (Event (ExportRequest κ)))
    (hintime : Along (step (exportSystem κ)) InTime st events) :
    (run (step (exportSystem κ)) st events).store.row.Sound ∧
      Along (step (exportSystem κ)) StepLawful st events := by
  have hsound : ∀ (st : State (ExportStore κ) (ExportProcess κ)) event st', st.store.row.Sound →
      InTime st event → step (exportSystem κ) st event = .ok st' → st'.store.row.Sound :=
    fun st event st' h hintime hstep ↦ (step_lawful h hintime st' hstep).sound
  exact ⟨run_induct_along hsound h events hintime,
    along_induct (fun _ _ ↦ step_lawful) hsound h events hintime⟩

/-- **The lifecycle of a data export**, when writes come in time: the row is sound in every state,
and every step is lawful. -/
theorem export_lifecycle (now : Timestamp) (events : List (Event (ExportRequest κ)))
    (hintime : Along (step (exportSystem κ)) InTime
      (.idle ⟨now, createdExport κ now⟩) events) :
    (run (step (exportSystem κ)) (.idle ⟨now, createdExport κ now⟩) events).store.row.Sound ∧
      Along (step (exportSystem κ)) StepLawful (.idle ⟨now, createdExport κ now⟩) events := by
  have hcreated : (createdExport κ now).Sound := ⟨nofun, nofun⟩
  exact @along_lawful _ _ (.idle ⟨now, createdExport κ now⟩) hcreated events hintime

def exportRun (events : List (Event (ExportRequest ℕ))) : State (ExportStore ℕ) (ExportProcess ℕ) :=
  run (step (exportSystem ℕ)) (.idle ⟨0, createdExport ℕ 0⟩) events

/-- A run that fails, a retry, and a run that completes the export. -/
def completedOnce : List (Event (ExportRequest ℕ)) :=
  [.start (.process .fails), .turn 0, .turn 0, .turn 0, .start .retry, .turn 1, .turn 1,
    .start (.process (.makes 1 7)), .turn 2, .turn 2, .turn 2]

/-- A day later somebody looks at it. -/
def lookedAtLate : List (Event (ExportRequest ℕ)) :=
  [.start (.elapse 86_400_000), .turn 3, .start .get, .turn 4, .turn 4, .turn 4]

theorem export_lifecycle_completedOnce : (exportRun completedOnce).store.row.status = .COMPLETED ∧
    let st := exportRun (completedOnce ++ lookedAtLate)
    st.store.row.status = .EXPIRED ∧ st.store.row.Sound :=
  ⟨by decide, by decide, (export_lifecycle 0 (completedOnce ++ lookedAtLate) (by decide)).1⟩

/-- A day passes while a run generates its file, and somebody looks at the export. -/
def slowRun : List (Event (ExportRequest ℕ)) :=
  [.start (.process (.makes 1 7)), .turn 0, .turn 0, .start (.elapse 86_400_000), .turn 1,
    .start .get, .turn 2, .turn 2, .turn 2]

def twoRuns : List (Event (ExportRequest ℕ)) :=
  [.start (.process (.makes 1 7)), .turn 0, .turn 0, .start (.elapse 600_000), .turn 1,
    .start .get, .turn 2, .turn 2, .turn 2, .start (.process (.makes 1 8)), .turn 3, .turn 3,
    .turn 0]

/-- **The completion comes too late**: the export is completed after it has expired; and a file is
replaced by that of a second run. -/
theorem overtaken_runs : ((exportRun slowRun).store.row.status = .EXPIRED ∧
      (exportRun (slowRun ++ [.turn 0])).store.row.status = .COMPLETED ∧
      (exportRun (slowRun ++ [.turn 0])).store.row.fileContent = some 7) ∧
    (exportRun twoRuns).store.row.status = .COMPLETED ∧
      (exportRun twoRuns).store.row.fileContent = some 7 ∧
      (exportRun (twoRuns ++ [.turn 3])).store.row.fileContent = some 8 := by
  decide

end UInventario.Reports
