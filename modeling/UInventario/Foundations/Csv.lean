import Mathlib.Data.List.Basic

/-!
# Comma-separated values

`Reader` goes through a text unit by unit and looks one unit ahead: a quotation mark opens and
closes a quoted part, two of them inside one stand for one, and outside of it a delimiter ends a
field and a line break a record. Fields are trimmed, and a record with no text is dropped.

`writeTable` quotes every field. `read_writeTable` is the round trip.
-/

namespace Csv

open List

abbrev Row := List (List ℕ)

/-- `"`. -/
def quote : ℕ := 34

def lineFeed : ℕ := 10

def carriageReturn : ℕ := 13

/-- A value of the record is not empty. -/
def HasText (row : Row) : Prop :=
  ∃ value ∈ row, value ≠ []
deriving Decidable

/-! ### Reading -/

/-- What has been read. -/
structure Reader where
  rows : List Row := []
  row : Row := []
  field : List ℕ := []
  quoted : Bool := false
  /-- The next unit has been read together with the last one. -/
  skip : Bool := false

variable (delimiter : ℕ) (trim : List ℕ → List ℕ)

def Reader.endField (r : Reader) : Reader :=
  { r with row := r.row ++ [trim r.field], field := [] }

def Reader.endRow (r : Reader) : Reader :=
  let row := r.row ++ [trim r.field]
  { r with rows := if HasText row then r.rows ++ [row] else r.rows, row := [], field := [] }

/-- One turn of the loop. -/
def Reader.take (r : Reader) (c : ℕ) (next : Option ℕ) : Reader :=
  if r.skip then { r with skip := false }
  else if c = quote then
    if r.quoted ∧ next = some quote then { r with field := r.field ++ [quote], skip := true }
    else { r with quoted := !r.quoted }
  else if c = delimiter ∧ ¬r.quoted then r.endField trim
  else if (c = lineFeed ∨ c = carriageReturn) ∧ ¬r.quoted then
    { r.endRow trim with skip := c = carriageReturn ∧ next = some lineFeed }
  else { r with field := r.field ++ [c] }

def Reader.loop (r : Reader) : List ℕ → Reader
  | [] => r
  | c :: rest => (r.take delimiter trim c rest.head?).loop rest

/-- The records of a text, unless a quotation mark is left open. -/
def read (content : List ℕ) : Option (List Row) :=
  let r := Reader.loop delimiter trim {} content
  if r.quoted then none else some (r.endRow trim).rows

/-! ### Writing -/

def escape (c : ℕ) : List ℕ :=
  if c = quote then [quote, quote] else [c]

def writeField (value : List ℕ) : List ℕ :=
  quote :: (value.flatMap escape ++ [quote])

def writeRow (row : Row) : List ℕ :=
  [delimiter].intercalate (row.map writeField)

/-- The records with a line break between any two and, where `ended`, one after the last. -/
def writeTable (lineBreak : List ℕ) (ended : Bool) (rows : List Row) : List ℕ :=
  lineBreak.intercalate (rows.map (writeRow delimiter)) ++ if ended then lineBreak else []

/-! ### The round trip -/

/-- A reader outside of a quoted part. -/
def Reader.plain (rows : List Row) (row : Row) (field : List ℕ) : Reader :=
  { rows := rows, row := row, field := field }

variable {delimiter} {trim} {rows : List Row} {row : Row} {field rest : List ℕ}

theorem loop_escaped {r : Reader} (value : List ℕ) (hquoted : r.quoted = true)
    (hskip : r.skip = false) (hrest : rest.head? ≠ some quote) :
    r.loop delimiter trim (value.flatMap escape ++ quote :: rest) =
      Reader.loop delimiter trim { r with field := r.field ++ value, quoted := false } rest := by
  induction value generalizing r with
  | nil =>
    rw [flatMap_nil, nil_append, Reader.loop, Reader.take, append_nil]
    simp [hquoted, hskip, hrest]
  | cons c value ih =>
    rw [flatMap_cons, append_assoc, escape]
    split
    case isTrue hc =>
      -- The first of two quotation marks takes the second along.
      have hfirst : r.take delimiter trim quote (some quote) =
          { r with field := r.field ++ [quote], skip := true } := by
        simp [Reader.take, hquoted, hskip]
      show ((r.take delimiter trim quote (some quote)).take delimiter trim quote _).loop
        delimiter trim _ = _
      rw [hfirst]
      refine (ih (r := { r with field := r.field ++ [quote], skip := false }) hquoted rfl).trans ?_
      rw [append_assoc, hc, ← hskip]
      rfl
    case isFalse hc =>
      show (r.take delimiter trim c _).loop delimiter trim _ = _
      have htake : ∀ next, r.take delimiter trim c next = { r with field := r.field ++ [c] } := by
        simp [Reader.take, hquoted, hskip, hc]
      rw [htake]
      refine (ih (r := { r with field := r.field ++ [c] }) hquoted hskip).trans ?_
      rw [append_assoc]
      rfl

theorem loop_writeField (value : List ℕ) (hrest : rest.head? ≠ some quote) :
    (Reader.plain rows row []).loop delimiter trim (writeField value ++ rest) =
      (Reader.plain rows row value).loop delimiter trim rest := by
  rw [writeField, cons_append, append_assoc, Reader.loop]
  exact loop_escaped value rfl rfl hrest

theorem loop_delimiter (hdelimiter : delimiter ≠ quote) :
    (Reader.plain rows row field).loop delimiter trim (delimiter :: rest) =
      (Reader.plain rows (row ++ [trim field]) []).loop delimiter trim rest := by
  rw [Reader.loop, Reader.take]
  simp [Reader.plain, hdelimiter, Reader.endField]

theorem writeRow_singleton (value : List ℕ) : writeRow delimiter [value] = writeField value := by
  simp [writeRow, List.intercalate]

theorem writeRow_cons (value next : List ℕ) (values : Row) :
    writeRow delimiter (value :: next :: values) =
      writeField value ++ delimiter :: writeRow delimiter (next :: values) := by
  simp [writeRow, List.intercalate]

/-- What is kept of a record. -/
def keep (trim : List ℕ → List ℕ) (values : Row) : List Row :=
  if HasText (values.map trim) then [values.map trim] else []

theorem flatMap_keep (table : List Row) :
    table.flatMap (keep trim) = (table.map (List.map trim)).filter fun row ↦ HasText row := by
  induction table with
  | nil => rfl
  | cons values table ih =>
    rw [flatMap_cons, map_cons, filter_cons, ih, keep]
    by_cases h : HasText (values.map trim) <;> simp [h]

/-- A record ends its field: what is before it is as it was, and the record is kept. -/
theorem loop_writeRow (hdelimiter : delimiter ≠ quote) (htrim : trim [] = [])
    (hrest : rest.head? ≠ some quote) (values : Row) :
    ∃ row field, (Reader.plain rows [] []).loop delimiter trim (writeRow delimiter values ++ rest) =
        (Reader.plain rows row field).loop delimiter trim rest ∧
      (Reader.plain rows row field).endRow trim = .plain (rows ++ keep trim values) [] [] := by
  have hvalues : ∀ (values : Row) (before : Row), values ≠ [] → ∃ row field,
      (Reader.plain rows before []).loop delimiter trim (writeRow delimiter values ++ rest) =
        (Reader.plain rows row field).loop delimiter trim rest ∧
      row ++ [trim field] = before ++ values.map trim := by
    intro values
    induction values with
    | nil => exact fun _ h ↦ absurd rfl h
    | cons value values ih =>
      intro before _
      cases values with
      | nil =>
        refine ⟨before, value, ?_, rfl⟩
        rw [writeRow_singleton]
        exact loop_writeField value hrest
      | cons next values =>
        obtain ⟨row, field, hloop, hrow⟩ := ih (before ++ [trim value]) (cons_ne_nil _ _)
        refine ⟨row, field, ?_, by rw [hrow, append_assoc]; rfl⟩
        rw [← hloop, ← loop_delimiter hdelimiter, writeRow_cons, append_assoc]
        exact loop_writeField value (by simpa using hdelimiter)
  rcases eq_nil_or_concat values with rfl | ⟨_, _, hne⟩
  · refine ⟨[], [], rfl, ?_⟩
    simp [Reader.endRow, Reader.plain, keep, HasText, htrim]
  · obtain ⟨row, field, hloop, hrow⟩ := hvalues values [] (by simp [hne])
    refine ⟨row, field, hloop, ?_⟩
    rw [Reader.endRow, keep]
    simp only [Reader.plain, hrow, nil_append]
    split <;> simp

/-- A line break of either style. -/
def IsBreak (lineBreak : List ℕ) : Prop :=
  lineBreak = [lineFeed] ∨ lineBreak = [carriageReturn, lineFeed]
deriving Decidable

theorem loop_lineBreak {lineBreak : List ℕ} (hbreak : IsBreak lineBreak)
    (hdelimiter : delimiter ∉ [quote, lineFeed, carriageReturn]) :
    (Reader.plain rows row field).loop delimiter trim (lineBreak ++ rest) =
      ((Reader.plain rows row field).endRow trim).loop delimiter trim rest := by
  simp only [mem_cons, not_mem_nil, or_false, not_or] at hdelimiter
  have hfeed : lineFeed ≠ quote := by decide
  have hreturn : carriageReturn ≠ quote := by decide
  have hboth : lineFeed ≠ carriageReturn := by decide
  rcases hbreak with rfl | rfl
  · rw [singleton_append, Reader.loop, Reader.take]
    simp [Reader.plain, Ne.symm hdelimiter.2.1, Reader.endRow, hfeed, hboth]
  · rw [cons_append, singleton_append, Reader.loop, Reader.loop]
    simp [Reader.take, Reader.plain, Ne.symm hdelimiter.2.2, Reader.endRow, hreturn]

theorem endRow_empty (htrim : trim [] = []) :
    (Reader.plain rows [] []).endRow trim = .plain rows [] [] := by
  simp [Reader.endRow, Reader.plain, HasText, htrim]

variable {lineBreak : List ℕ} {ended : Bool}

theorem writeTable_cons (values next : Row) (table : List Row) :
    writeTable delimiter lineBreak ended (values :: next :: table) = writeRow delimiter values ++
        (lineBreak ++ writeTable delimiter lineBreak ended (next :: table)) := by
  simp [writeTable, List.intercalate]

section

variable (hbreak : IsBreak lineBreak) (hdelimiter : delimiter ∉ [quote, lineFeed, carriageReturn])
  (htrim : trim [] = []) (table : List Row)
include hbreak hdelimiter htrim table

/-- The whole text: all but the last record are kept on the way, and the last one at the end. -/
theorem loop_writeTable :
    ∃ rows' row field,
      (Reader.plain rows [] []).loop delimiter trim (writeTable delimiter lineBreak ended table) =
        .plain rows' row field ∧
      ((Reader.plain rows' row field).endRow trim).rows = rows ++ table.flatMap (keep trim) := by
  have hquote : delimiter ≠ quote := fun h ↦ hdelimiter (h ▸ mem_cons_self)
  have hhead : ∀ rest, (lineBreak ++ rest).head? ≠ some quote := by
    rcases hbreak with rfl | rfl <;> simp [lineFeed, carriageReturn, quote]
  have hended : (if ended then lineBreak else []).head? ≠ some quote := by
    split
    · rw [← append_nil lineBreak]
      exact hhead []
    · exact nofun
  -- The end of the file, after a record or at its start.
  have hend : ∀ rows row field, ∃ rows' row' field',
      (Reader.plain rows row field).loop delimiter trim (if ended then lineBreak else []) =
        .plain rows' row' field' ∧
      ∀ kept, (Reader.plain rows row field).endRow trim = .plain kept [] [] →
        ((Reader.plain rows' row' field').endRow trim).rows = kept := by
    intro rows row field
    cases ended with
    | false => exact ⟨rows, row, field, rfl, fun kept h ↦ congrArg Reader.rows h⟩
    | true =>
      have hloop : (Reader.plain rows row field).loop delimiter trim (lineBreak ++ []) = _ :=
        loop_lineBreak hbreak hdelimiter
      rw [append_nil] at hloop
      refine ⟨((Reader.plain rows row field).endRow trim).rows, [], [], hloop, fun kept h ↦ ?_⟩
      rw [endRow_empty htrim, h]
      rfl
  induction table generalizing rows with
  | nil =>
    obtain ⟨rows', row', field', hloop, hkept⟩ := hend rows [] []
    refine ⟨rows', row', field', hloop, (hkept rows (endRow_empty htrim)).trans ?_⟩
    exact (append_nil _).symm
  | cons values table ih =>
    cases table with
    | nil =>
      obtain ⟨row, field, hloop, hrow⟩ := @loop_writeRow _ _ rows _ hquote htrim hended values
      obtain ⟨rows', row', field', hloop', hkept⟩ := hend rows row field
      refine ⟨rows', row', field', (Eq.trans ?_ hloop).trans hloop', ?_⟩
      · simp [writeTable, List.intercalate]
      · rw [hkept _ hrow, flatMap_singleton]
    | cons next table =>
      obtain ⟨row, field, hloop, hrow⟩ := @loop_writeRow _ _ rows _ hquote htrim
        (hhead (writeTable delimiter lineBreak ended (next :: table))) values
      rw [writeTable_cons, hloop, loop_lineBreak hbreak hdelimiter, hrow, flatMap_cons,
        ← append_assoc]
      exact ih

/-- **The round trip.** -/
theorem read_writeTable :
    read delimiter trim (writeTable delimiter lineBreak ended table) =
      some ((table.map (List.map trim)).filter fun row ↦ HasText row) := by
  obtain ⟨rows', row, field, hloop, hrows⟩ :=
    @loop_writeTable _ _ [] _ ended hbreak hdelimiter htrim
    table
  rw [read]
  show (if (Reader.loop delimiter trim (.plain [] [] []) _).quoted then none else
    some ((Reader.loop delimiter trim (.plain [] [] []) _).endRow trim).rows) = _
  rw [hloop, hrows, flatMap_keep]
  rfl

end

end Csv
