import UInventario.Foundations.Csv
import UInventario.Inventory.ValuationPolicyService
import Mathlib.Data.List.DropRight
import Mathlib.Data.List.Induction

/-!
# The rows of an imported file

`ProductImportService` and `InventoryImportService` read a file of comma-separated values, find the
columns they ask for by the names in the first record, and check the other records one by one.
`importedRows` is about the files in which every field is quoted: the rows are those of the records
with text, in their order, and every value is what was written, trimmed.

## What it asks for

* There are at least one and at most a thousand such records.
* The inventory import guesses its delimiter by the first line of the file, line breaks and
  delimiters inside the names of columns included: it has to guess the one that was used.
* The number of a row is that of its record where no record without text comes before: such records
  are dropped before the rows are numbered.
-/

namespace UInventario.Imports

open Outcome Csv List Option

structure TextEnv where
  (toLowerCase toUpperCase : Text → Text)
  /-- `normalize('NFD')`. -/
  decompose : Text → Text
  toLowerCase_nil : toLowerCase [] = []
  decompose_nil : decompose [] = []

/-! ### Reading a file -/

/-- `replace(/^\uFEFF/, '')`. -/
def dropMark (text : Text) : Text :=
  if text.head? = some 65279 then text.tail else text

/-- `split(/\r?\n/, 1)[0]`. -/
def firstLine (content : Text) : Text :=
  let line := content.takeWhile (· ≠ lineFeed)
  if line ≠ content ∧ line.getLast? = some carriageReturn then line.dropLast else line

/-- The first of comma, semicolon and tab that the line has most of. -/
def pickDelimiter (line : Text) : ℕ :=
  [59, 9].foldl (fun selected candidate ↦
    if line.count selected < line.count candidate then candidate else selected) 44

/-- `ProductImportService.csv`. -/
def csv (text : Text) : Option (List Row) :=
  Csv.read 44 trim (dropMark text)

/-- `InventoryImportService.readCsv`. -/
def readCsv (text : Text) : Option (List Row) :=
  Csv.read (pickDelimiter (firstLine (dropMark text))) trim (dropMark text)

/-! ### Rows -/

/-- The codes of `EMPTY_PRODUCT_IMPORT`, `EMPTY_INVENTORY_IMPORT` and the like, without the name of
the import. -/
inductive ImportFailure (H : Type)
  | INVALID_FILE | EMPTY | INVALID_HEADERS (missing : List H) | INVALID_ROW_COUNT

structure Import (H ρ : Type) where
  headers : List H
  headerName : Text → Option H
  /-- What is not blank for the filter of the records. -/
  present : Text → Bool
  row : (H → Text) → ℕ → ρ

variable {H ρ : Type} [DecidableEq H] (imp : Import H ρ)

/-- The column of a header: a later one takes the place of an earlier one. -/
def Import.index (header : Row) (h : H) : Option ℕ :=
  header.zipIdx.foldl (fun found x ↦ if imp.headerName x.1 = some h then some x.2 else found) none

def Import.value (header values : Row) (h : H) : Text :=
  trim (((imp.index header h).bind fun k ↦ values[k]?).getD [])

/-- `parse` and `parseRows`. -/
def Import.parse (matrix : List Row) : Except (ImportFailure H) (List ρ) := do
  ensure (2 ≤ matrix.length) .EMPTY
  let header := matrix.headD []
  let missing := imp.headers.filter fun h ↦ imp.index header h = none
  ensure (missing = []) (.INVALID_HEADERS missing)
  let data := matrix.tail.filter fun row ↦ row.any imp.present
  ensure (1 ≤ data.length ∧ data.length ≤ 1000) .INVALID_ROW_COUNT
  return data.zipIdx.map fun x ↦ imp.row (imp.value header x.1) (x.2 + 2)

/-- What `preview` makes of the records of a file. -/
def Import.preview (matrix : Option (List Row)) : Except (ImportFailure H) (List ρ) := do
  let matrix ← demand matrix .INVALID_FILE
  imp.parse matrix

inductive RowErrorCode
  | INVALID_NAME | INVALID_SKU | INVALID_BARCODE | INVALID_CATEGORY | INVALID_BRAND | INVALID_COST
  | INVALID_PRICE | INVALID_ACTIVE | INVALID_LOCATION_CODE | INVALID_QUANTITY | INVALID_STOCK_STATE
  | INVALID_REASON
  deriving DecidableEq

structure RowError where
  code : RowErrorCode
  message : String
  deriving DecidableEq

def check (valid : Bool) (code : RowErrorCode) (message : String) : List RowError :=
  if valid then [] else [⟨code, message⟩]

def lookup {α : Type} (entries : List (String × α)) (key : Text) : Option α :=
  (entries.find? fun entry ↦ textOf entry.1 = key).map Prod.snd

def within (least most : ℕ) (text : Text) : Bool :=
  least ≤ text.length && text.length ≤ most

def isDigit (c : ℕ) : Bool :=
  48 ≤ c && c ≤ 57

/-- `/^…(\.\d{1,places})?$/`, where `whole` is the pattern of the digits before the point. -/
def isDecimal (whole : Text → Bool) (places : ℕ) (text : Text) : Bool :=
  let fraction := text.dropWhile isDigit
  whole (text.takeWhile isDigit) && (fraction = [] ||
    fraction.head? = some 46 && fraction.tail.all isDigit && within 1 places fraction.tail)

/-- `money` and `normalizeDecimal`: the whole part as `BigInt` prints it, and the places filled up.
-/
def fixedPlaces (places : ℕ) (text : Text) : Text :=
  let whole := (text.takeWhile (· ≠ 46)).dropWhile (· = 48)
  let fraction := (text.dropWhile (· ≠ 46)).tail
  (if whole = [] then [48] else whole) ++
    46 :: (fraction ++ List.replicate (places - fraction.length) 48)

/-- `/^[A-Za-z0-9][A-Za-z0-9._-]{least,most}$/`. -/
def isCode (least most : ℕ) : Text → Bool
  | [] => false
  | c :: rest => isAlphanumeric c && within least most rest &&
      rest.all fun c ↦ isAlphanumeric c || c ∈ [46, 95, 45]

/-! ### The product import -/

inductive ProductHeader
  | name | sku | barcode | category | brand | cost | price | active
  deriving DecidableEq

/-- The row of a product: `ParsedRow`. -/
structure ProductRow where
  sourceRow : ℕ
  (name sku : Text)
  (barcode category brand cost price : Option Text)
  active : Bool
  errors : List RowError
  deriving DecidableEq

variable (env : TextEnv)

def productHeaderName (value : Text) : Option ProductHeader :=
  lookup [("nombre", .name), ("name", .name), ("sku", .sku), ("barcode", .barcode),
    ("codigo", .barcode), ("categoria", .category), ("category", .category), ("marca", .brand),
    ("brand", .brand), ("costo", .cost), ("cost", .cost), ("precio", .price), ("price", .price),
    ("activo", .active), ("active", .active)]
    ((env.toLowerCase (trim value)).filter (· ∉ [32, 95, 45]))

def productRow (value : ProductHeader → Text) (sourceRow : ℕ) : ProductRow :=
  let optional := fun h ↦ if value h = [] then none else some (value h)
  let money := fun h ↦
    if isDecimal (within 1 12) 2 (value h) then some (fixedPlaces 2 (value h)) else none
  let activeRaw := env.toUpperCase (value .active)
  let yes := ["TRUE", "1", "SI", "SÍ", "YES", "ACTIVE", "ACTIVO"].map textOf
  let no := ["FALSE", "0", "NO", "INACTIVE", "INACTIVO"].map textOf
  { sourceRow := sourceRow
    name := value .name
    sku := value .sku
    barcode := optional .barcode
    category := optional .category
    brand := optional .brand
    cost := money .cost
    price := money .price
    active := activeRaw ∈ yes
    errors :=
      check (within 2 160 (value .name)) .INVALID_NAME "Nombre debe tener 2 a 160 caracteres." ++
      check (isCode 0 39 (value .sku)) .INVALID_SKU "SKU inválido." ++
      check ((optional .barcode).all (isCode 3 63)) .INVALID_BARCODE "Barcode inválido." ++
      check ((optional .category).all (within 2 80)) .INVALID_CATEGORY "Categoría inválida." ++
      check ((optional .brand).all (within 2 120)) .INVALID_BRAND "Marca inválida." ++
      check (money .cost).isSome .INVALID_COST "Costo inválido." ++
      check (money .price).isSome .INVALID_PRICE "Precio inválido." ++
      check (activeRaw ∈ yes ++ no) .INVALID_ACTIVE "Activo debe ser sí/no o true/false." }

def products : Import ProductHeader ProductRow where
  headers := [.name, .sku, .barcode, .category, .brand, .cost, .price, .active]
  headerName := productHeaderName env
  present := (· ≠ [])
  row := productRow env

/-! ### The inventory import -/

inductive RequiredHeader
  | sku | location | quantity | state | reason
  deriving DecidableEq

/-- The row of a count: `ParsedInventoryImportRow`. -/
structure InventoryRow where
  rowNumber : ℕ
  (productSku locationCode : Text)
  state : Option StockState
  targetQuantity : Option Text
  reason : Text
  errors : List RowError
  deriving DecidableEq

/-- `normalize('NFD').replace(/[\u0300-\u036f]/g, '').trim()`. -/
def plainText (value : Text) : Text :=
  trim ((env.decompose value).filter fun c ↦ !(768 ≤ c && c ≤ 879))

def headerName (value : Text) : Option RequiredHeader :=
  lookup [("sku", .sku), ("producto", .sku), ("productsku", .sku), ("ubicacion", .location),
    ("location", .location), ("locationcode", .location), ("cantidad", .quantity),
    ("quantity", .quantity), ("estado", .state), ("state", .state), ("motivo", .reason),
    ("reason", .reason)]
    ((env.toLowerCase (plainText env value)).filter (· ∉ [32, 95, 45]))

/-- `replace(/[ -]+/g, '_')`: `inGap` says that the run before was replaced. -/
def underscored : Bool → Text → Text
  | _, [] => []
  | inGap, c :: rest =>
    if c ∈ [32, 45] then (if inGap then [] else [95]) ++ underscored true rest
    else c :: underscored false rest

def stockState (value : Text) : Option StockState :=
  lookup [("AVAILABLE", .AVAILABLE), ("DISPONIBLE", .AVAILABLE), ("RESERVED", .RESERVED),
    ("RESERVADO", .RESERVED), ("DAMAGED", .DAMAGED), ("DANADO", .DAMAGED),
    ("IN_TRANSIT", .IN_TRANSIT), ("EN_TRANSITO", .IN_TRANSIT)]
    (underscored false (env.toUpperCase (plainText env value)))

def inventoryRow (value : RequiredHeader → Text) (rowNumber : ℕ) : InventoryRow :=
  let whole := fun t ↦ t = [48] || within 1 12 t && t.head? ≠ some 48
  let targetQuantity :=
    if isDecimal whole 3 (value .quantity) then some (fixedPlaces 3 (value .quantity)) else none
  let state := stockState env (value .state)
  { rowNumber := rowNumber
    productSku := value .sku
    locationCode := value .location
    state := state
    targetQuantity := targetQuantity
    reason := value .reason
    errors :=
      check (within 1 40 (value .sku)) .INVALID_SKU
        "SKU es obligatorio y admite hasta 40 caracteres." ++
      check (within 1 40 (value .location)) .INVALID_LOCATION_CODE
        "Ubicación es obligatoria y admite hasta 40 caracteres." ++
      check targetQuantity.isSome .INVALID_QUANTITY
        "Cantidad debe ser un número no negativo con hasta 3 decimales." ++
      check state.isSome .INVALID_STOCK_STATE
        "Estado debe ser AVAILABLE, RESERVED, DAMAGED o IN_TRANSIT." ++
      check (within 2 160 (value .reason)) .INVALID_REASON
        "Motivo debe contener entre 2 y 160 caracteres." }

def inventory : Import RequiredHeader InventoryRow where
  headers := [.sku, .location, .quantity, .state, .reason]
  headerName := headerName env
  present := fun value ↦ trim value ≠ []
  row := inventoryRow env

/-! ### What is to be read -/

def Present (record : Row) : Prop :=
  HasText (record.map trim)
deriving Decidable

def Import.Bears (header : Row) (h : H) (k : ℕ) : Prop :=
  (header[k]?).bind imp.headerName = some h ∧ ∀ j, k < j → (header[j]?).bind imp.headerName ≠ some h

/-- **The rows of the table**: one for each record with text, in order and trimmed, with its number
in the file when all records before it have text. -/
def Import.Reads (first : Row) (body : List Row)
    (result : Except (ImportFailure H) (List ρ)) : Prop :=
  ∃ rows, result = .ok rows ∧ rows.length = body.countP (Present ·) ∧
    ∀ p record, body[p]? = some record → Present record →
      ∃ value number, rows[(body.take p).countP (Present ·)]? = some (imp.row value number) ∧
        (∀ h k, imp.Bears (first.map trim) h k → value h = trim ((record[k]?).getD [])) ∧
        ((∀ before ∈ body.take p, Present before) → number = p + 2)

/-! ### Trimming -/

theorem trim_nil : trim [] = [] :=
  rfl

theorem trim_trim (text : Text) : trim (trim text) = trim text := by
  show rdropWhile isWhiteSpace (dropWhile isWhiteSpace (trim text)) = trim text
  have hfront : dropWhile isWhiteSpace (trim text) = trim text := by
    rw [dropWhile_eq_self_iff]
    intro hlength
    have hinit : trim text <+: text.dropWhile isWhiteSpace := rdropWhile_prefix _ _
    have hself := dropWhile_eq_self_iff.mp
      (dropWhile_idempotent (p := isWhiteSpace) (l := text))
    rw [hinit.getElem hlength]
    exact hself (Nat.lt_of_lt_of_le hlength hinit.length_le)
  rw [hfront]
  exact rdropWhile_idempotent _ _

/-! ### Columns -/

variable {imp} {header : Row} {h : H} {body : List Row} {first : Row}

omit [DecidableEq H] in
theorem index_concat [DecidableEq H] (name : Text) : imp.index (header ++ [name]) h =
      if imp.headerName name = some h then some header.length else imp.index header h := by
  rw [Import.index, zipIdx_append, foldl_append, Nat.zero_add]
  rfl

theorem index_of_bears {k : ℕ} (hbears : imp.Bears header h k) : imp.index header h = some k := by
  induction header using reverseRecOn with
  | nil => cases hbears.1
  | append_singleton header name ih =>
    obtain ⟨hname, hlater⟩ := hbears
    rw [index_concat]
    rcases Nat.lt_trichotomy k header.length with hk | rfl | hk
    · rw [if_neg]
      · refine ih ⟨?_, fun j hj hname' ↦ ?_⟩
        · rwa [getElem?_append_left hk] at hname
        · have hlt : j < header.length := by
            by_contra hge
            rw [getElem?_eq_none (Nat.not_lt.mp hge)] at hname'
            cases hname'
          exact hlater j hj (by rwa [getElem?_append_left hlt])
      · have hlast := hlater header.length hk
        rwa [getElem?_concat_length, bind_some] at hlast
    · rw [getElem?_concat_length, bind_some] at hname
      rw [if_pos hname]
    · rw [getElem?_eq_none (by rw [length_append, length_singleton]; omega)] at hname
      cases hname

theorem index_ne_none {name : Text} (hmem : name ∈ header) (hname : imp.headerName name = some h) :
    imp.index header h ≠ none := by
  induction header using reverseRecOn with
  | nil => cases hmem
  | append_singleton header last ih =>
    rw [index_concat]
    split
    · exact nofun
    · rename_i hlast
      rcases mem_append.mp hmem with hmem | hmem
      · exact ih hmem
      · rw [mem_singleton.mp hmem] at hname
        exact absurd hname hlast

/-! ### Records -/

theorem getElem?_filter_countP {α : Type} {q : α → Bool} {l : List α} {p : ℕ} {a : α}
    (hp : l[p]? = some a) (ha : q a = true) : (l.filter q)[(l.take p).countP q]? = some a := by
  induction l generalizing p with
  | nil => cases hp
  | cons b l ih =>
    cases p with
    | zero =>
      obtain rfl := Option.some_inj.mp hp
      rw [filter_cons_of_pos ha]
      rfl
    | succ p =>
      rw [take_succ_cons, countP_cons, filter_cons]
      by_cases hb : q b = true
      · rw [if_pos hb, if_pos hb, getElem?_cons_succ]
        exact ih hp
      · rw [if_neg hb, if_neg hb]
        exact ih hp

structure Import.Regular (imp : Import H ρ) : Prop where
  headerName_nil : imp.headerName [] = none
  headers : imp.headers ≠ []
  present : ∀ text, trim text ≠ [] → imp.present (trim text) = true

/-- The records that have text. -/
def dataOf (body : List Row) : List Row :=
  (body.map (List.map trim)).filter fun row ↦ HasText row

theorem length_dataOf (body : List Row) : (dataOf body).length = body.countP (Present ·) := by
  rw [dataOf, ← countP_eq_length_filter, countP_map]
  rfl

section

variable (hregular : imp.Regular)
  (hheaders : ∀ h ∈ imp.headers, ∃ name ∈ first, imp.headerName (trim name) = some h)
include hregular hheaders

/-- **The records that have text are the rows**, where the file asks for some. -/
theorem Import.Regular.preview_eq (hbody : 1 ≤ body.countP (Present ·)) :
    imp.preview (some (dataOf (first :: body))) = do
      ensure ((dataOf body).length ≤ 1000) .INVALID_ROW_COUNT
      return (dataOf body).zipIdx.map fun x ↦
        imp.row (imp.value (first.map trim) x.1) (x.2 + 2) := by
  have hfirst : HasText (first.map trim) := by
    obtain ⟨h, hh⟩ := exists_mem_of_ne_nil _ hregular.headers
    obtain ⟨name, hmem, hname⟩ := hheaders h hh
    refine ⟨trim name, mem_map_of_mem hmem, fun hblank ↦ ?_⟩
    rw [hblank, hregular.headerName_nil] at hname
    cases hname
  have hdata : (dataOf body).filter (fun row ↦ row.any imp.present) = dataOf body := by
    refine filter_eq_self.mpr fun row hrow ↦ ?_
    obtain ⟨hmem, htext⟩ := mem_filter.mp hrow
    obtain ⟨record, -, rfl⟩ := mem_map.mp hmem
    obtain ⟨value, hvalue, hne⟩ := of_decide_eq_true htext
    obtain ⟨text, -, rfl⟩ := mem_map.mp hvalue
    exact any_eq_true.mpr ⟨_, hvalue, hregular.present text hne⟩
  have hmissing : (imp.headers.filter fun h ↦
      imp.index ((first.map trim :: dataOf body).headD []) h = none) = [] := by
    refine filter_eq_nil_iff.mpr fun h hh hnone ↦ ?_
    obtain ⟨name, hmem, hname⟩ := hheaders h hh
    exact index_ne_none (mem_map_of_mem hmem) hname (of_decide_eq_true hnone)
  have hsome : 1 ≤ (dataOf body).length := hbody.trans (length_dataOf body).ge
  have hlt : 2 ≤ (first.map trim :: dataOf body).length := Nat.succ_le_succ hsome
  rw [dataOf, map_cons, filter_cons_of_pos (by simpa using hfirst)]
  show imp.parse (first.map trim :: dataOf body) = _
  dsimp only [Import.parse]
  rw [ensure, if_pos hlt, ok_bind, ensure, if_pos hmissing, ok_bind, tail_cons, hdata]
  simp only [hsome, true_and]
  rfl

/-- **More than a thousand records** are refused. -/
theorem Import.Regular.refuses (hcount : 1000 < body.countP (Present ·)) :
    imp.preview (some (dataOf (first :: body))) = .error .INVALID_ROW_COUNT := by
  rw [hregular.preview_eq hheaders (Nat.one_le_of_lt hcount), length_dataOf, ensure,
    if_neg hcount.not_ge, error_bind]

theorem Import.Regular.reads
    (hcount : 1 ≤ body.countP (Present ·) ∧ body.countP (Present ·) ≤ 1000) :
    imp.Reads first body (imp.preview (some (dataOf (first :: body)))) := by
  refine ⟨(dataOf body).zipIdx.map fun x ↦ imp.row (imp.value (first.map trim) x.1) (x.2 + 2),
    (hregular.preview_eq hheaders hcount.1).trans ?_, ?_, ?_⟩
  · rw [length_dataOf, ensure, if_pos hcount.2]
    rfl
  · rw [length_map, length_zipIdx, length_dataOf]
  · intro p record hp hpresent
    have hget : (dataOf body)[(body.take p).countP (Present ·)]? = some (record.map trim) := by
      have hmap : (body.map (List.map trim))[p]? = some (record.map trim) := by
        rw [getElem?_map, hp]
        rfl
      have hfound := getElem?_filter_countP (q := fun row ↦ decide (HasText row)) hmap
        (decide_eq_true hpresent)
      rwa [← map_take, countP_map] at hfound
    refine ⟨imp.value (first.map trim) (record.map trim),
      (body.take p).countP (Present ·) + 2, ?_, ?_, ?_⟩
    · rw [getElem?_map, getElem?_zipIdx, hget]
      simp
    · intro h k hbears
      rw [Import.value, index_of_bears hbears, bind_some, getElem?_map]
      cases record[k]? with
      | none => rfl
      | some text => exact trim_trim text
    · intro hbefore
      have hlt : p < body.length := (List.getElem?_eq_some_iff.mp hp).1
      rw [countP_eq_length.mpr fun before hmem ↦ decide_eq_true (hbefore before hmem),
        length_take, Nat.min_eq_left hlt.le]

end

theorem products_regular : (products env).Regular where
  headerName_nil := by
    show lookup _ ((env.toLowerCase []).filter _) = none
    rw [env.toLowerCase_nil]
    decide
  headers := cons_ne_nil _ _
  present _ htext := decide_eq_true htext

theorem inventory_regular : (inventory env).Regular where
  headerName_nil := by
    show lookup _ ((env.toLowerCase (trim ((env.decompose []).filter _))).filter _) = none
    rw [env.decompose_nil, filter_nil, trim_nil, env.toLowerCase_nil]
    decide
  headers := cons_ne_nil _ _
  present text htext := by
    show decide (trim (trim text) ≠ []) = true
    rw [trim_trim]
    exact decide_eq_true htext

/-! ### Files -/

theorem dropMark_writeTable {delimiter : ℕ} {lineBreak : List ℕ} {ended : Bool}
    (hfirst : first ≠ []) : dropMark (writeTable delimiter lineBreak ended (first :: body)) =
      writeTable delimiter lineBreak ended (first :: body) := by
  have hrow : (writeRow delimiter first).head? = some quote := by
    cases first with
    | nil => exact absurd rfl hfirst
    | cons value values => cases values <;> simp [writeRow, List.intercalate, writeField]
  have hhead : (writeTable delimiter lineBreak ended (first :: body)).head? = some quote := by
    cases body <;> simp [writeTable, List.intercalate, hrow]
  rw [dropMark, hhead]
  rfl

/-- **Imported rows are those of the file.** -/
theorem importedRows (env : TextEnv) (lineBreak : List ℕ) (hbreak : IsBreak lineBreak)
    (ended : Bool) (first : Row) (body : List Row)
    (hcount : 1 ≤ body.countP (Present ·) ∧ body.countP (Present ·) ≤ 1000) :
    ((∀ h ∈ (products env).headers, ∃ name ∈ first,
      (products env).headerName (trim name) = some h) →
      (products env).Reads first body ((products env).preview
        (csv (writeTable 44 lineBreak ended (first :: body))))) ∧
    ∀ delimiter ∈ [44, 59, 9],
      pickDelimiter (firstLine (writeTable delimiter lineBreak ended (first :: body))) = delimiter →
      (∀ h ∈ (inventory env).headers,
        ∃ name ∈ first, (inventory env).headerName (trim name) = some h) →
      (inventory env).Reads first body ((inventory env).preview
        (readCsv (writeTable delimiter lineBreak ended (first :: body)))) := by
  constructor
  · intro hheaders
    obtain ⟨name, hmem, -⟩ := hheaders .name mem_cons_self
    rw [csv, dropMark_writeTable (ne_nil_of_mem hmem),
      read_writeTable hbreak (by decide) trim_nil]
    exact (products_regular env).reads hheaders hcount
  · intro delimiter hdelimiter hguess hheaders
    obtain ⟨name, hmem, -⟩ := hheaders .sku mem_cons_self
    have hplain : delimiter ∉ [quote, lineFeed, carriageReturn] := by
      rcases mem_cons.mp hdelimiter with rfl | hdelimiter
      · decide
      · rcases mem_cons.mp hdelimiter with rfl | hdelimiter
        · decide
        · rw [mem_singleton.mp hdelimiter]
          decide
    rw [readCsv, dropMark_writeTable (ne_nil_of_mem hmem), hguess,
      read_writeTable hbreak hplain trim_nil]
    exact (inventory_regular env).reads hheaders hcount

/-! ### Files of one kind -/

def asciiEnv : TextEnv where
  toLowerCase := fun text ↦ text
  toUpperCase := fun text ↦ text
  decompose := fun text ↦ text
  toLowerCase_nil := rfl
  decompose_nil := rfl

def countHeader : Row :=
  ["sku", "location", "quantity", "state", "reason", "notas, si hay"].map textOf

def countRecord : Row :=
  ["A-1", "ESTANTE \"1\"", "2.5", "AVAILABLE", "conteo"].map textOf

def blankRecord : Row :=
  ["", " "].map textOf

theorem importedRows_counts : (inventory asciiEnv).Reads countHeader [countRecord, blankRecord]
      ((inventory asciiEnv).preview
        (readCsv (writeTable 59 [13, 10] true [countHeader, countRecord, blankRecord]))) :=
  (importedRows asciiEnv [13, 10] (Or.inr rfl) true countHeader [countRecord, blankRecord]
    (by decide +kernel)).2 59 (by decide) (by decide +kernel) (by decide +kernel)

/-- **A file with names of columns only**, one in which commas in the name of a column mislead the
guess, and one with a blank record before another. -/
theorem blank_records : ((inventory asciiEnv).preview
      (readCsv (writeTable 44 [10] true [countHeader]))).toOption = none ∧
    ((inventory asciiEnv).preview (readCsv (writeTable 59 [10] true
      [countHeader ++ [textOf ",,,,,"], countRecord]))).toOption = none ∧
    ((inventory asciiEnv).preview (readCsv (writeTable 44 [10] true
      [countHeader, blankRecord, countRecord]))).toOption.map (List.map InventoryRow.rowNumber) =
        some [2] ∧
    [countHeader, blankRecord, countRecord][3 - 1]? = some countRecord := by
  decide +kernel

end UInventario.Imports
