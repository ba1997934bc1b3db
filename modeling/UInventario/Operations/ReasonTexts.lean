import UInventario.Inventory.ValuationPolicyService

/-!
# The texts of voids and returns

A void of a sale, a return of a sale and a return to a supplier are asked for with a reason, whose
length is checked when the request comes in. Each operation then writes texts: the reason to its own
row and to the movements of the stock, composed by the void with the number of the receipt, and keys
that are made of keys and identifiers. The database runs in its strict mode, so an operation fails
at the first text that its column does not take (`Request.run`).

All keys fit. The reason of the own row does when its characters are no more than the validation has
counted, and the reason of the movements where the stock moves, exactly when it leaves room
(`Request.LeavesRoom`): `inventory_movements.reason` takes 160 characters, and the validations admit
240 and 500.

Texts that no request has a part in (statuses, hashes of the audit) and JSON columns are left out.
-/

namespace UInventario.Reasons

open List

/-! ### Texts -/

@[simp] theorem characters_append (t u : Text) :
    characters (t ++ u) = characters t + characters u :=
  countP_append

/-- What the texts depend on: the canonical text of an identifier, and what the validation counts
as the length of a text. -/
structure TextEnv where
  uuid : Uuid → Text
  isLength : Text → ℕ
  uuid_characters : ∀ id, characters (uuid id) = 36

/-- A text that a pattern or a column keeps to a number of characters. -/
structure Sized (most : ℕ) where
  text : Text
  size : characters text ≤ most

/-- A text that `MinLength` and `MaxLength` have admitted. -/
structure Admitted (env : TextEnv) (least most : ℕ) where
  text : Text
  valid : least ≤ env.isLength text ∧ env.isLength text ≤ most

/-- The columns of text that the operations write. -/
inductive TextColumn
  | movementReason | movementReference | movementKey | movementFingerprint
  | voidReason | voidKey | voidFingerprint
  | saleReturnReason | saleReturnKey | saleReturnFingerprint
  | supplierReturnReason | supplierReturnReference | supplierReturnKey | supplierReturnFingerprint
  | debtKey | pointsKey | correlationId
  deriving DecidableEq

/-- `VARCHAR(n)` and `CHAR(n)`. -/
def TextColumn.width : TextColumn → ℕ
  | .movementReason | .movementReference => 160
  | .movementKey | .voidKey | .saleReturnKey | .supplierReturnKey | .correlationId => 128
  | .movementFingerprint | .voidFingerprint | .saleReturnFingerprint
  | .supplierReturnFingerprint => 64
  | .voidReason | .saleReturnReason => 240
  | .supplierReturnReason => 500
  | .supplierReturnReference | .pointsKey => 160
  | .debtKey => 180

structure Written where
  column : TextColumn
  text : Text

def Written.Fits (w : Written) : Prop := characters w.text ≤ w.column.width
deriving Decidable

/-! ### The operations -/

/-- What `compensateSale` comes to: the credits it expires, and whether it restores and reverses. -/
structure Compensation where
  expired : List Uuid
  restores : Bool
  reverses : Bool

variable {env : TextEnv}

def compensationTexts (env : TextEnv) (mode : String) (id : Uuid) (c : Compensation) :
    List Written :=
  (c.expired.map fun credit ↦ ⟨.pointsKey, textOf "loyalty:expire:" ++ env.uuid credit⟩) ++
  (if c.restores then
    [⟨.pointsKey, textOf "loyalty:" ++ textOf mode ++ textOf ":restore:" ++ env.uuid id⟩] else
      []) ++
  if c.reverses then
    [⟨.pointsKey, textOf "loyalty:" ++ textOf mode ++ textOf ":reverse:" ++ env.uuid id⟩] else []

/-- The texts of a row of `inventory_movements`. -/
def movementTexts (reason reference key fingerprint : Text) : List Written :=
  [⟨.movementReason, reason⟩, ⟨.movementReference, reference⟩, ⟨.movementKey, key⟩,
    ⟨.movementFingerprint, fingerprint⟩]

/-- A request for `voidSale`, with what its transaction reads. -/
structure SaleVoid (env : TextEnv) where
  reason : Admitted env 2 240
  idempotencyKey : Sized 128
  fingerprint : Sized 64
  correlationId : Sized 128
  saleId : Uuid
  receiptNumber : Sized 24
  movements : List (Uuid × Sized 64)
  owes : Bool
  points : Compensation

/-- What `voidSale` writes, in order. -/
def SaleVoid.texts (v : SaleVoid env) : List Written :=
  (v.movements.flatMap fun m ↦ movementTexts
    (textOf "Anulación " ++ v.receiptNumber.text ++ textOf ": " ++ v.reason.text)
    v.receiptNumber.text (textOf "sale-void:" ++ env.uuid v.saleId ++ textOf ":" ++ env.uuid m.1)
    m.2.text) ++
  (if v.owes then [⟨.debtKey, textOf "sale-void:" ++ v.idempotencyKey.text⟩] else []) ++
  compensationTexts env "void" v.saleId v.points ++
  [⟨.voidReason, v.reason.text⟩, ⟨.voidKey, v.idempotencyKey.text⟩,
    ⟨.voidFingerprint, v.fingerprint.text⟩, ⟨.correlationId, v.correlationId.text⟩]

/-- A request for `create` of the sale returns, with the source movements of its allocations. -/
structure SaleReturn (env : TextEnv) where
  reason : Admitted env 3 240
  idempotencyKey : Sized 128
  fingerprint : Sized 64
  correlationId : Sized 128
  returnId : Uuid
  receiptNumber : Sized 24
  allocations : List (Uuid × Sized 64)
  points : Compensation

def SaleReturn.texts (r : SaleReturn env) : List Written :=
  [⟨.saleReturnReason, r.reason.text⟩, ⟨.saleReturnKey, r.idempotencyKey.text⟩,
    ⟨.saleReturnFingerprint, r.fingerprint.text⟩] ++
  (r.allocations.flatMap fun m ↦ movementTexts r.reason.text r.receiptNumber.text
    (textOf "sale-return:" ++ env.uuid r.returnId ++ textOf ":" ++ env.uuid m.1) m.2.text) ++
  compensationTexts env "return" r.returnId r.points ++
  [⟨.correlationId, r.correlationId.text⟩]

/-- A request for `create` of the purchase returns; the number of a line is at most 100
(`ArrayMaxSize`). -/
structure SupplierReturn (env : TextEnv) where
  reason : Admitted env 3 500
  documentReference : Admitted env 1 160
  idempotencyKey : Sized 128
  fingerprint : Sized 64
  returnId : Uuid
  lines : List (Sized 3 × Sized 64)
  lines_ne_nil : lines ≠ []

def SupplierReturn.texts (r : SupplierReturn env) : List Written :=
  [⟨.supplierReturnReference, r.documentReference.text⟩, ⟨.supplierReturnReason, r.reason.text⟩,
    ⟨.supplierReturnKey, r.idempotencyKey.text⟩,
    ⟨.supplierReturnFingerprint, r.fingerprint.text⟩] ++
  r.lines.flatMap fun line ↦ movementTexts r.reason.text r.documentReference.text
    (textOf "supplier-return:" ++ env.uuid r.returnId ++ textOf ":" ++ line.1.text) line.2.text

inductive Request (env : TextEnv)
  | saleVoid (request : SaleVoid env)
  | saleReturn (request : SaleReturn env)
  | supplierReturn (request : SupplierReturn env)

def Request.texts : Request env → List Written
  | .saleVoid request => request.texts
  | .saleReturn request => request.texts
  | .supplierReturn request => request.texts

/-- The column that a text is too long for, `Data too long for column`. -/
structure DataTooLong where
  column : TextColumn
  deriving DecidableEq

/-- The database takes the texts in order, and the transaction ends at the first that is too long.
-/
def takeTexts : List Written → Except DataTooLong Unit
  | [] => .ok ()
  | w :: rest => if w.Fits then takeTexts rest else .error ⟨w.column⟩

/-- **The writes of an operation**, as far as their texts decide on them. -/
def Request.run (r : Request env) : Except DataTooLong Unit := takeTexts r.texts

/-! ### What fits -/

/-- **The reason leaves room**, for its own row and for the movements. -/
def Request.LeavesRoom : Request env → Prop
  | .saleVoid v => characters v.reason.text ≤ 240 ∧
    (v.movements ≠ [] → characters v.receiptNumber.text + characters v.reason.text ≤ 148)
  | .saleReturn r => characters r.reason.text ≤ 240 ∧
    (r.allocations ≠ [] → characters r.reason.text ≤ 160)
  | .supplierReturn r =>
    characters r.documentReference.text ≤ 160 ∧ characters r.reason.text ≤ 160

theorem takeTexts_eq_ok_iff {texts : List Written} :
    takeTexts texts = .ok () ↔ ∀ w ∈ texts, w.Fits := by
  induction texts with
  | nil => exact ⟨fun _ ↦ forall_mem_nil _, fun _ ↦ rfl⟩
  | cons w texts ih =>
    rw [takeTexts, forall_mem_cons, ← ih]
    split
    next hfits => exact ⟨fun h ↦ ⟨hfits, h⟩, fun h ↦ h.2⟩
    next hfits => exact ⟨nofun, fun h ↦ absurd h.1 hfits⟩

theorem compensationTexts_fit {mode : String} (hmode : characters (textOf mode) ≤ 6) (id : Uuid)
    (c : Compensation) : ∀ w ∈ compensationTexts env mode id c, w.Fits := by
  have hlength : ∀ t ∈ ["loyalty:expire:", "loyalty:", ":restore:", ":reverse:"],
      characters (textOf t) ≤ 15 := by decide
  simp only [forall_mem_cons] at hlength
  intro w hw
  rw [compensationTexts, mem_append, mem_append, mem_map] at hw
  rcases hw with (⟨credit, -, rfl⟩ | hw) | hw
  · simp only [Written.Fits, characters_append, env.uuid_characters, TextColumn.width]
    omega
  all_goals
    split at hw
    · rw [mem_singleton] at hw
      subst hw
      simp only [Written.Fits, characters_append, env.uuid_characters, TextColumn.width]
      omega
    · exact absurd hw not_mem_nil

/-- The keys of a movement fit. -/
theorem movementTexts_fit_iff {reason reference key fingerprint : Text}
    (hkey : characters key ≤ 128) (hfingerprint : characters fingerprint ≤ 64) :
    (∀ w ∈ movementTexts reason reference key fingerprint, w.Fits) ↔
      characters reason ≤ 160 ∧ characters reference ≤ 160 := by
  simp only [movementTexts, forall_mem_cons, Written.Fits, TextColumn.width]
  exact ⟨fun h ↦ ⟨h.1, h.2.1⟩, fun h ↦ ⟨h.1, h.2, hkey, hfingerprint, forall_mem_nil _⟩⟩

theorem forall_movements_iff {α : Type} {l : List α} {f : α → List Written} {p : Prop}
    (h : ∀ a ∈ l, (∀ w ∈ f a, w.Fits) ↔ p) : (∀ w ∈ l.flatMap f, w.Fits) ↔ (l ≠ [] → p) := by
  simp only [mem_flatMap]
  constructor
  · intro hall hne
    obtain ⟨a, ha⟩ := exists_mem_of_ne_nil l hne
    exact (h a ha).mp fun w hw ↦ hall w ⟨a, ha, hw⟩
  · rintro hp w ⟨a, ha, hw⟩
    exact (h a ha).mpr (hp (ne_nil_of_mem ha)) w hw

theorem characters_colon : characters (textOf ":") = 1 := by decide

theorem saleVoid_fits (v : SaleVoid env) :
    (∀ w ∈ v.texts, w.Fits) ↔ (Request.saleVoid v).LeavesRoom := by
  have hvoid : characters (textOf "sale-void:") = 10 := by decide
  have htitle : characters (textOf "Anulación ") = 10 := by decide
  have hblank : characters (textOf ": ") = 2 := by decide
  have hreceipt := v.receiptNumber.size
  have hkey := v.idempotencyKey.size
  have howes : ∀ w ∈ (if v.owes then
      [(⟨.debtKey, textOf "sale-void:" ++ v.idempotencyKey.text⟩ : Written)] else []), w.Fits := by
    split
    · rw [forall_mem_singleton, Written.Fits, characters_append, TextColumn.width]
      omega
    · exact forall_mem_nil _
  have hpoints := @compensationTexts_fit env "void" (by decide) v.saleId v.points
  have hown : (∀ w ∈ ([⟨.voidReason, v.reason.text⟩, ⟨.voidKey, v.idempotencyKey.text⟩,
      ⟨.voidFingerprint, v.fingerprint.text⟩, ⟨.correlationId, v.correlationId.text⟩] :
      List Written), w.Fits) ↔ characters v.reason.text ≤ 240 := by
    simp only [forall_mem_cons, Written.Fits, TextColumn.width]
    exact ⟨fun h ↦ h.1, fun h ↦
      ⟨h, hkey, v.fingerprint.size, v.correlationId.size, forall_mem_nil _⟩⟩
  rw [SaleVoid.texts, forall_mem_append, forall_mem_append, forall_mem_append,
    hown, forall_movements_iff (p := characters v.receiptNumber.text +
      characters v.reason.text ≤ 148), Request.LeavesRoom]
  · exact ⟨fun h ↦ ⟨h.2, h.1.1.1⟩, fun h ↦ ⟨⟨⟨h.2, howes⟩, hpoints⟩, h.1⟩⟩
  · intro m _
    rw [movementTexts_fit_iff _ m.2.size]
    · simp only [characters_append]
      omega
    · simp only [characters_append, env.uuid_characters, characters_colon]
      omega

theorem saleReturn_fits (r : SaleReturn env) :
    (∀ w ∈ r.texts, w.Fits) ↔ (Request.saleReturn r).LeavesRoom := by
  have hreturn : characters (textOf "sale-return:") = 12 := by decide
  have hreceipt := r.receiptNumber.size
  have hpoints := @compensationTexts_fit env "return" (by decide) r.returnId r.points
  have hid : ∀ w ∈ [(⟨.correlationId, r.correlationId.text⟩ : Written)], w.Fits :=
    forall_mem_singleton.mpr r.correlationId.size
  have hown : (∀ w ∈ ([⟨.saleReturnReason, r.reason.text⟩, ⟨.saleReturnKey, r.idempotencyKey.text⟩,
      ⟨.saleReturnFingerprint, r.fingerprint.text⟩] : List Written), w.Fits) ↔
      characters r.reason.text ≤ 240 := by
    simp only [forall_mem_cons, Written.Fits, TextColumn.width]
    exact ⟨fun h ↦ h.1, fun h ↦
      ⟨h, r.idempotencyKey.size, r.fingerprint.size, forall_mem_nil _⟩⟩
  rw [SaleReturn.texts, forall_mem_append, forall_mem_append, forall_mem_append,
    hown, forall_movements_iff (p := characters r.reason.text ≤ 160), Request.LeavesRoom]
  · exact ⟨fun h ↦ h.1.1, fun h ↦ ⟨⟨h, hpoints⟩, hid⟩⟩
  · intro m _
    rw [movementTexts_fit_iff _ m.2.size]
    · omega
    · simp only [characters_append, env.uuid_characters, characters_colon]
      omega

theorem supplierReturn_fits (r : SupplierReturn env) :
    (∀ w ∈ r.texts, w.Fits) ↔ (Request.supplierReturn r).LeavesRoom := by
  have hreturn : characters (textOf "supplier-return:") = 16 := by decide
  rw [SupplierReturn.texts, forall_mem_append,
    forall_movements_iff (p := characters r.reason.text ≤ 160 ∧
      characters r.documentReference.text ≤ 160), Request.LeavesRoom]
  · refine ⟨fun h ↦ ⟨(h.2 r.lines_ne_nil).2, (h.2 r.lines_ne_nil).1⟩, fun h ↦ ⟨?_, fun _ ↦ h.symm⟩⟩
    simp only [forall_mem_cons, Written.Fits, TextColumn.width]
    exact ⟨h.1, by omega, r.idempotencyKey.size, r.fingerprint.size, forall_mem_nil _⟩
  · intro line _
    have hnumber := line.1.size
    refine movementTexts_fit_iff ?_ line.2.size
    simp only [characters_append, env.uuid_characters, characters_colon]
    omega

/-- **Accepted reasons fit the ledger** exactly when they leave room: then, and only then, no text
of the operation is refused. -/
theorem run_iff (r : Request env) : r.run = .ok () ↔ r.LeavesRoom := by
  rw [Request.run, takeTexts_eq_ok_iff]
  cases r with
  | saleVoid v => exact saleVoid_fits v
  | saleReturn r => exact saleReturn_fits r
  | supplierReturn r => exact supplierReturn_fits r

/-- Texts that are counted by their code units. -/
def plainEnv : TextEnv where
  uuid _ := List.replicate 36 48
  isLength := List.length
  uuid_characters _ := by decide

/-- The void of a sale of one line, for a reason of 140 letters. -/
def longVoid : SaleVoid plainEnv where
  reason := ⟨List.replicate 140 97, by simp [plainEnv]⟩
  idempotencyKey := ⟨[], by decide⟩
  fingerprint := ⟨[], by decide⟩
  correlationId := ⟨[], by decide⟩
  saleId := 1
  receiptNumber := ⟨textOf "V-0123456789AB", by decide⟩
  movements := [(2, ⟨[], by decide⟩)]
  owes := false
  points := ⟨[], false, false⟩

/-- **A reason of 140 letters** is admitted, and the void fails with it. -/
theorem longVoid_fails : (Request.saleVoid longVoid).run = .error ⟨.movementReason⟩ := by
  decide +kernel

end UInventario.Reasons
