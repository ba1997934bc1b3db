import UInventario.Pos.BundleSplit
import UInventario.Pos.ReturnedLines

/-!
# The money of partial returns

A return that does not complete a line gets the share of its quantity in the money of the line,
rounded to the nearest cent; the one that completes it gets what is left.

A line that has been returned in full has been returned to the last cent. Before that the rounded
shares may come to more than there is: `SharesInv` says what has been returned by then, and
`RoundingFits` when it is no more than the money of the line.

`overshoot`: of four units for 0.02, three are returned at 0.01 each.
-/

namespace UInventario.Pos

open Outcome LockedRuns Table List

variable {s s' : Store} {decision : Decision} {request : Request} {saleId : Uuid} {original : ℕ}
  {sale : Sale}

/-! ### The lines of the returns -/

def Store.returnLines (s : Store) (saleId : Uuid) (saleLine : ℕ) : List SaleReturnLine :=
  s.saleReturns.rows.flatMap fun r ↦
    if r.saleId = saleId then r.lines.filter fun line ↦ line.saleLine = saleLine else []

theorem returned_eq_sum (saleId : Uuid) (saleLine : ℕ) (column : SaleReturnLine → ℕ) :
    s.returned saleId saleLine column =
      ((s.returnLines saleId saleLine).map fun line ↦ (column line : ℤ)).sum := by
  rw [Store.returned, Table.total, Store.returnLines, Sums.sum_flatMap]
  refine congrArg List.sum (map_congr_left fun r _ ↦ ?_)
  split
  · rw [Sums.sum_filter]
    refine congrArg List.sum (map_congr_left fun line _ ↦ ?_)
    simp only [decide_eq_true_eq]
  · rfl

def moneyShare (original sold quantity : ℕ) : ℕ :=
  (original * quantity + sold / 2) / sold

def shareOf (original sold : ℕ) (line : SaleReturnLine) : ℕ :=
  moneyShare original sold line.quantity

theorem moneyShare_eq {sold quantity : ℕ} (hsold : 0 < sold) :
    (moneyShare original sold quantity : ℤ) = Rounding.roundDiv (original * quantity) sold := by
  rw [← roundDivide_eq (by positivity) (by omega), roundDivide, moneyShare]
  push_cast
  rfl

/-! ### What a return in flight knows of its lines -/

/-- **What a return in flight knows** of the quantities of its lines and of their shares. -/
def SharesRead (s : Store) (sale : Sale) (prepared : List PreparedLine) : Prop :=
  ∀ line ∈ prepared, ∃ source, sale.lines[line.saleLine]? = some source ∧ 0 < line.quantity ∧
    s.returned sale.id line.saleLine SaleReturnLine.quantity + line.quantity ≤ source.quantity ∧
    (s.returned sale.id line.saleLine SaleReturnLine.quantity + line.quantity ≠ source.quantity →
      line.subtotal = moneyShare source.subtotal source.quantity line.quantity ∧
        line.tax = moneyShare source.tax source.quantity line.quantity)

def KnownOfShares (request : Request) (decision : Decision) (s : Store) : Prop :=
  ∀ input sale prepared restored, request = .saleReturn input →
    decision = .saleReturn (.persist sale prepared restored) → SharesRead s sale prepared

theorem shares_of_prepareLine {requested : ReturnLineInput} {line : PreparedLine}
    (h : prepareLine s sale requested = .ok line) : SharesRead s sale [line] := by
  simp only [prepareLine, eq_ok] at h
  obtain ⟨source, hsource, _, hquantity, rfl⟩ := h
  rw [SharesRead, forall_mem_singleton]
  dsimp only
  refine ⟨source, hsource, by omega, by omega, fun hpart ↦ ?_⟩
  simp only [prorateMoney, decide_eq_false hpart, Bool.false_eq_true, if_false]
  exact ⟨rfl, rfl⟩

theorem knownOfShares_of_read
    (h : protocol.read request s = .ok decision) : KnownOfShares request decision s := by
  rintro input sale prepared restored rfl rfl
  obtain ⟨_, hread, ⟨⟩⟩ := map_eq_ok.mp h
  rw [readReturn] at hread
  split at hread
  · simp only [eq_ok, reduceCtorEq, and_false, exists_false] at hread
  simp only [eq_ok, ReturnDecision.persist.injEq] at hread
  obtain ⟨found, _, _, _, _, _, _, _, lines, hlines, _, _, _, _, rfl, rfl, _⟩ := hread
  intro line hline
  obtain ⟨requested, _, hrequested⟩ := exists_of_mem_mapM hlines hline
  exact shares_of_prepareLine hrequested line (mem_singleton_self _)

theorem SharesRead.of_same {prepared : List PreparedLine}
    (h : SharesRead s sale prepared) (hsame : SameReturns s s'.sales s'.saleReturns sale.id) :
    SharesRead s' sale prepared := by
  have hreturned (n : ℕ) (column : SaleReturnLine → ℕ) :
      s'.returned sale.id n column = s.returned sale.id n column := by
    rw [Store.returned, Store.returned]
    exact hsame.total _ fun _ _ ↦ rfl
  intro line hline
  rw [hreturned]
  exact h line hline

/-! ### The invariant -/

/-- **The invariant of partial returns**: no more than was sold, with the money of the shares. -/
structure SharesInv (s : Store) : Prop where
  bounded : ∀ sale ∈ s.sales.rows, ∀ x ∈ sale.lines.zipIdx,
    s.returned sale.id x.2 SaleReturnLine.quantity ≤ x.1.quantity
  shares : ∀ sale ∈ s.sales.rows, ∀ x ∈ sale.lines.zipIdx,
    s.returned sale.id x.2 SaleReturnLine.quantity ≠ x.1.quantity →
      s.returned sale.id x.2 SaleReturnLine.subtotal =
          s.returned sale.id x.2 (shareOf x.1.subtotal x.1.quantity) ∧
        s.returned sale.id x.2 SaleReturnLine.tax =
          s.returned sale.id x.2 (shareOf x.1.tax x.1.quantity)

namespace SharesInv

theorem of_returned (h : SharesInv s) (hsales : ∀ sale ∈ s'.sales.rows, ∃ old ∈ s.sales.rows,
      old.id = sale.id ∧ old.lines = sale.lines)
    (hreturned : ∀ saleId n column, s'.returned saleId n column = s.returned saleId n column) :
    SharesInv s' := by
  constructor
  · intro sale hsale x hx
    obtain ⟨old, hold, hid, hlines⟩ := hsales sale hsale
    rw [hreturned, ← hid]
    exact h.bounded old hold x (hlines ▸ hx)
  · intro sale hsale x hx
    obtain ⟨old, hold, hid, hlines⟩ := hsales sale hsale
    rw [hreturned, hreturned, hreturned, hreturned, hreturned, ← hid]
    exact h.shares old hold x (hlines ▸ hx)

theorem insertSale (h : SharesInv s) (hlinked : ReturnsLinked s) {sales : Table Sale}
    (hinsert : s.sales.insert sale = some sales) : SharesInv { s with sales := sales } := by
  have hnone : ∀ n column, s.returned sale.id n column = 0 := fun n column ↦
    total_returns_eq_zero hlinked (insert_eq_some hinsert).1 _
  constructor
  · refine (forall_mem_insert hinsert).mpr ⟨h.bounded, fun line hline ↦ ?_⟩
    show s.returned _ _ _ ≤ _
    rw [hnone]
    exact Int.natCast_nonneg _
  · refine (forall_mem_insert hinsert).mpr ⟨h.shares, fun line hline hpart ↦ ?_⟩
    show s.returned _ _ _ = s.returned _ _ _ ∧ s.returned _ _ _ = s.returned _ _ _
    rw [hnone, hnone, hnone, hnone]
    exact ⟨rfl, rfl⟩

section Insert

variable {sale : Sale} {prepared : List PreparedLine} {saleReturn : SaleReturn}
  {saleReturns : Table SaleReturn}

theorem returned_insert (hsale : saleReturn.saleId = sale.id)
    (hlines : saleReturn.lines = prepared.map PreparedLine.row)
    (hinsert : s.saleReturns.insert saleReturn = some saleReturns) (n : ℕ)
    (column : SaleReturnLine → ℕ) :
    ({ s with saleReturns := saleReturns } : Store).returned sale.id n column =
      s.returned sale.id n column +
        (prepared.map fun p ↦ if p.saleLine = n then (column p.row : ℤ) else 0).sum := by
  show saleReturns.total _ = _
  rw [total_insert hinsert, if_pos hsale, hlines, map_map]
  rfl

theorem returned_insert_of_ne (hsale : saleReturn.saleId ≠ saleId)
    (hinsert : s.saleReturns.insert saleReturn = some saleReturns) (n : ℕ)
    (column : SaleReturnLine → ℕ) :
    ({ s with saleReturns := saleReturns } : Store).returned saleId n column =
      s.returned saleId n column := by
  show saleReturns.total _ = _
  rw [total_insert hinsert, if_neg hsale, add_zero]
  rfl

/-- **A return keeps the invariant**: of a line it leaves open it takes a share. -/
theorem insertReturn (h : SharesInv s) (hmem : sale ∈ s.sales.rows)
    (hread : SharesRead s sale prepared) (hnodup : (prepared.map PreparedLine.saleLine).Nodup)
    (hsale : saleReturn.saleId = sale.id)
    (hlines : saleReturn.lines = prepared.map PreparedLine.row)
    (hinsert : s.saleReturns.insert saleReturn = some saleReturns) :
    SharesInv { s with saleReturns := saleReturns } := by
  have hgrows := returned_insert hsale hlines hinsert
  have hnone : ∀ n, (∀ p ∈ prepared, p.saleLine ≠ n) → ∀ column : SaleReturnLine → ℕ,
      (prepared.map fun q ↦ if q.saleLine = n then (column q.row : ℤ) else 0).sum = 0 := by
    intro n hother column
    refine sum_eq_zero fun y hy ↦ ?_
    obtain ⟨q, hq, rfl⟩ := mem_map.mp hy
    exact if_neg (hother q hq)
  have hone : ∀ p ∈ prepared, ∀ column : SaleReturnLine → ℕ,
      (prepared.map fun q ↦ if q.saleLine = p.saleLine then (column q.row : ℤ) else 0).sum =
        column p.row := fun p hp column ↦
    Sums.sum_key_eq PreparedLine.saleLine (fun q ↦ (column q.row : ℤ)) hnodup hp
  constructor
  · intro x hx line hline
    by_cases hid : saleReturn.saleId = x.id
    · obtain rfl : sale = x :=
        eq_of_mem_of_key_eq hmem hx (show sale.id = x.id from hsale.symm.trans hid)
      rw [hgrows]
      by_cases hprepared : ∃ p ∈ prepared, p.saleLine = line.2
      · obtain ⟨p, hp, hpx⟩ := hprepared
        obtain ⟨source, hsource, _, hroom, _⟩ := hread p hp
        rw [hpx, mem_zipIdx_iff_getElem?.mp hline] at hsource
        rw [← hpx, hone p hp, hpx, Option.some.inj hsource]
        rw [hpx] at hroom
        exact hroom
      · rw [hnone line.2 fun p hp heq ↦ hprepared ⟨p, hp, heq⟩, add_zero]
        exact h.bounded sale hx line hline
    · rw [returned_insert_of_ne hid hinsert]
      exact h.bounded x hx line hline
  · intro x hx line hline
    by_cases hid : saleReturn.saleId = x.id
    · obtain rfl : sale = x :=
        eq_of_mem_of_key_eq hmem hx (show sale.id = x.id from hsale.symm.trans hid)
      rw [hgrows, hgrows, hgrows, hgrows, hgrows]
      by_cases hprepared : ∃ p ∈ prepared, p.saleLine = line.2
      · obtain ⟨p, hp, hpx⟩ := hprepared
        obtain ⟨source, hsource, hpositive, hroom, hshare⟩ := hread p hp
        rw [hpx, mem_zipIdx_iff_getElem?.mp hline, Option.some.injEq] at hsource
        subst hsource
        rw [← hpx, hone p hp, hone p hp, hone p hp, hone p hp, hone p hp]
        intro hpart
        -- A line that this return leaves open was open before.
        have hopen : s.returned sale.id p.saleLine SaleReturnLine.quantity ≠ line.1.quantity := by
          omega
        obtain ⟨hsubtotal, htax⟩ := h.shares sale hx line hline (hpx ▸ hopen)
        obtain ⟨hsub, htx⟩ := hshare hpart
        rw [← hpx] at hsubtotal htax
        rw [hsubtotal, htax]
        show _ + ((p.subtotal.toNat : ℕ) : ℤ) = _ + ((moneyShare _ _ p.quantity : ℕ) : ℤ) ∧
          _ + ((p.tax.toNat : ℕ) : ℤ) = _ + ((moneyShare _ _ p.quantity : ℕ) : ℤ)
        rw [hsub, htx]
        exact ⟨rfl, rfl⟩
      · have hother := hnone line.2 fun p hp heq ↦ hprepared ⟨p, hp, heq⟩
        rw [hother, hother, hother, hother, hother]
        simp only [add_zero]
        exact h.shares sale hx line hline
    · simp only [returned_insert_of_ne hid hinsert]
      exact h.shares x hx line hline

end Insert

/-- **Every commit keeps the invariant.** -/
theorem write (h : SharesInv s) (hinv : ReturnInv s)
    (hreturn : KnownOfReturn request decision s) (hshares : KnownOfShares request decision s)
    (hwrite : protocol.write request decision s = .ok s') : SharesInv s' := by
  have hcommit : ∀ sales saleReturns settlements loyalty,
      SaleCommit s request decision sales saleReturns settlements loyalty →
        SharesInv { s with sales := sales, saleReturns := saleReturns } := by
    intro sales saleReturns settlements loyalty hcommit
    cases hcommit with
    | same | rules | view => exact h
    | sale _ hinsert => exact h.insertSale hinv.linked hinsert
    | @voidSale input sale =>
      refine h.of_returned (fun x hx ↦ ?_) fun _ _ _ ↦ rfl
      rw [mem_update] at hx
      obtain ⟨old, hold, rfl⟩ := hx
      exact ⟨old, hold, by split <;> rfl, by split <;> rfl⟩
    | @saleReturn input sale prepared restored
        saleReturn saleReturns _ _ hsale _ _ hlines hinsert =>
      obtain ⟨_, hread⟩ := hreturn input sale prepared restored rfl rfl
      exact h.insertReturn (mem_of_find? hread.found)
        (hshares input sale prepared restored rfl rfl) hread.nodup hsale hlines hinsert
    | settlement =>
      refine h.of_returned (fun x hx ↦ ⟨x, hx, rfl, rfl⟩) fun saleId n column ↦ ?_
      split
      · exact total_settled fun _ _ ↦ rfl
      · rfl
  have hkept := hcommit _ _ _ _ (saleCommit hwrite)
  exact hkept.of_returned (fun x hx ↦ ⟨x, hx, rfl, rfl⟩) fun _ _ _ ↦ rfl

theorem fresh (env : Env) (customers : Table Customer) : SharesInv (Store.fresh env customers) where
  bounded := by
    intro sale hsale
    cases hsale
  shares := by
    intro sale hsale
    cases hsale

end SharesInv

/-! ### Runs -/

def KnownOfMoney (request : Request) (decision : Decision) (s : Store) : Prop :=
  KnownOfReturn request decision s ∧ KnownOfShares request decision s

theorem shares_sound :
    Sound protocol (fun _ _ _ ↦ True) (fun s ↦ ReturnInv s ∧ SharesInv s) KnownOfMoney where
  read := fun hinv hread ↦ ⟨knownOfReturn_of_read hinv.1 hread, knownOfShares_of_read hread⟩
  reread := by
    intro s request decision decision' _ hknown hread
    refine known_of_reread KnownOfMoney (fun input decision ↦ ?_) hread hknown
    exact ⟨knownOfReturn_payment input decision s, by rintro _ _ _ _ ⟨⟩⟩
  write := fun hinv hknown _ hwrite ↦
    ⟨hinv.1.write hknown.1 hwrite, hinv.2.write hinv.1 hknown.1 hknown.2 hwrite⟩
  stable := by
    rintro s request decision request' decision' s' - hknown hknown' - hdisjoint hwrite
    refine ⟨hknown.1.stable hknown'.1 hdisjoint hwrite, ?_⟩
    intro input sale prepared restored hrequest hdecision
    obtain ⟨hid, _⟩ := hknown.1 input sale prepared restored hrequest hdecision
    have hholds : LockedRow.sale sale.id ∈ protocol.holds request := by
      subst hrequest
      rw [hid]
      exact mem_cons_self
    obtain ⟨hholds', hneeds'⟩ := hdisjoint _ hholds
    exact (hknown.2 input sale prepared restored hrequest hdecision).of_same
      (sameReturns_of_not_locked hknown'.1 hholds' hneeds' hwrite)

/-! ### When the shares come to too much -/

def Store.returnedQuantities (s : Store) (saleId : Uuid) (saleLine : ℕ) : List ℤ :=
  (s.returnLines saleId saleLine).map fun line ↦ line.quantity

/-- **Rounding leaves over no less** than the opposite of what the quantity that has not been
returned is worth. -/
def RoundingFits (s : Store) (saleId : Uuid) (x : SaleLine × ℕ) (original : ℕ) : Prop :=
  -(original * (x.1.quantity - (s.returnedQuantities saleId x.2).sum)) ≤
    Shares.residue original x.1.quantity (s.returnedQuantities saleId x.2)
deriving Decidable

theorem shares_le_iff {x : SaleLine × ℕ} (hsold : 0 < x.1.quantity) :
    s.returned saleId x.2 (shareOf original x.1.quantity) ≤ original ↔
      RoundingFits s saleId x original := by
  have hpos : (0 : ℤ) < x.1.quantity := by omega
  have hnonneg : ∀ q ∈ s.returnedQuantities saleId x.2, 0 ≤ q := by
    refine forall_mem_map.mpr fun line _ ↦ ?_
    exact Int.natCast_nonneg _
  have hmul := Shares.rest_mul (Int.natCast_nonneg original) hnonneg hpos
  have hsum : s.returned saleId x.2 (shareOf original x.1.quantity) =
      ((s.returnedQuantities saleId x.2).map fun q ↦
        Rounding.roundDiv (original * q) x.1.quantity).sum := by
    rw [returned_eq_sum, Store.returnedQuantities, map_map]
    exact congrArg List.sum (map_congr_left fun line _ ↦ moneyShare_eq hsold)
  rw [hsum, RoundingFits]
  constructor
  · intro hle
    have := mul_nonneg (sub_nonneg.mpr hle) hpos.le
    linarith
  · intro hle
    refine sub_nonneg.mp (nonneg_of_mul_nonneg_left (b := (x.1.quantity : ℤ)) ?_ hpos)
    linarith

/-- **The money of the returns of a line**: never less than nothing; within the line's exactly when
the line is complete or rounding fits; and of a complete line all of it. -/
theorem returned_money (env : Env) (customers : Table Customer) (events : List (Event Request)) :
    (∀ s s' input sale prepared restored,
      protocol.write (.saleReturn input) (.saleReturn (.persist sale prepared restored)) s =
        .ok s' →
        ∀ line ∈ prepared, 0 ≤ line.subtotal ∧ 0 ≤ line.tax ∧ 0 ≤ line.subtotal + line.tax) ∧
      let s := (Outcome.run protocol.step (State.idle (Store.fresh env customers)) events).store
      ∀ sale ∈ s.sales.rows, ∀ x ∈ sale.lines.zipIdx,
        (s.returned sale.id x.2 SaleReturnLine.subtotal ≤ x.1.subtotal ∧
            s.returned sale.id x.2 SaleReturnLine.tax ≤ x.1.tax ↔
          s.returned sale.id x.2 SaleReturnLine.quantity = x.1.quantity ∨
            RoundingFits s sale.id x x.1.subtotal ∧ RoundingFits s sale.id x x.1.tax) ∧
        (s.returned sale.id x.2 SaleReturnLine.quantity = x.1.quantity →
          s.returned sale.id x.2 SaleReturnLine.subtotal = x.1.subtotal ∧
            s.returned sale.id x.2 SaleReturnLine.tax = x.1.tax) := by
  constructor
  · intro s s' input sale prepared restored hwrite line hline
    replace hwrite : writeReturn s input (.persist sale prepared restored) = .ok s' := hwrite
    simp only [writeReturn, eq_ok, assertReturnLines] at hwrite
    obtain ⟨_, _, _, hpositive, _⟩ := hwrite
    obtain ⟨_, hsubtotal, htax⟩ := hpositive line hline
    exact ⟨hsubtotal, htax, by omega⟩
  · have hgood := shares_sound.run
      (Good.idle ⟨ReturnInv.fresh env customers, SharesInv.fresh env customers⟩) events
      (commits_of_forall (fun _ _ _ ↦ trivial) ..)
    obtain ⟨hreturn, hshares⟩ := hgood.inv
    intro s sale hsale x hx
    have hsold : 0 < x.1.quantity :=
      hreturn.positive sale hsale x.1 (fst_mem_of_mem_zipIdx hx)
    refine ⟨?_, hreturn.complete sale hsale x hx⟩
    by_cases hcomplete : s.returned sale.id x.2 SaleReturnLine.quantity = x.1.quantity
    · obtain ⟨hsubtotal, htax⟩ := hreturn.complete sale hsale x hx hcomplete
      exact iff_of_true ⟨hsubtotal.le, htax.le⟩ (Or.inl hcomplete)
    · obtain ⟨hsubtotal, htax⟩ := hshares.shares sale hsale x hx hcomplete
      rw [hsubtotal, htax, shares_le_iff hsold, shares_le_iff hsold]
      exact ⟨Or.inr, fun h ↦ h.resolve_left hcomplete⟩

/-! ### Three of four units -/

def returnUnit (idempotencyKey : Text) : Request :=
  .saleReturn {
    branchId := 1, saleId := 0, exchangeSaleId := none, lines := [⟨0, 1000⟩]
    idempotencyKey := idempotencyKey, fingerprint := idempotencyKey, clock := ⟨0, 0, 0⟩ }

/-- Four units are sold for 0.02, and three of them returned one by one. -/
def unitByUnit : List (Event Request) :=
  alone (.opening 0) ++
  alone (.selling none [{ quantity := 4000, subtotal := 2, tax := 0 }] (inCash 2)) ++
  alone (returnUnit [1]) ++ alone (returnUnit [2]) ++ alone (returnUnit [3])

/-- **Three units come to more than the four.** -/
theorem overshoot : ¬∀ (env : Env) (customers : Table Customer) (events : List (Event Request)),
      let s := (Outcome.run protocol.step (State.idle (Store.fresh env customers)) events).store
      ∀ sale ∈ s.sales.rows, ∀ x ∈ sale.lines.zipIdx,
        s.returned sale.id x.2 SaleReturnLine.subtotal ≤ x.1.subtotal ∧
          s.returned sale.id x.2 SaleReturnLine.tax ≤ x.1.tax := by
  intro h
  have hnot : ¬∀ sale ∈ (Outcome.run protocol.step (State.idle (Store.fresh default Table.empty))
      unitByUnit).store.sales.rows, ∀ x ∈ sale.lines.zipIdx,
        (Outcome.run protocol.step (State.idle (Store.fresh default Table.empty))
          unitByUnit).store.returned sale.id x.2 SaleReturnLine.subtotal ≤ x.1.subtotal := by
    decide +kernel
  exact hnot fun sale hsale x hx ↦ (h default Table.empty unitByUnit sale hsale x hx).1

end UInventario.Pos
