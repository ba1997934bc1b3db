import Mathlib.Tactic.LinearCombination
import UInventario.Operations.Kits
import UInventario.Pos.BundleSplit
import UInventario.Catalog.KitStructure

/-!
# What assembling kits takes

`Kits.operate` takes `kitUnits * quantityPerKit / 1000` of every component, cut off to thousandths,
and gives the same back when kits are taken apart. A sale of the kit rounds the same product
(`roundDivide`). Everything there is to say is a statement about the remainders `rest`.

`operations_iff`: an assembly takes what a sale would take exactly when the remainder is below one
half; two assemblies take what one of both quantities takes exactly when their remainders stay below
one together; and operations that leave the kit as it was leave no more of a component exactly when
the remainders of the assemblies are at most those of the disassemblies.

The parent of a kit may be given decimals: `fractional_kit` assembles such a kit by halves.
-/

namespace UInventario

open Outcome Rounding List
open Pos (roundDivide roundDivide_eq)

/-! ### Stock on hand -/

/-- `quantity` of a balance, zero where there is no row. -/
def Store.onHand (s : Store) (productId locationId : Uuid) : ℤ :=
  ((s.balance? productId locationId).map Balance.quantity).getD 0

variable {s s' : Store} {locationId : Uuid}

namespace Store

theorem onHand_of_find? {productId : Uuid} {b : Balance}
    (h : s.balance? productId locationId = some b) :
      s.onHand productId locationId = b.quantity := by
  rw [onHand, h]
  rfl

theorem onHand_congr (h : s'.balances = s.balances) (productId locationId : Uuid) :
    s'.onHand productId locationId = s.onHand productId locationId := by
  rw [onHand, onHand, balance?, balance?, h]

theorem onHand_ensureBalance (s : Store) (productId locationId productId' locationId' : Uuid) :
    (ensureBalance s productId locationId).onHand productId' locationId' =
      s.onHand productId' locationId' := by
  by_cases hkey : (productId', locationId') = (productId, locationId)
  · obtain ⟨rfl, rfl⟩ := Prod.mk.inj hkey
    rw [onHand, onHand, balance?_ensureBalance_self]
    cases s.balance? productId' locationId' <;> rfl
  · rw [onHand, onHand, balance?_ensureBalance_of_ne hkey]

end Store

namespace Kits

/-! ### Requests that are performed -/

def Performed (s : Store) (input : OperateInput) (s' : Store) : Prop :=
  ∃ r, operate s input = .ok r ∧ r.replay = false ∧ r.store = s'

/-- **Operations on one kit**, one after the other. -/
inductive Performs (productId : Uuid) : Store → List OperateInput → Store → Prop
  | nil (s : Store) : Performs productId s [] s
  | cons {s s₁ s' : Store} {input : OperateInput} {inputs : List OperateInput}
      (hproduct : input.productId = productId) (h : Performed s input s₁)
      (hrest : Performs productId s₁ inputs s') : Performs productId s (input :: inputs) s'

/-- `normalizedQuantity` of a request, in thousandths. -/
def kitUnitsOf (s : Store) (input : OperateInput) : ℤ :=
  ((s.products.find? input.productId).map fun p ↦
    roundUnits input.quantity p.quantityPolicy.precision p.quantityPolicy.rounding).getD 0

def moved (cs : List (Uuid × ℤ)) (productId : Uuid) : ℤ :=
  (cs.map fun c ↦ if c.1 = productId then c.2 else 0).sum

/-- The constraints of `product_kit_components` on the rows of a kit. -/
structure ComponentRows (kit : ProductKit) : Prop where
  nodup : (kit.components.map KitComponent.productId).Nodup
  notSelf : ∀ c ∈ kit.components, c.productId ≠ kit.productId
  positive : ∀ c ∈ kit.components, 0 < c.quantity

/-! ### What is moved -/

theorem moved_append (cs cs' : List (Uuid × ℤ)) (productId : Uuid) :
    moved (cs ++ cs') productId = moved cs productId + moved cs' productId := by
  rw [moved, map_append, sum_append]
  rfl

theorem moved_filter_ne (cs : List (Uuid × ℤ)) (productId productId' : Uuid) :
    moved (cs.filter fun c ↦ c.1 ≠ productId') productId =
      if productId = productId' then 0 else moved cs productId := by
  induction cs with
  | nil => simp [moved]
  | cons c cs ih =>
    have hcons : ∀ l, moved (c :: l) productId =
        (if c.1 = productId then c.2 else 0) + moved l productId := fun l ↦ sum_cons
    by_cases hc : c.1 = productId'
    · rw [filter_cons_of_neg (by simpa using hc), ih, hcons]
      by_cases hproduct : productId = productId'
      · rw [if_pos hproduct, if_pos hproduct]
      · rw [if_neg hproduct, if_neg hproduct, if_neg fun h ↦ hproduct (h.symm.trans hc), zero_add]
    · rw [filter_cons_of_pos (by simpa using hc), hcons, hcons, ih]
      by_cases hproduct : productId = productId'
      · rw [if_pos hproduct, if_pos hproduct, if_neg fun h ↦ hc (h.trans hproduct), zero_add]
      · rw [if_neg hproduct, if_neg hproduct]

theorem moved_setChange (cs : List (Uuid × ℤ)) (productId' : Uuid) (change : ℤ)
    (productId : Uuid) : moved (setChange cs productId' change) productId =
      if productId = productId' then change else moved cs productId := by
  have hlast : moved [(productId', change)] productId =
      if productId' = productId then change else 0 := by simp [moved]
  rw [setChange, moved_append, moved_filter_ne, hlast]
  by_cases hproduct : productId = productId'
  · rw [if_pos hproduct, if_pos hproduct, if_pos hproduct.symm, zero_add]
  · rw [if_neg hproduct, if_neg hproduct, if_neg fun h ↦ hproduct h.symm, add_zero]

theorem moved_foldl_setChange {components : List KitComponent} {change : KitComponent → ℤ}
    (hnodup : (components.map KitComponent.productId).Nodup) {c : KitComponent}
    (hc : c ∈ components) (cs : List (Uuid × ℤ)) :
    moved (components.foldl (fun cs c ↦ setChange cs c.productId (change c)) cs) c.productId =
      change c := by
  induction components generalizing cs with
  | nil => exact absurd hc not_mem_nil
  | cons d components ih =>
    rw [map_cons, nodup_cons] at hnodup
    rw [foldl_cons]
    rcases List.mem_cons.mp hc with rfl | hmem
    · -- the rows that follow are of other products
      have hkeep : ∀ l : List KitComponent, (∀ d ∈ l, d.productId ≠ c.productId) →
          ∀ cs, moved (l.foldl (fun cs c ↦ setChange cs c.productId (change c)) cs) c.productId =
            moved cs c.productId := by
        intro l hl
        induction l with
        | nil => exact fun _ ↦ rfl
        | cons d l ih =>
          intro cs
          rw [foldl_cons, ih (fun e he ↦ hl e (mem_cons_of_mem d he)), moved_setChange,
            if_neg fun h ↦ hl d mem_cons_self h.symm]
      rw [hkeep components (fun d hd heq ↦ hnodup.1 (heq ▸ mem_map_of_mem hd)),
        moved_setChange, if_pos rfl]
    · exact ih hnodup.2 hmem _

variable {kit : ProductKit}

/-- **What an operation moves**: the kit by its quantity, a component by what is cut off to
thousandths. -/
theorem moved_changes (hrows : ComponentRows kit) (type : KitOperationType) (kitUnits : ℤ) :
    moved (changes kit type kitUnits) kit.productId = -componentSign type * kitUnits ∧
      ∀ c ∈ kit.components, moved (changes kit type kitUnits) c.productId =
        componentSign type * (kitUnits * c.quantity / 1000) := by
  have hperm : ∀ cs productId, moved (orderBy (fun a b : Uuid × ℤ ↦ a.1 ≤ b.1) cs) productId =
      moved cs productId := fun cs productId ↦ ((orderBy_perm _ cs).map _).sum_eq
  rw [changes]
  refine ⟨?_, fun c hc ↦ ?_⟩
  · rw [hperm, moved_setChange, if_pos rfl]
  · rw [hperm, moved_setChange, if_neg (hrows.notSelf c hc)]
    exact @moved_foldl_setChange _ (fun c ↦ componentSign type * (kitUnits * c.quantity / 1000))
      hrows.nodup c hc []

/-! ### What a request leaves -/

structure SamePolicies (s s' : Store) : Prop where
  kits : s'.documents.kits = s.documents.kits
  policies : ∀ id, (s'.products.find? id).map Product.quantityPolicy =
    (s.products.find? id).map Product.quantityPolicy

theorem SamePolicies.refl (s : Store) : SamePolicies s s := ⟨rfl, fun _ ↦ rfl⟩

theorem SamePolicies.trans {s₁ : Store} (h : SamePolicies s s₁) (h' : SamePolicies s₁ s') :
    SamePolicies s s' :=
  ⟨h'.kits.trans h.kits, fun id ↦ (h'.policies id).trans (h.policies id)⟩

theorem SamePolicies.kitUnitsOf_eq (h : SamePolicies s s') (input : OperateInput) :
    kitUnitsOf s' input = kitUnitsOf s input := by
  have hread : ∀ t : Store, kitUnitsOf t input =
      (((t.products.find? input.productId).map Product.quantityPolicy).map fun policy ↦
        roundUnits input.quantity policy.precision policy.rounding).getD 0 := by
    intro t
    rw [kitUnitsOf, Option.map_map]
    rfl
  rw [hread, hread, h.policies]

theorem samePolicies_of_posting {n : NewMovement} {tracking : Tracking}
    (p : Posting s n tracking s') : SamePolicies s s' := by
  refine ⟨by rw [p.store_eq], fun id ↦ ?_⟩
  rw [p.products_eq]
  split
  · rw [Table.find?_update, Option.map_map]
    refine congrArg (Option.map · _) (funext fun r ↦ ?_)
    show (if id = n.productId then _ else r).quantityPolicy = r.quantityPolicy
    split
    · rw [Product.recosted]
      split <;> rfl
    · rfl
  · rfl

variable {operationId : Uuid}

/-- **One turn moves one product** at the location of the request. -/
theorem onHand_moveProduct {change : Uuid × ℤ}
    (h : moveProduct operationId locationId s change = .ok s') :
    SamePolicies s s' ∧ ∀ productId locationId', s'.onHand productId locationId' =
      s.onHand productId locationId' +
        if locationId' = locationId ∧ change.1 = productId then change.2 else 0 := by
  simp only [moveProduct, eq_ok] at h
  obtain ⟨b, hb, -, -, s₁, hupdate, hpost⟩ := h
  obtain ⟨p⟩ := postMovement_eq_ok hpost
  have hpair : (b.productId, b.locationId) = (change.1, locationId) := Table.key_of_find? hb
  obtain ⟨hproduct, hlocation⟩ := Prod.mk.inj hpair
  have hfind :
    (ensureBalance s change.1 locationId).balance? b.productId b.locationId = some b := by
    rw [hproduct, hlocation]
    exact hb
  set b' : Balance := { b with
    quantity := b.quantity + change.2, available := b.available + change.2 } with hb'
  have hself := @balance?_updateBalance b' _ _ _ hfind hupdate
  constructor
  · refine SamePolicies.trans ?_ (samePolicies_of_posting p)
    obtain ⟨-, rfl⟩ := updateBalance_eq_ok hupdate
    rw [ensureBalance_eq]
    exact ⟨rfl, fun _ ↦ rfl⟩
  · intro productId locationId'
    rw [Store.onHand_congr p.balances_eq, ← Store.onHand_ensureBalance s change.1 locationId]
    by_cases hkey : locationId' = locationId ∧ change.1 = productId
    · obtain ⟨rfl, rfl⟩ := hkey
      rw [if_pos ⟨rfl, rfl⟩, Store.onHand_of_find? hb, ← hproduct, ← hlocation]
      exact Store.onHand_of_find? hself
    · rw [if_neg hkey, add_zero, Store.onHand, Store.onHand,
        balance?_updateBalance_of_ne hupdate fun heq ↦ hkey ?_]
      obtain ⟨h₁, h₂⟩ := Prod.mk.inj heq
      exact ⟨h₂.trans hlocation, (h₁.trans hproduct).symm⟩

theorem onHand_foldlM {cs : List (Uuid × ℤ)}
    (h : cs.foldlM (moveProduct operationId locationId) s = .ok s') :
    SamePolicies s s' ∧ ∀ productId locationId', s'.onHand productId locationId' =
      s.onHand productId locationId' +
        if locationId' = locationId then moved cs productId else 0 := by
  induction cs generalizing s with
  | nil =>
    obtain rfl := foldlM_nil_eq_ok.mp h
    exact ⟨.refl s, fun _ _ ↦ by simp [moved]⟩
  | cons change cs ih =>
    obtain ⟨s₁, hturn, hrest⟩ := foldlM_cons_eq_ok.mp h
    obtain ⟨hsame, hmoved⟩ := onHand_moveProduct hturn
    obtain ⟨hsame', hmoved'⟩ := ih hrest
    refine ⟨hsame.trans hsame', fun productId locationId' ↦ ?_⟩
    have hcons : moved (change :: cs) productId =
        (if change.1 = productId then change.2 else 0) + moved cs productId := sum_cons
    rw [hmoved', hmoved, hcons]
    by_cases hlocation : locationId' = locationId
    · simp only [hlocation, true_and, if_true]
      exact add_assoc _ _ _
    · simp only [hlocation, false_and, if_false, add_zero]

variable {input : OperateInput}

theorem operate_cases {r : Result} (h : operate s input = .ok r) : r.store = s ∧ r.replay = true ∨
      ∃ fingerprint, operateNew s input fingerprint = .ok r := by
  have hreplay : ∀ fingerprint operation, replay s fingerprint operation = .ok r →
      r.store = s ∧ r.replay = true := by
    intro fingerprint operation h
    simp only [replay, eq_ok] at h
    obtain ⟨-, -, rfl⟩ := h
    exact ⟨rfl, rfl⟩
  rcases onDuplicate_eq_ok h with h | h
  · split at h
    · exact Or.inl (hreplay _ _ h)
    · exact Or.inr ⟨_, h⟩
  · obtain ⟨existing, -, h⟩ := bind_eq_ok.mp h
    exact Or.inl (hreplay _ _ h)

/-- **What a performed request does.** -/
theorem performed_spec (h : Performed s input s') :
    ∃ kit, s.documents.kits.find? input.productId = some kit ∧ kit.stockMode = .ASSEMBLED ∧
      0 < kitUnitsOf s input ∧ SamePolicies s s' ∧
      ∀ productId locationId, s'.onHand productId locationId = s.onHand productId locationId +
        if locationId = input.locationId then
          moved (changes kit input.operationType (kitUnitsOf s input)) productId else 0 := by
  obtain ⟨r, h, hnew, rfl⟩ := h
  rcases operate_cases h with ⟨-, hrepeated⟩ | ⟨fingerprint, h⟩
  · rw [hrepeated] at hnew
    exact Bool.noConfusion hnew
  · simp only [operateNew, effectiveKit, eq_ok] at h
    obtain ⟨⟨kit, product⟩, ⟨_, hproduct, kit', hkit, -, -, heq⟩, -, hmode, kitUnits, hunits, -,
      hpos, _, -, -, -, -, -, s₁, hloop, -, -, operations, -, rfl⟩ := h
    obtain ⟨rfl, rfl⟩ := Prod.mk.inj heq
    obtain ⟨hsame, hmoved⟩ := onHand_foldlM hloop
    have hkitUnits : kitUnitsOf s input = kitUnits := by
      simp only [normalizeProductQuantity, eq_ok] at hunits
      obtain ⟨-, -, -, -, -, -, rfl⟩ := hunits
      rw [kitUnitsOf, hproduct]
      rfl
    rw [hkitUnits]
    exact ⟨kit', hkit, hmode, hpos, hsame.trans ⟨rfl, fun _ ↦ rfl⟩, hmoved⟩

/-! ### What is cut off -/

/-- What an operation cuts off of a component, in thousandths of its unit. -/
def rest (s : Store) (input : OperateInput) (c : KitComponent) : ℤ :=
  kitUnitsOf s input * c.quantity % 1000

/-- What the operations of a type at a location cut off of a component. -/
def cutOff (s : Store) (c : KitComponent) (locationId : Uuid) (type : KitOperationType)
    (inputs : List OperateInput) : ℤ :=
  ((inputs.filter fun i ↦ i.locationId = locationId ∧ i.operationType = type).map
    fun i ↦ rest s i c).sum

/-- Assemblies counted forwards and disassemblies backwards, at one location. -/
def balanced (locationId : Uuid) (f : OperateInput → ℤ) (inputs : List OperateInput) : ℤ :=
  (inputs.map fun i ↦
    if i.locationId = locationId then -componentSign i.operationType * f i else 0).sum

theorem balanced_cons (locationId : Uuid) (f : OperateInput → ℤ) (input : OperateInput)
    (inputs : List OperateInput) : balanced locationId f (input :: inputs) =
      (if input.locationId = locationId then -componentSign input.operationType * f input else 0) +
        balanced locationId f inputs :=
  sum_cons

theorem balanced_congr {f g : OperateInput → ℤ} (h : ∀ i, f i = g i)
    (inputs : List OperateInput) : balanced locationId f inputs = balanced locationId g inputs := by
  rw [funext h]

theorem balanced_div_add_mod (locationId : Uuid) (s : Store) (c : KitComponent)
    (inputs : List OperateInput) :
    1000 * balanced locationId (fun i ↦ kitUnitsOf s i * c.quantity / 1000) inputs +
        balanced locationId (fun i ↦ rest s i c) inputs =
      c.quantity * balanced locationId (kitUnitsOf s) inputs := by
  induction inputs with
  | nil => simp [balanced]
  | cons i inputs ih =>
    have hdiv : 1000 * (kitUnitsOf s i * c.quantity / 1000) + rest s i c =
        kitUnitsOf s i * c.quantity := Int.mul_ediv_add_emod _ _
    rw [balanced_cons, balanced_cons, balanced_cons]
    split
    · linear_combination ih - componentSign i.operationType * hdiv
    · linear_combination ih

theorem balanced_rest (locationId : Uuid) (s : Store) (c : KitComponent)
    (inputs : List OperateInput) : balanced locationId (fun i ↦ rest s i c) inputs =
      cutOff s c locationId .ASSEMBLE inputs - cutOff s c locationId .DISASSEMBLE inputs := by
  induction inputs with
  | nil => simp [balanced, cutOff]
  | cons i inputs ih =>
    have hcons : ∀ type, cutOff s c locationId type (i :: inputs) =
        (if i.locationId = locationId ∧ i.operationType = type then rest s i c else 0) +
          cutOff s c locationId type inputs := by
      intro type
      rw [cutOff, filter_cons]
      by_cases h : i.locationId = locationId ∧ i.operationType = type
      · rw [if_pos (by simpa using h), if_pos h, map_cons, sum_cons]
        rfl
      · rw [if_neg (by simpa using h), if_neg h, zero_add]
        rfl
    rw [balanced_cons, ih, hcons, hcons]
    by_cases hlocation : i.locationId = locationId
    · cases htype : i.operationType <;> simp [hlocation, componentSign] <;> ring
    · simp [hlocation]

/-! ### Runs -/

/-- **What a run leaves**, at every location, each time cut off to thousandths. -/
theorem performs_spec {inputs : List OperateInput}
    (hkit : s.documents.kits.find? kit.productId = some kit) (hrows : ComponentRows kit)
    (h : Performs kit.productId s inputs s') (locationId : Uuid) :
    s'.onHand kit.productId locationId =
        s.onHand kit.productId locationId + balanced locationId (kitUnitsOf s) inputs ∧
      ∀ c ∈ kit.components, s'.onHand c.productId locationId = s.onHand c.productId locationId -
        balanced locationId (fun i ↦ kitUnitsOf s i * c.quantity / 1000) inputs := by
  generalize hproduct : kit.productId = productId at h
  induction h with
  | nil s => exact ⟨by simp [balanced], fun c _ ↦ by simp [balanced]⟩
  | @cons s s₁ s' input inputs hinput hperformed hrest ih =>
    obtain ⟨kit', hkit', -, -, hsame, hmoved⟩ := performed_spec hperformed
    obtain rfl : kit' = kit :=
      Option.some.inj (hkit'.symm.trans ((congrArg s.documents.kits.find?
        (hinput.trans hproduct.symm)).trans hkit))
    obtain ⟨hself, hcomponents⟩ :=
      moved_changes hrows input.operationType (kitUnitsOf s input)
    have hunits : ∀ i, kitUnitsOf s₁ i = kitUnitsOf s i := hsame.kitUnitsOf_eq
    obtain ⟨ihself, ihcomponents⟩ := ih (by rw [hsame.kits]; exact hkit)
    subst hproduct
    refine ⟨?_, fun c hc ↦ ?_⟩
    · rw [ihself, hmoved, hself, balanced_congr hunits, balanced_cons]
      by_cases hlocation : locationId = input.locationId
      · rw [if_pos hlocation, if_pos hlocation.symm]
        ring
      · rw [if_neg hlocation, if_neg fun heq ↦ hlocation heq.symm]
        ring
    · rw [ihcomponents c hc, hmoved, hcomponents c hc, balanced_cons,
        balanced_congr fun i ↦ by rw [hunits]]
      by_cases hlocation : locationId = input.locationId
      · rw [if_pos hlocation, if_pos hlocation.symm]
        ring
      · rw [if_neg hlocation, if_neg fun heq ↦ hlocation heq.symm]
        ring

theorem roundDivide_eq_div_iff {n : ℤ} (hn : 0 ≤ n) :
    n / 1000 = roundDivide n 1000 ↔ n % 1000 < 500 := by
  rw [roundDivide_eq hn (by decide), roundDiv_of_nonneg hn]
  split <;> omega

structure Assembles (kit : ProductKit) (locationId : Uuid) (input : OperateInput) : Prop where
  productId : input.productId = kit.productId
  locationId : input.locationId = locationId
  operationType : input.operationType = .ASSEMBLE

theorem onHand_assembled {c : KitComponent} (hkit : s.documents.kits.find? kit.productId = some kit)
    (hrows : ComponentRows kit) (hc : c ∈ kit.components) (hinput : Assembles kit locationId input)
    (h : Performed s input s') : s'.onHand c.productId locationId =
      s.onHand c.productId locationId - kitUnitsOf s input * c.quantity / 1000 := by
  have htaken :=
    (performs_spec hkit hrows (.cons hinput.productId h (.nil s')) locationId).2 c hc
  rw [htaken, balanced_cons, if_pos hinput.locationId, hinput.operationType]
  simp [componentSign, balanced]

/-- **Assemblies against sales, splitting and going back**: each relation holds of a component
exactly when the remainders say so. -/
theorem operations_iff {s : Store} {kit : ProductKit} {c : KitComponent} {locationId : Uuid}
    (hkit : s.documents.kits.find? kit.productId = some kit) (hrows : ComponentRows kit)
    (hc : c ∈ kit.components) :
    (∀ input s', Assembles kit locationId input → Performed s input s' →
      (s.onHand c.productId locationId - s'.onHand c.productId locationId =
        roundDivide (kitUnitsOf s input * c.quantity) 1000 ↔ rest s input c < 500)) ∧
    (∀ first second both s₁ s₂ s₃, Assembles kit locationId first →
      Assembles kit locationId second → Assembles kit locationId both →
      kitUnitsOf s both = kitUnitsOf s first + kitUnitsOf s second →
      Performed s first s₁ → Performed s₁ second s₂ → Performed s both s₃ →
      (s₂.onHand c.productId locationId = s₃.onHand c.productId locationId ↔
        rest s first c + rest s second c < 1000)) ∧
    ∀ inputs s', Performs kit.productId s inputs s' →
      s'.onHand kit.productId locationId = s.onHand kit.productId locationId →
      (s'.onHand c.productId locationId ≤ s.onHand c.productId locationId ↔
        cutOff s c locationId .ASSEMBLE inputs ≤ cutOff s c locationId .DISASSEMBLE inputs) := by
  refine ⟨fun input s' hinput h ↦ ?_, ?_, fun inputs s' h hback ↦ ?_⟩
  · obtain ⟨-, -, -, hpos, -⟩ := performed_spec h
    have hnonneg : 0 ≤ kitUnitsOf s input * c.quantity :=
      mul_nonneg hpos.le (hrows.positive c hc).le
    rw [onHand_assembled hkit hrows hc hinput h, sub_sub_cancel, roundDivide_eq_div_iff hnonneg]
    exact Iff.rfl
  · intro first second both s₁ s₂ s₃ hfirst hsecond hboth hunits h₁ h₂ h₃
    obtain ⟨-, -, -, -, hsame, -⟩ := performed_spec h₁
    have hkit₁ : s₁.documents.kits.find? kit.productId = some kit := by rw [hsame.kits]; exact hkit
    rw [onHand_assembled hkit₁ hrows hc hsecond h₂, onHand_assembled hkit hrows hc hfirst h₁,
      onHand_assembled hkit hrows hc hboth h₃, hsame.kitUnitsOf_eq, hunits, add_mul, rest, rest]
    omega
  · obtain ⟨hself, hcomponents⟩ := performs_spec hkit hrows h locationId
    have hparts := balanced_div_add_mod locationId s c inputs
    have hback' : balanced locationId (kitUnitsOf s) inputs = 0 := by omega
    rw [hback', mul_zero, balanced_rest] at hparts
    rw [hcomponents c hc]
    omega

/-! ### Whole kits -/

/-! ### Every sequence of requests -/

def requestStep (s : Store) (input : OperateInput) : Except Failure Store := do
  let r ← operate s input
  pure r.store

/-! ### A kit by halves -/

theorem performed_of_new (h : (operate s input).toOption.map Result.replay = some false) :
    Performed s input (exec requestStep s input) := by
  cases hstep : operate s input with
  | error e =>
    rw [hstep] at h
    cases h
  | ok r =>
    rw [hstep] at h
    have hexec : exec requestStep s input = r.store := exec_of_ok (by rw [requestStep, hstep]; rfl)
    exact ⟨r, hstep, Option.some.inj h, hexec.symm⟩

/-- A kit of a third of a kilogram, whose policy is given decimals once it is a kit. -/
def fractionalCatalog : List Catalog.CatalogEvent :=
  [.createProduct 1 {
      sku := some [1], baseUnit := some .KILOGRAM, quantityPrecision := some 3,
      minimumQuantity := some 1 },
    .createProduct 3 (Catalog.unitProduct [3]),
    .updateProductVariants 3 {
      version := 1, attributes := [{ name := [1], values := [[1]] }],
      variants := [{ drawn := 4, values := [[1]], sku := [4] }] },
    .updateProductKit 4 {
      version := 1
      settings := some {
        stockMode := .ASSEMBLED, components := [{ productId := 1, quantity := 333 }] } },
    .updateProduct 3 0 { Catalog.unitProduct [3] with
      version := 2, baseUnit := some .KILOGRAM, quantityPrecision := some 3,
      minimumQuantity := some 1 }]

def oneLocation : Table Location :=
  Table.ofRow { id := 1, warehouseId := 1, active := true, createdAt := 0 }

def fractionalStock : Store :=
  let s := { run Catalog.catalogStep (Catalog.emptyCatalog default) fractionalCatalog with
    locations := oneLocation }
  match createMovement s {
    warehouseId := 1, idempotencyKey := [0], productId := 1, locationId := 1, type := .INITIAL,
    quantity := 1000, reason := [] } with
  | .ok r => r.store
  | .error _ => s

def fractionalKit : ProductKit where
  productId := 4
  stockMode := .ASSEMBLED
  effectiveFrom := none
  effectiveTo := none
  components := [{ productId := 1, quantity := 333 }]

def kitRequest (key : ℕ) (operationType : KitOperationType) (quantity : ℤ) : OperateInput where
  warehouseId := 1
  productId := 4
  idempotencyKey := [key]
  locationId := 1
  operationType := operationType
  quantity := quantity
  today := 0

theorem operations_iff_wholeKits :
    let s := fractionalStock
    let s₁ := exec requestStep s (kitRequest 1 .ASSEMBLE 1000)
    let s₂ := exec requestStep s₁ (kitRequest 2 .ASSEMBLE 1000)
    let s₃ := exec requestStep s (kitRequest 1 .ASSEMBLE 2000)
    let s₄ := exec requestStep s₁ (kitRequest 2 .DISASSEMBLE 1000)
    s.onHand 1 1 - s₁.onHand 1 1 =
        roundDivide (kitUnitsOf s (kitRequest 1 .ASSEMBLE 1000) * 333) 1000 ∧
      s₂.onHand 1 1 = s₃.onHand 1 1 ∧ s₄.onHand 1 1 ≤ s.onHand 1 1 := by
  have hassembles : ∀ key quantity,
      Assembles fractionalKit 1 (kitRequest key .ASSEMBLE quantity) := fun _ _ ↦ ⟨rfl, rfl, rfl⟩
  obtain ⟨hsale, hsplit, hback⟩ := @operations_iff fractionalStock fractionalKit
    { productId := 1, quantity := 333 } 1 (by decide +kernel)
    ⟨by decide, by decide, by decide⟩ (by decide)
  have h₁ : Performed fractionalStock (kitRequest 1 .ASSEMBLE 1000) _ :=
    performed_of_new (by decide +kernel)
  have h₂ : Performed (exec requestStep fractionalStock (kitRequest 1 .ASSEMBLE 1000))
      (kitRequest 2 .ASSEMBLE 1000) _ := performed_of_new (by decide +kernel)
  have h₃ : Performed fractionalStock (kitRequest 1 .ASSEMBLE 2000) _ :=
    performed_of_new (by decide +kernel)
  have h₄ : Performed (exec requestStep fractionalStock (kitRequest 1 .ASSEMBLE 1000))
      (kitRequest 2 .DISASSEMBLE 1000) _ := performed_of_new (by decide +kernel)
  refine ⟨(hsale _ _ (hassembles 1 1000) h₁).mpr (by decide +kernel), ?_, ?_⟩
  · exact (hsplit _ _ _ _ _ _ (hassembles 1 1000) (hassembles 2 1000) (hassembles 1 2000)
      (by decide +kernel) h₁ h₂ h₃).mpr (by decide +kernel)
  · exact (hback _ _ (.cons rfl h₁ (.cons rfl h₄ (.nil _))) (by decide +kernel)).mpr
      (by decide +kernel)

/-- **Half a kit, half a kit, and a kit taken apart**: a thousandth more than at the start. -/
theorem fractional_kit :
    let s := fractionalStock
    let s₁ := exec requestStep s (kitRequest 1 .ASSEMBLE 500)
    let s₂ := exec requestStep s₁ (kitRequest 2 .ASSEMBLE 500)
    let s₃ := exec requestStep s₂ (kitRequest 3 .DISASSEMBLE 1000)
    let s₄ := exec requestStep s (kitRequest 1 .ASSEMBLE 1000)
    Performs 4 s [kitRequest 1 .ASSEMBLE 500, kitRequest 2 .ASSEMBLE 500,
        kitRequest 3 .DISASSEMBLE 1000] s₃ ∧
      Performed s (kitRequest 1 .ASSEMBLE 1000) s₄ ∧
      s.onHand 1 1 - s₁.onHand 1 1 ≠
        roundDivide (kitUnitsOf s (kitRequest 1 .ASSEMBLE 500) * 333) 1000 ∧
      s₂.onHand 1 1 ≠ s₄.onHand 1 1 ∧
      s₃.onHand 4 1 = s.onHand 4 1 ∧ s.onHand 1 1 < s₃.onHand 1 1 := by
  refine ⟨.cons rfl (performed_of_new (by decide +kernel)) (.cons rfl
    (performed_of_new (by decide +kernel)) (.cons rfl (performed_of_new (by decide +kernel))
      (.nil _))), performed_of_new (by decide +kernel), ?_⟩
  decide +kernel

end Kits

end UInventario
