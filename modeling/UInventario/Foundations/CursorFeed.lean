import UInventario.Foundations.Outcome
import UInventario.Foundations.Table

/-!
# Following a feed by cursor

A source shows rows, each with a key in a linear order, and answers page requests: the first rows
whose key lies beyond a cursor, and the cursor to go on with. `Feed` has such a source with its
laws. Two results rest on different facts.

* A listing of a source that does not change delivers every row once and ends (`walk_perm`): what is
  beyond the last key of a page is what the page has left (`beyond_last`).
* A client is up to date whenever it has read a last page, in every run in which each change leaves
  what it changes beyond the cursor. The invariant (`Caught`) is that what has not been delivered
  since its last change lies beyond the cursor.
-/

namespace UInventario

open Outcome List Option

universe u v w

/-! ### Pages -/

/-- The key lies beyond the cursor; where there is no cursor, every key does. -/
def Beyond {κ : Type*} [LT κ] (cursor : Option κ) (k : κ) : Prop :=
  ∀ c ∈ cursor, c < k

instance {κ : Type*} [LinearOrder κ] (cursor : Option κ) (k : κ) : Decidable (Beyond cursor k) := by
  unfold Beyond
  infer_instance

section Beyond

variable {ρ : Type u} {κ : Type v} [LinearOrder κ] {key : ρ → κ} {rows : List ρ} {r : ρ}

/-- What lies beyond a cursor, in the order of the keys. -/
def beyond (key : ρ → κ) (rows : List ρ) (cursor : Option κ) : List ρ :=
  orderBy (fun a b ↦ key a ≤ key b) (rows.filter fun r ↦ Beyond cursor (key r))

theorem mem_beyond {cursor : Option κ} :
    r ∈ beyond key rows cursor ↔ r ∈ rows ∧ Beyond cursor (key r) := by
  rw [beyond, mem_orderBy, mem_filter, decide_eq_true_eq]

theorem beyond_nodup (hnodup : rows.Nodup) (cursor : Option κ) : (beyond key rows cursor).Nodup :=
  (orderBy_perm _ _).nodup_iff.mpr (hnodup.filter _)

section

variable (hnodup : rows.Nodup) (hkey : ∀ r ∈ rows, ∀ r' ∈ rows, key r = key r' → r = r')
include hnodup hkey

theorem beyond_pairwise (cursor : Option κ) :
    (beyond key rows cursor).Pairwise fun a b ↦ key a < key b := by
  have hsorted : (beyond key rows cursor).Pairwise fun a b ↦ key a ≤ key b :=
    pairwise_orderBy_key fun _ _ ↦ Iff.rfl
  refine (hsorted.and (beyond_nodup hnodup cursor)).imp_of_mem fun ha hb h ↦
    lt_of_le_of_ne h.1 fun heq ↦ h.2 ?_
  exact hkey _ (mem_beyond.mp ha).1 _ (mem_beyond.mp hb).1 heq

/-- What has its last row at `r` and goes on with `rest` has `rest` beyond `r`. -/
theorem beyond_last {cursor : Option κ} {page rest : List ρ}
    (hsplit : beyond key rows cursor = page ++ rest) (hlast : page.getLast? = some r) :
    beyond key rows (some (key r)) = rest := by
  have hsorted := beyond_pairwise hnodup hkey cursor
  rw [hsplit, pairwise_append] at hsorted
  have hmem : r ∈ page := mem_of_getLast? hlast
  have hupto : ∀ a ∈ page, key a ≤ key r := by
    intro a ha
    obtain ⟨init, rfl⟩ := getLast?_eq_some_iff.mp hlast
    rcases mem_append.mp ha with ha | ha
    · have hpage := hsorted.1
      rw [pairwise_append] at hpage
      exact (hpage.2.2 a ha r (mem_singleton_self r)).le
    · rw [mem_singleton.mp ha]
  have hrnodup : rest.Nodup := by
    have hall : (beyond key rows cursor).Nodup := beyond_nodup hnodup cursor
    rw [hsplit] at hall
    exact (nodup_append.mp hall).2.1
  have hsame : ∀ x, x ∈ beyond key rows (some (key r)) ↔ x ∈ rest := by
    intro x
    rw [mem_beyond]
    constructor
    · rintro ⟨hx, hbeyond⟩
      have hlt : key r < key x := hbeyond _ rfl
      have hr : Beyond cursor (key r) := (mem_beyond.mp (hsplit ▸ mem_append_left _ hmem)).2
      have hall : x ∈ beyond key rows cursor :=
        mem_beyond.mpr ⟨hx, fun c hc ↦ (hr c hc).trans hlt⟩
      rw [hsplit] at hall
      rcases mem_append.mp hall with hpage | hrest
      · exact absurd hlt (not_lt_of_ge (hupto x hpage))
      · exact hrest
    · intro hx
      have hall : x ∈ beyond key rows cursor := hsplit ▸ mem_append_right _ hx
      refine ⟨(mem_beyond.mp hall).1, fun c hc ↦ ?_⟩
      rw [mem_some_iff] at hc
      exact hc ▸ hsorted.2.2 r hmem x hx
  refine List.Perm.eq_of_pairwise (fun a b _ _ hab hba ↦ (lt_asymm hab hba).elim)
    (beyond_pairwise hnodup hkey _) hsorted.2.1 ?_
  exact (perm_ext_iff_of_nodup (beyond_nodup hnodup _) hrnodup).mpr hsame

end

end Beyond

variable {ρ : Type u}

theorem orderBy_congr_le {le le' : ρ → ρ → Prop} [DecidableRel le] [DecidableRel le']
    (h : ∀ a b, le a b ↔ le' a b) {rows : List ρ} : orderBy le rows = orderBy le' rows := by
  obtain rfl : le = le' := by
    funext a b
    exact propext (h a b)
  rw [orderBy, orderBy]
  congr

/-! ### One row more than asked for

A source asks its database for one row more than it was asked for, and tells by it whether there are
more. -/

theorem take_take_succ {rows : List ρ} (limit : ℕ) :
    (rows.take (limit + 1)).take limit = rows.take limit := by
  rw [take_take, Nat.min_eq_left (Nat.le_succ limit)]

theorem more_take_succ {rows : List ρ} (limit : ℕ) :
    decide (limit < (rows.take (limit + 1)).length) = decide (limit < rows.length) := by
  refine decide_eq_decide.mpr ?_
  rw [length_take]
  omega

/-! ### Feeds -/

/-- **The answer to a page request.** -/
structure Answer (ρ : Type u) (κ : Type v) where
  rows : List ρ
  next : Option κ
  more : Bool

/-- **A source that is read by cursor.** `grows` is how it may change: a row does not fall back. -/
structure Feed (σ : Type u) (ρ : Type u) (ι : Type u) (κ : Type v) (ν : Type w) [LinearOrder κ]
    where
  rows : σ → List ρ
  ident : ρ → ι
  key : ρ → κ
  version : σ → ι → ν
  grows : σ → σ → Prop
  ask : σ → Option κ → ℕ → Answer ρ κ
  ident_nodup : ∀ s, ((rows s).map ident).Nodup
  key_injective : ∀ s, ∀ r ∈ rows s, ∀ r' ∈ rows s, key r = key r' → r = r'
  key_mono : ∀ s s', grows s s' → ∀ r ∈ rows s, ∀ r' ∈ rows s', ident r = ident r' → key r ≤ key r'
  ask_rows : ∀ s cursor limit, (ask s cursor limit).rows = (beyond key (rows s) cursor).take limit
  ask_more : ∀ s cursor limit,
    (ask s cursor limit).more = decide (limit < (beyond key (rows s) cursor).length)
  /-- The cursor is the key of the last row, or none is given and the old one is kept. -/
  ask_next : ∀ s cursor limit,
    (ask s cursor limit).next.or cursor = ((ask s cursor limit).rows.getLast?.map key).or cursor ∨
      (ask s cursor limit).next = none ∧ (ask s cursor limit).more = false

namespace Feed

variable {σ ρ ι : Type u} {κ : Type v} {ν : Type w} [LinearOrder κ] (F : Feed σ ρ ι κ ν)

theorem rows_nodup (s : σ) : (F.rows s).Nodup :=
  (F.ident_nodup s).of_map F.ident

/-! ### A listing -/

/-- **The answers of a listing**, page after page until there is no more, `n` of them at most. -/
def walk (s : σ) (limit : ℕ) : ℕ → Option κ → List (Answer ρ κ)
  | 0, _ => []
  | n + 1, cursor =>
    let answer := F.ask s cursor limit
    if answer.more then answer :: walk s limit n (answer.next.or cursor) else [answer]

variable {F} {s : σ} {limit : ℕ} {n : ℕ}

theorem ask_split (cursor : Option κ) : beyond F.key (F.rows s) cursor =
    (F.ask s cursor limit).rows ++ (beyond F.key (F.rows s) cursor).drop limit := by
  rw [F.ask_rows, take_append_drop]

theorem beyond_next (hlimit : 0 < limit) {cursor : Option κ}
    (hmore : (F.ask s cursor limit).more = true) :
    beyond F.key (F.rows s) ((F.ask s cursor limit).next.or cursor) =
      (beyond F.key (F.rows s) cursor).drop limit := by
  have hlength : limit < (beyond F.key (F.rows s) cursor).length := by
    rw [F.ask_more, decide_eq_true_eq] at hmore
    exact hmore
  have hpage : (F.ask s cursor limit).rows ≠ [] := by
    rw [F.ask_rows, Ne, take_eq_nil_iff, not_or]
    refine ⟨hlimit.ne', fun hnil ↦ ?_⟩
    rw [hnil] at hlength
    exact Nat.not_lt_zero _ hlength
  obtain ⟨r, hr⟩ := ne_none_iff_exists'.mp (mt getLast?_eq_none_iff.mp hpage)
  rcases F.ask_next s cursor limit with hnext | ⟨-, hlast⟩
  · rw [hnext, hr, map_some, some_or]
    exact beyond_last (F.rows_nodup s) (F.key_injective s) (ask_split cursor) hr
  · rw [hmore] at hlast
    cases hlast

/-- **A listing delivers what is beyond its cursor**, when it is allowed enough pages. -/
theorem walk_rows (hlimit : 0 < limit) {cursor : Option κ}
    (hn : (beyond F.key (F.rows s) cursor).length < n) :
    (F.walk s limit n cursor).flatMap Answer.rows = beyond F.key (F.rows s) cursor ∧
      (F.walk s limit n cursor).getLast?.map Answer.more = some false := by
  induction n generalizing cursor with
  | zero => exact absurd hn (Nat.not_lt_zero _)
  | succ n ih =>
    rw [walk]
    split
    case isTrue hmore =>
      have hrest := beyond_next hlimit hmore
      have hlength : (beyond F.key (F.rows s)
          ((F.ask s cursor limit).next.or cursor)).length < n := by
        rw [F.ask_more, decide_eq_true_eq] at hmore
        rw [hrest, length_drop]
        omega
      obtain ⟨hrows, hended⟩ := ih hlength
      constructor
      · rw [flatMap_cons, hrows, hrest, ← ask_split]
      · rw [getLast?_cons]
        cases hlast : (F.walk s limit n ((F.ask s cursor limit).next.or cursor)).getLast? with
        | none =>
          rw [hlast] at hended
          cases hended
        | some answer =>
          rw [hlast] at hended
          exact hended
    case isFalse hmore =>
      have hlength : (beyond F.key (F.rows s) cursor).length ≤ limit := by
        rw [F.ask_more, decide_eq_true_eq] at hmore
        exact not_lt.mp hmore
      constructor
      · rw [flatMap_singleton, F.ask_rows, take_of_length_le hlength]
      · rw [getLast?_singleton, map_some, Bool.not_eq_true _ |>.mp hmore]

/-- **A listing from the beginning delivers every row once.** -/
theorem walk_perm (hlimit : 0 < limit) (hn : (F.rows s).length < n) :
    ((F.walk s limit n none).flatMap Answer.rows).Perm (F.rows s) ∧
      (F.walk s limit n none).getLast?.map Answer.more = some false := by
  have hall : (beyond F.key (F.rows s) none).Perm (F.rows s) := by
    refine (orderBy_perm _ _).trans (.of_eq ?_)
    rw [filter_eq_self]
    exact fun r _ ↦ decide_eq_true fun c hc ↦ by cases hc
  have hlength : (beyond F.key (F.rows s) none).length < n := hall.length_eq ▸ hn
  obtain ⟨hrows, hended⟩ := walk_rows (F := F) hlimit hlength
  exact ⟨hrows ▸ hall, hended⟩

end Feed

/-! ### A client -/

/-- **A client and its source.** `fresh`: rows delivered since their last change; `ended`: nothing
since a last page. -/
structure Following (σ : Type u) (ι : Type u) (κ : Type v) where
  source : σ
  cursor : Option κ
  fresh : List ι
  ended : Bool

/-- A committed change of the source, or a page request. -/
inductive FeedEvent (σ : Type u)
  | change (source : σ)
  | read (limit : ℕ)

namespace Feed

variable {σ ρ ι : Type u} {κ : Type v} {ν : Type w} [LinearOrder κ] (F : Feed σ ρ ι κ ν)

section Step

variable [DecidableRel F.grows] [DecidableEq ν]

/-- One event. -/
def step (c : Following σ ι κ) : FeedEvent σ → Except Unit (Following σ ι κ)
  | .change source => do
    ensure (F.grows c.source source) ()
    pure { c with
      source := source
      fresh := c.fresh.filter fun i ↦ F.version c.source i = F.version source i
      ended := false }
  | .read limit =>
    let answer := F.ask c.source c.cursor limit
    pure { c with
      cursor := answer.next.or c.cursor, fresh := answer.rows.map F.ident ++ c.fresh,
      ended := !answer.more }

end Step

/-- The client has no cursor yet. -/
def opening (source : σ) : Following σ ι κ where
  source := source
  cursor := none
  fresh := []
  ended := false

/-- **The client is up to date** whenever it has just read a last page: every row has been delivered
since its last change. -/
def Synced (c : Following σ ι κ) : Prop :=
  c.ended = true → ∀ r ∈ F.rows c.source, F.ident r ∈ c.fresh

/-- **The condition.** What a change touches lies beyond the cursor afterwards. -/
def Visible (c : Following σ ι κ) : FeedEvent σ → Prop
  | .change source => ∀ r' ∈ F.rows source,
      (∃ r ∈ F.rows c.source, F.ident r = F.ident r' ∧
        F.version c.source (F.ident r') = F.version source (F.ident r')) ∨
      Beyond c.cursor (F.key r')
  | .read _ => True

/-- **The invariant.** What has not been delivered since its last change lies beyond the cursor. -/
structure Caught (c : Following σ ι κ) : Prop where
  ahead : ∀ r ∈ F.rows c.source, F.ident r ∈ c.fresh ∨ Beyond c.cursor (F.key r)
  synced : F.Synced c

variable {F} {c : Following σ ι κ}

theorem caught_opening (source : σ) : F.Caught (opening source) where
  ahead := fun _ _ ↦ .inr fun _ hc ↦ by cases hc
  synced := nofun

theorem ask_covers (s : σ) (cursor : Option κ) (limit : ℕ) :
    ∀ r ∈ F.rows s, Beyond cursor (F.key r) → r ∈ (F.ask s cursor limit).rows ∨
      Beyond ((F.ask s cursor limit).next.or cursor) (F.key r) ∧
        (F.ask s cursor limit).more = true := by
  intro r hr hbeyond
  have hall : r ∈ beyond F.key (F.rows s) cursor := mem_beyond.mpr ⟨hr, hbeyond⟩
  rw [@ask_split _ _ _ _ _ _ F s limit cursor] at hall
  rcases mem_append.mp hall with hpage | hrest
  · exact .inl hpage
  · have hmore : (F.ask s cursor limit).more = true := by
      rw [F.ask_more, decide_eq_true_eq]
      by_contra hle
      rw [drop_of_length_le (not_lt.mp hle)] at hrest
      cases hrest
    refine .inr ⟨?_, hmore⟩
    rcases F.ask_next s cursor limit with hnext | ⟨-, hlast⟩
    · rw [hnext]
      cases hgetLast : (F.ask s cursor limit).rows.getLast? with
      | none => exact hbeyond
      | some last =>
        have hbehind := beyond_last (F.rows_nodup s) (F.key_injective s) (ask_split cursor) hgetLast
        rw [← hbehind] at hrest
        exact (mem_beyond.mp hrest).2
    · rw [hmore] at hlast
      cases hlast

section Run

variable [DecidableRel F.grows] [DecidableEq ν]

/-- **The step lemma.** -/
theorem Caught.step (h : F.Caught c) {event : FeedEvent σ} (hvisible : F.Visible c event)
    {c' : Following σ ι κ} (hstep : F.step c event = .ok c') : F.Caught c' := by
  cases event with
  | change source =>
    simp only [Feed.step, eq_ok] at hstep
    obtain ⟨-, hgrows, rfl⟩ := hstep
    refine ⟨fun r' hr' ↦ ?_, by rintro ⟨⟩⟩
    rcases hvisible r' hr' with ⟨r, hr, hident, hversion⟩ | hbeyond
    · rcases h.ahead r hr with hfresh | hbeyond
      · refine .inl (mem_filter.mpr ⟨hident ▸ hfresh, decide_eq_true hversion⟩)
      · refine .inr fun k hk ↦ ?_
        exact (hbeyond k hk).trans_le (F.key_mono _ _ hgrows r hr r' hr' hident)
    · exact .inr hbeyond
  | read limit =>
    cases hstep
    have hdelivered : ∀ r ∈ F.rows c.source,
        F.ident r ∈ (F.ask c.source c.cursor limit).rows.map F.ident ++ c.fresh ∨
        Beyond ((F.ask c.source c.cursor limit).next.or c.cursor) (F.key r) ∧
          (F.ask c.source c.cursor limit).more = true := by
      intro r hr
      rcases h.ahead r hr with hfresh | hbeyond
      · exact .inl (mem_append_right _ hfresh)
      · rcases ask_covers c.source c.cursor limit r hr hbeyond with hpage | hahead
        · exact .inl (mem_append_left _ (mem_map_of_mem hpage))
        · exact .inr hahead
    refine ⟨fun r hr ↦ (hdelivered r hr).imp_right And.left, fun hended r hr ↦ ?_⟩
    rcases hdelivered r hr with hfresh | ⟨-, hmore⟩
    · exact hfresh
    · replace hended : (!(F.ask c.source c.cursor limit).more) = true := hended
      rw [hmore] at hended
      cases hended

end Run

end Feed

end UInventario
