import Mathlib.Data.List.Chain

/-!
# Logs of a status

Every move of a document leaves an entry with the status it left and the one it reached. `Leads
fromOf toOf a log b` says that the entries of the log take the status from `a` to `b`, each of them
beginning where the one before it has ended (`Leads.isChain`). The log grows at its end
(`Leads.concat`).
-/

universe u v

namespace StatusLog

variable {ρ : Type u} {σ : Type v}

/-- **The log leads from one status to another.** -/
def Leads (fromOf toOf : ρ → σ) : σ → List ρ → σ → Prop
  | a, [], b => a = b
  | a, e :: log, b => fromOf e = a ∧ Leads fromOf toOf (toOf e) log b

variable {fromOf toOf : ρ → σ} {a b c : σ} {e : ρ} {log log' : List ρ}

theorem leads_nil : Leads fromOf toOf a [] b ↔ a = b := Iff.rfl

theorem Leads.append (h : Leads fromOf toOf a log b) (h' : Leads fromOf toOf b log' c) :
    Leads fromOf toOf a (log ++ log') c := by
  induction log generalizing a with
  | nil =>
    obtain rfl : a = b := h
    exact h'
  | cons e log ih =>
    obtain ⟨hfrom, hrest⟩ := h
    exact ⟨hfrom, ih hrest⟩

theorem Leads.concat (h : Leads fromOf toOf a log b) (he : fromOf e = b) :
    Leads fromOf toOf a (log ++ [e]) (toOf e) :=
  h.append ⟨he, rfl⟩

/-- **Each entry begins where the one before it has ended.** -/
theorem Leads.isChain (h : Leads fromOf toOf a log b) :
    log.IsChain fun e e' ↦ fromOf e' = toOf e := by
  induction log generalizing a with
  | nil => exact List.isChain_nil
  | cons e log ih =>
    obtain ⟨-, hrest⟩ := h
    cases log with
    | nil => exact List.isChain_singleton e
    | cons e' log =>
      rw [List.isChain_cons_cons]
      exact ⟨hrest.1, ih hrest⟩

end StatusLog
