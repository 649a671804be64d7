import Mathlib.Data.List.Forall2
import Mathlib.Data.List.Perm.Basic

/-! # Two Accounts of One List

  A program that walks a list tells it twice: as records of several kinds to
  one party, and as entries of its own to another.  The records of a kind are
  accounted for by the entries if they correspond one by one, in order.

  - The append and the loop rule follow the walk.
  - The order rule: if the entries are put into another order, so can the
    records be.
-/

namespace Selection

universe u v w

variable {α : Type u} {β : Type v} {p : α → Prop} [DecidablePred p] {R : α → β → Prop}

/-- The records that satisfy `p` correspond to the entries. -/
def Accounts (p : α → Prop) [DecidablePred p] (R : α → β → Prop) (records : List α)
    (entries : List β) : Prop :=
  List.Forall₂ R (records.filter fun r => p r) entries

namespace Accounts

variable {records records' : List α} {entries entries' : List β}

theorem nothing (h : ∀ r ∈ records, ¬ p r) : Accounts p R records [] := by
  have hnone : (records.filter fun r => p r) = [] := by
    rw [List.filter_eq_nil_iff]
    intro r hr
    simpa using h r hr
  rw [Accounts, hnone]
  exact List.Forall₂.nil

theorem cons {r : α} {entry : β} (hp : p r) (hR : R r entry) (h : Accounts p R records entries) :
    Accounts p R (r :: records) (entry :: entries) := by
  rw [Accounts, List.filter_cons_of_pos (by simpa using hp)]
  exact List.Forall₂.cons hR h

theorem skip {r : α} (hp : ¬ p r) (h : Accounts p R records entries) :
    Accounts p R (r :: records) entries := by
  rw [Accounts, List.filter_cons_of_neg (by simpa using hp)]
  exact h

theorem append (h : Accounts p R records entries) (h' : Accounts p R records' entries') :
    Accounts p R (records ++ records') (entries ++ entries') := by
  rw [Accounts, List.filter_append]
  exact List.rel_append h h'

/-- What is not of the kind makes no difference in front, … -/
theorem after (h : ∀ r ∈ records, ¬ p r) (h' : Accounts p R records' entries) :
    Accounts p R (records ++ records') entries := (nothing h).append h'

/-- … nor behind. -/
theorem before (h : Accounts p R records entries) (h' : ∀ r ∈ records', ¬ p r) :
    Accounts p R (records ++ records') entries := by
  have hall := h.append (nothing h')
  rwa [List.append_nil] at hall

/-- **Loop rule**: one account after the other. -/
theorem flatMap {γ : Type w} {items : List γ} {f : γ → List α} {g : γ → List β}
    (h : ∀ item ∈ items, Accounts p R (f item) (g item)) :
    Accounts p R (items.flatMap f) (items.flatMap g) := by
  induction items with
  | nil => exact List.Forall₂.nil
  | cons item items ih =>
    obtain ⟨hitem, hitems⟩ := List.forall_mem_cons.mp h
    rw [List.flatMap_cons, List.flatMap_cons]
    exact hitem.append (ih hitems)

/-- **Order rule**: the entries in another order. -/
theorem reorder (h : Accounts p R records entries) (hperm : entries'.Perm entries) :
    ∃ order, order.Perm (records.filter fun r => p r) ∧ List.Forall₂ R order entries' := by
  have hcomp : Relation.Comp (List.Forall₂ R) List.Perm (records.filter fun r => p r) entries' :=
    ⟨entries, h, hperm.symm⟩
  rw [List.forall₂_comp_perm_eq_perm_comp_forall₂] at hcomp
  obtain ⟨order, horder, hmatch⟩ := hcomp
  exact ⟨order, horder.symm, hmatch⟩

end Accounts

end Selection
