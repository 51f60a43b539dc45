import Mathlib.Data.List.Induction
import Mathlib.Data.List.Perm.Basic

/-!
# Grouping

Grouping the items of a list by a key, as with a dict of lists: an item joins
the first group with an equal key, or starts a new one (`Grouping.join`). The
equality of keys is any Boolean function.

* `IsGrouping`: the groups are a partition of the items, each in the order of
  the list, the items of a group have its key, and no two keys are equal;
* `isGrouping_groups`: which is what grouping achieves;
* `IsGrouping.of_perm`: the order of the groups does not matter.
-/

namespace Grouping

variable {α κ : Type*} (eq : κ → κ → Bool) (key : α → κ)

/-- An item joins the first group of its key, or starts one. -/
def join (x : α) : List (κ × List α) → List (κ × List α)
  | [] => [(key x, [x])]
  | group :: groups =>
    if eq group.1 (key x) then (group.1, group.2 ++ [x]) :: groups else group :: join x groups

/-- The groups of a list. -/
def groups (xs : List α) : List (κ × List α) := xs.foldl (fun gs x => join eq key x gs) []

/-- The groups are a partition of the items by their keys. -/
structure IsGrouping (xs : List α) (gs : List (κ × List α)) : Prop where
  partition : (gs.flatMap Prod.snd).Perm xs
  /-- The items of a group have its key. -/
  own : ∀ g ∈ gs, ∀ x ∈ g.2, key x = g.1 ∨ eq g.1 (key x) = true
  /-- The items of a group are in their order. -/
  ordered : ∀ g ∈ gs, g.2.Sublist xs
  nonempty : ∀ g ∈ gs, g.2 ≠ []
  distinct : (gs.map Prod.fst).Pairwise fun k k' => eq k k' = false

variable {eq key} {x : α} {xs : List α} {gs gs' : List (κ × List α)}

theorem join_perm : ((join eq key x gs).flatMap Prod.snd).Perm (gs.flatMap Prod.snd ++ [x]) := by
  induction gs with
  | nil => exact .refl _
  | cons g gs ih =>
    rw [join]
    split_ifs
    · simp only [List.flatMap_cons, List.append_assoc]
      exact List.perm_append_comm.append_left g.2
    · simp only [List.flatMap_cons, List.append_assoc]
      exact ih.append_left g.2

/-- Every group is an old one, an old one with the item, or a new one with only the item. -/
theorem forall_mem_join {P : κ × List α → Prop} (hold : ∀ g ∈ gs, P g)
    (hjoin : ∀ g ∈ gs, eq g.1 (key x) = true → P (g.1, g.2 ++ [x])) (hnew : P (key x, [x])) :
    ∀ g ∈ join eq key x gs, P g := by
  induction gs with
  | nil => exact List.forall_mem_singleton.2 hnew
  | cons g gs ih =>
    rw [List.forall_mem_cons] at hold hjoin
    rw [join]
    split_ifs with heq
    · exact List.forall_mem_cons.2 ⟨hjoin.1 heq, hold.2⟩
    · exact List.forall_mem_cons.2 ⟨hold.1, ih hold.2 hjoin.2⟩

/-- The keys stay, or the key of the item is new. -/
theorem map_fst_join : (join eq key x gs).map Prod.fst = gs.map Prod.fst ∨
    (join eq key x gs).map Prod.fst = gs.map Prod.fst ++ [key x] ∧
      ∀ g ∈ gs, eq g.1 (key x) = false := by
  induction gs with
  | nil => exact .inr ⟨rfl, fun _ h => absurd h List.not_mem_nil⟩
  | cons g gs ih =>
    rw [join]
    split_ifs with heq
    · exact .inl rfl
    · rcases ih with ih | ⟨ih, hnone⟩
      · exact .inl (congrArg (g.1 :: ·) ih)
      · exact .inr ⟨congrArg (g.1 :: ·) ih,
          List.forall_mem_cons.2 ⟨Bool.eq_false_iff.2 heq, hnone⟩⟩

/-- One more item joins the groups. -/
theorem IsGrouping.join (h : IsGrouping eq key xs gs) :
    IsGrouping eq key (xs ++ [x]) (join eq key x gs) where
  partition := join_perm.trans (h.partition.append_right [x])
  own := by
    refine forall_mem_join h.own (fun g hg heq => ?_) (List.forall_mem_singleton.2 (.inl rfl))
    exact List.forall_mem_append.2 ⟨h.own g hg, List.forall_mem_singleton.2 (.inr heq)⟩
  ordered := by
    refine forall_mem_join (fun g hg => ?_) (fun g hg _ => ?_) (List.sublist_append_right _ _)
    · exact (h.ordered g hg).trans (List.sublist_append_left _ _)
    · exact (h.ordered g hg).append_right [x]
  nonempty := forall_mem_join h.nonempty (fun g _ _ => by simp) (List.cons_ne_nil _ _)
  distinct := by
    -- Joining adds a key only when no group has an equal one.
    rcases @map_fst_join _ _ eq key x gs with hkeys | ⟨hkeys, hnone⟩
    · rw [hkeys]
      exact h.distinct
    · rw [hkeys, List.pairwise_append]
      refine ⟨h.distinct, List.pairwise_singleton _ _, fun k hk k' hk' => ?_⟩
      obtain ⟨g, hg, rfl⟩ := List.mem_map.1 hk
      rw [List.mem_singleton.1 hk']
      exact hnone g hg

/-- Grouping makes a partition. -/
theorem isGrouping_groups (xs : List α) : IsGrouping eq key xs (groups eq key xs) := by
  induction xs using List.reverseRecOn with
  | nil =>
    exact ⟨.refl _, fun _ h => absurd h List.not_mem_nil, fun _ h => absurd h List.not_mem_nil,
      fun _ h => absurd h List.not_mem_nil, List.Pairwise.nil⟩
  | append_singleton xs x ih =>
    rw [groups, List.foldl_append]
    exact ih.join

/-- The groups may come in any order, if the equality of keys is symmetric. -/
theorem IsGrouping.of_perm (h : IsGrouping eq key xs gs) (hperm : gs'.Perm gs)
    (hsymm : ∀ k k', eq k k' = eq k' k) : IsGrouping eq key xs gs' where
  partition := (hperm.flatMap_right _).trans h.partition
  own g hg := h.own g (hperm.mem_iff.1 hg)
  ordered g hg := h.ordered g (hperm.mem_iff.1 hg)
  nonempty g hg := h.nonempty g (hperm.mem_iff.1 hg)
  distinct := by
    refine ((hperm.map Prod.fst).pairwise_iff fun hk => ?_).2 h.distinct
    rwa [hsymm]

end Grouping
