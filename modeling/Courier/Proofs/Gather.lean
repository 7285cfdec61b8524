import Courier.Scope
import Mathlib.Data.List.Forall2
/-!
# Gather - the groups of a list, told from outside

Main statement: there is one group for each key, in the order in which the keys first occur, with all members under
its key in the order of the list, and the first of them stands for it (`gather_groups`).
-/
namespace Courier

variable {α κ : Type} [BEq κ] [LawfulBEq κ]

/-- What the group of a key holds. -/
structure GroupOf (key : α → κ) (xs : List α) (k : κ) (g : α × List α) : Prop where
  members : g.2 = xs.filter fun y => key y == k
  first : g.2.head? = some g.1

theorem GroupOf.cons {key : α → κ} {x : α} {xs : List α} {k : κ} {g : α × List α}
    (h : GroupOf key (xs.filter fun y => !key y == key x) k g) : GroupOf key (x :: xs) k g := by
  have hmem := List.mem_of_mem_head? (Option.mem_def.2 h.first)
  rw [h.members] at hmem
  obtain ⟨hrest, hk⟩ := List.mem_filter.1 hmem
  have hne : key x ≠ k := fun hx => by simp [hx, beq_iff_eq.1 hk] at hrest
  refine ⟨h.members.trans ?_, h.first⟩
  rw [List.filter_filter, List.filter_cons_of_neg (by simpa using hne)]
  refine List.filter_congr fun y _ => ?_
  by_cases hy : key y = k
  · simp [hy, hne.symm]
  · simp [hy]

/-- **The groups of a list**, one for each of its keys. -/
theorem gather_groups (key : α → κ) : ∀ xs : List α,
    List.Forall₂ (GroupOf key xs) (xs.map key).eraseDups (gather key xs)
  | [] => by simp
  | x :: xs => by
    have ih := gather_groups key (xs.filter fun y => !key y == key x)
    have hkeys : (xs.filter fun y => !key y == key x).map key = (xs.map key).filter fun k => !k == key x := by
      rw [List.filter_map]
      rfl
    rw [hkeys] at ih
    rw [gather_cons, List.map_cons, List.eraseDups_cons]
    exact .cons ⟨by simp, rfl⟩ (ih.imp fun _ _ hg => hg.cons)
termination_by xs => xs.length
decreasing_by
  exact Nat.lt_succ_of_le (List.length_filter_le _ _)

theorem exists_groupOf {key : α → κ} {xs : List α} {g : α × List α} (h : g ∈ gather key xs) :
    ∃ k, GroupOf key xs k g := by
  have hall := gather_groups key xs
  generalize gather key xs = groups, (xs.map key).eraseDups = keys at h hall
  induction hall with
  | nil => cases h
  | cons hg _ ih =>
    rcases List.mem_cons.1 h with rfl | h
    · exact ⟨_, hg⟩
    · exact ih h

namespace Scope

/-- A group has the scope of a member of the list and members of the list only. -/
theorem mem_group {scopeOf : α → Scope} {xs : List α} {g : Scope × List α} (h : g ∈ group scopeOf xs) :
    (∃ x ∈ xs, g.1 = scopeOf x) ∧ ∀ y ∈ g.2, y ∈ xs := by
  obtain ⟨q, hq, rfl⟩ := List.mem_map.1 h
  obtain ⟨k, hmembers, hfirst⟩ := exists_groupOf hq
  have hall : ∀ y ∈ q.2, y ∈ xs := fun y hy => (List.mem_filter.1 (hmembers ▸ hy)).1
  exact ⟨⟨q.1, hall q.1 (List.mem_of_mem_head? hfirst), rfl⟩, hall⟩

/-- **The groups of records**: each has the scope of its first record. -/
theorem group_groups (scopeOf : α → Scope) (xs : List α) :
    List.Forall₂ (fun k g => ∃ x, (xs.filter fun y => (scopeOf y).key == k).head? = some x ∧
        g = (scopeOf x, xs.filter fun y => (scopeOf y).key == k))
      (xs.map fun x => (scopeOf x).key).eraseDups (group scopeOf xs) := by
  refine List.forall₂_map_right_iff.2 ((gather_groups (fun x => (scopeOf x).key) xs).imp ?_)
  rintro k ⟨x, members⟩ ⟨hmembers, hfirst⟩
  rw [← hmembers]
  exact ⟨x, hfirst, rfl⟩

end Scope
end Courier
