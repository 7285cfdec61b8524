import Courier.Proofs.Gather
import Mathlib.Data.List.Nodup
/-!
# Partition - the groups of records are a stable partition

Main statement: the groups of a list are what its records leave when they are placed one by one; they have different
keys, in the order in which these are first seen, and each holds all records of its key in the order of the list;
nothing is lost or taken twice, and the groups of the groups are the same again (`Scope.group_stable`).
-/
namespace Courier

variable {α κ : Type} [BEq κ]

/-- The groups hold the members of the list, and each as often as the list does. -/
theorem gather_perm (key : α → κ) : ∀ xs : List α, ((gather key xs).flatMap Prod.snd).Perm xs
  | [] => by simp
  | x :: xs => by
    have ih := gather_perm key (xs.filter fun y => !key y == key x)
    rw [gather_cons, List.flatMap_cons, List.cons_append]
    exact ((ih.append_left _).trans (List.filter_append_perm _ xs)).cons x
termination_by xs => xs.length
decreasing_by
  exact Nat.lt_succ_of_le (List.length_filter_le _ _)

variable [LawfulBEq κ]

/-! ## The order of the keys -/

theorem idxOf_lt_of_filter {p : κ → Bool} {k l : κ} (hk : p k = true) (hl : p l = true) : ∀ {ks : List κ},
    (ks.filter p).idxOf k < (ks.filter p).idxOf l → ks.idxOf k < ks.idxOf l
  | [], h => h
  | a :: ks, h => by
    rw [List.filter_cons] at h
    by_cases hak : a = k
    · subst hak
      by_cases hal : a = l
      · subst hal
        exact absurd h (Nat.lt_irrefl _)
      · rw [List.idxOf_cons_self, List.idxOf_cons_ne _ hal]
        exact Nat.succ_pos _
    · by_cases hal : a = l
      · subst hal
        rw [if_pos hl, List.idxOf_cons_self] at h
        exact absurd h (Nat.not_lt_zero _)
      · rw [List.idxOf_cons_ne _ hak, List.idxOf_cons_ne _ hal]
        refine Nat.succ_lt_succ (idxOf_lt_of_filter hk hl ?_)
        split at h
        · rw [List.idxOf_cons_ne _ hak, List.idxOf_cons_ne _ hal] at h
          exact Nat.lt_of_succ_lt_succ h
        · exact h

/-- Duplicates are erased so that every key stays where it was first seen. -/
theorem pairwise_idxOf_eraseDups : ∀ ks : List κ, ks.eraseDups.Pairwise fun k l => ks.idxOf k < ks.idxOf l
  | [] => by simp
  | a :: ks => by
    have ih := pairwise_idxOf_eraseDups (ks.filter fun k => !k == a)
    rw [List.eraseDups_cons, List.pairwise_cons]
    have hne : ∀ k ∈ (ks.filter fun k => !k == a).eraseDups, (!k == a) = true ∧ a ≠ k := by
      intro k hk
      have hk := (List.mem_filter.1 (List.mem_eraseDups.1 hk)).2
      exact ⟨hk, fun h => by simp [h] at hk⟩
    refine ⟨fun k hk => ?_, ih.imp_of_mem fun {k l} hk hl h => ?_⟩
    · rw [List.idxOf_cons_self, List.idxOf_cons_ne _ (hne k hk).2]
      exact Nat.succ_pos _
    · rw [List.idxOf_cons_ne _ (hne k hk).2, List.idxOf_cons_ne _ (hne l hl).2]
      exact Nat.succ_lt_succ (idxOf_lt_of_filter (p := fun k => !k == a) (hne k hk).1 (hne l hl).1 h)
termination_by ks => ks.length
decreasing_by
  exact Nat.lt_succ_of_le (List.length_filter_le _ _)

/-! ## The members of the groups -/

theorem gather_keys (key : α → κ) (xs : List α) :
    (gather key xs).map (fun g => key g.1) = (xs.map key).eraseDups := by
  have h := (gather_groups key xs).imp fun k g (hg : GroupOf key xs k g) => show k = key g.1 from by
    have hmem := List.mem_of_mem_head? (Option.mem_def.2 hg.first)
    rw [hg.members] at hmem
    exact (beq_iff_eq.1 (List.mem_filter.1 hmem).2).symm
  rw [← List.forall₂_eq_eq_eq, List.forall₂_map_left_iff]
  exact h.flip.imp fun _ _ => Eq.symm

/-- The members of the groups, one group after the other, have the same groups. -/
theorem gather_flatMap (key : α → κ) : ∀ xs : List α,
    gather key ((gather key xs).flatMap Prod.snd) = gather key xs
  | [] => by simp
  | x :: xs => by
    have ih := gather_flatMap key (xs.filter fun y => !key y == key x)
    rw [gather_cons, List.flatMap_cons, List.cons_append, gather_cons]
    have hrest : ∀ y ∈ (gather key (xs.filter fun y => !key y == key x)).flatMap Prod.snd,
        (!key y == key x) = true := fun y hy => (List.mem_filter.1 ((gather_perm key _).mem_iff.1 hy)).2
    generalize (gather key (xs.filter fun y => !key y == key x)).flatMap Prod.snd = rest at ih hrest
    have hkept : (xs.filter (fun y => key y == key x) ++ rest).filter (fun y => key y == key x) =
        xs.filter fun y => key y == key x := by
      have hnone : rest.filter (fun y => key y == key x) = [] :=
        List.filter_eq_nil_iff.2 fun y hy => by simpa using hrest y hy
      rw [List.filter_append, List.filter_filter, hnone, List.append_nil]
      simp
    have hleft : (xs.filter (fun y => key y == key x) ++ rest).filter (fun y => !key y == key x) = rest := by
      have hnone : (xs.filter fun y => key y == key x).filter (fun y => !key y == key x) = [] :=
        List.filter_eq_nil_iff.2 fun y hy => by simpa using (List.mem_filter.1 hy).2
      rw [List.filter_append, hnone, List.nil_append, List.filter_eq_self.2 hrest]
    rw [hkept, hleft, ih]
termination_by xs => xs.length
decreasing_by
  exact Nat.lt_succ_of_le (List.length_filter_le _ _)

/-! ## Groups of records -/

namespace Scope

/-- A record joins the first group of its scope, or opens one behind the others. -/
def place (scopeOf : α → Scope) : List (Scope × List α) → α → List (Scope × List α)
  | [], x => [(scopeOf x, [x])]
  | g :: groups, x =>
    if g.1.key == (scopeOf x).key then (g.1, g.2 ++ [x]) :: groups else g :: place scopeOf groups x

/-- The groups of records of a list, told by what each holds. -/
structure StablePartition (scopeOf : α → Scope) (xs : List α) (groups : List (Scope × List α)) : Prop where
  /-- A group has the scope of its first record, so it has one. -/
  first : ∀ g ∈ groups, g.2.head?.map scopeOf = some g.1
  /-- Each key is of a record. -/
  keys : ∀ k, k ∈ groups.map (fun g => g.1.key) ↔ ∃ x ∈ xs, (scopeOf x).key = k
  distinct : (groups.map fun g => g.1.key).Nodup
  /-- The groups come in the order in which their keys are first seen. -/
  firstSeen : (groups.map fun g => g.1.key).Pairwise fun k l =>
    (xs.map fun x => (scopeOf x).key).idxOf k < (xs.map fun x => (scopeOf x).key).idxOf l
  members : ∀ g ∈ groups, g.2 = xs.filter fun x => (scopeOf x).key == g.1.key
  exactlyOne : ∀ x ∈ xs, ∃! g, g ∈ groups ∧ x ∈ g.2
  perm : (groups.flatMap Prod.snd).Perm xs

variable (scopeOf : α → Scope) (xs : List α)

/-- What the first group takes never reaches the groups behind it. -/
theorem foldl_place_cons (g : Scope × List α) (groups : List (Scope × List α)) (xs : List α) :
    xs.foldl (place scopeOf) (g :: groups) =
      (g.1, g.2 ++ xs.filter fun y => (scopeOf y).key == g.1.key) ::
        (xs.filter fun y => !(scopeOf y).key == g.1.key).foldl (place scopeOf) groups := by
  induction xs generalizing g groups with
  | nil => simp
  | cons x xs ih =>
    rw [List.foldl_cons, place]
    by_cases h : g.1.key = (scopeOf x).key
    · rw [if_pos (beq_iff_eq.2 h), ih]
      simp [h, List.append_assoc]
    · rw [if_neg (by simpa using h), ih]
      simp [Ne.symm h]

/-- The groups are what the records leave when they are placed one by one. -/
theorem foldl_place : ∀ xs : List α, xs.foldl (place scopeOf) [] = group scopeOf xs
  | [] => by simp
  | x :: xs => by
    have ih := foldl_place (xs.filter fun y => !(scopeOf y).key == (scopeOf x).key)
    rw [List.foldl_cons, place, foldl_place_cons, group_cons, ih, List.singleton_append]
termination_by xs => xs.length
decreasing_by
  exact Nat.lt_succ_of_le (List.length_filter_le _ _)

theorem flatMap_group :
    (group scopeOf xs).flatMap Prod.snd = (gather (fun x => (scopeOf x).key) xs).flatMap Prod.snd := by
  rw [group, List.flatMap_map]

theorem group_keys :
    (group scopeOf xs).map (fun g => g.1.key) = (xs.map fun x => (scopeOf x).key).eraseDups := by
  rw [group, List.map_map]
  exact gather_keys (fun x => (scopeOf x).key) xs

theorem group_members {g : Scope × List α} (h : g ∈ group scopeOf xs) :
    g.2.head?.map scopeOf = some g.1 ∧ g.2 = xs.filter fun x => (scopeOf x).key == g.1.key := by
  obtain ⟨q, hq, rfl⟩ := List.mem_map.1 h
  obtain ⟨k, hmembers, hfirst⟩ := exists_groupOf hq
  have hmem := List.mem_of_mem_head? (Option.mem_def.2 hfirst)
  rw [hmembers] at hmem
  have hk : (scopeOf q.1).key = k := beq_iff_eq.1 (List.mem_filter.1 hmem).2
  refine ⟨by rw [hfirst, Option.map_some], ?_⟩
  rw [hk]
  exact hmembers

/-- **Grouping by scope is a stable partition**, and grouping what it gives changes nothing. -/
theorem group_stable : xs.foldl (place scopeOf) [] = group scopeOf xs ∧
    StablePartition scopeOf xs (group scopeOf xs) ∧
    group scopeOf ((group scopeOf xs).flatMap Prod.snd) = group scopeOf xs := by
  have hseen := pairwise_idxOf_eraseDups (xs.map fun x => (scopeOf x).key)
  rw [← group_keys] at hseen
  have hdistinct : ((group scopeOf xs).map fun g => g.1.key).Nodup :=
    hseen.imp fun h hkl => absurd (hkl ▸ h) (Nat.lt_irrefl _)
  have hkeys : ∀ k, k ∈ (group scopeOf xs).map (fun g => g.1.key) ↔ ∃ x ∈ xs, (scopeOf x).key = k := fun k => by
    rw [group_keys, List.mem_eraseDups, List.mem_map]
  refine ⟨foldl_place scopeOf xs, ⟨fun g hg => (group_members scopeOf xs hg).1, hkeys, hdistinct, hseen,
    fun g hg => (group_members scopeOf xs hg).2, fun x hx => ?_, ?_⟩, ?_⟩
  · obtain ⟨g, hg, hkey⟩ := List.mem_map.1 ((hkeys (scopeOf x).key).2 ⟨x, hx, rfl⟩)
    refine ⟨g, ⟨hg, ?_⟩, fun other ⟨hother, hmem⟩ => ?_⟩
    · rw [(group_members scopeOf xs hg).2]
      exact List.mem_filter.2 ⟨hx, beq_iff_eq.2 hkey.symm⟩
    · rw [(group_members scopeOf xs hother).2] at hmem
      have hsame : (scopeOf x).key = other.1.key := beq_iff_eq.1 (List.mem_filter.1 hmem).2
      exact List.inj_on_of_nodup_map hdistinct hother hg (hsame.symm.trans hkey.symm)
  · rw [flatMap_group]
    exact gather_perm _ xs
  · rw [flatMap_group, group, group, gather_flatMap]

end Scope
end Courier
