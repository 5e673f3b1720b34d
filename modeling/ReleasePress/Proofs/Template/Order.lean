import Mathlib.Data.String.Basic
import Mathlib.Tactic.Common
import ReleasePress.Proofs.Template.Walk

/-! # The order of a walk

A walk goes through each directory in the order of names, so the leaves of a tree come in the
lexicographic order of their locations (`Template.pairwise_leaves`), and the first of some files in the
walk is the one at the least location. -/

namespace ReleasePress.Template

/-! ## Leaves -/

/-- Where a leaf is, as seen from the top of the walk. -/
def Leaf.location : Leaf → Location
  | .file location _ => location
  | .link location => location

theorem Leaf.location_below (name : String) (leaf : Leaf) :
    (leaf.below name).location = name :: leaf.location := by
  cases leaf <;> rfl

/-- Groups with different names are put in the order of their names. -/
theorem pairwise_inOrder {groups : List (String × List Leaf)} (hnames : (groups.map Prod.fst).Nodup)
    (hleaves : ∀ group ∈ groups, group.2.Pairwise fun a b => a.location < b.location) :
    (inOrder groups).Pairwise fun a b => a.location < b.location := by
  have hperm := List.mergeSort_perm groups fun a b => decide (a.1 ≤ b.1)
  have hle : (groups.mergeSort fun a b => decide (a.1 ≤ b.1)).Pairwise
      fun a b => decide (a.1 ≤ b.1) = true := by
    refine List.pairwise_mergeSort ?_ ?_ groups
    · intro a b c hab hbc
      simp only [decide_eq_true_eq] at hab hbc ⊢
      exact hab.trans hbc
    · intro a b
      simp only [Bool.or_eq_true, decide_eq_true_eq]
      exact le_total a.1 b.1
  have hne : (groups.mergeSort fun a b => decide (a.1 ≤ b.1)).Pairwise fun a b => a.1 ≠ b.1 :=
    List.pairwise_map.1 ((hperm.map Prod.fst).nodup_iff.2 hnames)
  rw [inOrder, List.pairwise_flatMap]
  refine ⟨?_, ?_⟩
  · intro group hgroup
    rw [List.pairwise_map]
    refine (hleaves group (hperm.mem_iff.1 hgroup)).imp ?_
    intro a b hab
    rw [Leaf.location_below, Leaf.location_below]
    exact List.cons_lt_cons_iff.2 (.inr ⟨rfl, hab⟩)
  · refine (hle.and hne).imp ?_
    rintro a b ⟨hab, hne⟩ x hx y hy
    obtain ⟨x, -, rfl⟩ := List.mem_map.1 hx
    obtain ⟨y, -, rfl⟩ := List.mem_map.1 hy
    rw [Leaf.location_below, Leaf.location_below]
    exact List.cons_lt_cons_iff.2 (.inl (lt_of_le_of_ne (of_decide_eq_true hab) hne))

theorem map_fst_groups (entries : List (String × FileNode)) :
    (groups entries).map Prod.fst = entries.map Prod.fst := by
  induction entries with
  | nil => rfl
  | cons entry entries ih =>
      obtain ⟨name, node⟩ := entry
      rw [groups, List.map_cons, List.map_cons, ih]

/-- The leaves of a tree come in the order of their locations. -/
theorem pairwise_leaves {node : FileNode} (hdistinct : node.DistinctNames) :
    (leaves node).Pairwise fun a b => a.location < b.location := by
  induction hdistinct with
  | file bytes => exact List.pairwise_singleton ..
  | link target => exact List.pairwise_singleton ..
  | directory hname hnode ih =>
      rw [leaves]
      refine pairwise_inOrder (by rwa [map_fst_groups]) ?_
      intro group hgroup
      obtain ⟨name, node, hentry, rfl⟩ := mem_groups_iff.1 hgroup
      exact ih name node hentry

end ReleasePress.Template
