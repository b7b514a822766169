import Mathlib.Data.List.Nodup
import Mathlib.Data.List.Perm.Subperm
import Mathlib.Data.Nat.ModEq

/-!
# Going round in a circle

The numbers below `n` in cyclic order, from any number on and for any length of
time.
-/

namespace Gloc.Transition

def rotation (start n count : Nat) : List Nat :=
  (List.range count).map fun j => (start + j) % n

variable {start n count : Nat}

theorem length_rotation : (rotation start n count).length = count := by
  rw [rotation, List.length_map, List.length_range]

theorem getElem?_rotation {j : Nat} (below : j < count) :
    (rotation start n count)[j]? = some ((start + j) % n) := by
  rw [rotation, List.getElem?_map, List.getElem?_range below]
  rfl

theorem rotation_succ :
    rotation start n (count + 1) = rotation start n count ++ [(start + count) % n] := by
  rw [rotation, List.range_succ, List.map_append]
  rfl

theorem rotation_add (later : Nat) :
    rotation start n (count + later) =
      rotation start n count ++ rotation (start + count) n later := by
  induction later with
  | zero => exact (List.append_nil _).symm
  | succ later inductionHypothesis =>
      rw [← Nat.add_assoc, rotation_succ, inductionHypothesis, rotation_succ, List.append_assoc,
        Nat.add_assoc]

theorem lt_of_mem_rotation (positive : 0 < n) {i : Nat} (membership : i ∈ rotation start n count) :
    i < n := by
  obtain ⟨j, -, rfl⟩ := List.mem_map.mp membership
  exact Nat.mod_lt _ positive

theorem nodup_rotation (short : count ≤ n) : (rotation start n count).Nodup := by
  apply List.nodup_range.map_on
  intro j first k second same
  have first : j < n := (List.mem_range.mp first).trans_le short
  have second : k < n := (List.mem_range.mp second).trans_le short
  have residues : j % n = k % n := Nat.ModEq.add_left_cancel' start same
  rwa [Nat.mod_eq_of_lt first, Nat.mod_eq_of_lt second] at residues

theorem rotation_perm (start n : Nat) : (rotation start n n).Perm (List.range n) := by
  apply List.Subperm.perm_of_length_le
  · apply List.subperm_of_subset (nodup_rotation le_rfl)
    intro i membership
    apply List.mem_range.mpr
    have round : 0 < (rotation start n n).length := List.length_pos_of_mem membership
    rw [length_rotation] at round
    exact lt_of_mem_rotation round membership
  · rw [length_rotation, List.length_range]

/-- In any stretch of the length of a round everything is met once. -/
theorem window_perm {earlier window later : List Nat}
    (whole : rotation start n count = earlier ++ window ++ later)
    (round : window.length = n) : window.Perm (List.range n) := by
  have length := congrArg List.length whole
  simp only [length_rotation, List.length_append, round] at length
  rw [length, rotation_add, rotation_add] at whole
  have prefixes := List.append_inj_left whole (by
    simp only [List.length_append, length_rotation, round])
  have windows := List.append_inj_right prefixes length_rotation
  rw [← windows]
  exact rotation_perm ..

end Gloc.Transition
