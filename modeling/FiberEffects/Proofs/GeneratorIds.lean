import FiberEffects.Heap.Data
import Mathlib

namespace FiberEffects

namespace Data

def drawIds (d : Data) (g : Nat) : Nat → List Nat × Data
  | 0 => ([], d)
  | k + 1 => ((d.nextId g).1 :: ((d.nextId g).2.drawIds g k).1, ((d.nextId g).2.drawIds g k).2)

def nextOf (d : Data) (g : Nat) : Nat := d.idGens[g]?.getD 0

variable {d : Data} {g : Nat}

theorem nextId_fst : (d.nextId g).1 = d.nextOf g := rfl

theorem size_nextId : (d.nextId g).2.idGens.size = d.idGens.size := by
  simp [nextId, modifyAt]

theorem nextOf_nextId (hg : g < d.idGens.size) :
    (d.nextId g).2.nextOf g = wrappingSucc (d.nextOf g) := by
  have hget : d.idGens[g]? = some d.idGens[g] := Array.getElem?_eq_getElem hg
  simp [nextOf, nextId, modifyAt, Array.getElem?_modify, hget]

theorem wrappingSucc_add_mod (s i : Nat) :
    (wrappingSucc s + i) % (maxNanos + 1) = (s + (i + 1)) % (maxNanos + 1) := by
  rw [wrappingSucc, Nat.mod_add_mod, Nat.add_assoc, Nat.add_comm 1 i]

/-- Drawing from a generator hands out its next number and the ones after it, in 64-bit arithmetic. -/
theorem drawIds_eq (k : Nat) :
    ∀ {d : Data}, g < d.idGens.size → d.nextOf g ≤ maxNanos →
      (d.drawIds g k).1 = (List.range k).map fun i => (d.nextOf g + i) % (maxNanos + 1) := by
  induction k with
  | zero => exact fun _ _ => rfl
  | succ k ih =>
    intro d hg hs
    -- after one draw the generator stands one further on, still below the bound
    have hg' : g < (d.nextId g).2.idGens.size := by
      rw [size_nextId]
      exact hg
    have hs' : (d.nextId g).2.nextOf g ≤ maxNanos := by
      rw [nextOf_nextId hg, wrappingSucc]
      exact Nat.le_of_lt_succ (Nat.mod_lt _ (Nat.succ_pos _))
    rw [drawIds, List.range_succ_eq_map, List.map_cons, List.map_map]
    dsimp only
    have hlt : d.nextOf g < maxNanos + 1 := Nat.lt_succ_of_le hs
    rw [ih hg' hs', nextOf_nextId hg, nextId_fst, Nat.add_zero (d.nextOf g), Nat.mod_eq_of_lt hlt]
    congr 1
    exact List.map_congr_left fun i _ => wrappingSucc_add_mod _ _

/-- Counting on from a number modulo `m` gives distinct numbers for `m` steps. -/
theorem nodup_map_add_mod (s m k : Nat) (hk : k ≤ m) :
    ((List.range k).map fun i => (s + i) % m).Nodup := by
  refine List.Nodup.map_on (fun i hi j hj hij => ?_) List.nodup_range
  have hi' : i < m := Nat.lt_of_lt_of_le (List.mem_range.1 hi) hk
  have hj' : j < m := Nat.lt_of_lt_of_le (List.mem_range.1 hj) hk
  -- equal remainders of `s + i` and `s + j` make `i` and `j` equal modulo `m`
  have hmod : i % m = j % m := Nat.ModEq.add_left_cancel' s hij
  rwa [Nat.mod_eq_of_lt hi', Nat.mod_eq_of_lt hj'] at hmod

/-- A generator hands out consecutive numbers modulo `2 ^ 64`. -/
theorem generator_ids_consecutive (d : Data) (g k : Nat) (hg : g < d.idGens.size)
    (hs : d.nextOf g ≤ maxNanos) (hk : k ≤ maxNanos + 1) :
    (d.drawIds g k).1 = (List.range k).map (fun i => (d.nextOf g + i) % (maxNanos + 1)) ∧
      (d.drawIds g k).1.Nodup ∧
      (d.nextOf g + k ≤ maxNanos + 1 → (d.drawIds g k).1 = List.range' (d.nextOf g) k) := by
  have hdraw := drawIds_eq k hg hs
  refine ⟨hdraw, hdraw ▸ nodup_map_add_mod _ _ _ hk, fun hfit => ?_⟩
  -- without wrapping round, every remainder is the number itself
  rw [hdraw, List.range'_eq_map_range]
  exact List.map_congr_left fun i hi => Nat.mod_eq_of_lt (by have := List.mem_range.1 hi; omega)

theorem provided_generator_wraps :
    (0 < (({} : Data).newIdGen maxNanos).2.idGens.size ∧
      (({} : Data).newIdGen maxNanos).2.nextOf 0 ≤ maxNanos ∧ 2 ≤ maxNanos + 1) ∧
    ((({} : Data).newIdGen maxNanos).2.drawIds 0 2).1 =
        (List.range 2).map (fun i => ((({} : Data).newIdGen maxNanos).2.nextOf 0 + i) % (maxNanos + 1)) ∧
      ((({} : Data).newIdGen maxNanos).2.drawIds 0 2).1.Nodup ∧
      ((({} : Data).newIdGen maxNanos).2.nextOf 0 + 2 ≤ maxNanos + 1 →
        ((({} : Data).newIdGen maxNanos).2.drawIds 0 2).1 =
          List.range' ((({} : Data).newIdGen maxNanos).2.nextOf 0) 2) :=
  ⟨⟨by decide, by decide, by decide⟩,
    generator_ids_consecutive _ 0 2 (by decide) (by decide) (by decide)⟩

end Data

end FiberEffects
