import BattleMap.Proofs.Reordering
import BattleMap.Proofs.Ring

namespace BattleMap

open Regions (Cell)

/-!
# Outlines of masks that keep apart

Two masks keep apart if none of their filled cells coincide or share a side.
They may touch at corners, and one may lie in a hole of the other.  The outline
of both together then consists of their two outlines: a boundary edge of the one
has no filled cell of the other beside it, and where it goes on depends only on
cells that share a side with a filled cell of its own mask.  So the chains of
both masks together are chains of their union.
-/

namespace Mask

/-- The cells that are filled in one of two masks of the same size. -/
def union (first second : Mask) : Mask :=
  .ofFn first.width first.height fun x y => first.filled x y || second.filled x y

/-- No filled cell of the one mask is a filled cell of the other or shares a side with one. -/
def Apart (first second : Mask) : Prop :=
  forall a, a ∈ first.filledCells -> forall b, b ∈ second.filledCells ->
    a ≠ b ∧ Regions.shareSide ((a.1 : Int), (a.2 : Int)) ((b.1 : Int), (b.2 : Int)) = false

instance (first second : Mask) : Decidable (first.Apart second) :=
  inferInstanceAs (Decidable (forall a, a ∈ first.filledCells -> forall b, b ∈ second.filledCells ->
    a ≠ b ∧ Regions.shareSide ((a.1 : Int), (a.2 : Int)) ((b.1 : Int), (b.2 : Int)) = false))

variable {first second : Mask} {edge : Edge} {a b : Cell}

theorem union_comm (sameWidth : first.width = second.width)
    (sameHeight : first.height = second.height) : first.union second = second.union first := by
  unfold union
  rw [sameWidth, sameHeight]
  congr 1
  funext x y
  exact Bool.or_comm _ _

theorem fills_union (sameWidth : first.width = second.width)
    (sameHeight : first.height = second.height) (cell : Cell) :
    (first.union second).fills cell = (first.fills cell || second.fills cell) := by
  rw [Bool.eq_iff_iff, Bool.or_eq_true]
  simp only [fills_eq_true_iff, union, filled_ofFn, Bool.and_eq_true, Bool.or_eq_true,
    decide_eq_true_eq]
  constructor
  · rintro ⟨right, below, _, isFilled | isFilled⟩
    · exact Or.inl ⟨right, below, isFilled⟩
    · exact Or.inr ⟨right, below, isFilled⟩
  · rintro (⟨right, below, isFilled⟩ | ⟨right, below, isFilled⟩)
    · exact ⟨right, below, lt_of_filled isFilled, Or.inl isFilled⟩
    · have inside := lt_of_filled isFilled
      rw [← sameWidth, ← sameHeight] at inside
      exact ⟨right, below, inside, Or.inr isFilled⟩

theorem exists_mem_filledCells {mask : Mask} (isFilled : mask.fills a = true) :
    Exists fun cell => cell ∈ mask.filledCells ∧ ((cell.1 : Int), (cell.2 : Int)) = a := by
  rcases fills_eq_true_iff.mp isFilled with ⟨right, below, isFilled⟩
  exact ⟨(a.1.toNat, a.2.toNat), mem_filledCells.mpr isFilled,
    Prod.ext (Int.toNat_of_nonneg right) (Int.toNat_of_nonneg below)⟩

namespace Apart

theorem symm (apart : first.Apart second) : second.Apart first := by
  intro b memberB a memberA
  rcases apart a memberA b memberB with ⟨different, noSide⟩
  refine ⟨Ne.symm different, Bool.eq_false_iff.mpr fun side => ?_⟩
  have back := Regions.sideNeighbours_symm (Regions.mem_sideNeighbours.mpr side)
  rw [Regions.mem_sideNeighbours, noSide] at back
  exact Bool.false_ne_true back

/-- Beside a filled cell of the one mask the other one is not filled. -/
theorem fills_eq_false (apart : first.Apart second) (isFilled : first.fills a = true)
    (near : b = a ∨ b ∈ Regions.sideNeighbours a) : second.fills b = false := by
  rw [Bool.eq_false_iff]
  intro isFilledOther
  rcases exists_mem_filledCells isFilled with ⟨cell, member, rfl⟩
  rcases exists_mem_filledCells isFilledOther with ⟨other, memberOther, rfl⟩
  rcases apart cell member other memberOther with ⟨different, noSide⟩
  rcases near with same | beside
  · simp only [Prod.mk.injEq, Int.natCast_inj] at same
    exact different (Prod.ext same.1.symm same.2.symm)
  · rw [Regions.mem_sideNeighbours, noSide] at beside
    exact Bool.false_ne_true beside

variable (apart : first.Apart second) (sameWidth : first.width = second.width)
  (sameHeight : first.height = second.height)

include apart sameWidth sameHeight

/-- Near a filled cell of the one mask the union is filled as that mask is. -/
theorem fills_union_of_near (isFilled : first.fills a = true)
    (near : b = a ∨ b ∈ Regions.sideNeighbours a) :
    (first.union second).fills b = first.fills b := by
  rw [fills_union sameWidth sameHeight, apart.fills_eq_false isFilled near, Bool.or_false]

theorem mem_boundary_union_of_fills (right : first.fills edge.rightCell = true) :
    edge ∈ (first.union second).boundary ↔ edge ∈ first.boundary := by
  rw [mem_boundary, mem_boundary,
    apart.fills_union_of_near sameWidth sameHeight right (Or.inl rfl),
    apart.fills_union_of_near sameWidth sameHeight right (Or.inr edge.leftCell_mem_sideNeighbours)]

/-- The boundary of the union has the edges of both boundaries. -/
theorem mem_boundary_union :
    edge ∈ (first.union second).boundary ↔ edge ∈ first.boundary ∨ edge ∈ second.boundary := by
  have ofFirst : first.fills edge.rightCell = true ->
      (edge ∈ (first.union second).boundary ↔ edge ∈ first.boundary) :=
    apart.mem_boundary_union_of_fills sameWidth sameHeight
  have ofSecond : second.fills edge.rightCell = true ->
      (edge ∈ (first.union second).boundary ↔ edge ∈ second.boundary) := by
    rw [union_comm sameWidth sameHeight]
    exact apart.symm.mem_boundary_union_of_fills sameWidth.symm sameHeight.symm
  constructor
  · intro member
    have right := (mem_boundary.mp member).1
    rw [fills_union sameWidth sameHeight, Bool.or_eq_true] at right
    exact right.imp (fun right => (ofFirst right).mp member) fun right => (ofSecond right).mp member
  · rintro (member | member)
    · exact (ofFirst (mem_boundary.mp member).1).mpr member
    · exact (ofSecond (mem_boundary.mp member).1).mpr member

theorem boundary_perm : (first.boundary ++ second.boundary).Perm (first.union second).boundary := by
  have distinct : (first.boundary ++ second.boundary).Nodup := by
    refine first.nodup_boundary.append second.nodup_boundary ?_
    intro edge member memberOther
    have free := apart.fills_eq_false (mem_boundary.mp member).1 (Or.inl rfl)
    rw [(mem_boundary.mp memberOther).1] at free
    exact Bool.false_ne_true free.symm
  apply (List.perm_ext_iff_of_nodup distinct (nodup_boundary _)).mpr
  intro edge
  rw [List.mem_append, apart.mem_boundary_union sameWidth sameHeight]

/-- A boundary edge goes on in the union as it does in its own mask. -/
theorem follow_union (member : edge ∈ first.boundary) :
    (first.union second).follow edge = first.follow edge := by
  have ahead := apart.fills_union_of_near sameWidth sameHeight (mem_boundary.mp member).1
    (Or.inr edge.rightCell_onward_mem_sideNeighbours)
  unfold follow
  rw [ahead]
  split
  · rfl
  · next isFilled =>
    rw [apart.fills_union_of_near sameWidth sameHeight (Bool.of_not_eq_false isFilled)
      (Or.inr (edge.onward edge.direction).leftCell_mem_sideNeighbours)]

end Apart
end Mask

/-- Chains of two masks that keep apart are chains of their union. -/
theorem Traced.union {first second : Mask} {chains others : List Chain}
    (traced : Traced first chains) (tracedOther : Traced second others) (apart : first.Apart second)
    (sameWidth : first.width = second.width) (sameHeight : first.height = second.height) :
    Traced (first.union second) (chains ++ others) where
  edges := by
    rw [List.flatten_append]
    exact (traced.edges.append tracedOther.edges).trans (apart.boundary_perm sameWidth sameHeight)
  nonempty := by
    intro chain member
    rcases List.mem_append.mp member with listed | listed
    · exact traced.nonempty chain listed
    · exact tracedOther.nonempty chain listed
  orbit := by
    intro chain member
    rcases List.mem_append.mp member with listed | listed
    · rw [← traced.orbit chain listed]
      exact List.map_congr_left fun edge edgeMember =>
        apart.follow_union sameWidth sameHeight (traced.mem_boundary listed edgeMember)
    · rw [← tracedOther.orbit chain listed, Mask.union_comm sameWidth sameHeight]
      exact List.map_congr_left fun edge edgeMember =>
        apart.symm.follow_union sameWidth.symm sameHeight.symm
          (tracedOther.mem_boundary listed edgeMember)

/-- The outline of two masks that keep apart consists of the loops of both, point by
point, in some order. -/
theorem Mask.outline_union {first second : Mask} (sameWidth : first.width = second.width)
    (sameHeight : first.height = second.height) (apart : first.Apart second) :
    Exists fun loops : List (Loop Int) => Exists fun others : List (Loop Int) =>
      Exists fun joined : List (Loop Int) =>
        first.outline = .ok loops ∧ second.outline = .ok others ∧
          (first.union second).outline = .ok joined ∧ joined.Perm (loops ++ others) := by
  rcases first.exists_traced with ⟨chains, outlined, traced⟩
  rcases second.exists_traced with ⟨others, outlinedOther, tracedOther⟩
  rcases (first.union second).exists_traced with ⟨joined, outlinedUnion, tracedUnion⟩
  refine ⟨_, _, _, outlined, outlinedOther, outlinedUnion, ?_⟩
  rw [← List.map_append]
  exact tracedUnion.perm_loops (traced.union tracedOther apart sameWidth sameHeight)

/-- A courtyard surrounded by a cloister. -/
def cloister : Mask :=
  .ofFn 6 6 fun x y => x ≤ 4 && y ≤ 4 && (x = 0 || x = 4 || y = 0 || y = 4)

/-- A well in the middle of the courtyard, and a tower that touches the cloister at a
corner. -/
def wellAndTower : Mask :=
  .ofFn 6 6 fun x y => (x = 2 && y = 2) || (x = 5 && y = 5)

theorem Mask.outline_union_wellAndTower :
    (cloister.width = wellAndTower.width ∧ cloister.height = wellAndTower.height ∧
        cloister.Apart wellAndTower) ∧
      Exists fun loops : List (Loop Int) => Exists fun others : List (Loop Int) =>
        Exists fun joined : List (Loop Int) =>
          cloister.outline = .ok loops ∧ wellAndTower.outline = .ok others ∧
            (cloister.union wellAndTower).outline = .ok joined ∧ joined.Perm (loops ++ others) := by
  have apart : cloister.Apart wellAndTower := by decide +kernel
  exact ⟨⟨rfl, rfl, apart⟩, outline_union rfl rfl apart⟩

end BattleMap
