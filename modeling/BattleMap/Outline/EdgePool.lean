import BattleMap.Decimal.Power
import BattleMap.Geometry.Lattice

namespace BattleMap

/-!
# Pools of edges

A pool holds edges that may be taken out one at a time; an edge can be in it
several times.  What a pool holds is told by `EdgePool.multiplicity`: a new pool
has every edge as often as the list it is made of, and taking an edge lowers its
multiplicity by one and no other.

The edges are spread over buckets by where they start, so that an edge is found
without looking at all others.
-/

/-- Edges in buckets, of which there is at least one. -/
structure EdgePool where
  /-- The number of the last bucket. -/
  last : Nat
  buckets : Vector (List Edge) (last + 1)

namespace EdgePool

/-- The place of an edge's bucket.  The two factors are odd and the number of
buckets is a power of two, so that the edges along a row or a column are spread. -/
def slot (last : Nat) (edge : Edge) : Fin (last + 1) :=
  Fin.ofNat (last + 1) (edge.start.x * 7919 + edge.start.y * 104729).natAbs

def bucket (pool : EdgePool) (edge : Edge) : List Edge :=
  pool.buckets[(slot pool.last edge).val]

/-- How often a pool holds an edge. -/
def multiplicity (pool : EdgePool) (edge : Edge) : Nat :=
  (pool.bucket edge).count edge

def contains (pool : EdgePool) (edge : Edge) : Bool :=
  (pool.bucket edge).contains edge

def size (pool : EdgePool) : Nat :=
  (pool.buckets.toList.map List.length).foldr (· + ·) 0

/-- The pool with another bucket in the place of an edge's bucket. -/
def withBucket (pool : EdgePool) (edge : Edge) (edges : List Edge) : EdgePool where
  last := pool.last
  buckets := pool.buckets.set (slot pool.last edge) edges (slot pool.last edge).isLt

def put (pool : EdgePool) (edge : Edge) : EdgePool :=
  pool.withBucket edge (edge :: pool.bucket edge)

/-- The pool with an edge taken out once. -/
def take (pool : EdgePool) (edge : Edge) : EdgePool :=
  pool.withBucket edge ((pool.bucket edge).erase edge)

/-- A pool without edges, with buckets for a number of them. -/
def empty (count : Nat) : EdgePool where
  last := Decimal.twoTo (count.log2 + 1) - 1
  buckets := Vector.replicate _ []

def ofList (edges : List Edge) : EdgePool :=
  edges.foldl put (empty edges.length)

theorem contains_iff {pool : EdgePool} {edge : Edge} :
    pool.contains edge = true ↔ 0 < pool.multiplicity edge := by
  unfold contains multiplicity
  rw [List.contains_iff_mem, List.count_pos_iff]

theorem multiplicity_withBucket (pool : EdgePool) (edge other : Edge) (edges : List Edge) :
    (pool.withBucket edge edges).multiplicity other =
      if slot pool.last edge = slot pool.last other then edges.count other
      else pool.multiplicity other := by
  simp only [multiplicity, bucket, withBucket, Vector.getElem_set, Fin.ext_iff]
  split <;> rfl

/-- Only the edge that is put in becomes more frequent. -/
theorem multiplicity_put (pool : EdgePool) (edge other : Edge) :
    (pool.put edge).multiplicity other =
      pool.multiplicity other + if edge = other then 1 else 0 := by
  unfold put
  rw [multiplicity_withBucket]
  split
  · next same =>
    unfold multiplicity bucket
    simp only [same, List.count_cons, beq_iff_eq]
  · next different =>
    have distinct : edge ≠ other := fun same => different (congrArg _ same)
    rw [if_neg distinct, Nat.add_zero]

/-- Only the edge that is taken becomes less frequent. -/
theorem multiplicity_take (pool : EdgePool) (edge other : Edge) :
    (pool.take edge).multiplicity other =
      pool.multiplicity other - if edge = other then 1 else 0 := by
  unfold take
  rw [multiplicity_withBucket]
  split
  · next same =>
    unfold multiplicity bucket
    simp only [same, List.count_erase, beq_iff_eq]
  · next different =>
    have distinct : edge ≠ other := fun same => different (congrArg _ same)
    rw [if_neg distinct, Nat.sub_zero]

/-- An edge that is held is taken out once. -/
theorem multiplicity_take_add {pool : EdgePool} {edge : Edge}
    (held : pool.contains edge = true) (other : Edge) :
    (pool.take edge).multiplicity other + (if edge = other then 1 else 0) =
      pool.multiplicity other := by
  rw [multiplicity_take]
  by_cases same : edge = other
  · rw [same, contains_iff] at held
    rw [if_pos same]
    omega
  · rw [if_neg same]
    rfl

@[simp] theorem multiplicity_empty (count : Nat) (edge : Edge) :
    (empty count).multiplicity edge = 0 := by
  simp only [multiplicity, bucket, empty, Vector.getElem_replicate, List.count_nil]

theorem multiplicity_foldl_put (edges : List Edge) (pool : EdgePool) (edge : Edge) :
    (edges.foldl put pool).multiplicity edge = pool.multiplicity edge + edges.count edge := by
  induction edges generalizing pool with
  | nil => rfl
  | cons first rest added =>
      rw [List.foldl_cons, added, multiplicity_put, List.count_cons]
      simp only [beq_iff_eq]
      omega

/-- A new pool holds every edge as often as the list. -/
theorem multiplicity_ofList (edges : List Edge) (edge : Edge) :
    (ofList edges).multiplicity edge = edges.count edge := by
  unfold ofList
  rw [multiplicity_foldl_put, multiplicity_empty, Nat.zero_add]

/-- Replacing one of several lists changes the total length by its own. -/
theorem foldr_length_set (lists : List (List Edge)) (i : Nat) (within : i < lists.length)
    (list : List Edge) :
    ((lists.set i list).map List.length).foldr (· + ·) 0 + lists[i].length =
      (lists.map List.length).foldr (· + ·) 0 + list.length := by
  induction lists generalizing i with
  | nil => exact absurd within (Nat.not_lt_zero i)
  | cons first rest shorter =>
      cases i with
      | zero => simp; omega
      | succ i =>
          have rest := shorter i (Nat.lt_of_succ_lt_succ within)
          simp only [List.set_cons_succ, List.map_cons, List.foldr_cons, List.getElem_cons_succ]
          omega

/-- Taking an edge that a pool holds leaves fewer edges. -/
theorem size_take_lt {pool : EdgePool} {edge : Edge} (held : pool.contains edge = true) :
    (pool.take edge).size < pool.size := by
  have member : edge ∈ pool.bucket edge := List.contains_iff_mem.mp held
  have positive := List.length_pos_of_mem member
  have within : (slot pool.last edge).val < pool.buckets.toList.length := by
    rw [Vector.length_toList]
    exact (slot pool.last edge).isLt
  have change := foldr_length_set pool.buckets.toList (slot pool.last edge).val within
    ((pool.bucket edge).erase edge)
  rw [List.length_erase_of_mem member, Vector.getElem_toList] at change
  unfold size take withBucket
  rw [Vector.toList_set]
  unfold bucket at positive change ⊢
  omega

end EdgePool
end BattleMap
