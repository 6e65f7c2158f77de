import BattleMap.Geometry.Lattice
import BattleMap.Number

namespace BattleMap

/-!
# Loops

A loop is a closed polygon given by its corners; the side from the last corner
back to the first is implied.  Loops traced on the lattice have whole corners,
loops of a picture any numbers.

The area of a loop is found by the shoelace sum.  Since `y` grows downward it is
positive for a loop that runs clockwise on the screen and negative for a hole.
The sum is carried in binary64, but as long as it and its terms are whole
numbers that binary64 represents exactly it is kept as a whole number: up to
there both ways of adding agree, and beyond it they may not.
-/

/-- A closed polygon by its corners. -/
structure Loop (α : Type) where
  points : List (Point α)
deriving DecidableEq, Repr

namespace Point

def map (f : α -> β) (point : Point α) : Point β :=
  ⟨f point.x, f point.y⟩

def scaled (factor : Number) (point : Point Number) : Except Fault (Point Number) := do
  return ⟨← point.x.mul factor, ← point.y.mul factor⟩

end Point

namespace Loop

def map (f : α -> β) (loop : Loop α) : Loop β :=
  ⟨loop.points.map (Point.map f)⟩

/-- A list with its first element moved to the end. -/
def rotated : List β -> List β
  | [] => []
  | first :: rest => rest ++ [first]

/-- The sides of a loop, in order, each from one corner to the next. -/
def sides (loop : Loop α) : List (Point α × Point α) :=
  loop.points.zip (rotated loop.points)

def toNumbers (loop : Loop Int) : Loop Number :=
  loop.map .whole

def scaled (factor : Number) (loop : Loop Number) : Except Fault (Loop Number) := do
  return ⟨← loop.points.mapM (Point.scaled factor)⟩

/-- The shoelace sum of a lattice loop: twice its area. -/
def shoelace (loop : Loop Int) : Int :=
  (loop.sides.map fun side => side.1.x * side.2.y - side.2.x * side.1.y).foldr (· + ·) 0

/-- The steps from one lattice point to another along a straight or diagonal
line, each as a pair of neighbouring points. -/
def stepsBetween (a b : Vertex) : List (Vertex × Vertex) :=
  let dx := (b.x - a.x).sign
  let dy := (b.y - a.y).sign
  (List.range (max (b.x - a.x).natAbs (b.y - a.y).natAbs)).map fun (i : Nat) =>
    (⟨a.x + i * dx, a.y + i * dy⟩, ⟨a.x + (i + 1) * dx, a.y + (i + 1) * dy⟩)

/-- The unit steps of a lattice loop, side by side. -/
def unitSteps (loop : Loop Int) : List (Vertex × Vertex) :=
  loop.sides.flatMap fun side => stepsBetween side.1 side.2

/-- The loop with every coordinate cut to its whole part. -/
def truncated (loop : Loop Number) : Except Fault (Loop Int) := do
  return ⟨← loop.points.mapM fun point => do
    return ⟨← point.x.truncate, ← point.y.truncate⟩⟩

end Loop

/-- A signed area. -/
inductive Area where
  /-- A whole number of half cells, of a magnitude that binary64 represents exactly. -/
  | halves (n : Int)
  /-- Twice the area, as a fraction. -/
  | doubled (x : Float)
deriving DecidableEq, Repr

namespace Area

/-- Whether binary64 represents a whole number and every smaller one. -/
def isExact (n : Int) : Bool :=
  n.natAbs ≤ Number.exactLimit

def doubledFloat : Area -> Float
  | .halves n => Float.ofInt n
  | .doubled x => x

def toFloat (area : Area) : Float :=
  area.doubledFloat / 2

def add (area : Area) (term : Number) : Except Fault Area :=
  let rounded := do return .doubled (area.doubledFloat + (← term.toFloat))
  match area, term with
  | .halves total, .whole n =>
      if isExact n && isExact (total + n) then .ok (.halves (total + n)) else rounded
  | _, _ => rounded

/-- Whether the area is a number at all. -/
def isDefined : Area -> Bool
  | .halves _ => true
  | .doubled x => !x.isNaN

/-- Whether the area is below zero; an undefined area is not. -/
def isNegative : Area -> Bool
  | .halves n => n < 0
  | .doubled x => x / 2 < 0

/-- Whether the magnitude of the first area is strictly larger. -/
def isLarger : Area -> Area -> Bool
  | .halves a, .halves b => b.natAbs < a.natAbs
  | a, b => b.toFloat.abs < a.toFloat.abs

end Area

namespace Loop

/-- One term of the shoelace sum. -/
def areaTerm (side : Point Number × Point Number) : Except Fault Number := do
  (← side.1.x.mul side.2.y).sub (← side.2.x.mul side.1.y)

def area (loop : Loop Number) : Except Fault Area :=
  loop.sides.foldlM (fun total side => do total.add (← areaTerm side)) (.halves 0)

/-- A loop that runs around unfilled cells. -/
def isHole (loop : Loop Number) : Except Fault Bool := do
  return (← loop.area).isNegative

end Loop
end BattleMap
