import Dossier.Number.FloatOrder

/-!
# Rectangles on a page

* `Rectangle` : an area given by two corners, in page units;
* `Rectangle.normalized` : the same area with its edges in order;
* `Rectangle.contains` : whether one area lies in another.
-/

namespace Dossier

/-- An area of a page with edges parallel to it. The corners may be given in any order. -/
structure Rectangle where
  x : Float
  y : Float
  x2 : Float
  y2 : Float
deriving Inhabited

namespace Rectangle

/-- The area with its edges in order. -/
def normalized (r : Rectangle) : Rectangle :=
  ⟨lesser r.x r.x2, lesser r.y r.y2, greater r.x r.x2, greater r.y r.y2⟩

def width (r : Rectangle) : Float := r.x2 - r.x

def height (r : Rectangle) : Float := r.y2 - r.y

/-- Whether the rectangle encloses no area. -/
def isEmpty (r : Rectangle) : Bool := !(decide (r.x < r.x2) && decide (r.y < r.y2))

/-- Whether another rectangle lies within this one. It may touch the right and the lower edge, but
not the left and the upper one. -/
def contains (r other : Rectangle) : Bool :=
  decide (r.x < other.x) && decide (other.x2 ≤ r.x2) && decide (r.y < other.y) &&
    decide (other.y2 ≤ r.y2)

/-- Whether two rectangles have equal edges, as numbers. -/
def same (a b : Rectangle) : Bool := a.x == b.x && a.y == b.y && a.x2 == b.x2 && a.y2 == b.y2

end Rectangle

end Dossier
