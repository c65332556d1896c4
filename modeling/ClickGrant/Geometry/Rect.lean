/-!
# Rectangles

Axis-aligned rectangles in device-independent units, an origin and an extent each a double. The
containment tests are inclusive and take a tolerance; the overlap test is strict, so two
rectangles that only share an edge do not overlap. Every test is a conjunction of comparisons and
is false as soon as a NaN takes part.
-/
set_option autoImplicit false

namespace ClickGrant

/-- A rectangle with its origin at `(x, y)`. -/
structure Rect where
  x : Float
  y : Float
  width : Float
  height : Float

/-- A point. -/
structure Point where
  x : Float
  y : Float
  deriving Repr

namespace Rect

/-- The right edge. -/
def right (r : Rect) : Float := r.x + r.width

/-- The bottom edge. -/
def bottom (r : Rect) : Float := r.y + r.height

def area (r : Rect) : Float := r.width * r.height

def center (r : Rect) : Point := { x := r.x + r.width / 2, y := r.y + r.height / 2 }

/-- The top-left corner. -/
def origin (r : Rect) : Point := { x := r.x, y := r.y }

/-- All coordinates finite, the origin non-negative, the extent strictly positive. -/
def isPositiveFinite (r : Rect) : Bool :=
  r.x.isFinite && r.y.isFinite && r.width.isFinite && r.height.isFinite
    && r.x ≥ 0 && r.y ≥ 0 && r.width > 0 && r.height > 0

/-- Whether `p` lies in the rectangle, edges included, up to `epsilon` on every side. -/
def containsPoint (r : Rect) (p : Point) (epsilon : Float) : Bool :=
  p.x ≥ r.x - epsilon && p.x ≤ r.right + epsilon
    && p.y ≥ r.y - epsilon && p.y ≤ r.bottom + epsilon

/-- Whether `inner` lies in the rectangle, up to `epsilon` on every side. -/
def contains (r inner : Rect) (epsilon : Float) : Bool :=
  inner.x ≥ r.x - epsilon && inner.y ≥ r.y - epsilon
    && inner.right ≤ r.right + epsilon && inner.bottom ≤ r.bottom + epsilon

/-- Strict overlap. -/
def intersects (r other : Rect) : Bool :=
  r.x < other.right && other.x < r.right && r.y < other.bottom && other.y < r.bottom

/-- The rectangle scaled about the point `anchor`. -/
def scaledAbout (r : Rect) (anchor : Point) (scale : Float) : Rect :=
  { x := anchor.x + (r.x - anchor.x) * scale
    y := anchor.y + (r.y - anchor.y) * scale
    width := r.width * scale
    height := r.height * scale }

end Rect

end ClickGrant
