import TypedBox.Binary.Float
import TypedBox.Text.Basic

/-! # Points, sizes and rectangles

Records of double precision coordinates.  They are equal when all coordinates
have the same bit patterns.  A rectangle is an origin and a size, and is
compared, hashed and displayed through them.
-/
namespace TypedBox

/-- A point of the plane. -/
structure Point where
  /-- The horizontal coordinate. -/
  x : Double
  /-- The vertical coordinate. -/
  y : Double
  deriving DecidableEq

namespace Point

/-- The origin of the plane. -/
def zero : Point := ⟨.zero, .zero⟩

/-- How a point is displayed. -/
def displayText (p : Point) : String :=
  "(" ++ p.x.displayText ++ ", " ++ p.y.displayText ++ ")"

def debugText (p : Point) : String :=
  Text.fields "Point" [("x", p.x.debugText), ("y", p.y.debugText)]

/-- The bytes of both coordinates. -/
def hashBytes (p : Point) : List UInt8 := p.x.hashBytes ++ p.y.hashBytes

end Point

/-- A horizontal and a vertical extent. -/
structure Size where
  width : Double
  height : Double
  deriving DecidableEq

namespace Size

/-- The empty extent. -/
def zero : Size := ⟨.zero, .zero⟩

/-- How a size is displayed. -/
def displayText (s : Size) : String :=
  s.width.displayText ++ "x" ++ s.height.displayText

def debugText (s : Size) : String :=
  Text.fields "Size" [("width", s.width.debugText), ("height", s.height.debugText)]

/-- The bytes of both extents. -/
def hashBytes (s : Size) : List UInt8 := s.width.hashBytes ++ s.height.hashBytes

end Size

/-- A rectangle with sides parallel to the axes. -/
structure Rect where
  /-- The horizontal coordinate of the origin. -/
  x : Double
  /-- The vertical coordinate of the origin. -/
  y : Double
  width : Double
  height : Double

namespace Rect

/-- The rectangle with the given origin and size. -/
def ofParts (origin : Point) (size : Size) : Rect :=
  ⟨origin.x, origin.y, size.width, size.height⟩

/-- The empty rectangle at the origin of the plane. -/
def zero : Rect := ofParts .zero .zero

/-- The corner at which the rectangle starts. -/
def origin (r : Rect) : Point := ⟨r.x, r.y⟩

/-- The extent of the rectangle. -/
def size (r : Rect) : Size := ⟨r.width, r.height⟩

@[simp] theorem ofParts_origin_size (r : Rect) : ofParts r.origin r.size = r := rfl

/-- Rectangles are equal when their origins and their sizes are. -/
def beq (a b : Rect) : Bool := a.origin == b.origin && a.size == b.size

instance : BEq Rect := ⟨beq⟩

/-- How a rectangle is displayed. -/
def displayText (r : Rect) : String :=
  r.origin.displayText ++ " " ++ r.size.displayText

def debugText (r : Rect) : String :=
  Text.fields "Rect"
    [("x", r.x.debugText), ("y", r.y.debugText),
     ("width", r.width.debugText), ("height", r.height.debugText)]

/-- The bytes of the origin, then those of the size. -/
def hashBytes (r : Rect) : List UInt8 := r.origin.hashBytes ++ r.size.hashBytes

end Rect
end TypedBox
