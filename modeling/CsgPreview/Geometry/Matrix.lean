import CsgPreview.Decimal.Plain

/-!
Small vectors and matrices of doubles: points and directions in the plane and in space, 3×3
linear maps and 4×4 affine transforms in homogeneous coordinates.

Products add their terms left to right, first term first (`((a₀b₀ + a₁b₁) + a₂b₂) + …`), so
that every entry is the same double whatever order of evaluation one might otherwise pick.
-/

namespace CsgPreview.Geometry

/-- A point or direction in the plane. -/
structure Vec2 where
  x : Float
  y : Float
  deriving Inhabited

/-- A point or direction in space. -/
structure Vec3 where
  x : Float
  y : Float
  z : Float
  deriving Inhabited

namespace Vec3

def zero : Vec3 := ⟨0, 0, 0⟩

def add (a b : Vec3) : Vec3 := ⟨a.x + b.x, a.y + b.y, a.z + b.z⟩
def sub (a b : Vec3) : Vec3 := ⟨a.x - b.x, a.y - b.y, a.z - b.z⟩
def scale (s : Float) (a : Vec3) : Vec3 := ⟨s * a.x, s * a.y, s * a.z⟩
def neg (a : Vec3) : Vec3 := ⟨-a.x, -a.y, -a.z⟩
def divBy (a : Vec3) (s : Float) : Vec3 := ⟨a.x / s, a.y / s, a.z / s⟩

def dot (a b : Vec3) : Float := a.x * b.x + a.y * b.y + a.z * b.z

def cross (a b : Vec3) : Vec3 :=
  ⟨a.y * b.z - a.z * b.y, a.z * b.x - a.x * b.z, a.x * b.y - a.y * b.x⟩

def norm (a : Vec3) : Float := (a.dot a).sqrt

def normalize (a : Vec3) : Vec3 := a.divBy a.norm

def tryNormalize (a : Vec3) (least : Float) : Option Vec3 :=
  let n := a.norm
  if n <= least then none else some (a.divBy n)

def get (a : Vec3) : Fin 3 → Float
  | 0 => a.x
  | 1 => a.y
  | 2 => a.z

end Vec3

/-- A 3×3 matrix by rows. -/
structure Mat3 where
  r0 : Vec3
  r1 : Vec3
  r2 : Vec3
  deriving Inhabited

namespace Mat3

def get (m : Mat3) (i j : Fin 3) : Float :=
  match i with
  | 0 => m.r0.get j
  | 1 => m.r1.get j
  | 2 => m.r2.get j

def ofFn (f : Fin 3 → Fin 3 → Float) : Mat3 :=
  ⟨⟨f 0 0, f 0 1, f 0 2⟩, ⟨f 1 0, f 1 1, f 1 2⟩, ⟨f 2 0, f 2 1, f 2 2⟩⟩

def identity : Mat3 := ⟨⟨1, 0, 0⟩, ⟨0, 1, 0⟩, ⟨0, 0, 1⟩⟩

def mul (a b : Mat3) : Mat3 :=
  ofFn fun i j => a.get i 0 * b.get 0 j + a.get i 1 * b.get 1 j + a.get i 2 * b.get 2 j

def transpose (m : Mat3) : Mat3 := ofFn fun i j => m.get j i

def apply (m : Mat3) (v : Vec3) : Vec3 :=
  ⟨m.get 0 0 * v.x + m.get 0 1 * v.y + m.get 0 2 * v.z,
   m.get 1 0 * v.x + m.get 1 1 * v.y + m.get 1 2 * v.z,
   m.get 2 0 * v.x + m.get 2 1 * v.y + m.get 2 2 * v.z⟩

def axisAngle (axis : Vec3) (angle : Float) : Mat3 :=
  if angle == 0 then identity
  else
    let ux := axis.x
    let uy := axis.y
    let uz := axis.z
    let sqx := ux * ux
    let sqy := uy * uy
    let sqz := uz * uz
    let sin := angle.sin
    let cos := angle.cos
    let oneMinusCos := 1 - cos
    ⟨⟨sqx + (1 - sqx) * cos, ux * uy * oneMinusCos - uz * sin, ux * uz * oneMinusCos + uy * sin⟩,
     ⟨ux * uy * oneMinusCos + uz * sin, sqy + (1 - sqy) * cos, uy * uz * oneMinusCos - ux * sin⟩,
     ⟨ux * uz * oneMinusCos - uy * sin, uy * uz * oneMinusCos + ux * sin, sqz + (1 - sqz) * cos⟩⟩

def reflection (n : Vec3) : Mat3 :=
  ofFn fun i j => identity.get i j - 2 * n.get i * n.get j

end Mat3

/-- A point or direction in homogeneous coordinates. -/
structure Vec4 where
  x : Float
  y : Float
  z : Float
  w : Float
  deriving Inhabited

def Vec4.get (a : Vec4) : Fin 4 → Float
  | 0 => a.x
  | 1 => a.y
  | 2 => a.z
  | 3 => a.w

/-- A 4×4 matrix by rows. -/
structure Mat4 where
  r0 : Vec4
  r1 : Vec4
  r2 : Vec4
  r3 : Vec4
  deriving Inhabited

namespace Mat4

def get (m : Mat4) (i j : Fin 4) : Float :=
  match i with
  | 0 => m.r0.get j
  | 1 => m.r1.get j
  | 2 => m.r2.get j
  | 3 => m.r3.get j

def ofFn (f : Fin 4 → Fin 4 → Float) : Mat4 :=
  ⟨⟨f 0 0, f 0 1, f 0 2, f 0 3⟩, ⟨f 1 0, f 1 1, f 1 2, f 1 3⟩,
   ⟨f 2 0, f 2 1, f 2 2, f 2 3⟩, ⟨f 3 0, f 3 1, f 3 2, f 3 3⟩⟩

def identity : Mat4 := ⟨⟨1, 0, 0, 0⟩, ⟨0, 1, 0, 0⟩, ⟨0, 0, 1, 0⟩, ⟨0, 0, 0, 1⟩⟩

def mul (a b : Mat4) : Mat4 :=
  ofFn fun i j =>
    a.get i 0 * b.get 0 j + a.get i 1 * b.get 1 j + a.get i 2 * b.get 2 j + a.get i 3 * b.get 3 j

def translation (v : Vec3) : Mat4 :=
  ⟨⟨1, 0, 0, v.x⟩, ⟨0, 1, 0, v.y⟩, ⟨0, 0, 1, v.z⟩, ⟨0, 0, 0, 1⟩⟩

def scaling (v : Vec3) : Mat4 :=
  ⟨⟨v.x, 0, 0, 0⟩, ⟨0, v.y, 0, 0⟩, ⟨0, 0, v.z, 0⟩, ⟨0, 0, 0, 1⟩⟩

def ofLinear (m : Mat3) : Mat4 :=
  ofFn fun i j =>
    if h : i.val < 3 ∧ j.val < 3 then m.get ⟨i.val, h.1⟩ ⟨j.val, h.2⟩
    else if i == j then 1 else 0

def linear (m : Mat4) : Mat3 :=
  Mat3.ofFn fun i j => m.get ⟨i.val, by omega⟩ ⟨j.val, by omega⟩

def transpose (m : Mat4) : Mat4 := ofFn fun i j => m.get j i

def scaleBy (m : Mat4) (s : Float) : Mat4 := ofFn fun i j => m.get i j * s

/-- A point moved by the transform: the linear part applied and the translation added, then
divided by the homogeneous coordinate when the last row is not `0 0 0 _`. -/
def transformPoint (m : Mat4) (p : Vec3) : Vec3 :=
  let n := 0 + m.get 3 0 * p.x + m.get 3 1 * p.y + m.get 3 2 * p.z
  let moved := (m.linear.apply p).add ⟨m.get 0 3, m.get 1 3, m.get 2 3⟩
  if n == 0 then moved else moved.divBy (n + m.get 3 3)

/-- A direction moved by the transform: only the linear part acts, after dividing by the
homogeneous coordinate when the last row is not `0 0 0 _`. -/
def transformVector (m : Mat4) (v : Vec3) : Vec3 :=
  let n := 0 + m.get 3 0 * v.x + m.get 3 1 * v.y + m.get 3 2 * v.z
  if n == 0 then m.linear.apply v else m.linear.apply (v.divBy n)

/-- The inverse by cofactors, none when the determinant is zero. Entry `k` of the column-major
list is row `k % 4`, column `k / 4`. -/
def inverse? (a : Mat4) : Option Mat4 :=
  let m (k : Nat) : Float := a.get ⟨k % 4, Nat.mod_lt _ (by decide)⟩ ⟨(k / 4) % 4, Nat.mod_lt _ (by decide)⟩
  let c00 := m 5 * m 10 * m 15 - m 5 * m 11 * m 14 - m 9 * m 6 * m 15 + m 9 * m 7 * m 14 +
    m 13 * m 6 * m 11 - m 13 * m 7 * m 10
  let c01 := -m 4 * m 10 * m 15 + m 4 * m 11 * m 14 + m 8 * m 6 * m 15 - m 8 * m 7 * m 14 -
    m 12 * m 6 * m 11 + m 12 * m 7 * m 10
  let c02 := m 4 * m 9 * m 15 - m 4 * m 11 * m 13 - m 8 * m 5 * m 15 + m 8 * m 7 * m 13 +
    m 12 * m 5 * m 11 - m 12 * m 7 * m 9
  let c03 := -m 4 * m 9 * m 14 + m 4 * m 10 * m 13 + m 8 * m 5 * m 14 - m 8 * m 6 * m 13 -
    m 12 * m 5 * m 10 + m 12 * m 6 * m 9
  let det := m 0 * c00 + m 1 * c01 + m 2 * c02 + m 3 * c03
  if det == 0 then none
  else
    let i10 := -m 1 * m 10 * m 15 + m 1 * m 11 * m 14 + m 9 * m 2 * m 15 - m 9 * m 3 * m 14 -
      m 13 * m 2 * m 11 + m 13 * m 3 * m 10
    let i20 := m 1 * m 6 * m 15 - m 1 * m 7 * m 14 - m 5 * m 2 * m 15 + m 5 * m 3 * m 14 +
      m 13 * m 2 * m 7 - m 13 * m 3 * m 6
    let i30 := -m 1 * m 6 * m 11 + m 1 * m 7 * m 10 + m 5 * m 2 * m 11 - m 5 * m 3 * m 10 -
      m 9 * m 2 * m 7 + m 9 * m 3 * m 6
    let i11 := m 0 * m 10 * m 15 - m 0 * m 11 * m 14 - m 8 * m 2 * m 15 + m 8 * m 3 * m 14 +
      m 12 * m 2 * m 11 - m 12 * m 3 * m 10
    let i21 := -m 0 * m 6 * m 15 + m 0 * m 7 * m 14 + m 4 * m 2 * m 15 - m 4 * m 3 * m 14 -
      m 12 * m 2 * m 7 + m 12 * m 3 * m 6
    let i31 := m 0 * m 6 * m 11 - m 0 * m 7 * m 10 - m 4 * m 2 * m 11 + m 4 * m 3 * m 10 +
      m 8 * m 2 * m 7 - m 8 * m 3 * m 6
    let i12 := -m 0 * m 9 * m 15 + m 0 * m 11 * m 13 + m 8 * m 1 * m 15 - m 8 * m 3 * m 13 -
      m 12 * m 1 * m 11 + m 12 * m 3 * m 9
    let i22 := m 0 * m 5 * m 15 - m 0 * m 7 * m 13 - m 4 * m 1 * m 15 + m 4 * m 3 * m 13 +
      m 12 * m 1 * m 7 - m 12 * m 3 * m 5
    let i32 := -m 0 * m 5 * m 11 + m 0 * m 7 * m 9 + m 4 * m 1 * m 11 - m 4 * m 3 * m 9 -
      m 8 * m 1 * m 7 + m 8 * m 3 * m 5
    let i13 := m 0 * m 9 * m 14 - m 0 * m 10 * m 13 - m 8 * m 1 * m 14 + m 8 * m 2 * m 13 +
      m 12 * m 1 * m 10 - m 12 * m 2 * m 9
    let i23 := -m 0 * m 5 * m 14 + m 0 * m 6 * m 13 + m 4 * m 1 * m 14 - m 4 * m 2 * m 13 -
      m 8 * m 1 * m 6 + m 8 * m 2 * m 5
    let i33 := m 0 * m 5 * m 10 - m 0 * m 6 * m 9 - m 4 * m 1 * m 10 + m 4 * m 2 * m 9 +
      m 8 * m 1 * m 6 - m 8 * m 2 * m 5
    let cof : Mat4 := ⟨⟨c00, c01, c02, c03⟩, ⟨i10, i11, i12, i13⟩, ⟨i20, i21, i22, i23⟩,
      ⟨i30, i31, i32, i33⟩⟩
    some (cof.scaleBy (1 / det))

def det3 (m : Mat4) : Float :=
  let minor1 := m.get 1 1 * m.get 2 2 - m.get 2 1 * m.get 1 2
  let minor2 := m.get 1 0 * m.get 2 2 - m.get 2 0 * m.get 1 2
  let minor3 := m.get 1 0 * m.get 2 1 - m.get 2 0 * m.get 1 1
  m.get 0 0 * minor1 - m.get 0 1 * minor2 + m.get 0 2 * minor3

def det2 (m : Mat4) : Float := m.get 0 0 * m.get 1 1 - m.get 1 0 * m.get 0 1

def text (m : Mat4) : String :=
  let row (r : Vec4) : String :=
    "[" ++ ", ".intercalate ([r.x, r.y, r.z, r.w].map Decimal.plainOfFloat) ++ "]"
  "[" ++ ", ".intercalate ([m.r0, m.r1, m.r2, m.r3].map row) ++ "]"

end Mat4

end CsgPreview.Geometry
