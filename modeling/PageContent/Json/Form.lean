import PageContent.Config
import PageContent.Geometry.Matrix
import PageContent.Geometry.Quad
import PageContent.Json.Number
import PageContent.Json.Parser
import PageContent.Json.Printer
import PageContent.Object.Basic

namespace PageContent.Json

class Form (α : Type) where
  read : Value → Option α
  write : α → Value

variable {α : Type}

def parse? [Form α] (text : String) : Option α := do Form.read (← Value.parse? text)

def print [Form α] (x : α) : String := String.ofList (Form.write x).print

/-- The values of the named fields. A record is an object with each of the names at most once and any
others, or an array of values in the order of the names, in which the last may be missing. -/
def fields? (names : List String) : Value → Option (List (Option Value))
  | .object fields => do
    let keyed ← fields.mapM fun (k, v) => do pure (← k.text?, v)
    names.mapM fun name =>
      match keyed.filter (·.1 = name) with
      | [] => some none
      | [(_, v)] => some (some v)
      | _ => none
  | .array items =>
    if items.length ≤ names.length then some ((List.range names.length).map (items[·]?)) else none
  | _ => none

def required [Form α] (v : Option Value) : Option α := v.bind Form.read

def defaulted [Form α] (x : α) : Option Value → Option α
  | none => some x
  | some v => Form.read v

def record (fields : List (String × Value)) : Value :=
  .object (fields.map fun (name, v) => (Quoted.ofString name, v))

/-- A value with a name is written as its name, and read also as the only key of an object in which it
has nothing with it. -/
def named (names : List (String × α)) : Value → Option α
  | .string s => do
    let text ← s.text?
    (names.find? (·.1 = text)).map (·.2)
  | .object [(k, .null)] => do
    let text ← k.text?
    (names.find? (·.1 = text)).map (·.2)
  | _ => none

instance : Form Bool where
  read
    | .bool b => some b
    | _ => none
  write := .bool

instance : Form UInt8 where
  read
    | .number n => n.toByte?
    | _ => none
  write b := .number (.ofNat b.toNat)

/-- A number that is not finite is written as null and cannot be read again. -/
instance : Form Float32 where
  read
    | .number n => n.toFloat32?
    | _ => none
  write x := (Number.ofFloat32? x).elim .null .number

instance : Form Color where
  read v := do
    let [r, g, b, a] ← fields? ["r", "g", "b", "a"] v | none
    pure ⟨← required r, ← required g, ← required b, ← required a⟩
  write c := record [("r", Form.write c.r), ("g", Form.write c.g), ("b", Form.write c.b), ("a", Form.write c.a)]

instance [Form α] : Form (Matrix α) where
  read v := do
    let [a, b, c, d, e, f] ← fields? ["a", "b", "c", "d", "e", "f"] v | none
    pure ⟨← required a, ← required b, ← required c, ← required d, ← required e, ← required f⟩
  write m := record [("a", Form.write m.a), ("b", Form.write m.b), ("c", Form.write m.c), ("d", Form.write m.d),
    ("e", Form.write m.e), ("f", Form.write m.f)]

instance [Form α] {s : Space} : Form (Point s α) where
  read v := do
    let [x, y] ← fields? ["x", "y"] v | none
    pure ⟨← required x, ← required y⟩
  write p := record [("x", Form.write p.x), ("y", Form.write p.y)]

instance [Form α] {s : Space} : Form (Rect s α) where
  read v := do
    let [left, top, right, bottom] ← fields? ["left", "top", "right", "bottom"] v | none
    pure ⟨← required left, ← required top, ← required right, ← required bottom⟩
  write r := record [("left", Form.write r.left), ("top", Form.write r.top), ("right", Form.write r.right),
    ("bottom", Form.write r.bottom)]

instance [Form α] : Form (Quad α) where
  read v := do
    let [x1, y1, x2, y2, x3, y3, x4, y4] ← fields? ["x1", "y1", "x2", "y2", "x3", "y3", "x4", "y4"] v | none
    pure ⟨⟨← required x1, ← required y1⟩, ⟨← required x2, ← required y2⟩, ⟨← required x3, ← required y3⟩,
      ⟨← required x4, ← required y4⟩⟩
  write q := record [("x1", Form.write q.upperLeft.x), ("y1", Form.write q.upperLeft.y),
    ("x2", Form.write q.upperRight.x), ("y2", Form.write q.upperRight.y), ("x3", Form.write q.lowerLeft.x),
    ("y3", Form.write q.lowerLeft.y), ("x4", Form.write q.lowerRight.x), ("y4", Form.write q.lowerRight.y)]

def Value.ofString (s : String) : Value := .string (Quoted.ofString s)

instance : Form PathCommand where
  read := named [("Move", .move), ("Line", .line)]
  write
    | .move => .ofString "Move"
    | .line => .ofString "Line"

instance : Form Segment where
  read v := do
    let [command, x, y, closed] ← fields? ["command", "x", "y", "is_closed"] v | none
    pure ⟨← required command, ← required x, ← required y, ← required closed⟩
  write s := record [("command", Form.write s.command), ("x", Form.write s.x), ("y", Form.write s.y),
    ("is_closed", Form.write s.closed)]

instance : Form FontFamily where
  read := named ([FontFamily.courier, .helvetica, .symbol, .times].map fun f => (f.name, f))
  write f := .ofString f.name

instance : Form Font where
  read v := do
    let [family, bold, italic] ← fields? ["family", "bold", "italic"] v | none
    pure ⟨← required family, ← required bold, ← required italic⟩
  write f := record [("family", Form.write f.family), ("bold", Form.write f.bold), ("italic", Form.write f.italic)]

instance : Form RenderMode where
  read := named ([RenderMode.fill, .stroke, .fillStroke].map fun m => (m.name, m))
  write m := .ofString m.name

instance : Form PixelFormat where
  read := named [("Unknown", .unknown), ("Bgr", .bgr), ("Bgrx", .bgrx), ("Bgra", .bgra)]
  write
    | .unknown => .ofString "Unknown"
    | .bgr => .ofString "Bgr"
    | .bgrx => .ofString "Bgrx"
    | .bgra => .ofString "Bgra"

instance : Form QuadShrink where
  read := named [("zero_fill", .zeroFill), ("remove_when_supported", .removeWhenSupported)]
  write
    | .zeroFill => .ofString "zero_fill"
    | .removeWhenSupported => .ofString "remove_when_supported"

instance : Form EditConfig where
  read v := do
    let [shrink, regenerate] ← fields? ["quad_shrink", "regenerate_content"] v | none
    pure ⟨← defaulted .zeroFill shrink, ← defaulted true regenerate⟩
  write c := record [("quad_shrink", Form.write c.quadShrink), ("regenerate_content", Form.write c.regenerateContent)]

end PageContent.Json
