import PageContent.Geometry.Rect
import PageContent.Object.Basic

namespace PageContent

/-- A stamp shows page objects of its own, one in each slot. The slot of an object that could not be read
is empty, so that slots have the indices of the objects in the library. -/
structure Stamp where
  bounds : Rect .page Float32
  slots : List (Option PageObject)
  deriving DecidableEq, BEq

structure Highlight where
  bounds : List (Rect .page Float32)
  color : Color
  deriving DecidableEq, BEq

structure FreeText where
  bounds : Rect .page Float32
  text : String
  textColor : Color
  backgroundColor : Color
  deriving DecidableEq, BEq

inductive Annot
  | stamp (stamp : Stamp)
  | highlight (highlight : Highlight)
  | freeText (note : FreeText)
  deriving DecidableEq, BEq

def Annot.kind : Annot → AnnotKind
  | .stamp _ => .stamp
  | .highlight _ => .highlight
  | .freeText _ => .freeText

namespace Stamp

def empty (bounds : Rect .page Float32) : Stamp := ⟨bounds, []⟩

def admits (kind : ObjectKind) : Bool := kind = .path || kind = .image

def add (s : Stamp) (o : PageObject) : Except Error Stamp :=
  if admits o.kind then .ok { s with slots := s.slots ++ [some o] } else .error (.unsupportedInStamp o.kind)

def remove (s : Stamp) (index : Nat) : Except Error (Option PageObject × Stamp) :=
  match s.slots[index]? with
  | some slot => .ok (slot, { s with slots := s.slots.eraseIdx index })
  | none => .error (.outOfRange index s.slots.length)

end Stamp

end PageContent
