import PageContent.Library.Edit

namespace PageContent

inductive Method
  | pageHeight
  | objectCount
  | objectAt
  | insertObject
  | detachObject
  | generateContent
  | destroyObject
  | objectKind
  | matrix
  | setMatrix
  | transform
  | bounds
  | color (paint : Paint)
  | setColor (paint : Paint)
  | strokeWidth
  | setStrokeWidth
  | createPath
  | addSegment (command : PathCommand)
  | closePath
  | segmentCount
  | segmentAt
  | drawMode
  | setDrawMode
  | createImage
  | bitmap
  | setBitmap
  | loadFont
  | createText
  | font
  | fontName
  | fontSize
  | text
  | setText
  | renderMode
  | setRenderMode
  | annotCount
  | annotAt
  | createAnnot
  | removeAnnot
  | annotIndex
  | annotKind
  | annotRect
  | setAnnotRect
  | embeddedCount
  | embeddedAt
  | embed
  | removeEmbedded
  | quadCount
  | quadAt
  | setQuad
  | appendQuad
  | removesQuads
  | removeQuad
  | annotString
  | setAnnotString
  | annotColor
  | setAnnotColor
  deriving DecidableEq

def Call.method : {α : Type} → Call α → Method
  | _, .pageHeight .. => .pageHeight
  | _, .objectCount .. => .objectCount
  | _, .objectAt .. => .objectAt
  | _, .insertObject .. => .insertObject
  | _, .detachObject .. => .detachObject
  | _, .generateContent .. => .generateContent
  | _, .destroyObject .. => .destroyObject
  | _, .objectKind .. => .objectKind
  | _, .matrix .. => .matrix
  | _, .setMatrix .. => .setMatrix
  | _, .transform .. => .transform
  | _, .bounds .. => .bounds
  | _, .color _ paint => .color paint
  | _, .setColor _ paint _ => .setColor paint
  | _, .strokeWidth .. => .strokeWidth
  | _, .setStrokeWidth .. => .setStrokeWidth
  | _, .createPath .. => .createPath
  | _, .addSegment _ command _ _ => .addSegment command
  | _, .closePath .. => .closePath
  | _, .segmentCount .. => .segmentCount
  | _, .segmentAt .. => .segmentAt
  | _, .drawMode .. => .drawMode
  | _, .setDrawMode .. => .setDrawMode
  | _, .createImage .. => .createImage
  | _, .bitmap .. => .bitmap
  | _, .setBitmap .. => .setBitmap
  | _, .loadFont .. => .loadFont
  | _, .createText .. => .createText
  | _, .font .. => .font
  | _, .fontName .. => .fontName
  | _, .fontSize .. => .fontSize
  | _, .text .. => .text
  | _, .setText .. => .setText
  | _, .renderMode .. => .renderMode
  | _, .setRenderMode .. => .setRenderMode
  | _, .annotCount .. => .annotCount
  | _, .annotAt .. => .annotAt
  | _, .createAnnot .. => .createAnnot
  | _, .removeAnnot .. => .removeAnnot
  | _, .annotIndex .. => .annotIndex
  | _, .annotKind .. => .annotKind
  | _, .annotRect .. => .annotRect
  | _, .setAnnotRect .. => .setAnnotRect
  | _, .embeddedCount .. => .embeddedCount
  | _, .embeddedAt .. => .embeddedAt
  | _, .embed .. => .embed
  | _, .removeEmbedded .. => .removeEmbedded
  | _, .quadCount .. => .quadCount
  | _, .quadAt .. => .quadAt
  | _, .setQuad .. => .setQuad
  | _, .appendQuad .. => .appendQuad
  | _, .removesQuads => .removesQuads
  | _, .removeQuad .. => .removeQuad
  | _, .annotString .. => .annotString
  | _, .setAnnotString .. => .setAnnotString
  | _, .annotColor .. => .annotColor
  | _, .setAnnotColor .. => .setAnnotColor

/-- A fault counts the calls of one method from one on, and strikes those it names, or all of them. -/
structure Fault where
  method : Method
  calls : Option (List Nat)
  /-- A code told in place of the true one, where a call tells a code or a count. -/
  value : Option Int
  seen : Nat

def Fault.strikes (f : Fault) (call : Nat) : Bool := f.calls.all (·.contains call)

/-- A library in front of which calls can be made to fail. A basic one does not know how to remove
quads. -/
structure Faulty (σ : Type) where
  inner : σ
  basic : Bool
  faults : List Fault

namespace Faulty

variable {σ : Type} [Library σ]

def setFault (s : Faulty σ) (f : Fault) : Faulty σ :=
  { s with faults := f :: s.faults.filter (·.method ≠ f.method) }

def clearFaults (s : Faulty σ) : Faulty σ := { s with faults := [] }

def forward {α : Type} (call : Call α) (s : Faulty σ) : α × Faulty σ :=
  let (answer, inner) := Library.perform call s.inner
  (answer, { s with inner })

/-- A struck call does not reach the library, unless only the kind of a segment is to be another. Counts
are words, so that a negative one is counted from the top. -/
def struck (value : Option Int) (s : Faulty σ) : {α : Type} → Call α → α × Faulty σ
  | _, .objectKind object =>
    (value.elim (Call.objectKind object).refused ObjectKind.ofCode, s)
  | _, .segmentCount _ => (value.map fun count : Int => (count % Layout.sizeLimit).toNat, s)
  | _, .segmentAt object index =>
    match value with
    | none => (none, s)
    | some code =>
      let (answer, s') := forward (.segmentAt object index) s
      (answer.map ({ · with kind := .ofCode code }), s')
  | _, call => (call.refused, s)

def perform {α : Type} (call : Call α) (s : Faulty σ) : α × Faulty σ :=
  if s.basic ∧ (call.method = .removesQuads ∨ call.method = .removeQuad) then (call.refused, s)
  else
    match s.faults.find? (·.method = call.method) with
    | none => forward call s
    | some f =>
      let f := { f with seen := f.seen + 1 }
      let s := s.setFault f
      if f.strikes f.seen then struck f.value s call else forward call s

instance : Library (Faulty σ) := ⟨perform⟩

end Faulty

end PageContent
