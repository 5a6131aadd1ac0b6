import PageContent.Document.Basic
import PageContent.Library.Edit

namespace PageContent

def Call.failPoint? : {α : Type} → Call α → Option FailPoint
  | _, .createPath .. => some .createPath
  | _, .createImage .. => some .createImage
  | _, .createText .. => some .createText
  | _, .createAnnot .. => some .createAnnot
  | _, .setBitmap .. => some .setBitmap
  | _, .setMatrix .. => some .setMatrix
  | _, .bounds .. => some .getBounds
  | _, .setStrokeWidth .. => some .setStrokeWidth
  | _, .insertObject .. => some .insertObject
  | _, .embed .. => some .embedObject
  | _, .setAnnotColor .. => some .setAnnotColor
  | _, .loadFont .. => some .loadFont
  | _, _ => none

namespace Document

/-- A change that is refused leaves the document as it was. -/
def tell (d : Document) : Option Document → Bool × Document
  | none => (false, d)
  | some d' => (true, d')

def issue {ι : Type} (d : Document) : Option (ι × Document) → Option ι × Document
  | none => (none, d)
  | some (id, d') => (some id, d')

def object? (d : Document) (object : ObjectId) : Option StoredObject := d.objects.get? object

def annot? (d : Document) (annot : AnnotId) : Option StoredAnnot := d.annots.get? annot

def content? (d : Document) (object : ObjectId) : Option StoredContent := (d.object? object).map (·.content)

def copied (units? : Option (List UInt16)) (buffer : List UInt16) : Nat × List UInt16 :=
  units?.elim (0, buffer) (Utf16.copyInto buffer)

def closeLast (segments : List StoredSegment) : Option (List StoredSegment) :=
  segments.getLast?.map fun last => segments.dropLast ++ [{ last with closed := true }]

/-- The answer to a call and the document after it, when no fail point stands in the way. -/
def run (d : Document) : {α : Type} → Call α → α × Document
  | _, .pageHeight page => ((d.pages.get? page).map (·.height), d)
  | _, .objectCount page => ((d.pages.get? page).map (·.objects.length), d)
  | _, .objectAt page index => ((d.pages.get? page).bind (·.objects[index]?), d)
  | _, .insertObject page object => d.tell (d.insertObject page object)
  | _, .detachObject page object => d.tell (d.detachObject page object)
  | _, .generateContent page =>
    d.tell (d.changePage page fun p => some { p with generations := p.generations + 1 })
  | _, .destroyObject object => ((), d.destroyObject object)
  | _, .objectKind object => ((d.object? object).elim .unknown (·.content.kind), d)
  | _, .matrix object => ((d.object? object).map (·.matrix), d)
  | _, .setMatrix object matrix => d.tell (d.changeObject object fun o => some { o with matrix })
  | _, .transform object matrix =>
    ((), (d.tell (d.changeObject object fun o => some { o with matrix := o.matrix.multiply matrix })).2)
  | _, .bounds object => ((d.object? object).bind (·.bounds?), d)
  | _, .color object paint => ((d.object? object).map (·.color paint), d)
  | _, .setColor object paint color => d.tell (d.changeObject object fun o => some (o.setColor color paint))
  | _, .strokeWidth object => ((d.object? object).map (·.strokeWidth), d)
  | _, .setStrokeWidth object width =>
    d.tell (if width < 0 then none else d.changeObject object fun o => some { o with strokeWidth := width })
  | _, .createPath x y =>
    d.issue (some (d.createObject (.path [⟨.moveTo, x, y, false⟩] ⟨.none, false⟩)))
  | _, .addSegment object command x y =>
    d.tell (d.changeSegments object fun segments => some (segments ++ [⟨command.segmentKind, x, y, false⟩]))
  | _, .closePath object => d.tell (d.changeSegments object closeLast)
  | _, .segmentCount object => (((d.content? object).bind (·.segments?)).map (·.length), d)
  | _, .segmentAt object index => (((d.content? object).bind (·.segments?)).bind (·[index]?), d)
  | _, .drawMode object => ((d.content? object).bind (·.drawMode?), d)
  | _, .setDrawMode object mode => d.tell (d.changeContent object (·.setDrawMode? mode))
  | _, .createImage _ => d.issue (some (d.createObject (.image none)))
  | _, .bitmap object => ((d.content? object).bind (·.bitmap?), d)
  | _, .setBitmap object bitmap => d.tell (d.replaceBitmap object (some bitmap.toRaw))
  | _, .loadFont _ name =>
    (some ⟨d.issued + 1⟩, { d with issued := d.issued + 1, fonts := d.fonts.insert ⟨d.issued + 1⟩ name })
  | _, .createText _ font size =>
    d.issue (if d.fonts.contains font then some (d.createObject (.text font size [0] 0)) else none)
  | _, .font object => ((d.content? object).bind (·.font?), d)
  | _, .fontName font => (d.fonts.get? font, d)
  | _, .fontSize object => ((d.content? object).bind (·.fontSize?), d)
  | _, .text object page buffer =>
    (copied ((d.pages.get? page).bind fun _ => (d.content? object).bind (·.units?)) buffer, d)
  | _, .setText object units => d.tell (d.changeContent object (·.setUnits? units))
  | _, .renderMode object => ((d.content? object).bind (·.renderMode?), d)
  | _, .setRenderMode object code => d.tell (d.changeContent object (·.setRenderMode? code))
  | _, .annotCount page => ((d.pages.get? page).map (·.annots.length), d)
  | _, .annotAt page index => ((d.pages.get? page).bind (·.annots[index]?), d)
  | _, .createAnnot page kind => d.issue (d.createAnnot page kind)
  | _, .removeAnnot page index => d.tell (d.removeAnnot page index)
  | _, .annotIndex page annot => ((d.pages.get? page).bind (·.annots.idxOf? annot), d)
  | _, .annotKind annot => ((d.annot? annot).elim .unknown (·.kind), d)
  | _, .annotRect annot => ((d.annot? annot).bind (·.rect), d)
  | _, .setAnnotRect annot rect => d.tell (d.changeAnnot annot fun a => some { a with rect := some rect })
  | _, .embeddedCount annot => ((d.annot? annot).map (·.objects.length), d)
  | _, .embeddedAt annot index => ((d.annot? annot).bind (·.objects[index]?), d)
  | _, .embed annot object => d.tell (d.embedObject annot object)
  | _, .removeEmbedded annot index => d.tell (d.removeEmbedded annot index)
  | _, .quadCount annot => ((d.annot? annot).elim 0 (·.quads.length), d)
  | _, .quadAt annot index => ((d.annot? annot).bind (·.quads[index]?), d)
  | _, .setQuad annot index quad =>
    d.tell (d.changeQuads annot fun quads =>
      if index < quads.length then some (quads.set index quad) else none)
  | _, .appendQuad annot quad => d.tell (d.changeQuads annot fun quads => some (quads ++ [quad]))
  | _, .removesQuads => (d.removesQuads, d)
  | _, .removeQuad annot index =>
    d.tell (d.changeQuads annot fun quads =>
      if d.removesQuads ∧ index < quads.length then some (quads.eraseIdx index) else none)
  | _, .annotString annot key buffer => (copied ((d.annot? annot).bind (·.strings.get? key)) buffer, d)
  | _, .setAnnotString annot key units =>
    d.tell (d.changeAnnot annot fun a =>
      some { a with strings := a.strings.insert key (Utf16.terminated units) })
  | _, .annotColor annot role => ((d.annot? annot).bind (·.colorOf role), d)
  | _, .setAnnotColor annot role color => d.tell (d.changeAnnot annot fun a => some (a.setColor color role))

/-- A fail point that is set refuses its calls and touches nothing. -/
def perform {α : Type} (call : Call α) (d : Document) : α × Document :=
  if call.failPoint?.any (· ∈ d.failing) then (call.refused, d) else d.run call

instance : Library Document := ⟨perform⟩

end Document

end PageContent
