import PageContent.Annot.Stamp
import PageContent.Config

namespace PageContent.Highlight

variable {σ : Type} [Library σ]

def readBounds (annot : AnnotId) (index : Nat) : Edit σ (Rect .page Float32) :=
  Quad.toRect <$> demand .getQuad (.quadAt annot index)

def read (annot : AnnotId) : Edit σ Highlight := do
  expectAnnotKind annot .highlight
  let count ← ask (.quadCount annot)
  let bounds ← (List.range count).mapM (readBounds annot)
  let color ← demand .getAnnotColor (.annotColor annot .color)
  pure { bounds, color }

/-- Disposes of the quads from `keep` on: they are removed, the last one first, if the configuration
and the library both allow it, and overwritten with zeros otherwise. -/
def shrink (annot : AnnotId) (keep existing : Nat) (policy : QuadShrink) : Edit σ Unit := do
  let excess := (List.range existing).drop keep
  let removable ← match policy with
    | .zeroFill => pure false
    | .removeWhenSupported => ask .removesQuads
  if removable then
    excess.reverse.forM fun index => insist .removeQuad (.removeQuad annot index)
  else
    excess.forM fun index => insist .clearQuad (.setQuad annot index .zero)

/-- Overwrites the quads that are there, and then appends the rest or disposes of what is too much. -/
def update (h : Highlight) (annot : AnnotId) (config : EditConfig) : Edit σ Unit := do
  expectAnnotKind annot .highlight
  let existing ← ask (.quadCount annot)
  let quads := h.bounds.map Quad.ofRect
  (quads.take existing).zipIdx.forM fun (quad, index) => insist .setQuad (.setQuad annot index quad)
  (quads.drop existing).forM fun quad => insist .appendQuad (.appendQuad annot quad)
  if quads.length < existing then shrink annot quads.length existing config.quadShrink
  insist .setAnnotColor (.setAnnotColor annot .color h.color)

end PageContent.Highlight
