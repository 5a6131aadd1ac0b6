import PageContent.Error

namespace PageContent

inductive FontFamily
  | courier
  | helvetica
  | symbol
  | times
  deriving DecidableEq

namespace FontFamily

def ofIndex : Int → Except Error FontFamily
  | 0 => .ok .courier
  | 1 => .ok .helvetica
  | 2 => .ok .symbol
  | 3 => .ok .times
  | index => .error (.unknownFamily index)

def index : FontFamily → Int
  | .courier => 0
  | .helvetica => 1
  | .symbol => 2
  | .times => 3

def name : FontFamily → String
  | .courier => "Courier"
  | .helvetica => "Helvetica"
  | .symbol => "Symbol"
  | .times => "TimesRoman"

end FontFamily

@[ext]
structure Font where
  family : FontFamily
  bold : Bool
  italic : Bool
  deriving DecidableEq

namespace Font

def styled (family : FontFamily) (bold italic : Bool) : Font :=
  ⟨family, bold && family ≠ .symbol, italic && family ≠ .symbol⟩

def ofIndex (index : Int) (bold italic : Bool) : Except Error Font := do
  pure (styled (← FontFamily.ofIndex index) bold italic)

def regular : Font := styled .helvetica false false

def name : Font → String
  | ⟨.courier, false, false⟩ => "Courier"
  | ⟨.courier, true, false⟩ => "Courier-Bold"
  | ⟨.courier, false, true⟩ => "Courier-Oblique"
  | ⟨.courier, true, true⟩ => "Courier-BoldOblique"
  | ⟨.helvetica, false, false⟩ => "Helvetica"
  | ⟨.helvetica, true, false⟩ => "Helvetica-Bold"
  | ⟨.helvetica, false, true⟩ => "Helvetica-Oblique"
  | ⟨.helvetica, true, true⟩ => "Helvetica-BoldOblique"
  | ⟨.symbol, _, _⟩ => "Symbol"
  | ⟨.times, false, false⟩ => "Times-Roman"
  | ⟨.times, true, false⟩ => "Times-Bold"
  | ⟨.times, false, true⟩ => "Times-Italic"
  | ⟨.times, true, true⟩ => "Times-BoldItalic"

def standard : List Font :=
  ⟨.symbol, false, false⟩ ::
    [FontFamily.courier, .helvetica, .times].flatMap fun family =>
      [⟨family, false, false⟩, ⟨family, true, false⟩, ⟨family, false, true⟩, ⟨family, true, true⟩]

def ofName (name : String) : Except Error Font :=
  match standard.find? (·.name = name) with
  | some font => .ok font
  | none => .error (.unknownFont name)

end Font

inductive RenderMode
  | fill
  | stroke
  | fillStroke
  deriving DecidableEq

namespace RenderMode

def ofCode? : Int → Option RenderMode
  | 0 => some .fill
  | 1 => some .stroke
  | 2 => some .fillStroke
  | _ => none

def code : RenderMode → Int
  | .fill => 0
  | .stroke => 1
  | .fillStroke => 2

def name : RenderMode → String
  | .fill => "Fill"
  | .stroke => "Stroke"
  | .fillStroke => "FillStroke"

end RenderMode

end PageContent
