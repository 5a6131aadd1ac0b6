namespace PageContent

inductive ObjectKind
  | unknown
  | text
  | path
  | image
  | shading
  | form
  deriving DecidableEq

namespace ObjectKind

def ofCode : Int → ObjectKind
  | 1 => .text
  | 2 => .path
  | 3 => .image
  | 4 => .shading
  | 5 => .form
  | _ => .unknown

def name : ObjectKind → String
  | .unknown => "Unknown"
  | .text => "Text"
  | .path => "Path"
  | .image => "Image"
  | .shading => "Shading"
  | .form => "Form"

end ObjectKind

inductive SegmentKind
  | unknown
  | lineTo
  | bezierTo
  | moveTo
  deriving DecidableEq

def SegmentKind.ofCode : Int → SegmentKind
  | 0 => .lineTo
  | 1 => .bezierTo
  | 2 => .moveTo
  | _ => .unknown

def SegmentKind.name : SegmentKind → String
  | .unknown => "Unknown"
  | .lineTo => "LineTo"
  | .bezierTo => "BezierTo"
  | .moveTo => "MoveTo"

inductive PathCommand
  | move
  | line
  deriving DecidableEq

def PathCommand.segmentKind : PathCommand → SegmentKind
  | .move => .moveTo
  | .line => .lineTo

inductive AnnotKind
  | unknown
  | text
  | link
  | freeText
  | square
  | highlight
  | underline
  | strikeOut
  | stamp
  | ink
  | popup
  | widget
  deriving DecidableEq

namespace AnnotKind

def name : AnnotKind → String
  | .unknown => "Unknown"
  | .text => "Text"
  | .link => "Link"
  | .freeText => "FreeText"
  | .square => "Square"
  | .highlight => "Highlight"
  | .underline => "Underline"
  | .strikeOut => "StrikeOut"
  | .stamp => "Stamp"
  | .ink => "Ink"
  | .popup => "Popup"
  | .widget => "Widget"

def all : List AnnotKind :=
  [.unknown, .text, .link, .freeText, .square, .highlight, .underline, .strikeOut, .stamp, .ink, .popup, .widget]

def ofName? (name : String) : Option AnnotKind := all.find? (·.name = name)

end AnnotKind

inductive FillRule
  | none
  | evenOdd
  | winding
  deriving DecidableEq

namespace FillRule

def name : FillRule → String
  | .none => "None"
  | .evenOdd => "Alternate"
  | .winding => "Winding"

def ofName? (name : String) : Option FillRule := [FillRule.none, .evenOdd, .winding].find? (·.name = name)

end FillRule

structure DrawMode where
  fill : FillRule
  stroke : Bool
  deriving DecidableEq

inductive Paint
  | fill
  | stroke
  deriving DecidableEq

inductive ColorRole
  | color
  | interior
  deriving DecidableEq

end PageContent
