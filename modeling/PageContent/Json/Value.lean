namespace PageContent.Json

/-- A character of a quoted text, or a unit of it that is spelled as an escape of four digits. -/
inductive Piece
  | char (c : Char)
  | unit (u : Nat)
  deriving DecidableEq

abbrev Quoted := List Piece

structure Number where
  negative : Bool
  whole : List Nat
  fraction : Option (List Nat)
  /-- The sign and the digits of the exponent; a sign is there if the exponent is negative. -/
  exponent : Option (Bool × List Nat)
  deriving DecidableEq

inductive Value
  | null
  | bool (b : Bool)
  | number (n : Number)
  | string (s : Quoted)
  | array (items : List Value)
  | object (fields : List (Quoted × Value))

namespace Quoted

def ofString (s : String) : Quoted := s.toList.map .char

def chars? : List Piece → Option (List Char)
  | [] => some []
  | .char c :: rest => (chars? rest).map (c :: ·)
  | .unit u :: rest =>
    if u < 0xD800 ∨ 0xE000 ≤ u then (chars? rest).map (Char.ofNat u :: ·)
    else
      match rest with
      | .unit v :: rest =>
        if u < 0xDC00 ∧ 0xDC00 ≤ v ∧ v < 0xE000 then
          (chars? rest).map (Char.ofNat (0x10000 + (u - 0xD800) * 0x400 + (v - 0xDC00)) :: ·)
        else none
      | _ => none

def text? (s : Quoted) : Option String := (chars? s).map String.ofList

end Quoted

end PageContent.Json
