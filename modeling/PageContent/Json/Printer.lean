import PageContent.Json.Value

namespace PageContent.Json

def digitChar (d : Nat) : Char := Nat.digitChar d

def hex4 (n : Nat) : List Char :=
  [n / 4096 % 16, n / 256 % 16, n / 16 % 16, n % 16].map digitChar

def Piece.print : Piece → List Char
  | .unit u => '\\' :: 'u' :: hex4 u
  | .char '"' => ['\\', '"']
  | .char '\\' => ['\\', '\\']
  | .char '\x08' => ['\\', 'b']
  | .char '\x0c' => ['\\', 'f']
  | .char '\n' => ['\\', 'n']
  | .char '\r' => ['\\', 'r']
  | .char '\t' => ['\\', 't']
  | .char c => if c.toNat < 0x20 then '\\' :: 'u' :: hex4 c.toNat else [c]

def Quoted.print (s : Quoted) : List Char := '"' :: s.flatMap Piece.print ++ ['"']

def Number.print (n : Number) : List Char :=
  (if n.negative then ['-'] else []) ++ n.whole.map digitChar ++
    n.fraction.elim [] (fun ds => '.' :: ds.map digitChar) ++
    n.exponent.elim [] fun (negative, ds) => 'e' :: (if negative then ['-'] else []) ++ ds.map digitChar

mutual

def Value.print : Value → List Char
  | .null => "null".toList
  | .bool b => (if b then "true" else "false").toList
  | .number n => n.print
  | .string s => s.print
  | .array [] => ['[', ']']
  | .array (v :: vs) => '[' :: v.print ++ printItems vs
  | .object [] => ['{', '}']
  | .object ((k, v) :: fields) => '{' :: k.print ++ ':' :: v.print ++ printFields fields

def printItems : List Value → List Char
  | [] => [']']
  | v :: vs => ',' :: v.print ++ printItems vs

def printFields : List (Quoted × Value) → List Char
  | [] => ['}']
  | (k, v) :: fields => ',' :: k.print ++ ':' :: v.print ++ printFields fields

end

end PageContent.Json
