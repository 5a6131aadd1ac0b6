import PageContent.Json.Token

namespace PageContent.Json

/-- An array or object of which the value under way is a part. What came before it is kept with the
latest first. -/
inductive Frame
  | array (items : List Value)
  | object (fields : List (Quoted × Value)) (key : Quoted)

inductive Parser
  | value (stack : List Frame)
  | firstItem (stack : List Frame)
  | firstKey (stack : List Frame)
  | key (fields : List (Quoted × Value)) (stack : List Frame)
  | colon (fields : List (Quoted × Value)) (key : Quoted) (stack : List Frame)
  | more (v : Value) (stack : List Frame)

namespace Parser

def beginValue (stack : List Frame) : Token → Option Parser
  | .scalar v => some (.more v stack)
  | .string s => some (.more (.string s) stack)
  | .openArray => some (.firstItem stack)
  | .openObject => some (.firstKey stack)
  | _ => none

def step : Parser → Token → Option Parser
  | .value stack, t => beginValue stack t
  | .firstItem stack, .closeArray => some (.more (.array []) stack)
  | .firstItem stack, t => beginValue (.array [] :: stack) t
  | .firstKey stack, .closeObject => some (.more (.object []) stack)
  | .firstKey stack, .string k => some (.colon [] k stack)
  | .key fields stack, .string k => some (.colon fields k stack)
  | .colon fields k stack, .colon => some (.value (.object fields k :: stack))
  | .more v (.array items :: stack), .comma => some (.value (.array (v :: items) :: stack))
  | .more v (.array items :: stack), .closeArray => some (.more (.array (v :: items).reverse) stack)
  | .more v (.object fields k :: stack), .comma => some (.key ((k, v) :: fields) stack)
  | .more v (.object fields k :: stack), .closeObject => some (.more (.object ((k, v) :: fields).reverse) stack)
  | _, _ => none

def result? : Parser → Option Value
  | .more v [] => some v
  | _ => none

end Parser

def Value.parse? (text : String) : Option Value := do
  let tokens ← Token.scan text.toList
  (← tokens.foldlM Parser.step (.value [])).result?

end PageContent.Json
