import TaskQuery.Json.Basic

set_option autoImplicit false

namespace TaskQuery

inductive Token where
  | scalar (value : Scalar)
  | openArray | closeArray
  | openObject | closeObject
  | comma | colon
  deriving DecidableEq, Repr

def hexDigits (code : Nat) : Text :=
  (Nat.toDigits 16 code).leftpad 4 '0'

def Mark.text : Mark → Text
  | .unit code => '\\' :: 'u' :: hexDigits code
  | .char c =>
    match escapes.lookup c with
    | some letter => ['\\', letter]
    | none => [c]

def Scalar.text : Scalar → Text
  | .null => ['n', 'u', 'l', 'l']
  | .bool true => ['t', 'r', 'u', 'e']
  | .bool false => ['f', 'a', 'l', 's', 'e']
  | .number literal => literal
  | .string marks => '"' :: marks.flatMap Mark.text ++ ['"']

def Token.text : Token → Text
  | .scalar value => value.text
  | .openArray => ['[']
  | .closeArray => [']']
  | .openObject => ['\x7b']
  | .closeObject => ['\x7d']
  | .comma => [',']
  | .colon => [':']

mutual

def Json.tokens : Json → List Token
  | .scalar value => [.scalar value]
  | .array items => .openArray :: itemTokens items ++ [.closeArray]
  | .object members => .openObject :: memberTokens members ++ [.closeObject]

def itemTokens : List Json → List Token
  | [] => []
  | [item] => item.tokens
  | item :: items => item.tokens ++ .comma :: itemTokens items

def memberTokens : List (JsonString × Json) → List Token
  | [] => []
  | [(key, value)] => .scalar (.string key) :: .colon :: value.tokens
  | (key, value) :: members =>
    .scalar (.string key) :: .colon :: value.tokens ++ .comma :: memberTokens members

end

def Json.render (json : Json) : Text :=
  json.tokens.flatMap Token.text

end TaskQuery
