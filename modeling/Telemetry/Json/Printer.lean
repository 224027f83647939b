import Telemetry.Json.Value
import Telemetry.Text.Quoted

/-! JSON text without blanks. -/
namespace Telemetry.Json

/-- A character inside a string. Quotes, backslashes and controls are escaped, all else
stands for itself. -/
def escapedChar (c : Char) : List Char :=
  if c = '"' then ['\\', '"']
  else if c = '\\' then ['\\', '\\']
  else if c = '\x08' then ['\\', 'b']
  else if c = '\x0c' then ['\\', 'f']
  else if c = '\n' then ['\\', 'n']
  else if c = '\r' then ['\\', 'r']
  else if c = '\t' then ['\\', 't']
  else if c.toNat < 0x20 then
    ['\\', 'u', '0', '0', Text.hexDigit (c.toNat / 16), Text.hexDigit (c.toNat % 16)]
  else [c]

def quote (s : String) : List Char := '"' :: (s.toList.flatMap escapedChar ++ ['"'])

mutual

def Value.chars : Value → List Char
  | .null => "null".toList
  | .bool true => "true".toList
  | .bool false => "false".toList
  | .number token => token.toList
  | .string s => quote s
  | .array items => '[' :: itemsChars items
  | .object members => '\x7b' :: membersChars members

/-- The items of an array with their commas and the closing bracket. -/
def itemsChars : List Value → List Char
  | [] => [']']
  | [v] => v.chars ++ [']']
  | v :: rest => v.chars ++ ',' :: itemsChars rest

/-- The members of an object with their commas and the closing brace. -/
def membersChars : List (String × Value) → List Char
  | [] => ['\x7d']
  | [(key, v)] => quote key ++ ':' :: (v.chars ++ ['\x7d'])
  | (key, v) :: rest => quote key ++ ':' :: (v.chars ++ ',' :: membersChars rest)

end

def Value.text (v : Value) : String := String.ofList v.chars

end Telemetry.Json
