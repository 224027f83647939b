import Telemetry.Proofs.Json.Number

/-! A reader of JSON texts, as the standard has them: blanks may stand between their parts, strings
may use any escape, and nothing may be left over. Numbers keep their tokens. -/
namespace Telemetry.Json

variable {α : Type}

def isBlank (c : Char) : Bool := c = ' ' || c = '\t' || c = '\n' || c = '\r'

def skipBlanks (l : List Char) : List Char := l.dropWhile isBlank

def hexValue? (c : Char) : Option Nat :=
  if '0' ≤ c && c ≤ '9' then some (c.toNat - '0'.toNat)
  else if 'a' ≤ c && c ≤ 'f' then some (c.toNat - 'a'.toNat + 10)
  else if 'A' ≤ c && c ≤ 'F' then some (c.toNat - 'A'.toNat + 10)
  else none

def codeUnit? (l : List Char) : Option Nat :=
  (l.mapM hexValue?).map fun digits => digits.foldl (fun n d => 16 * n + d) 0

def simpleEscape? : Char → Option Char
  | '"' => some '"'
  | '\\' => some '\\'
  | '/' => some '/'
  | 'b' => some '\x08'
  | 'f' => some '\x0c'
  | 'n' => some '\n'
  | 'r' => some '\r'
  | 't' => some '\t'
  | _ => none

/-- The characters up to the closing quote. A code point beyond 16 bits is escaped in two halves,
of which `high` is the first one where that has been read. -/
def readText : Option Nat → List Char → Option (List Char × List Char)
  | _, [] => none
  | high, c :: rest =>
    if c = '"' then if high.isNone then some ([], rest) else none
    else if c = '\\' then
      match rest with
      | 'u' :: u₁ :: u₂ :: u₃ :: u₄ :: rest =>
        match high, codeUnit? [u₁, u₂, u₃, u₄] with
        | _, none => none
        | none, some n =>
          if 0xd800 ≤ n && n < 0xdc00 then readText (some n) rest
          else if 0xdc00 ≤ n && n < 0xe000 then none
          else (readText none rest).map fun (text, rest) => (Char.ofNat n :: text, rest)
        | some first, some n =>
          if 0xdc00 ≤ n && n < 0xe000 then
            let point := 0x10000 + 0x400 * (first - 0xd800) + (n - 0xdc00)
            (readText none rest).map fun (text, rest) => (Char.ofNat point :: text, rest)
          else none
      | e :: rest =>
        match high, simpleEscape? e with
        | none, some c => (readText none rest).map fun (text, rest) => (c :: text, rest)
        | _, _ => none
      | [] => none
    else if high.isSome || c.toNat < 0x20 then none
    else (readText none rest).map fun (text, rest) => (c :: text, rest)

/-- Elements with commas between them, up to the closing bracket. -/
def readMore (read : List Char → Option (α × List Char)) (close : Char) :
    Nat → List Char → Option (List α × List Char)
  | 0, _ => none
  | count + 1, l =>
    match read l with
    | none => none
    | some (first, rest) =>
      match skipBlanks rest with
      | [] => none
      | c :: rest =>
        if c = close then some ([first], rest)
        else if c = ',' then
          (readMore read close count rest).map fun (more, rest) => (first :: more, rest)
        else none

/-- What follows an opening bracket, of which every element takes at least one character. -/
def readList (read : List Char → Option (α × List Char)) (close : Char) (l : List Char) :
    Option (List α × List Char) :=
  match skipBlanks l with
  | [] => none
  | c :: rest => if c = close then some ([], rest) else readMore read close l.length l

def readMember (read : List Char → Option (Value × List Char)) (l : List Char) :
    Option ((String × Value) × List Char) := do
  let rest ← (skipBlanks l).dropPrefix? ['"']
  let (key, rest) ← readText none rest
  let rest ← (skipBlanks rest).dropPrefix? [':']
  let (v, rest) ← read rest
  pure ((String.ofList key, v), rest)

def readWord (word : String) (v : Value) (l : List Char) : Option (Value × List Char) :=
  (l.dropPrefix? word.toList).map fun rest => (v, rest)

def readNumber (l : List Char) : Option (Value × List Char) :=
  (afterNumber l).map fun rest =>
    (.number (String.ofList (l.take (l.length - rest.length))), rest)

/-- A value, which is nested at most as deep as it is given. -/
def readValue : Nat → List Char → Option (Value × List Char)
  | 0, _ => none
  | depth + 1, l =>
    match skipBlanks l with
    | [] => none
    | c :: rest =>
      if c = '"' then
        (readText none rest).map fun (text, rest) => (.string (String.ofList text), rest)
      else if c = '[' then
        (readList (readValue depth) ']' rest).map fun (items, rest) => (.array items, rest)
      else if c = '\x7b' then
        (readList (readMember (readValue depth)) '\x7d' rest).map fun (members, rest) =>
          (.object members, rest)
      else if c = 'n' then readWord "null" .null (c :: rest)
      else if c = 't' then readWord "true" (.bool true) (c :: rest)
      else if c = 'f' then readWord "false" (.bool false) (c :: rest)
      else readNumber (c :: rest)

/-- The value that a text is. -/
def parse? (l : List Char) : Option Value :=
  match readValue l.length l with
  | none => none
  | some (v, rest) => if (skipBlanks rest).isEmpty then some v else none

example : parse? " [1, true]\n".toList = some (.array [.number "1", .bool true]) := by rfl

example : parse? "[1,]".toList = none := by rfl

end Telemetry.Json
