/-! Blank characters and the pieces of a text. Texts are lists of characters here, which
is the form that the readers of this library work on. -/
namespace Telemetry.Text

/-- The Unicode property White_Space. -/
def isBlank (c : Char) : Bool :=
  let n := c.toNat
  (9 ≤ n && n ≤ 13) || n == 0x20 || n == 0x85 || n == 0xA0 || n == 0x1680 ||
    (0x2000 ≤ n && n ≤ 0x200A) || n == 0x2028 || n == 0x2029 || n == 0x202F || n == 0x205F || n == 0x3000

def trimLeft (l : List Char) : List Char := l.dropWhile isBlank

def trimRight (l : List Char) : List Char := (l.reverse.dropWhile isBlank).reverse

/-- The text without the blanks at its two ends. -/
def trim (l : List Char) : List Char := trimRight (trimLeft l)

/-- Whether a text holds nothing but blanks. -/
def allBlank (l : List Char) : Bool := l.all isBlank

/-- The pieces of a text between the occurrences of `sep`: one more than there are of it. -/
def split (sep : Char) : List Char → List (List Char)
  | [] => [[]]
  | c :: rest =>
    if c = sep then [] :: split sep rest
    else
      match split sep rest with
      | [] => [[c]]
      | piece :: pieces => (c :: piece) :: pieces

/-- What stands before and after the first `sep`, or nothing where there is none. -/
def cut (sep : Char) : List Char → Option (List Char × List Char)
  | [] => none
  | c :: rest =>
    if c = sep then some ([], rest)
    else (cut sep rest).map fun (before, after) => (c :: before, after)

/-- What stands before and after the last `sep`, or nothing where there is none. -/
def cutLast (sep : Char) : List Char → Option (List Char × List Char)
  | [] => none
  | c :: rest =>
    match cutLast sep rest with
    | some (before, after) => some (c :: before, after)
    | none => if c = sep then some ([], rest) else none

/-- The text after `lead`, where it starts so. -/
def after? (lead : List Char) (l : List Char) : Option (List Char) :=
  if lead.isPrefixOf l then some (l.drop lead.length) else none

/-- Whether `part` stands somewhere in the text. -/
def containsRun (part : List Char) : List Char → Bool
  | [] => part.isEmpty
  | c :: rest => part.isPrefixOf (c :: rest) || containsRun part rest

/-- The text with the ASCII capitals in lower case. -/
def lower (l : List Char) : List Char := l.map Char.toLower

/-- Equality of texts up to the case of ASCII letters. -/
def sameIgnoringCase (a b : List Char) : Bool := lower a == lower b

/-- The pieces between commas, trimmed, without the blank ones. -/
def listItems (l : List Char) : List (List Char) :=
  ((split ',' l).map trim).filter (fun piece => !piece.isEmpty)

end Telemetry.Text
