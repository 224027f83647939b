import Telemetry.Text.Blank

/-! The severity of a log record. -/
namespace Telemetry

inductive Level where
  | debug
  | info
  | warn
  | error
deriving DecidableEq, Repr, Inhabited

namespace Level

def rank : Level → Nat
  | debug => 0
  | info => 1
  | warn => 2
  | error => 3

instance : LE Level := ⟨fun a b => a.rank ≤ b.rank⟩

instance : LT Level := ⟨fun a b => a.rank < b.rank⟩

instance (a b : Level) : Decidable (a ≤ b) := inferInstanceAs (Decidable (a.rank ≤ b.rank))

instance (a b : Level) : Decidable (a < b) := inferInstanceAs (Decidable (a.rank < b.rank))

/-- The level of records that do not say otherwise. -/
def default : Level := info

def name : Level → String
  | debug => "DEBUG"
  | info => "INFO"
  | warn => "WARN"
  | error => "ERROR"

/-- The words that a level is read from, in capitals. -/
def words : List (String × Level) :=
  [("INFORMATION", info), ("DEBUG", debug), ("DBG", debug), ("ERROR", error), ("ERR", error),
    ("WARNING", warn), ("WRN", warn)]

/-- Reads a level from the start of one of its words, in any case; one letter is enough. -/
def parse (s : String) : Option Level :=
  let given := s.toList.map Char.toUpper
  if given.isEmpty then none
  else (words.find? fun (word, _) => given.isPrefixOf word.toList).map (·.2)

def parseMessage : String := "the input was not a valid level"

end Level
end Telemetry
