import Telemetry.Channel.Buffer
import Telemetry.Sorted

/-! Multisets of integers as a buffer: an item that is there already adds no entry. -/
namespace Telemetry.Channel

/-- A multiset, written as its items in rising order. -/
structure Folding where
  items : List Int
deriving DecidableEq, Repr, Inhabited

namespace Folding

def insertOrdered (x : Int) : List Int → List Int
  | [] => [x]
  | y :: rest => if x ≤ y then x :: y :: rest else y :: insertOrdered x rest

def ofList (l : List Int) : Folding := ⟨l.foldr insertOrdered []⟩

instance : Buffer Folding Int where
  empty := ⟨[]⟩
  push f x := ⟨insertOrdered x f.items⟩
  size f := (Sorted.distinct compare f.items).length
  growsWith f x := !f.items.contains x

end Folding
end Telemetry.Channel
