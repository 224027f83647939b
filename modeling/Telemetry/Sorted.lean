/-! Lists in the order of a comparison, with one of every group of equal elements, and maps as
lists of entries in the order of their keys. Elements are found by halving. -/
namespace Telemetry.Sorted

/-- Puts an element in its place, unless an equal one is there. -/
def insert {α : Type} (cmp : α → α → Ordering) (x : α) : List α → List α
  | [] => [x]
  | y :: rest =>
    match cmp x y with
    | .lt => x :: y :: rest
    | .eq => y :: rest
    | .gt => y :: insert cmp x rest

/-- The distinct elements of a list in order; of equal ones the first. -/
def distinct {α : Type} (cmp : α → α → Ordering) (l : List α) : List α :=
  l.foldl (fun sorted x => insert cmp x sorted) []

/-- Changes the value of a key. Where the key is new, an entry is put in its place first, with the
value `new` to be changed. -/
def upsert {κ ν : Type} (cmp : κ → κ → Ordering) (k : κ) (new : ν) (f : ν → ν) :
    List (κ × ν) → List (κ × ν)
  | [] => [(k, f new)]
  | (j, v) :: rest =>
    match cmp k j with
    | .lt => (k, f new) :: (j, v) :: rest
    | .eq => (j, f v) :: rest
    | .gt => (j, v) :: upsert cmp k new f rest

/-- Looks for an element at its place in `base .. base + size`, where `place` compares elements with
what is looked for. -/
def searchFrom {α : Type} (place : α → Ordering) (l : List α) (base size : Nat) : Option α :=
  if size ≤ 1 then l[base]?.filter fun x => place x == .eq
  else
    let half := size / 2
    let behind := l[base + half]?.any fun x => place x == .gt
    searchFrom place l (if behind then base else base + half) (size - half)
termination_by size

/-- The element of a sorted list that is at its place. -/
def search? {α : Type} (place : α → Ordering) (l : List α) : Option α :=
  searchFrom place l 0 l.length

end Telemetry.Sorted
