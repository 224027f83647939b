/-! How alike two words are: the share of their letters that occur in both at nearly the
same place, less those that occur in another order. -/
namespace Telemetry.CommandLine.Similarity

/-- Marks the first unmarked letter of `b` that equals `c` and lies within `reach` of place
`i`, or nothing where there is none. -/
def mark (c : Char) (i reach : Nat) : Nat → List (Char × Bool) → Option (List (Char × Bool))
  | _, [] => none
  | j, (d, used) :: rest =>
    if i + reach < j then none
    else if i ≤ j + reach && c == d && !used then some ((d, true) :: rest)
    else (mark c i reach (j + 1) rest).map ((d, used) :: ·)

/-- The letters of `a` that find a partner in `b`, and `b` with its partners marked. -/
def partners (reach : Nat) : Nat → List Char → List (Char × Bool) → List Char × List (Char × Bool)
  | _, [], b => ([], b)
  | i, c :: rest, b =>
    match mark c i reach 0 b with
    | none => partners reach (i + 1) rest b
    | some b =>
      let (found, b) := partners reach (i + 1) rest b
      (c :: found, b)

/-- How alike two words are, from 0 to 1: the mean of the share of partners in either word and
the share of partners that stand in the same order, each rounded to a double on its way. -/
def score (a b : String) : Float :=
  let reach := max a.length b.length / 2 - 1
  let (left, marked) := partners reach 0 a.toList (b.toList.map (·, false))
  let right := (marked.filter (·.2)).map (·.1)
  let matched := left.length
  let ordered := matched - ((left.zip right).countP fun (c, d) => c != d) / 2
  let share (part whole : Nat) : Float := Float.ofNat part / Float.ofNat whole
  if matched = 0 then 0
  else (share matched a.length + share matched b.length + share ordered matched) / 3

/-- The score that a word has to exceed to be like another at all. -/
def threshold : Float := 0.7

/-- The word most like the given one, if it is like it at all; of equals the last. -/
def closest (given : String) (words : List String) : Option String :=
  let better (best : Option (String × Float)) (word : String) : Option (String × Float) :=
    let alike := score given word
    match best with
    | none => if threshold < alike then some (word, alike) else none
    | some (_, bound) => if bound ≤ alike then some (word, alike) else best
  (words.foldl better none).map (·.1)

end Telemetry.CommandLine.Similarity
