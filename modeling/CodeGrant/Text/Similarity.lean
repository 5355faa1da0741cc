/-! # Similarity of words

The Jaro similarity of two words lies between zero and one.  Two equal characters
match if they stand close enough, each character at most once; the similarity
grows with the share of characters that match and falls with the number of
matching characters that are out of order. -/

namespace CodeGrant.Text

/-- Marks the first free place of `c` among those between `low` and `high`, where places are
counted from `index`; `none` if there is none. -/
def claim (c : Char) (low high : Nat) : Nat → List (Char × Bool) → Option (List (Char × Bool))
  | _, [] => none
  | index, (d, taken) :: places =>
    if low ≤ index ∧ index < high ∧ c = d ∧ taken = false then some ((d, true) :: places)
    else (claim c low high (index + 1) places).map ((d, taken) :: ·)

/-- The characters of a word that match, in order, and the other word with its matching places
marked; `range` is how far a match may be away, and places are counted from `index`. -/
def matchChars (range : Nat) : Nat → List Char → List (Char × Bool) → List Char × List (Char × Bool)
  | _, [], places => ([], places)
  | index, c :: chars, places =>
    match claim c (index - range) (index + range + 1) 0 places with
    | some places =>
      let (found, places) := matchChars range (index + 1) chars places
      (c :: found, places)
    | none => matchChars range (index + 1) chars places

/-- The Jaro similarity of two words. -/
def similarity (a b : List Char) : Float :=
  if a = [] ∧ b = [] then 1
  else
    let range := max a.length b.length / 2 - 1
    let (found, places) := matchChars range 0 a (b.map fun c => (c, false))
    let foundThere := (places.filter (·.2)).map (·.1)
    let count := found.length
    let swaps := ((found.zip foundThere).filter fun pair => pair.1 != pair.2).length / 2
    if count = 0 then 0
    else
      (count.toFloat / a.length.toFloat + count.toFloat / b.length.toFloat
        + (count - swaps).toFloat / count.toFloat) / 3

/-- How similar a word must be to be worth a hint. -/
def hintThreshold : Float := 0.7

/-- The word that is most similar, among those similar enough, the later one on a tie; `best` is the
best of the earlier words. -/
def mostSimilarFrom {α : Type} (nameOf : α → String) (word : List Char) (best : Option (Float × α)) :
    List α → Option α
  | [] => best.map (·.2)
  | x :: rest =>
    let s := similarity word (nameOf x).toList
    let isBetter :=
      match best with
      | some (t, _) => decide (t <= s)
      | none => decide (hintThreshold < s)
    mostSimilarFrom nameOf word (if isBetter then some (s, x) else best) rest

/-- The most similar of some named things to a word, if one is similar enough. -/
def mostSimilar? {α : Type} (nameOf : α → String) (word : String) (things : List α) : Option α :=
  mostSimilarFrom nameOf word.toList none things

end CodeGrant.Text
