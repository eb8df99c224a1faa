namespace Patterns

/-- A regular expression over characters. `many accepts least` is a class that is repeated
at least so often. -/
inductive Pattern
  | nothing
  | one (accepts : Char → Bool)
  | seq (first second : Pattern)
  | either (first second : Pattern)
  | optional (part : Pattern)
  | many (accepts : Char → Bool) (least : Nat)
  | boundary

abbrev Place := Option Char × List Char

def repeats (accepts : Char → Bool) : Nat → Option Char → List Char → List Place
  | 0, before, [] => [(before, [])]
  | _ + 1, _, [] => []
  | 0, before, c :: rest => (before, c :: rest) :: if accepts c then repeats accepts 0 (some c) rest else []
  | least + 1, _, c :: rest => if accepts c then repeats accepts least (some c) rest else []

def Pattern.ends (isWord : Char → Bool) : Pattern → Place → List Place
  | nothing, place => [place]
  | one _, (_, []) => []
  | one accepts, (_, c :: rest) => if accepts c then [(some c, rest)] else []
  | seq first second, place => (first.ends isWord place).flatMap (second.ends isWord)
  | either first second, place => first.ends isWord place ++ second.ends isWord place
  | optional part, place => place :: part.ends isWord place
  | many accepts least, (before, rest) => repeats accepts least before rest
  | boundary, place => if place.1.any isWord = place.2.head?.any isWord then [] else [place]

def places : Option Char → List Char → List Place
  | before, [] => [(before, [])]
  | before, c :: rest => (before, c :: rest) :: places (some c) rest

def Pattern.test (isWord : Char → Bool) (pattern : Pattern) (text : List Char) : Bool :=
  (places none text).any fun place => (pattern.ends isWord place).isEmpty = false

namespace Pattern

def word (text : String) : Pattern := text.toList.foldr (fun c rest => seq (one (· == c)) rest) nothing

def anyOf : List Pattern → Pattern
  | [] => one fun _ => false
  | [last] => last
  | first :: rest => either first (anyOf rest)

def inOrder : List Pattern → Pattern
  | [] => nothing
  | first :: rest => seq first (inOrder rest)

end Pattern

end Patterns
