/-!
# Similar words

Which of the known words somebody may have meant by an unknown one. Two words are similar if much of
them is the same: the longest piece that both contain, the longest such pieces before and after it,
and so on.
-/

namespace TokenBroker.Text

/-! ### Pieces in common -/

/-- The length of the longest common beginning. -/
def commonStart : List Char → List Char → Nat
  | a :: as, b :: bs => if a = b then commonStart as bs + 1 else 0
  | _, _ => 0

/-- A piece that two words share: where it begins in each of them, and its length. -/
structure SharedPiece where
  left : Nat
  right : Nat
  length : Nat
  deriving DecidableEq, Inhabited, Repr

/-- The longer one of two pieces, the first one if they are equally long. -/
def SharedPiece.longer (p q : SharedPiece) : SharedPiece :=
  if p.length < q.length then q else p

/-- The longest piece of the second word that the first one begins with. -/
def longestAtStart (left : Nat) (as : List Char) : Nat → List Char → SharedPiece
  | right, [] => ⟨left, right, 0⟩
  | right, b :: bs =>
    SharedPiece.longer ⟨left, right, commonStart as (b :: bs)⟩
      (longestAtStart left as (right + 1) bs)

/-- The longest piece that two words share, as far in front as possible. -/
def longestShared (bs : List Char) : Nat → List Char → SharedPiece
  | left, [] => ⟨left, 0, 0⟩
  | left, a :: as =>
    SharedPiece.longer (longestAtStart left (a :: as) 0 bs) (longestShared bs (left + 1) as)

/-- How many characters the shared pieces have. Each of them takes a character at least, so the
length of a word bounds how deep they lie. -/
def sharedWithin : Nat → List Char → List Char → Nat
  | 0, _, _ => 0
  | depth + 1, as, bs =>
    let piece := longestShared bs 0 as
    if piece.length = 0 then 0
    else
      piece.length + sharedWithin depth (as.take piece.left) (bs.take piece.right)
        + sharedWithin depth (as.drop (piece.left + piece.length))
            (bs.drop (piece.right + piece.length))

/-! ### Similarity -/

/-- How much of two words is the same, out of how much. -/
structure Similarity where
  shared : Nat
  total : Nat
  deriving DecidableEq, Inhabited, Repr

namespace Similarity

def ofWords (a b : String) : Similarity :=
  { shared := 2 * sharedWithin a.length a.toList b.toList
    total := a.length + b.length }

/-- Whether three fifths are the same. -/
def isEnough (s : Similarity) : Bool :=
  3 * s.total ≤ 5 * s.shared

def lt (s t : Similarity) : Bool :=
  s.shared * t.total < t.shared * s.total

end Similarity

/-- The known words that are similar to a word, in alphabetical order: the three that are most
so. -/
def similarWords (word : String) (known : List String) : List String :=
  let rated := (known.map fun other => (Similarity.ofWords other word, other)).filter (·.1.isEnough)
  let better (p q : Similarity × String) : Bool :=
    q.1.lt p.1 || (!p.1.lt q.1 && q.2 ≤ p.2)
  (((rated.mergeSort better).take 3).map (·.2)).mergeSort (· ≤ ·)

end TokenBroker.Text
