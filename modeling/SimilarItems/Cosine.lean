import SimilarItems.Binary64.Arithmetic

/-!
# Cosine similarity

The cosine of the angle between two vectors, computed in binary64: one pass over the paired
components gathers the dot product and both squared norms, each rounded after every step.
-/

namespace SimilarItems

/-- The three sums that the cosine of two vectors is made of. -/
structure CosineSums where
  /-- The sum of the products of paired components. -/
  dot : Binary64
  /-- The sum of the squares of the first vector. -/
  left : Binary64
  /-- The sum of the squares of the second vector. -/
  right : Binary64
deriving DecidableEq

namespace CosineSums

/-- The sums over no components. -/
def start : CosineSums := ⟨.zero false, .zero false, .zero false⟩

/-- The sums with one more pair of components. -/
def add (s : CosineSums) (p : Binary64 × Binary64) : CosineSums :=
  ⟨s.dot + p.1 * p.2, s.left + p.1 * p.1, s.right + p.2 * p.2⟩

/-- The sums over all pairs of components; a longer vector is cut to the length of the other. -/
def ofVectors (a b : List Binary64) : CosineSums :=
  (a.zip b).foldl add start

/-- The cosine: the dot product over the product of the norms, and zero if a norm is zero. -/
def cosine (s : CosineSums) : Binary64 :=
  if s.left.isZero || s.right.isZero then .zero false
  else s.dot / (s.left.sqrt * s.right.sqrt)

end CosineSums

/-- The cosine similarity of two vectors. -/
def cosine (a b : List Binary64) : Binary64 := (CosineSums.ofVectors a b).cosine

end SimilarItems
