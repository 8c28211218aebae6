import SimilarItems.Binary64.Basic

/-!
# The best few of a stream

A `TopK` keeps the `capacity` best of the entries pushed into it, from the best down: by falling
weight in the total order of binary64 numbers, then by rising item. What has once been pushed out
by better entries never comes back, so the entries kept depend on what was pushed and not on when.
-/

namespace SimilarItems

/-- An item with its weight. -/
structure Weighted (α : Type) where
  /-- The item. -/
  item : α
  /-- Its weight. -/
  weight : Binary64
deriving DecidableEq

/-- The ranking order of weighted items: `lt` when `a` ranks above `b`. -/
def Weighted.order {α : Type} [Ord α] (a b : Weighted α) : Ordering :=
  (Binary64.totalOrder b.weight a.weight).then (compare a.item b.item)

/-- The best entries of a stream. -/
structure TopK (α : Type) where
  /-- The most entries that are kept. -/
  capacity : Nat
  /-- The entries kept, from the best down. -/
  entries : List (Weighted α)

namespace TopK

variable {α : Type}

/-- Nothing pushed yet. -/
def empty (capacity : Nat) : TopK α := ⟨capacity, []⟩

/-- The number of entries kept. -/
def size (t : TopK α) : Nat := t.entries.length

/-- The items kept, from the best down. -/
def items (t : TopK α) : List α := t.entries.map (·.item)

variable [Ord α]

/-- Puts an entry behind every entry that ranks above it or equal to it. -/
def insert (e : Weighted α) : List (Weighted α) → List (Weighted α)
  | [] => [e]
  | x :: xs => if (x.order e).isLE then x :: insert e xs else e :: x :: xs

/-- Offers an entry: it takes its place in the ranking, and what then exceeds the capacity is
dropped from the end. -/
def push (t : TopK α) (e : Weighted α) : TopK α :=
  { t with entries := (insert e t.entries).take t.capacity }

/-- Offers several entries one after another. -/
def pushAll (t : TopK α) (es : List (Weighted α)) : TopK α := es.foldl push t

end TopK

end SimilarItems
