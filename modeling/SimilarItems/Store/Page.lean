import SimilarItems.Store.Basic

/-!
# Pages as the table is asked for them

The table takes the limit and the offset of a page as signed numbers of 64 bits, and a negative
limit as none. Numbers without a sign are narrowed to these.
-/

namespace SimilarItems

/-- A page of the table, as the table is asked for it. -/
structure PageQuery where
  /-- The most rows that are wanted; all if negative. -/
  limit : Int64
  /-- The number of rows that are left out at the front; none if negative. -/
  offset : Int64
deriving DecidableEq

namespace PageQuery

/-- The number with a sign; what is too large becomes the largest. -/
def narrow (n : UInt64) : Int64 :=
  if n.toInt64 < 0 then Int64.maxValue else n.toInt64

/-- The rows from `offset` on, and at most `limit` of them. -/
def ofUnsigned (offset : UInt64) (limit : Option UInt64) : PageQuery where
  limit := match limit with
    | none => -1
    | some n => narrow n
  offset := narrow offset

end PageQuery

/-- The rows by rising item that are asked for. -/
def Table.select (q : PageQuery) (t : Table) : List Row :=
  let rest := t.sorted.drop q.offset.toNatClampNeg
  if q.limit < 0 then rest else rest.take q.limit.toNatClampNeg

/-- The embeddings by rising item from `offset` on, and at most `limit` of them. -/
def Store.scanPage (s : Store) (offset : UInt64) (limit : Option UInt64) :
    Except StoreError (List Embedding) := do
  let t ← s.reach
  (t.select (.ofUnsigned offset limit)).mapM read

end SimilarItems
