import Mathlib.Data.Multiset.Basic
import SimilarItems.Proofs.TopK

/-!
# Selecting by exchange

A bag of bounded room that gives up its weakest entry for a stronger one needs no order among the
entries it holds. It holds what a `TopK` keeps, after every push, and that is the front of the sorted
list of all entries pushed.
-/

namespace SimilarItems

open Std (TransCmp LawfulEqCmp OrientedCmp TransOrd LawfulEqOrd)
open Ranking (Ranked)

variable {α : Type} [Ord α]

namespace Weighted

/-- `a` stands before `b` or in its place: it has the greater weight, or the same weight and an item
that is not greater. -/
def Precedes (a b : Weighted α) : Prop :=
  Binary64.totalOrder b.weight a.weight = .lt ∨
    a.weight = b.weight ∧ (compare a.item b.item).isLE

theorem isLE_order_iff {a b : Weighted α} : (a.order b).isLE ↔ a.Precedes b := by
  rw [order, Precedes]
  cases hweight : Binary64.totalOrder b.weight a.weight with
  | lt => simp
  | eq =>
    have heq : b.weight = a.weight := LawfulEqCmp.eq_of_compare hweight
    simp [heq]
  | gt =>
    have hne : a.weight ≠ b.weight := by
      intro heq
      have hself : Binary64.totalOrder b.weight b.weight = .eq := Std.ReflCmp.compare_self
      rw [heq, hself] at hweight
      cases hweight
    simp [hne]

theorem order_eq_lt_iff [TransOrd α] {a b : Weighted α} : a.order b = .lt ↔ ¬ (b.order a).isLE := by
  have hswap : b.order a = (a.order b).swap := OrientedCmp.eq_swap
  rw [hswap]
  cases a.order b <;> simp

end Weighted

namespace TopK

/-! ## Where an entry is put -/

/-- An entry that nothing ranks below is put at the end. -/
theorem insert_of_forall {e : Weighted α} {l : List (Weighted α)}
    (h : ∀ x ∈ l, (x.order e).isLE) : insert e l = l ++ [e] := by
  induction l with
  | nil => rfl
  | cons x l ih =>
    rw [List.forall_mem_cons] at h
    rw [insert, if_pos h.1, ih h.2, List.cons_append]

/-- An entry is put in front of every entry that ranks below it. -/
theorem insert_append_singleton {e w : Weighted α} (h : ¬ (w.order e).isLE)
    (l : List (Weighted α)) : insert e (l ++ [w]) = insert e l ++ [w] := by
  induction l with
  | nil => simp [insert, h]
  | cons x l ih =>
    rw [List.cons_append, insert, insert, ih]
    split
    · rfl
    · rfl

theorem length_insert (e : Weighted α) (l : List (Weighted α)) :
    (insert e l).length = l.length + 1 := (insert_perm e l).length_eq

theorem length_push (t : TopK α) (e : Weighted α) :
    (t.push e).entries.length = min t.capacity (t.entries.length + 1) := by
  rw [push, List.length_take, length_insert]

theorem ranked_push [TransOrd α] {t : TopK α} (h : Ranked Weighted.order t.entries)
    (e : Weighted α) : Ranked Weighted.order (t.push e).entries :=
  (ranked_insert e h).sublist (List.take_sublist _ _)

/-! ## What a push makes of the entries -/

section Push

variable {t : TopK α} {e : Weighted α}

theorem push_of_room (hroom : t.entries.length < t.capacity) :
    (t.push e).entries = insert e t.entries := by
  rw [push]
  exact List.take_of_length_le (by rw [length_insert]; exact hroom)

theorem push_of_forall (hfull : t.entries.length = t.capacity)
    (hbelow : ∀ x ∈ t.entries, (x.order e).isLE) : (t.push e).entries = t.entries := by
  rw [push, insert_of_forall hbelow, ← hfull, List.take_left]

/-- If all room is taken, the entry at the end makes room for one that ranks above it. -/
theorem push_of_last {l : List (Weighted α)} {w : Weighted α} (hlast : t.entries = l ++ [w])
    (hfull : t.entries.length = t.capacity) (hw : ¬ (w.order e).isLE) :
    (t.push e).entries = insert e l := by
  rw [hlast, List.length_append, List.length_singleton, ← length_insert e l] at hfull
  rw [push, hlast, insert_append_singleton hw, ← hfull, List.take_left]

theorem coe_insert (e : Weighted α) (l : List (Weighted α)) :
    ((insert e l : List (Weighted α)) : Multiset (Weighted α)) = e ::ₘ (l : Multiset (Weighted α)) :=
  Multiset.coe_eq_coe.2 (insert_perm e l)

end Push

/-! ## Exchange -/

/-- What a bag with room for `k` entries makes of one more. The entry joins the bag while there is
room. A full bag gives up a weakest entry for it, if it ranks above that one, and refuses it
otherwise. -/
inductive Exchange (k : Nat) (e : Weighted α) (bag : Multiset (Weighted α)) :
    Multiset (Weighted α) → Prop where
  | join (room : bag.card < k) : Exchange k e bag (e ::ₘ bag)
  | replace (w : Weighted α) (rest : Multiset (Weighted α)) (full : bag.card = k)
      (split : bag = w ::ₘ rest) (weakest : ∀ x ∈ rest, (x.order w).isLE) (above : e.order w = .lt) :
      Exchange k e bag (e ::ₘ rest)
  | refuse (full : bag.card = k) (below : ∀ x ∈ bag, (x.order e).isLE) : Exchange k e bag bag

/-- What a bag makes of several entries, one after another. -/
inductive Exchanges (k : Nat) :
    Multiset (Weighted α) → List (Weighted α) → Multiset (Weighted α) → Prop where
  | nil (bag : Multiset (Weighted α)) : Exchanges k bag [] bag
  | cons {bag mid bag' : Multiset (Weighted α)} {e : Weighted α} {es : List (Weighted α)}
      (first : Exchange k e bag mid) (rest : Exchanges k mid es bag') :
      Exchanges k bag (e :: es) bag'

variable [TransOrd α] {k : Nat} {e : Weighted α}

/-- A bag has only one weakest entry, so what it gives up is determined. -/
theorem Exchange.unique [LawfulEqOrd α] {bag a b : Multiset (Weighted α)} (ha : Exchange k e bag a)
    (hb : Exchange k e bag b) : a = b := by
  -- a full bag cannot both give up an entry and refuse the new one
  have hclash {w : Weighted α} {rest : Multiset (Weighted α)} (split : bag = w ::ₘ rest)
      (above : e.order w = .lt) (below : ∀ x ∈ bag, (x.order e).isLE) : False := by
    have hw : w ∈ bag := split ▸ Multiset.mem_cons_self w rest
    exact Weighted.order_eq_lt_iff.1 above (below w hw)
  cases ha with
  | join room =>
    cases hb with
    | join => rfl
    | replace _ _ full => omega
    | refuse full => omega
  | replace w rest full split weakest above =>
    cases hb with
    | join room => omega
    | replace w' rest' _ split' weakest' _ =>
      have hww' : w = w' := by
        have hw : w ∈ w' ::ₘ rest' := split' ▸ split ▸ Multiset.mem_cons_self w rest
        have hw' : w' ∈ w ::ₘ rest := split ▸ split' ▸ Multiset.mem_cons_self w' rest'
        rcases Multiset.mem_cons.1 hw with heq | hw
        · exact heq
        rcases Multiset.mem_cons.1 hw' with heq | hw'
        · exact heq.symm
        exact LawfulEqCmp.eq_of_compare (OrientedCmp.isLE_antisymm (weakest' w hw) (weakest w' hw'))
      subst hww'
      rw [split, Multiset.cons_inj_right] at split'
      rw [split']
    | refuse _ below => exact (hclash split above below).elim
  | refuse full below =>
    cases hb with
    | join room => omega
    | replace w rest _ split _ above => exact (hclash split above below).elim
    | refuse => rfl

/-- A push is an exchange. -/
theorem exchange_push {t : TopK α} (hranked : Ranked Weighted.order t.entries)
    (hlength : t.entries.length ≤ t.capacity) (e : Weighted α) :
    Exchange t.capacity e t.entries (t.push e).entries := by
  rcases Nat.lt_or_eq_of_le hlength with hroom | hfull
  · rw [push_of_room hroom, coe_insert]
    exact .join hroom
  · by_cases hbelow : ∀ x ∈ t.entries, (x.order e).isLE
    · rw [push_of_forall hfull hbelow]
      exact .refuse hfull hbelow
    · rcases List.eq_nil_or_concat t.entries with hnil | ⟨l, w, hlast⟩
      · rw [hnil] at hbelow
        exact absurd (List.forall_mem_nil _) hbelow
      rw [List.concat_eq_append] at hlast
      have hweakest : ∀ x ∈ l, (x.order w).isLE := by
        intro x hx
        rw [hlast] at hranked
        exact (List.pairwise_append.1 hranked).2.2 x hx w (List.mem_singleton_self w)
      have hw : ¬ (w.order e).isLE := by
        intro hw
        refine hbelow fun x hx => ?_
        rw [hlast] at hx
        rcases List.mem_append.1 hx with hx | hx
        · exact TransCmp.isLE_trans (hweakest x hx) hw
        · rwa [List.mem_singleton.1 hx]
      have hsplit : (t.entries : Multiset (Weighted α)) = w ::ₘ (l : Multiset (Weighted α)) := by
        rw [hlast]
        exact Multiset.coe_eq_coe.2 List.perm_append_comm
      rw [push_of_last hlast hfull hw, coe_insert]
      exact .replace w l hfull hsplit hweakest (Weighted.order_eq_lt_iff.2 hw)

/-- Pushes are exchanges: what is kept is at every time what a bag would hold. -/
theorem exchanges_iff [LawfulEqOrd α] {t : TopK α} (hranked : Ranked Weighted.order t.entries)
    (hlength : t.entries.length ≤ t.capacity) (es : List (Weighted α))
    (bag : Multiset (Weighted α)) :
    Exchanges t.capacity t.entries es bag ↔ bag = (t.pushAll es).entries := by
  induction es generalizing t with
  | nil =>
    constructor
    · rintro ⟨⟩
      rfl
    · rintro rfl
      exact .nil _
  | cons e es ih =>
    have hstep := exchange_push hranked hlength e
    have hlength' : (t.push e).entries.length ≤ (t.push e).capacity := by
      rw [length_push]
      exact Nat.min_le_left _ _
    have hrest := ih (ranked_push hranked e) hlength'
    constructor
    · rintro (_ | ⟨first, rest⟩)
      rw [first.unique hstep] at rest
      exact hrest.1 rest
    · intro hbag
      exact .cons hstep (hrest.2 hbag)

/-- After any pushes a `TopK` has as many entries as there were pushes, up to its capacity, and they
are the first of all entries pushed, sorted. A bag that exchanges its weakest entry holds the same,
and the order of the pushes does not show. -/
theorem entries_pushAll_eq_take_sorted [LawfulEqOrd α] (k : Nat) (es : List (Weighted α)) :
    (∀ before, before <+: es → ((empty k).pushAll before).size = min k before.length) ∧
    (∃ sorted : List (Weighted α), sorted.Perm es ∧ sorted.Pairwise Weighted.Precedes ∧
      ((empty k).pushAll es).entries = sorted.take k) ∧
    (∀ bag, Exchanges k 0 es bag ↔ bag = ((empty k).pushAll es).entries) ∧
    ∀ fs, fs.Perm es → ((empty k).pushAll fs).entries = ((empty k).pushAll es).entries := by
  refine ⟨fun before _ => ?_, ⟨_, List.mergeSort_perm es _, ?_, entries_pushAll_empty k es⟩, ?_, ?_⟩
  · rw [size, entries_pushAll_empty, List.length_take, List.length_mergeSort]
  · exact (Ranking.ranked_mergeSort es).imp Weighted.isLE_order_iff.1
  · exact exchanges_iff (t := empty k) List.Pairwise.nil (Nat.zero_le k) es
  · exact fun fs hperm => pushAll_empty_of_perm k hperm

/-- Words of one weight, of which the cut keeps some, a NaN that ranks first and one that ranks last. -/
def tiedWords : List (Weighted String) :=
  [⟨"b", .one⟩, ⟨"e", .nan true⟩, ⟨"c", .one⟩, ⟨"a", .one⟩, ⟨"d", .nan false⟩]

/-- Numbers with zeros of both signs, one of them pushed twice. -/
def zeros : List (Weighted Int) :=
  [⟨5, .zero true⟩, ⟨-3, .zero false⟩, ⟨5, .zero true⟩, ⟨-7, .zero true⟩]

theorem entries_pushAll_eq_take_sorted_ties :
    (∃ sorted : List (Weighted String), sorted.Perm tiedWords ∧
      sorted.Pairwise Weighted.Precedes ∧
        sorted.take 3 = [⟨"d", .nan false⟩, ⟨"a", .one⟩, ⟨"b", .one⟩]) ∧
    ((empty 3).pushAll tiedWords.reverse).entries = [⟨"d", .nan false⟩, ⟨"a", .one⟩, ⟨"b", .one⟩] ∧
    ((empty 3).pushAll (tiedWords.take 2)).size = 2 ∧
    Exchanges 2 0 zeros ([⟨-3, .zero false⟩, ⟨-7, .zero true⟩] : List (Weighted Int)) := by
  have hwords : ((empty 3).pushAll tiedWords).entries =
      [⟨"d", .nan false⟩, ⟨"a", .one⟩, ⟨"b", .one⟩] := by decide +kernel
  have hzeros : ((empty 2).pushAll zeros).entries = [⟨-3, .zero false⟩, ⟨-7, .zero true⟩] := by
    decide +kernel
  obtain ⟨hsize, ⟨sorted, hperm, hsorted, heq⟩, -, hany⟩ := entries_pushAll_eq_take_sorted 3 tiedWords
  obtain ⟨-, -, hbag, -⟩ := entries_pushAll_eq_take_sorted 2 zeros
  refine ⟨⟨sorted, hperm, hsorted, heq.symm.trans hwords⟩, ?_, ?_, ?_⟩
  · rw [hany _ (List.reverse_perm _), hwords]
  · exact hsize _ (List.take_prefix 2 tiedWords)
  · rw [hbag, hzeros]

end TopK

end SimilarItems
