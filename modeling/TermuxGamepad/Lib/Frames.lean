/-
  File:      TermuxGamepad/Lib/Frames.lean
  Subject:   Reading a byte stream frame by frame (library).

  A sender writes records of one codec back to back (`encAll`). A reader receives the bytes in
  pieces of any size, but never asks for more than is missing of the current record; it holds
  the bytes of the unfinished record in a buffer. `records` and `remainder` cut what has arrived
  into whole records and the beginning of the next, whoever sent it; `records_push` says what one
  received piece does to them, and `records_encAll` that a sender's records come back.
-/
import TermuxGamepad.Lib.Codec

namespace Wire

variable {α : Type}

/-! ## 1. Records back to back -/

/-- The records written back to back. -/
def Codec.encAll (c : Codec α) (l : List α) : List UInt8 := l.flatMap c.enc

namespace Codec

variable (c : Codec α)

@[simp] theorem encAll_nil : c.encAll [] = [] := rfl

@[simp] theorem encAll_cons (a : α) (l : List α) : c.encAll (a :: l) = c.enc a ++ c.encAll l := by
  simp [encAll]

@[simp] theorem encAll_append (l l' : List α) :
    c.encAll (l ++ l') = c.encAll l ++ c.encAll l' := by
  simp [encAll]

@[simp] theorem encAll_length (l : List α) : (c.encAll l).length = l.length * c.size := by
  induction l with
  | nil => simp
  | cons a l ih => simp [ih, Nat.add_mul, Nat.add_comm]

end Codec

/-! ## 2. Cutting a byte string into records -/

namespace Codec

variable (c : Codec α)

/-- The whole records at the front of a byte string. -/
def records (bs : List UInt8) : List α :=
  (List.range (bs.length / c.size)).map fun k => c.dec (bs.drop (k * c.size))

/-- What is left behind them. -/
def remainder (bs : List UInt8) : List UInt8 := bs.drop (bs.length / c.size * c.size)

theorem records_of_lt {bs : List UInt8} (h : bs.length < c.size) :
    c.records bs = [] ∧ c.remainder bs = bs := by
  simp [records, remainder, Nat.div_eq_of_lt h]

theorem records_of_le {bs : List UInt8} (hc : 0 < c.size) (h : c.size ≤ bs.length) :
    c.records bs = c.dec bs :: c.records (bs.drop c.size) ∧
      c.remainder bs = c.remainder (bs.drop c.size) := by
  have hdiv : bs.length / c.size = (bs.drop c.size).length / c.size + 1 := by
    rw [List.length_drop, Nat.div_eq_sub_div hc h]
  constructor
  · simp [records, hdiv, List.range_succ_eq_map, List.drop_drop, Function.comp_def, Nat.succ_mul,
      Nat.add_comm]
  · rw [remainder, hdiv, Nat.succ_mul, Nat.add_comm, ← List.drop_drop, remainder]

/-- The bytes of one record. -/
theorem records_enc (hc : 0 < c.size) (a : α) :
    c.records (c.enc a) = [a] ∧ c.remainder (c.enc a) = [] := by
  have hlen := c.enc_length a
  have hdrop : (c.enc a).drop c.size = [] := List.drop_of_length_le (le_of_eq hlen)
  obtain ⟨h1, h2⟩ := c.records_of_le hc (le_of_eq hlen.symm)
  obtain ⟨h3, h4⟩ := @records_of_lt _ c [] hc
  rw [hdrop] at h1 h2
  exact ⟨by rw [h1, c.dec_enc, h3], h2.trans h4⟩

theorem remainder_length (hc : 0 < c.size) (bs : List UInt8) :
    (c.remainder bs).length < c.size := by
  rw [remainder, List.length_drop, ← Nat.mod_eq_sub_div_mul]
  exact Nat.mod_lt _ hc

/-- A reader that asks for what its record lacks gets no more than that. -/
theorem remainder_room (hc : 0 < c.size) (bs more : List UInt8) :
    (c.remainder bs ++ more.take (c.size - (c.remainder bs).length)).length ≤ c.size := by
  have hlt := c.remainder_length hc bs
  rw [List.length_append, List.length_take]
  omega

/-- **Bytes that come later complete the record that was left over.** -/
theorem records_append (hc : 0 < c.size) (bs more : List UInt8) :
    c.records (bs ++ more) = c.records bs ++ c.records (c.remainder bs ++ more) ∧
      c.remainder (bs ++ more) = c.remainder (c.remainder bs ++ more) := by
  by_cases h : c.size ≤ bs.length
  · have h' : c.size ≤ (bs ++ more).length := by
      rw [List.length_append]
      omega
    have ih := records_append hc (bs.drop c.size) more
    obtain ⟨h1, h2⟩ := c.records_of_le hc h
    obtain ⟨h3, h4⟩ := c.records_of_le hc h'
    rw [List.drop_append_of_le_length h] at h3 h4
    rw [h1, h2, h3, h4, c.dec_append bs more h, ih.1, ih.2]
    exact ⟨rfl, rfl⟩
  · obtain ⟨h1, h2⟩ := c.records_of_lt (Nat.lt_of_not_le h)
    rw [h1, h2]
    exact ⟨rfl, rfl⟩
termination_by bs.length
decreasing_by
  rw [List.length_drop]
  omega

/-- **One received piece**, at most what the current record lacks: it completes a record, or none. -/
theorem records_push (hc : 0 < c.size) (bs : List UInt8) {piece : List UInt8}
    (hroom : (c.remainder bs ++ piece).length ≤ c.size) :
    ((c.remainder bs ++ piece).length < c.size ∧ c.records (bs ++ piece) = c.records bs ∧
        c.remainder (bs ++ piece) = c.remainder bs ++ piece) ∨
      ((c.remainder bs ++ piece).length = c.size ∧
        c.records (bs ++ piece) = c.records bs ++ [c.dec (c.remainder bs ++ piece)] ∧
        c.remainder (bs ++ piece) = []) := by
  obtain ⟨hrec, hrem⟩ := c.records_append hc bs piece
  rw [hrec, hrem]
  rcases Nat.lt_or_eq_of_le hroom with hlt | hfull
  · obtain ⟨h1, h2⟩ := c.records_of_lt hlt
    exact Or.inl ⟨hlt, by rw [h1, List.append_nil], h2⟩
  · -- the record is complete, and nothing follows it
    obtain ⟨h1, h2⟩ := c.records_of_le hc (le_of_eq hfull.symm)
    obtain ⟨h3, h4⟩ := @records_of_lt _ c [] hc
    rw [List.drop_of_length_le (le_of_eq hfull)] at h1 h2
    exact Or.inr ⟨hfull, by rw [h1, h3], by rw [h2, h4]⟩

/-- The records of a beginning are a beginning of the records. -/
theorem records_prefix (hc : 0 < c.size) {bs bs' : List UInt8} (h : bs <+: bs') :
    c.records bs <+: c.records bs' := by
  obtain ⟨more, rfl⟩ := h
  rw [(c.records_append hc bs more).1]
  exact List.prefix_append _ _

/-- Records written back to back, and what comes behind them. -/
theorem records_encAll_append (hc : 0 < c.size) (l : List α) (more : List UInt8) :
    c.records (c.encAll l ++ more) = l ++ c.records more := by
  induction l with
  | nil => rfl
  | cons a l ih =>
    rw [encAll_cons, List.append_assoc, (c.records_append hc _ _).1, (c.records_enc hc a).1,
      (c.records_enc hc a).2, List.nil_append, ih]
    rfl

theorem records_encAll (hc : 0 < c.size) (l : List α) : c.records (c.encAll l) = l := by
  have h := c.records_encAll_append hc l []
  rwa [List.append_nil, (@records_of_lt _ c [] hc).1, List.append_nil] at h

end Codec

end Wire
