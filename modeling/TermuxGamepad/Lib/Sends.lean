/-
  File:      TermuxGamepad/Lib/Sends.lean
  Subject:   Records of which a sender may get out only a part (library).

  A sender writes records of one codec to a stream, but a send may fail after some bytes of its
  record. The reader cuts the stream into frames of the record's size and cannot tell. Each frame
  holds bytes of one send only, exactly if nothing follows a send that was cut short
  (`apart_iff`); and then the reader gets the records that went out whole, in order
  (`Unbroken.records`).
-/
import TermuxGamepad.Lib.Frames

namespace Wire

variable {α : Type}

/-- A record of which the first `sent` bytes went out. -/
structure Send (c : Codec α) where
  record : α
  sent : Nat
  sent_le : sent ≤ c.size
  deriving DecidableEq

namespace Send

variable {c : Codec α}

/-- More bytes of the record go out. -/
def more (s : Send c) (n : Nat) : Send c :=
  { s with sent := min (s.sent + n) c.size, sent_le := Nat.min_le_right _ _ }

def bytes (s : Send c) : List UInt8 := (c.enc s.record).take s.sent

/-- What the sends put on the stream. -/
def stream (l : List (Send c)) : List UInt8 := l.flatMap bytes

/-- The records that went out whole. -/
def whole (l : List (Send c)) : List α :=
  l.filterMap fun s => if s.sent = c.size then some s.record else none

/-- Which send each byte of the stream is of, with the first send counted as `k`. -/
def owners : Nat → List (Send c) → List Nat
  | _, [] => []
  | k, s :: l => List.replicate s.sent k ++ owners (k + 1) l

/-- A send that was cut short has no byte behind it. -/
def Unbroken (l : List (Send c)) : Prop :=
  ∀ pre s post, l = pre ++ s :: post → 0 < s.sent → s.sent < c.size → stream post = []

/-- The bytes of one frame, be it the unfinished last one, are of one send. -/
def Apart (k : Nat) (l : List (Send c)) : Prop :=
  ∀ p q x y, (owners k l)[p]? = some x → (owners k l)[q]? = some y → p / c.size = q / c.size → x = y

/-! ## 1. The stream -/

@[simp] theorem bytes_length (s : Send c) : s.bytes.length = s.sent := by
  rw [bytes, List.length_take_of_le]
  rw [c.enc_length]
  exact s.sent_le

@[simp] theorem stream_nil : stream ([] : List (Send c)) = [] := rfl

@[simp] theorem stream_cons (s : Send c) (l : List (Send c)) :
    stream (s :: l) = s.bytes ++ stream l := rfl

@[simp] theorem stream_append (l l' : List (Send c)) : stream (l ++ l') = stream l ++ stream l' :=
  List.flatMap_append

theorem bytes_of_zero {s : Send c} (h : s.sent = 0) : s.bytes = [] :=
  List.length_eq_zero_iff.mp (s.bytes_length.trans h)

theorem bytes_of_whole {s : Send c} (h : s.sent = c.size) : s.bytes = c.enc s.record := by
  rw [bytes, h, List.take_of_length_le (Nat.le_of_eq (c.enc_length _))]

/-- The bytes that went out later are those behind the ones before. -/
theorem bytes_more (s : Send c) (n : Nat) :
    (s.more n).bytes = s.bytes ++ ((c.enc s.record).drop s.sent).take n := by
  show (c.enc s.record).take (min (s.sent + n) c.size) = _
  have hall : (c.enc s.record).take c.size = c.enc s.record :=
    List.take_of_length_le (Nat.le_of_eq (c.enc_length _))
  rw [bytes, ← List.take_add, ← List.take_take, hall]

theorem owners_length (k : Nat) (l : List (Send c)) : (owners k l).length = (stream l).length := by
  induction l generalizing k with
  | nil => rfl
  | cons s l ih => rw [owners, List.length_append, List.length_replicate, ih, stream_cons,
      List.length_append, bytes_length]

theorem le_of_mem_owners {k x : Nat} {l : List (Send c)} (h : x ∈ owners k l) : k ≤ x := by
  induction l generalizing k with
  | nil => cases h
  | cons s l ih =>
    rcases List.mem_append.mp h with h | h
    · exact Nat.le_of_eq (List.eq_of_mem_replicate h).symm
    · exact Nat.le_of_succ_le (ih h)

/-! ## 2. One send after the other -/

theorem unbroken_nil : Unbroken ([] : List (Send c)) := fun pre _ _ h => by cases pre <;> cases h

theorem unbroken_cons (s : Send c) (l : List (Send c)) :
    Unbroken (s :: l) ↔ (0 < s.sent → s.sent < c.size → stream l = []) ∧ Unbroken l := by
  constructor
  · intro h
    exact ⟨h [] s l rfl, fun pre t post hl => h (s :: pre) t post (by rw [hl]; rfl)⟩
  · rintro ⟨hs, hl⟩ pre t post h
    cases pre with
    | nil =>
      obtain ⟨rfl, rfl⟩ := List.cons.inj h
      exact hs
    | cons u pre => exact hl pre t post (List.cons.inj h).2

/-- **The reader gets the whole records**, and what is left over is the part of a record. -/
theorem Unbroken.records (hc : 0 < c.size) {l : List (Send c)} (h : Unbroken l) :
    c.records (stream l) = whole l := by
  induction l with
  | nil => exact (@Codec.records_of_lt _ c [] hc).1
  | cons s l ih =>
    obtain ⟨hs, hl⟩ := (unbroken_cons s l).mp h
    have hrest := ih hl
    rcases Nat.eq_zero_or_pos s.sent with h0 | hpos
    · have hskip : whole (s :: l) = whole l :=
        List.filterMap_cons_none (if_neg (by omega))
      rw [stream_cons, bytes_of_zero h0, List.nil_append, hrest, hskip]
    · rcases Nat.lt_or_eq_of_le s.sent_le with hpart | hwhole
      · have hnil := hs hpos hpart
        have hskip : whole (s :: l) = whole l :=
          List.filterMap_cons_none (if_neg (by omega))
        rw [hnil, (c.records_of_lt (by exact hc)).1] at hrest
        rw [stream_cons, hnil, List.append_nil, hskip, ← hrest]
        exact (c.records_of_lt (by rw [bytes_length]; exact hpart)).1
      · have htake : whole (s :: l) = s.record :: whole l :=
          List.filterMap_cons_some (if_pos hwhole)
        have hlen : c.size ≤ (c.enc s.record ++ stream l).length := by
          rw [List.length_append, c.enc_length]
          omega
        rw [stream_cons, bytes_of_whole hwhole, (c.records_of_le hc hlen).1, c.dec_enc_append,
          List.drop_left' (c.enc_length _), hrest, htake]

theorem apart_nil (k : Nat) : Apart k ([] : List (Send c)) := fun _ _ _ _ h => by cases h

theorem apart_cons (hc : 0 < c.size) (k : Nat) (s : Send c) (l : List (Send c)) :
    Apart k (s :: l) ↔ (0 < s.sent → s.sent < c.size → stream l = []) ∧ Apart (k + 1) l := by
  have hfront : ∀ p, p < s.sent → (owners k (s :: l))[p]? = some k := fun p hp => by
    rw [owners, List.getElem?_append_left (by simpa using hp), List.getElem?_replicate, if_pos hp]
  have hback : ∀ p, (owners k (s :: l))[p + s.sent]? = (owners (k + 1) l)[p]? := fun p => by
    rw [owners, List.getElem?_append_right (by simp), List.length_replicate, Nat.add_sub_cancel]
  have hempty : stream l = [] → owners (k + 1) l = [] := fun h => by
    rw [← List.length_eq_zero_iff, owners_length, h]
    rfl
  constructor
  · intro h
    have hs : 0 < s.sent → s.sent < c.size → stream l = [] := by
      intro hpos hpart
      by_contra hne
      -- the last byte of this send and the first behind it are in one frame
      cases hown : owners (k + 1) l with
      | nil =>
        rw [← List.length_eq_zero_iff, owners_length, List.length_eq_zero_iff] at hown
        exact hne hown
      | cons y rest =>
        have hy : (owners k (s :: l))[0 + s.sent]? = some y := by rw [hback, hown]; rfl
        have hx := hfront (s.sent - 1) (by omega)
        have hlow := @le_of_mem_owners _ c (k + 1) y l (hown ▸ List.mem_cons_self)
        have := h _ _ _ _ hx hy (by rw [Nat.div_eq_of_lt (by omega), Nat.div_eq_of_lt (by omega)])
        omega
    refine ⟨hs, fun p q x y hx hy hpq => ?_⟩
    rcases Nat.eq_zero_or_pos s.sent with h0 | hpos
    · refine h (p + s.sent) (q + s.sent) x y ((hback p).trans hx) ((hback q).trans hy) ?_
      rw [h0]
      exact hpq
    · rcases Nat.lt_or_eq_of_le s.sent_le with hpart | hwhole
      · rw [hempty (hs hpos hpart)] at hx
        cases hx
      · refine h (p + s.sent) (q + s.sent) x y ((hback p).trans hx) ((hback q).trans hy) ?_
        rw [hwhole, Nat.add_div_right p hc, Nat.add_div_right q hc, hpq]
  · rintro ⟨hs, hl⟩ p q x y hx hy hpq
    by_cases hp : p < s.sent
    · have hxk : x = k := Option.some.inj (hx.symm.trans (hfront p hp))
      by_cases hq : q < s.sent
      · exact hxk.trans (Option.some.inj (hy.symm.trans (hfront q hq))).symm
      · -- nothing is behind a part, and what is behind a whole record is another frame
        obtain ⟨r, rfl⟩ : ∃ r, q = r + s.sent := ⟨q - s.sent, by omega⟩
        rw [hback] at hy
        rcases Nat.lt_or_eq_of_le s.sent_le with hpart | hwhole
        · rw [hempty (hs (by omega) hpart)] at hy
          cases hy
        · rw [Nat.div_eq_of_lt (by omega), hwhole, Nat.add_div_right r hc] at hpq
          cases hpq
    · obtain ⟨r, rfl⟩ : ∃ r, p = r + s.sent := ⟨p - s.sent, by omega⟩
      rw [hback] at hx
      by_cases hq : q < s.sent
      · rcases Nat.lt_or_eq_of_le s.sent_le with hpart | hwhole
        · rw [hempty (hs (by omega) hpart)] at hx
          cases hx
        · rw [Nat.div_eq_of_lt (a := q) (by omega), hwhole, Nat.add_div_right r hc] at hpq
          cases hpq
      · obtain ⟨r', rfl⟩ : ∃ r', q = r' + s.sent := ⟨q - s.sent, by omega⟩
        rw [hback] at hy
        refine hl r r' x y hx hy ?_
        rcases Nat.eq_zero_or_pos s.sent with h0 | hpos
        · rwa [h0] at hpq
        · rcases Nat.lt_or_eq_of_le s.sent_le with hpart | hwhole
          · rw [hempty (hs hpos hpart)] at hx
            cases hx
          · rw [hwhole, Nat.add_div_right r hc, Nat.add_div_right r' hc] at hpq
            exact Nat.succ.inj hpq

/-- **Frames hold bytes of one send** exactly if nothing follows a part. -/
theorem apart_iff (hc : 0 < c.size) (k : Nat) (l : List (Send c)) : Apart k l ↔ Unbroken l := by
  induction l generalizing k with
  | nil => exact ⟨fun _ => unbroken_nil, fun _ => apart_nil k⟩
  | cons s l ih => rw [apart_cons hc, unbroken_cons, ih]

end Send

end Wire
