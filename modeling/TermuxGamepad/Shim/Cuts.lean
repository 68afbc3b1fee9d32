/-
  File:      TermuxGamepad/Shim/Cuts.lean
  Subject:   The DirectInput translation of a stream that the socket and the caller cut anywhere.

  A read translates the records it counts from its own first byte, whatever the byte is in the
  stream. So a record is translated exactly if one read holds it whole and starts on a record
  boundary, and a read that starts inside a record may translate bytes that only look like one
  (`cuts_iff`).
-/
import TermuxGamepad.Advertisement
import TermuxGamepad.Shim.PassThrough

namespace TermuxGamepad

open Wire

/-! ## 1. The byte a translation changes -/

/-- Reading a number does not look behind it. -/
theorem u16_dec_take (bs : List UInt8) {k : Nat} (hk : 2 ≤ k) :
    Codec.u16.dec (bs.take k) = Codec.u16.dec bs := by
  by_cases h : k ≤ bs.length
  · have hlen : Codec.u16.size ≤ (bs.take k).length := by
      rw [List.length_take_of_le h]
      exact hk
    rw [← Codec.u16.dec_append (bs.take k) (bs.drop k) hlen, List.take_append_drop]
  · rw [List.take_of_length_le (by omega)]

/-- The bytes begin like an EV_KEY record whose code the profile maps to another one. -/
def Mapped (record : List UInt8) : Prop :=
  Codec.u16.dec (record.drop 16) = evKey ∧
    dinputButtonCode (Codec.u16.dec (record.drop 18)) ≠ Codec.u16.dec (record.drop 18)

instance (record : List UInt8) : Decidable (Mapped record) :=
  inferInstanceAs (Decidable (_ ∧ _))

/-- The low byte of the code it is mapped to. -/
def mappedByte (record : List UInt8) : UInt8 :=
  UInt8.ofNat (dinputButtonCode (Codec.u16.dec (record.drop 18))).toNat

theorem mapped_take (bs : List UInt8) {k : Nat} (hk : 20 ≤ k) :
    (Mapped (bs.take k) ↔ Mapped bs) ∧ mappedByte (bs.take k) = mappedByte bs := by
  have h16 : Codec.u16.dec ((bs.take k).drop 16) = Codec.u16.dec (bs.drop 16) := by
    rw [List.drop_take, u16_dec_take _ (by omega)]
  have h18 : Codec.u16.dec ((bs.take k).drop 18) = Codec.u16.dec (bs.drop 18) := by
    rw [List.drop_take, u16_dec_take _ (by omega)]
  unfold Mapped mappedByte
  rw [h16, h18]
  exact ⟨Iff.rfl, rfl⟩

/-- One line of the map, whose two codes have the same high byte. -/
theorem high_ite {code c c' rest : UInt16} (h : c'.toNat / 256 = c.toNat / 256)
    (hrest : rest.toNat / 256 = code.toNat / 256) :
    (if code = c then c' else rest).toNat / 256 = code.toNat / 256 := by
  split
  · rename_i hc
    rw [hc, h]
  · exact hrest

/-- The map keeps the high byte of a code. -/
theorem dinputButtonCode_high (code : UInt16) :
    (dinputButtonCode code).toNat / 256 = code.toNat / 256 := by
  unfold dinputButtonCode
  repeat refine high_ite rfl ?_
  rfl

/-- A record around the two bytes of its code. -/
theorem record_parts {w : List UInt8} (hw : 20 ≤ w.length) :
    ∃ a x y b, w = a ++ x :: y :: b ∧ a.length = 18 := by
  have h18 : 18 < w.length := by omega
  have h19 : 19 < w.length := by omega
  refine ⟨w.take 18, w[18], w[19], w.drop 20, ?_, List.length_take_of_le (Nat.le_of_lt h18)⟩
  rw [← List.drop_eq_getElem_cons h19, ← List.drop_eq_getElem_cons h18,
    List.take_append_drop]

theorem dec_parts {a b : List UInt8} {x y : UInt8} (ha : a.length = 18) :
    (Codec.u16.dec ((a ++ x :: y :: b).drop 18)).toNat = x.toNat + 256 * y.toNat := by
  rw [List.drop_left' ha]
  show (UInt16.ofNat (leNat 2 (x :: y :: b))).toNat = _
  have hx := x.toNat_lt
  have hy := y.toNat_lt
  simp only [leNat, UInt16.toNat_ofNat']
  omega

/-- **A translated record** differs in the low byte of its code, if at all. -/
theorem dinputRecord_getElem {w : List UInt8} (hw : 20 ≤ w.length) (p : Nat) :
    (dinputRecord w)[p]? = if p = 18 ∧ Mapped w then some (mappedByte w) else w[p]? := by
  obtain ⟨a, x, y, b, hparts, ha⟩ := record_parts hw
  have hcode := @dec_parts a b x y ha
  rw [← hparts] at hcode
  have hhigh := dinputButtonCode_high (Codec.u16.dec (w.drop 18))
  have hx := x.toNat_lt
  have hy := y.toNat_lt
  have hbytes : Codec.u16.enc (dinputButtonCode (Codec.u16.dec (w.drop 18))) =
      [mappedByte w, y] := by
    have hy' : UInt8.ofNat ((dinputButtonCode (Codec.u16.dec (w.drop 18))).toNat / 256) = y := by
      rw [hhigh, hcode, show (x.toNat + 256 * y.toNat) / 256 = y.toNat by omega, UInt8.ofNat_toNat]
    show leBytes 2 _ = _
    simp only [leBytes, hy', mappedByte]
  have hdrop : w.drop 20 = b := by
    rw [hparts, show (20 : Nat) = a.length + 2 by omega, ← List.drop_drop, List.drop_left]
    rfl
  have htake : w.take 18 = a := by rw [hparts, List.take_left' ha]
  by_cases hkey : Codec.u16.dec (w.drop 16) = evKey
  · have hrecord : dinputRecord w = a ++ mappedByte w :: y :: b := by
      rw [dinputRecord, if_pos hkey, htake, hdrop, hbytes, List.append_assoc]
      rfl
    rw [hrecord]
    by_cases hp : p = 18
    · have hat : ∀ z, (a ++ z :: y :: b)[p]? = some z := by
        intro z
        rw [hp, ← ha, List.getElem?_append_right (Nat.le_refl _), Nat.sub_self,
          List.getElem?_cons_zero]
      rw [hat]
      by_cases hm : Mapped w
      · rw [if_pos ⟨hp, hm⟩]
      · -- the code maps to itself: the byte is the one that was there
        have hsame : dinputButtonCode (Codec.u16.dec (w.drop 18)) = Codec.u16.dec (w.drop 18) := by
          by_contra hne
          exact hm ⟨hkey, hne⟩
        have hbyte : mappedByte w = x := by
          rw [mappedByte, hsame, hcode]
          apply UInt8.toNat_inj.mp
          rw [UInt8.toNat_ofNat']
          omega
        rw [if_neg (fun h => hm h.2), hbyte]
        conv_rhs => rw [hparts, hat]
    · rw [if_neg (fun h => hp h.1)]
      conv_rhs => rw [hparts]
      rw [List.getElem?_append, List.getElem?_append]
      split
      · rfl
      · obtain ⟨m, hm⟩ : ∃ m, p - a.length = m + 1 := ⟨p - 19, by omega⟩
        rw [hm, List.getElem?_cons_succ, List.getElem?_cons_succ]
  · rw [dinputRecord, if_neg hkey, if_neg (fun h => hkey h.2.1)]

/-- A mapped code has another low byte. -/
theorem mapped_ne {w : List UInt8} (hw : 20 ≤ w.length) (h : Mapped w) :
    some (mappedByte w) ≠ w[18]? := by
  obtain ⟨a, x, y, b, rfl, ha⟩ := record_parts hw
  have hcode := @dec_parts a b x y ha
  have hhigh := dinputButtonCode_high (Codec.u16.dec ((a ++ x :: y :: b).drop 18))
  have hx := x.toNat_lt
  obtain ⟨-, hne⟩ := h
  unfold mappedByte
  generalize Codec.u16.dec ((a ++ x :: y :: b).drop 18) = code at *
  intro heq
  rw [← ha, List.getElem?_append_right (Nat.le_refl _), Nat.sub_self, List.getElem?_cons_zero] at heq
  have hlow := congrArg UInt8.toNat (Option.some.inj heq)
  rw [UInt8.toNat_ofNat'] at hlow
  exact hne (UInt16.toNat_inj.mp (by omega))

theorem dinputRecord_length {w : List UInt8} (hw : 20 ≤ w.length) :
    (dinputRecord w).length = w.length := by
  unfold dinputRecord
  split
  · rw [List.length_append, List.length_append, Codec.u16.enc_length, List.length_take_of_le (by omega),
      List.length_drop]
    show 18 + 2 + (w.length - 20) = w.length
    omega
  · rfl

theorem dinputRecords_length (n : Nat) (bs : List UInt8) (h : 24 * n ≤ bs.length) :
    (dinputRecords n bs).length = bs.length := by
  induction n generalizing bs with
  | zero => rfl
  | succ n ih =>
    have hlen : (bs.take 24).length = 24 := List.length_take_of_le (by omega)
    have htail : (bs.drop 24).length = bs.length - 24 := List.length_drop
    show (dinputRecord (bs.take 24) ++ dinputRecords n (bs.drop 24)).length = _
    rw [List.length_append, dinputRecord_length (by omega), ih _ (by omega)]
    omega

/-- **Translated records** differ in the low byte of a mapped code, and nowhere else. -/
theorem dinputRecords_getElem (n : Nat) (bs : List UInt8) (h : 24 * n ≤ bs.length) (p : Nat) :
    (dinputRecords n bs)[p]? =
      if p % 24 = 18 ∧ p / 24 < n ∧ Mapped (bs.drop (24 * (p / 24))) then
        some (mappedByte (bs.drop (24 * (p / 24))))
      else bs[p]? := by
  induction n generalizing bs p with
  | zero => rw [if_neg (fun h => Nat.not_lt_zero _ h.2.1)]; rfl
  | succ n ih =>
    have h24 : 24 ≤ bs.length := by omega
    have hlen : (bs.take 24).length = 24 := List.length_take_of_le h24
    have hlen' : (dinputRecord (bs.take 24)).length = 24 := by
      rw [dinputRecord_length (by omega), hlen]
    have htail : 24 * n ≤ (bs.drop 24).length := by
      rw [List.length_drop]
      omega
    show (dinputRecord (bs.take 24) ++ dinputRecords n (bs.drop 24))[p]? = _
    rw [List.getElem?_append, hlen']
    split
    · rename_i hp
      have hdiv : p / 24 = 0 := by omega
      obtain ⟨hm, hb⟩ := mapped_take bs (k := 24) (by omega)
      rw [dinputRecord_getElem (by omega), hdiv, Nat.mul_zero, List.drop_zero, hb,
        List.getElem?_take_of_lt hp, Nat.mod_eq_of_lt hp]
      simp [hm]
    · rename_i hp
      have hmod : (p - 24) % 24 = p % 24 := by omega
      have hdiv : p / 24 = (p - 24) / 24 + 1 := by omega
      have hdrop : (bs.drop 24).drop (24 * ((p - 24) / 24)) = bs.drop (24 * (p / 24)) := by
        rw [List.drop_drop, hdiv, Nat.mul_succ, Nat.add_comm]
      have hget : (bs.drop 24)[p - 24]? = bs[p]? := by
        rw [List.getElem?_drop, Nat.add_sub_cancel' (by omega)]
      rw [ih _ htail, hdrop, hmod, hget, hdiv]
      simp only [Nat.add_lt_add_iff_right]

/-! ## 2. One cut of a stream -/

/-- What a read returns for the bytes it got. -/
def translateCut (cut : List UInt8) : List UInt8 :=
  dinputRecords (cut.length / inputEventCodec.size) cut

theorem translateCut_nil : translateCut [] = [] := by
  rw [translateCut, List.length_nil, Nat.zero_div]
  rfl

/-- **A read does no harm** to the stream: the reads that hold the code of a mapped button record
    start on a record boundary and hold the record whole; a read that starts inside a record has
    nothing that begins like such a record where it counts records. -/
structure Unharmed (stream : List UInt8) (start length : Nat) : Prop where
  whole : ∀ k, Mapped (stream.drop (24 * k)) → start ≤ 24 * k + 18 →
    24 * k + 18 < start + length → start % 24 = 0 ∧ 24 * k + 24 ≤ start + length
  clean : start % 24 ≠ 0 → ∀ j < length / 24, ¬Mapped (stream.drop (start + 24 * j))

/-- The bytes a read returns, by their place in the stream. -/
theorem translateCut_getElem {stream : List UInt8} {start length : Nat}
    (hfit : start + length ≤ stream.length) {r : Nat} (hr : r < length) :
    (translateCut ((stream.drop start).take length))[r]? =
      if r % 24 = 18 ∧ r / 24 < length / 24 ∧ Mapped (stream.drop (start + 24 * (r / 24))) then
        some (mappedByte (stream.drop (start + 24 * (r / 24))))
      else stream[start + r]? := by
  have hlen : ((stream.drop start).take length).length = length := by
    rw [List.length_take_of_le]
    rw [List.length_drop]
    omega
  have hget : ((stream.drop start).take length)[r]? = stream[start + r]? := by
    rw [List.getElem?_take_of_lt hr, List.getElem?_drop]
  rw [translateCut, hlen, inputEventCodec_size, dinputRecords_getElem _ _ (by omega), hget]
  by_cases hin : r / 24 < length / 24
  · obtain ⟨hm, hb⟩ := mapped_take (stream.drop (start + 24 * (r / 24)))
      (k := length - 24 * (r / 24)) (by omega)
    rw [List.drop_take, List.drop_drop, hb]
    simp only [hm]
  · rw [if_neg (fun h => hin h.2.1), if_neg (fun h => hin h.2.1)]

/-- **One read** returns its part of the translated stream exactly if it does no harm. -/
theorem cut_iff {stream : List UInt8} {n : Nat} (hn : stream.length = 24 * n) {start length : Nat}
    (hfit : start + length ≤ stream.length) :
    translateCut ((stream.drop start).take length) =
        ((dinputRecords n stream).drop start).take length ↔
      Unharmed stream start length := by
  have hexp : ∀ r < length, (((dinputRecords n stream).drop start).take length)[r]? =
      if (start + r) % 24 = 18 ∧ (start + r) / 24 < n ∧
          Mapped (stream.drop (24 * ((start + r) / 24))) then
        some (mappedByte (stream.drop (24 * ((start + r) / 24))))
      else stream[start + r]? := by
    intro r hr
    rw [List.getElem?_take_of_lt hr, List.getElem?_drop, dinputRecords_getElem n stream (by omega)]
  -- a mapped record leaves room for its code
  have hroom : ∀ q, Mapped (stream.drop q) → q + 20 ≤ stream.length → 
      some (mappedByte (stream.drop q)) ≠ stream[q + 18]? := by
    intro q hq hlen
    have h := mapped_ne (by rw [List.length_drop]; omega) hq
    rwa [List.getElem?_drop] at h
  constructor
  · intro heq
    constructor
    · intro k hk hlow hhigh
      obtain ⟨r, hr⟩ : ∃ r, start + r = 24 * k + 18 := ⟨24 * k + 18 - start, by omega⟩
      have hdiv : (24 * k + 18) / 24 = k := by omega
      have hread := translateCut_getElem hfit (r := r) (by omega)
      have hright := hexp r (by omega)
      rw [hr, hdiv, if_pos ⟨by omega, by omega, hk⟩] at hright
      rw [heq, hright, hr] at hread
      split at hread
      · omega
      · exact absurd hread (hroom _ hk (by omega))
    · intro hstart j hj hm
      have hdiv : (24 * j + 18) / 24 = j := by omega
      have hread := translateCut_getElem hfit (r := 24 * j + 18) (by omega)
      have hright := hexp (24 * j + 18) (by omega)
      rw [if_neg (by omega)] at hright
      rw [heq, hright, hdiv, if_pos ⟨by omega, hj, hm⟩, ← Nat.add_assoc] at hread
      exact hroom _ hm (by omega) hread.symm
  · intro h
    apply List.ext_getElem?
    intro r
    by_cases hr : r < length
    · rw [translateCut_getElem hfit hr, hexp r hr]
      by_cases hread : r % 24 = 18 ∧ r / 24 < length / 24 ∧
          Mapped (stream.drop (start + 24 * (r / 24)))
      · -- the read translates here, so it starts on a record boundary
        have hstart : start % 24 = 0 := by
          by_contra hne
          exact h.clean hne _ hread.2.1 hread.2.2
        have hplace : start + 24 * (r / 24) = 24 * ((start + r) / 24) := by omega
        rw [if_pos hread, if_pos ⟨by omega, by omega, hplace ▸ hread.2.2⟩, hplace]
      · rw [if_neg hread]
        by_cases hrec : (start + r) % 24 = 18 ∧ (start + r) / 24 < n ∧
            Mapped (stream.drop (24 * ((start + r) / 24)))
        · obtain ⟨hstart, hend⟩ := h.whole _ hrec.2.2 (by omega) (by omega)
          have hplace : start + 24 * (r / 24) = 24 * ((start + r) / 24) := by omega
          exact absurd ⟨by omega, by omega, hplace ▸ hrec.2.2⟩ hread
        · rw [if_neg hrec]
    · have hlen : (translateCut ((stream.drop start).take length)).length ≤ r := by
        rw [translateCut, dinputRecords_length _ _ (by rw [inputEventCodec_size]; omega)]
        exact (List.length_take_le ..).trans (by omega)
      have hlen' : (((dinputRecords n stream).drop start).take length).length ≤ r :=
        (List.length_take_le ..).trans (by omega)
      rw [List.getElem?_eq_none hlen, List.getElem?_eq_none hlen']

/-! ## 3. All cuts of a stream -/

/-- Where the cuts of a stream start, and how long they are. -/
def pieces : Nat → List (List UInt8) → List (Nat × Nat)
  | _, [] => []
  | start, cut :: cuts => (start, cut.length) :: pieces (start + cut.length) cuts

/-- The reads of a whole stream return the translated stream exactly if each of them does no
    harm. -/
theorem cuts_iff {stream : List UInt8} {n : Nat} (hn : stream.length = 24 * n)
    (cuts : List (List UInt8)) (start : Nat) (hstart : start ≤ stream.length)
    (hcuts : cuts.flatten = stream.drop start) :
    (cuts.map translateCut).flatten = (dinputRecords n stream).drop start ↔
      ∀ piece ∈ pieces start cuts, Unharmed stream piece.1 piece.2 := by
  have hlen : (dinputRecords n stream).length = stream.length := dinputRecords_length n stream (by omega)
  induction cuts generalizing start with
  | nil =>
    have hend : stream.length - start = 0 := by
      rw [← List.length_drop, ← hcuts]
      rfl
    have hall : (dinputRecords n stream).drop start = [] := List.drop_eq_nil_of_le (by omega)
    exact ⟨fun _ _ h => absurd h List.not_mem_nil, fun _ => hall.symm⟩
  | cons cut cuts ih =>
    rw [List.flatten_cons] at hcuts
    have hfit : start + cut.length ≤ stream.length := by
      have h := congrArg List.length hcuts
      rw [List.length_append, List.length_drop] at h
      omega
    have hcut : cut = (stream.drop start).take cut.length := by
      rw [← hcuts, List.take_left]
    have hrest : cuts.flatten = stream.drop (start + cut.length) := by
      rw [← List.drop_drop, ← hcuts, List.drop_left]
    have hout : (translateCut cut).length =
        (((dinputRecords n stream).drop start).take cut.length).length := by
      have hsize : cut.length / inputEventCodec.size = cut.length / 24 := rfl
      rw [translateCut, dinputRecords_length _ _ (by omega), List.length_take_of_le]
      rw [List.length_drop]
      omega
    have hone := cut_iff hn hfit
    rw [← hcut] at hone
    have hsplit : (dinputRecords n stream).drop start =
        ((dinputRecords n stream).drop start).take cut.length ++
          (dinputRecords n stream).drop (start + cut.length) := by
      rw [← List.drop_drop, List.take_append_drop]
    have htail := ih (start + cut.length) hfit hrest
    rw [List.map_cons, List.flatten_cons, hsplit, pieces, List.forall_mem_cons]
    constructor
    · intro h
      obtain ⟨h1, h2⟩ := List.append_inj h hout
      exact ⟨hone.mp h1, htail.mp h2⟩
    · rintro ⟨h1, h2⟩
      rw [hone.mpr h1, htail.mpr h2]

/-! ## 4. Reading a descriptor -/

/-- A read of a program: the buffer and the length it passes, and what the socket answers. -/
structure CutRead where
  buffer : UInt64
  length : Nat
  answer : Outcome

/-- The answer as `read` can give it. -/
def CutRead.outcome (r : CutRead) : Outcome := r.answer.ofRead r.length

/-- The bytes the reads got from the socket. -/
def cutsOf (reads : List CutRead) : List (List UInt8) := reads.map fun r => r.outcome.stored

namespace Shim

/-- The reads one after another: the bytes they return together. -/
def readAll (env : Env) (s : Shim) (fd : Int) : List CutRead → List UInt8
  | [] => []
  | r :: reads =>
    let p := s.read env fd r.buffer r.length
    p.2.stored ++ readAll env p.1 fd reads

/-- **One read** of a DirectInput descriptor. -/
theorem read_cut (env : Env) {s : Shim} {fd : Int} {fake : FakeFd} (hinit : s.initDone = true)
    (hread : s.resolved .read = true) (hfake : s.findFakeFd fd = some fake)
    (hevdev : fake.joydev = false) (hdinput : s.isDinput fake = true) {r : CutRead}
    {rest : List Outcome} (hreals : s.reals = r.outcome :: rest) (hbuffer : r.buffer ≠ 0) :
    ∃ e, s.read env fd r.buffer r.length =
      ({ s with reals := rest }.emit e,
        { result := r.outcome.result, stored := translateCut r.outcome.stored }) := by
  have hdone : s.init env = s := if_pos hinit
  have hreal : s.readReal fd r.buffer r.length =
      ({ s with reals := rest }.emit (.real (.read fd (.caller r.buffer) r.length) r.outcome),
        r.outcome) := by
    unfold readReal callReal
    rw [if_pos hread, hreals]
    rfl
  refine ⟨.real (.read fd (.caller r.buffer) r.length) r.outcome, ?_⟩
  unfold read
  simp only [hdone, hfake, hevdev, hreal, hdinput, hbuffer, Bool.false_eq_true, if_false, Bool.not_true,
    false_or, or_false]
  unfold CutRead.outcome Outcome.ofRead
  split
  · rw [translateCut_nil]
  · dsimp only
    split
    · rename_i hempty
      have hnil : r.answer.stored.take r.length = [] := by
        rw [← List.length_eq_zero_iff]
        omega
      rw [hnil, translateCut_nil]
    · rw [Int.toNat_natCast]
      rfl

theorem readAll_eq (env : Env) {fd : Int} {fake : FakeFd} (hevdev : fake.joydev = false)
    (reads : List CutRead) (hbuffers : ∀ r ∈ reads, r.buffer ≠ 0) (s : Shim)
    (hinit : s.initDone = true) (hread : s.resolved .read = true)
    (hfake : s.findFakeFd fd = some fake) (hdinput : s.isDinput fake = true)
    (hreals : s.reals = reads.map CutRead.outcome) :
    s.readAll env fd reads = ((cutsOf reads).map translateCut).flatten := by
  induction reads generalizing s with
  | nil => rfl
  | cons r reads ih =>
    obtain ⟨e, he⟩ := read_cut env hinit hread hfake hevdev hdinput hreals
      (hbuffers r List.mem_cons_self)
    have htail := ih (fun r' hr' => hbuffers r' (List.mem_cons_of_mem _ hr'))
      ({ s with reals := reads.map CutRead.outcome }.emit e) hinit hread hfake hdinput rfl
    unfold readAll
    rw [he]
    dsimp only
    rw [htail]
    rfl

end Shim

/-- **A DirectInput descriptor returns the translated stream** exactly if no read harms it. -/
theorem dinput_cuts_iff (env : Env) {s : Shim} {fd : Int} {fake : FakeFd}
    (hinit : s.initDone = true) (hread : s.resolved .read = true)
    (hfake : s.findFakeFd fd = some fake) (hevdev : fake.joydev = false)
    (hdinput : s.isDinput fake = true) (es : List InputEvent) (reads : List CutRead)
    (hbuffers : ∀ r ∈ reads, r.buffer ≠ 0) (hreals : s.reals = reads.map CutRead.outcome)
    (hcuts : (cutsOf reads).flatten = inputEventCodec.encAll es) :
    s.readAll env fd reads = inputEventCodec.encAll (es.map InputEvent.dinput) ↔
      ∀ piece ∈ pieces 0 (cutsOf reads),
        Unharmed (inputEventCodec.encAll es) piece.1 piece.2 := by
  have hlen : (inputEventCodec.encAll es).length = 24 * es.length := by
    rw [inputEventCodec.encAll_length, inputEventCodec_size, Nat.mul_comm]
  have hall := dinputRecords_encAll es []
  rw [List.append_nil, List.append_nil] at hall
  rw [Shim.readAll_eq env hevdev reads hbuffers s hinit hread hfake hdinput hreals, ← hall]
  exact cuts_iff hlen (cutsOf reads) 0 (Nat.zero_le _) hcuts

/-! ## 5. A read of a hundred bytes -/

/-- The bridge's answer to a program that opens the node. -/
def dinputAnswer : ConnectAnswer :=
  { socket := 3, connect := 0, send := 16, received := deviceDescriptorCodec.enc dinputFd.descriptor }

/-- A program that reads the snapshot with a buffer of 100 bytes, then with a larger one. -/
def snapshotReads : List CutRead :=
  [{ buffer := 4096, length := 100, answer := ⟨504, inputEventCodec.encAll restSnapshot⟩ },
   { buffer := 4096, length := 1024, answer := ⟨404, (inputEventCodec.encAll restSnapshot).drop 100⟩ }]

/-- The shim after the program has opened the node. -/
def dinputShim : Shim :=
  (run (Session.step plainEnv)
    (Session.loaded (snapshotReads.map CutRead.outcome) [dinputAnswer] [])
    [.open_ (some fakeDevnode) 0 0]).shim

theorem dinput_cuts_iff_snapshot :
    dinputShim.readAll plainEnv 3 snapshotReads =
        inputEventCodec.encAll (restSnapshot.map InputEvent.dinput) ↔
      ∀ piece ∈ pieces 0 (cutsOf snapshotReads),
        Unharmed (inputEventCodec.encAll restSnapshot) piece.1 piece.2 := by
  have hfake : dinputShim.findFakeFd 3 = some dinputFd := by rfl
  exact dinput_cuts_iff plainEnv (by decide +kernel) (by decide +kernel) hfake rfl
    (by decide +kernel) restSnapshot snapshotReads (by decide) (by decide +kernel)
    (by decide +kernel)

/-- **The second read starts inside a record**: the buttons keep the codes of the other profile. -/
theorem dinput_cut_untranslated :
    (cutsOf snapshotReads).flatten = inputEventCodec.encAll restSnapshot ∧
      dinputShim.readAll plainEnv 3 snapshotReads ≠
        inputEventCodec.encAll (restSnapshot.map InputEvent.dinput) := by
  decide +kernel

end TermuxGamepad
