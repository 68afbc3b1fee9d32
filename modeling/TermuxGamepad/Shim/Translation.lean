/-
  File:      TermuxGamepad/Shim/Translation.lean
  Subject:   The layout of an event record, the translation of whole records, and the bitmaps.

  A record is sixteen bytes of time, then type, code and value. The translation of a read
  changes the code of an EV_KEY record and nothing else (`dinputRecord_enc`), and whole records
  are translated each by itself (`dinputRecords_encAll`). A bitmap has exactly the bits that
  were set in it (`bitAt_fillBits`).
-/
import TermuxGamepad.Shim.Preload

namespace TermuxGamepad

open Wire

/-! ## 1. Records -/

/-- The sixteen bytes of a record's time. -/
def timeBytes (t : Timeval) : List UInt8 := Codec.s64.enc t.sec ++ Codec.s64.enc t.usec

theorem timeBytes_length (t : Timeval) : (timeBytes t).length = 16 := by
  unfold timeBytes
  rw [List.length_append, Codec.s64.enc_length, Codec.s64.enc_length]
  rfl

theorem inputEventCodec_enc (e : InputEvent) :
    inputEventCodec.enc e = timeBytes e.time ++
      (Codec.u16.enc e.type ++ (Codec.u16.enc e.code ++ Codec.s32.enc e.value)) := by
  show Codec.s64.enc e.time.sec ++ (Codec.s64.enc e.time.usec ++ _) = _
  rw [timeBytes, List.append_assoc]
  rfl

/-- The fields of a record at their offsets. -/
theorem record_drops (e : InputEvent) :
    (inputEventCodec.enc e).drop 16 =
        Codec.u16.enc e.type ++ (Codec.u16.enc e.code ++ Codec.s32.enc e.value) ∧
      (inputEventCodec.enc e).take 18 = timeBytes e.time ++ Codec.u16.enc e.type ∧
      (inputEventCodec.enc e).drop 18 = Codec.u16.enc e.code ++ Codec.s32.enc e.value ∧
      (inputEventCodec.enc e).drop 20 = Codec.s32.enc e.value := by
  have ht := timeBytes_length e.time
  have hty : (Codec.u16.enc e.type).length = 2 := Codec.u16.enc_length _
  have hco : (Codec.u16.enc e.code).length = 2 := Codec.u16.enc_length _
  rw [inputEventCodec_enc]
  refine ⟨?_, ?_, ?_, ?_⟩
  · exact List.drop_left' ht
  · rw [← List.append_assoc]
    exact List.take_left' (by rw [List.length_append, ht, hty])
  · rw [← List.append_assoc]
    exact List.drop_left' (by rw [List.length_append, ht, hty])
  · rw [← List.append_assoc, ← List.append_assoc]
    exact List.drop_left' (by rw [List.length_append, List.length_append, ht, hty, hco])

/-- An event as a DirectInput descriptor shows it. -/
def InputEvent.dinput (e : InputEvent) : InputEvent :=
  { e with code := if e.type = evKey then dinputButtonCode e.code else e.code }

/-- **The translation of a record** changes its code alone. -/
theorem dinputRecord_enc (e : InputEvent) :
    dinputRecord (inputEventCodec.enc e) = inputEventCodec.enc e.dinput := by
  obtain ⟨h16, ht18, h18, h20⟩ := record_drops e
  unfold dinputRecord
  rw [h16, ht18, h18, h20, Codec.u16.dec_enc_append, Codec.u16.dec_enc_append,
    inputEventCodec_enc e.dinput]
  unfold InputEvent.dinput
  split
  · rename_i hkey
    simp [hkey]
  · exact inputEventCodec_enc e

/-- **Whole records are translated each by itself**, and what follows them stays. -/
theorem dinputRecords_encAll (es : List InputEvent) (rest : List UInt8) :
    dinputRecords es.length (inputEventCodec.encAll es ++ rest) =
      inputEventCodec.encAll (es.map InputEvent.dinput) ++ rest := by
  induction es with
  | nil => rfl
  | cons e es ih =>
    have hlen : (inputEventCodec.enc e).length = inputEventCodec.size := inputEventCodec.enc_length e
    rw [Codec.encAll_cons, List.append_assoc]
    show dinputRecord (List.take _ _) ++ dinputRecords es.length (List.drop _ _) = _
    rw [List.take_left' hlen, List.drop_left' hlen, ih, dinputRecord_enc, List.map_cons,
      Codec.encAll_cons, List.append_assoc]

namespace Shim

/-- An event as a descriptor shows it. -/
def shows (s : Shim) (fake : FakeFd) (e : InputEvent) : InputEvent :=
  if s.isDinput fake then e.dinput else e

/-- **A read of whole records** from an evdev descriptor. -/
theorem read_whole (env : Env) {s : Shim} {fd : Int} {fake : FakeFd} {es : List InputEvent}
    {rest : List Outcome} (hinit : s.initDone = true) (hread : s.resolved .read = true)
    (hfake : s.findFakeFd fd = some fake) (hevdev : fake.joydev = false)
    (hreals : s.reals = ⟨(inputEventCodec.encAll es).length, inputEventCodec.encAll es⟩ :: rest)
    {buffer : UInt64} (hbuffer : buffer ≠ 0) (length : Nat) :
    (s.read env fd buffer length).2 =
      ⟨(inputEventCodec.encAll es).length, inputEventCodec.encAll (es.map (s.shows fake))⟩ := by
  have hdone : s.init env = s := if_pos hinit
  have hreal : s.readReal fd buffer length =
      ({ s with reals := rest }.emit (.real (.read fd (.caller buffer) length)
        ⟨(inputEventCodec.encAll es).length, inputEventCodec.encAll es⟩),
        ⟨(inputEventCodec.encAll es).length, inputEventCodec.encAll es⟩) := by
    unfold readReal callReal
    rw [if_pos hread, hreals]
    rfl
  have hcount : ((inputEventCodec.encAll es).length : Int).toNat / inputEventCodec.size = es.length := by
    rw [Int.toNat_natCast, inputEventCodec.encAll_length]
    exact Nat.mul_div_cancel _ (by decide)
  unfold read
  simp only [hdone, hfake, hevdev, hreal, Bool.false_eq_true, if_false]
  by_cases hd : s.isDinput fake = true
  · have hshows : s.shows fake = InputEvent.dinput := funext fun e => if_pos hd
    cases es with
    | nil => simp [hd, Codec.encAll]
    | cons e es' =>
      have hpos : ¬((inputEventCodec.encAll (e :: es')).length : Int) ≤ 0 := by
        rw [inputEventCodec.encAll_length, List.length_cons, inputEventCodec_size]
        omega
      have hall := dinputRecords_encAll (e :: es') []
      rw [List.append_nil, List.append_nil] at hall
      have hmapped : ¬((!s.isDinput fake) = true ∨
          ((inputEventCodec.encAll (e :: es')).length : Int) ≤ 0 ∨ buffer = 0) := by
        rw [hd]
        rintro (h | h | h)
        · cases h
        · exact hpos h
        · exact hbuffer h
      rw [if_neg hmapped, hcount, hall, hshows]
  · have hshows : s.shows fake = id := funext fun e => if_neg hd
    rw [if_pos (by simp [hd]), hshows, List.map_id]

end Shim

/-! ## 2. Bitmaps -/

/-- The bit a program tests: `bits[n / 8] & (1 << n % 8)`. -/
def bitAt (bits : List UInt8) (n : Nat) : Bool := (bits.getD (n / 8) 0).toNat.testBit (n % 8)

theorem bitAt_setBit (bits : List UInt8) (bit n : Nat) :
    bitAt (setBit bits bit) n = (bitAt bits n || (decide (n = bit) && decide (bit / 8 < bits.length))) := by
  have hpow : ∀ k : Fin 8, ((1 : UInt8) <<< UInt8.ofNat k).toNat = 2 ^ (k : Nat) := by decide
  have hbyte : ((1 : UInt8) <<< UInt8.ofNat (bit % 8)).toNat = 2 ^ (bit % 8) :=
    hpow ⟨bit % 8, Nat.mod_lt _ (by decide)⟩
  unfold bitAt setBit
  rw [List.getD_eq_getElem?_getD, List.getD_eq_getElem?_getD, List.getElem?_modify]
  by_cases hdiv : bit / 8 = n / 8
  · simp only [if_pos hdiv]
    cases hget : bits[n / 8]? with
    | none =>
      have hge : ¬bit / 8 < bits.length := by
        rw [hdiv]
        exact Nat.not_lt.mpr (List.getElem?_eq_none_iff.mp hget)
      simp [hge]
    | some x =>
      have hlt : bit / 8 < bits.length := by
        rw [hdiv]
        exact (List.getElem?_eq_some_iff.mp hget).1
      have hmod : decide (bit % 8 = n % 8) = decide (n = bit) :=
        decide_eq_decide.mpr (by omega)
      show (x ||| (1 : UInt8) <<< UInt8.ofNat (bit % 8)).toNat.testBit (n % 8) = _
      rw [UInt8.toNat_or, Nat.testBit_or, hbyte, Nat.testBit_two_pow, hmod]
      simp [hlt]
  · have hne : n ≠ bit := fun e => hdiv (by rw [e])
    simp [hdiv, hne]

theorem bitAt_foldl (codes : List Nat) (bits : List UInt8) (n : Nat) :
    bitAt (codes.foldl setBit bits) n =
      (bitAt bits n || (decide (n ∈ codes) && decide (n / 8 < bits.length))) := by
  induction codes generalizing bits with
  | nil => simp
  | cons code codes ih =>
    rw [List.foldl_cons, ih, bitAt_setBit, setBit_length]
    by_cases hn : n = code
    · subst hn
      cases bitAt bits n <;> simp
    · simp [hn]

/-- **A bitmap has the bits of its codes**, as far as it reaches. -/
theorem bitAt_fillBits (len ev : Nat) (isDinput : Bool) (n : Nat) :
    bitAt (fillBits len ev isDinput) n =
      (decide (n ∈ fillBitCodes ev isDinput) && decide (n / 8 < len)) := by
  have hzero : bitAt (List.replicate len 0) n = false := by
    unfold bitAt
    rw [List.getD_eq_getElem?_getD, List.getElem?_replicate]
    split <;> simp
  unfold fillBits
  rw [bitAt_foldl, hzero, List.length_replicate, Bool.false_or]

end TermuxGamepad
