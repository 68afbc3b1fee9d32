/-
  File:      TermuxGamepad/Lib/Codec.lean
  Subject:   Fixed-size binary records, little-endian (library).

  A `Codec α` writes every value of `α` as the same number of bytes and reads it back from the
  front of any byte string. The primitive codecs are the machine words; records are built from
  them with `pair`, `pad` and `imap` in the order of the fields. Nothing here names a program:
  a wire format is an instance.
-/
import Mathlib.Data.Nat.Notation
import Mathlib.Tactic.Ring
import Mathlib.Tactic.NormNum

namespace Wire

/-! ## 1. Little-endian numbers -/

/-- The `w` low bytes of `n`, least significant first. -/
def leBytes : Nat → Nat → List UInt8
  | 0, _ => []
  | w + 1, n => UInt8.ofNat n :: leBytes w (n / 256)

/-- The number the first `w` bytes of a byte string denote, least significant first (bytes past
    the end count as zero). -/
def leNat : Nat → List UInt8 → Nat
  | 0, _ => 0
  | _ + 1, [] => 0
  | w + 1, b :: bs => b.toNat + 256 * leNat w bs

@[simp] theorem leBytes_length (w n : Nat) : (leBytes w n).length = w := by
  induction w generalizing n with
  | zero => rfl
  | succ w ih => simp only [leBytes, List.length_cons, ih]

/-- Reading back what was written gives the number modulo the width. -/
theorem leNat_leBytes (w n : Nat) (rest : List UInt8) :
    leNat w (leBytes w n ++ rest) = n % 256 ^ w := by
  induction w generalizing n with
  | zero => simp [leNat, Nat.mod_one]
  | succ w ih =>
    have hb : (UInt8.ofNat n).toNat = n % 256 := by simp
    rw [leBytes, List.cons_append, leNat, ih, hb, pow_succ', Nat.mod_mul]

theorem leNat_leBytes_of_lt {w n : Nat} (h : n < 256 ^ w) (rest : List UInt8) :
    leNat w (leBytes w n ++ rest) = n := by
  rw [leNat_leBytes, Nat.mod_eq_of_lt h]

/-- Only the first `w` bytes count. -/
theorem leNat_append {w : Nat} {bs : List UInt8} (h : w ≤ bs.length) (rest : List UInt8) :
    leNat w (bs ++ rest) = leNat w bs := by
  induction w generalizing bs with
  | zero => rfl
  | succ w ih =>
    cases bs with
    | nil => exact absurd h (Nat.not_succ_le_zero w)
    | cons b bs => rw [List.cons_append, leNat, leNat, ih (Nat.le_of_succ_le_succ h)]

/-! ## 2. Codecs -/

/-- A fixed-size record format: `enc` writes `size` bytes, `dec` reads them back whatever
    follows them, and looks at no byte behind them. -/
structure Codec (α : Type) where
  size : Nat
  enc : α → List UInt8
  dec : List UInt8 → α
  enc_length : ∀ a, (enc a).length = size
  dec_enc_append : ∀ a rest, dec (enc a ++ rest) = a
  dec_append : ∀ bs rest, size ≤ bs.length → dec (bs ++ rest) = dec bs

namespace Codec

variable {α β : Type}

attribute [simp] enc_length dec_enc_append

@[simp] theorem dec_enc (c : Codec α) (a : α) : c.dec (c.enc a) = a := by
  simpa using c.dec_enc_append a []

/-- A number type that fits `w` bytes. -/
def word (w : Nat) (toN : α → Nat) (ofN : Nat → α) (hlt : ∀ a, toN a < 256 ^ w)
    (hof : ∀ a, ofN (toN a) = a) : Codec α where
  size := w
  enc a := leBytes w (toN a)
  dec bs := ofN (leNat w bs)
  enc_length a := leBytes_length w (toN a)
  dec_enc_append a rest := by rw [leNat_leBytes_of_lt (hlt a), hof]
  dec_append bs rest h := by rw [leNat_append h]

def u8 : Codec UInt8 :=
  word 1 UInt8.toNat UInt8.ofNat (fun a => a.toNat_lt) (fun _ => UInt8.ofNat_toNat)

def u16 : Codec UInt16 :=
  word 2 UInt16.toNat UInt16.ofNat (fun a => a.toNat_lt) (fun _ => UInt16.ofNat_toNat)

def u32 : Codec UInt32 :=
  word 4 UInt32.toNat UInt32.ofNat (fun a => a.toNat_lt) (fun _ => UInt32.ofNat_toNat)

def u64 : Codec UInt64 :=
  word 8 UInt64.toNat UInt64.ofNat (fun a => a.toNat_lt) (fun _ => UInt64.ofNat_toNat)

/-- One field after another. -/
def pair (c : Codec α) (d : Codec β) : Codec (α × β) where
  size := c.size + d.size
  enc p := c.enc p.1 ++ d.enc p.2
  dec bs := (c.dec bs, d.dec (bs.drop c.size))
  enc_length p := by simp
  dec_enc_append p rest := by
    have h : (c.enc p.1 ++ d.enc p.2 ++ rest).drop c.size = d.enc p.2 ++ rest := by
      rw [List.append_assoc, List.drop_append_of_le_length (by simp), List.drop_of_length_le (by simp),
        List.nil_append]
    rw [h, List.append_assoc, c.dec_enc_append, d.dec_enc_append]
  dec_append bs rest h := by
    have hd : d.size ≤ (bs.drop c.size).length := by
      rw [List.length_drop]
      omega
    rw [List.drop_append_of_le_length (by omega), c.dec_append _ _ (by omega), d.dec_append _ _ hd]

/-- The same bytes, read as another type. -/
def imap (c : Codec α) (f : α → β) (g : β → α) (hfg : ∀ b, f (g b) = b) : Codec β where
  size := c.size
  enc b := c.enc (g b)
  dec bs := f (c.dec bs)
  enc_length b := c.enc_length (g b)
  dec_enc_append b rest := by rw [c.dec_enc_append, hfg]
  dec_append bs rest h := by rw [c.dec_append bs rest h]

/-- Padding: `n` zero bytes, whatever is read. -/
def pad (n : Nat) : Codec Unit where
  size := n
  enc _ := List.replicate n 0
  dec _ := ()
  enc_length _ := List.length_replicate
  dec_enc_append _ _ := rfl
  dec_append _ _ _ := rfl

def s16 : Codec Int16 :=
  u16.imap UInt16.toInt16 Int16.toUInt16 Int16.toInt16_toUInt16

def s32 : Codec Int32 :=
  u32.imap UInt32.toInt32 Int32.toUInt32 Int32.toInt32_toUInt32

def s64 : Codec Int64 :=
  u64.imap UInt64.toInt64 Int64.toUInt64 Int64.toInt64_toUInt64

end Codec

/-! ## 3. Byte arrays of a fixed size -/

/-- A `char[n]` field: exactly `n` bytes. -/
structure Block (n : Nat) where
  bytes : List UInt8
  size_eq : bytes.length = n
  deriving DecidableEq

namespace Block

variable {n : Nat}

/-- The first `n` bytes of a string, zero-filled if it is shorter. -/
def ofBytes (n : Nat) (bs : List UInt8) : Block n where
  bytes := bs.take n ++ List.replicate (n - bs.length) 0
  size_eq := by simp; omega

@[ext] theorem ext {a b : Block n} (h : a.bytes = b.bytes) : a = b := by
  cases a; cases b; simp_all

theorem ofBytes_append (b : Block n) (rest : List UInt8) : ofBytes n (b.bytes ++ rest) = b := by
  apply ext
  have h := b.size_eq
  simp [ofBytes, h]

theorem ofBytes_of_le {bs : List UInt8} (h : n ≤ bs.length) (rest : List UInt8) :
    ofBytes n (bs ++ rest) = ofBytes n bs := by
  apply ext
  have h0 : n - bs.length = 0 := by omega
  have h1 : n - (bs.length + rest.length) = 0 := by omega
  simp [ofBytes, List.take_append_of_le_length h, h0, h1]

end Block

/-- The codec of a byte array. -/
def Codec.block (n : Nat) : Codec (Block n) where
  size := n
  enc b := b.bytes
  dec bs := Block.ofBytes n bs
  enc_length b := b.size_eq
  dec_enc_append := Block.ofBytes_append
  dec_append _ rest h := Block.ofBytes_of_le h rest

end Wire
