import FlowScript.Text.Base64
import Mathlib.Algebra.Group.Nat.Defs

/-!
# Base 64 reads what it writes

Every number below 64 has a symbol of its own, three bytes make four symbols,
and the padding that reading adds completes the group of a rest of one or two
bytes. So reading is the inverse of writing (`decode_encode`), and different
bytes have different symbols.

What is written is the code that is usual for addresses (`represents_encode`):
the bits of the bytes one after the other, as few zero bits as make up whole
symbols, and a symbol of the alphabet for each six bits.
-/

namespace FlowScript.Text.Base64

/-- Every number below 64 has a symbol, which is an ASCII character and no
    padding. -/
theorem value?_symbol : ∀ n < 64, value? (symbol n) = some n ∧ symbol n ≠ '=' ∧
    (symbol n).toNat < 128 := by
  decide

/-- What is written are symbols. -/
theorem exists_symbol_of_mem_encode (bytes : List UInt8) :
    ∀ c ∈ encode bytes, ∃ n < 64, c = symbol n := by
  induction bytes using encode.induct with
  | case1 => simp [encode]
  | case2 a =>
    have := a.toNat_lt
    simp only [encode, List.forall_mem_cons]
    exact ⟨⟨_, by omega, rfl⟩, ⟨_, by omega, rfl⟩, by simp⟩
  | case3 a b =>
    have := a.toNat_lt
    have := b.toNat_lt
    simp only [encode, List.forall_mem_cons]
    exact ⟨⟨_, by omega, rfl⟩, ⟨_, by omega, rfl⟩, ⟨_, by omega, rfl⟩, by simp⟩
  | case4 a b c rest ih =>
    have := a.toNat_lt
    have := b.toNat_lt
    have := c.toNat_lt
    simp only [encode, List.forall_mem_cons]
    exact ⟨⟨_, by omega, rfl⟩, ⟨_, by omega, rfl⟩, ⟨_, by omega, rfl⟩, ⟨_, by omega, rfl⟩, ih⟩

/-- The symbols that are written are ASCII characters. -/
theorem ascii_of_mem_encode (bytes : List UInt8) : ∀ c ∈ encode bytes, c.toNat < 128 := by
  intro c hc
  obtain ⟨n, hn, rfl⟩ := exists_symbol_of_mem_encode bytes c hc
  exact (value?_symbol n hn).2.2

/-! ## The code of the bytes -/

/-- The symbols of the numbers below 64, in order. -/
def alphabet : Text :=
  "ABCDEFGHIJKLMNOPQRSTUVWXYZabcdefghijklmnopqrstuvwxyz0123456789-_".toList

/-- The number with the bits of the symbols, behind those of `start`. -/
def symbolsValue (start : Nat) (symbols : Text) : Nat :=
  symbols.foldl (fun n c => n * 64 + alphabet.idxOf c) start

/-- The number with the bits of the bytes, behind those of `start`. -/
def bytesValue (start : Nat) (bytes : List UInt8) : Nat :=
  bytes.foldl (fun n b => n * 256 + b.toNat) start

/-- The symbols stand for the bytes: six bits each, they have the bits of the bytes
    and, up to the last symbol, zeros. -/
structure Represents (symbols : Text) (bytes : List UInt8) : Prop where
  /-- They are symbols of the alphabet. -/
  mem_alphabet : ∀ c ∈ symbols, c ∈ alphabet
  /-- There are enough of them for all bits. -/
  enough : 8 * bytes.length ≤ 6 * symbols.length
  /-- One less would not be enough. -/
  least : 6 * symbols.length < 8 * bytes.length + 6
  /-- The bits are those of the bytes, and zeros behind them. -/
  bits : symbolsValue 0 symbols =
    bytesValue 0 bytes * 2 ^ (6 * symbols.length - 8 * bytes.length)

theorem idxOf_symbol : ∀ n < 64, alphabet.idxOf (symbol n) = n := by
  decide +kernel

theorem length_alphabet : alphabet.length = 64 := by
  decide

theorem symbol_mem_alphabet {n : Nat} (hn : n < 64) : symbol n ∈ alphabet := by
  rw [← List.idxOf_lt_length_iff, idxOf_symbol n hn, length_alphabet]
  exact hn

theorem symbolsValue_symbol_cons {n : Nat} (hn : n < 64) (start : Nat) (rest : Text) :
    symbolsValue start (symbol n :: rest) = symbolsValue (start * 64 + n) rest := by
  rw [symbolsValue, List.foldl_cons, idxOf_symbol n hn]
  rfl

/-- The number of symbols is that of the bits in sixes, rounded up. -/
theorem length_encode (bytes : List UInt8) :
    8 * bytes.length ≤ 6 * (encode bytes).length ∧
      6 * (encode bytes).length < 8 * bytes.length + 6 := by
  induction bytes using encode.induct with
  | case1 => simp [encode]
  | case2 a => simp [encode]
  | case3 a b => simp [encode]
  | case4 a b c rest ih =>
    simp only [encode, List.length_cons]
    omega

/-- Group after group the bits are kept, whatever bits come before. -/
theorem symbolsValue_encode (bytes : List UInt8) (start : Nat) :
    symbolsValue start (encode bytes) =
      bytesValue start bytes * 2 ^ (6 * (encode bytes).length - 8 * bytes.length) := by
  induction bytes using encode.induct generalizing start with
  | case1 => simp [encode, symbolsValue, bytesValue]
  | case2 a =>
    have := a.toNat_lt
    rw [encode, symbolsValue_symbol_cons (by omega), symbolsValue_symbol_cons (by omega)]
    simp only [symbolsValue, bytesValue, List.foldl_cons, List.foldl_nil, List.length_cons,
      List.length_nil]
    omega
  | case3 a b =>
    have := a.toNat_lt
    have := b.toNat_lt
    rw [encode, symbolsValue_symbol_cons (by omega), symbolsValue_symbol_cons (by omega),
      symbolsValue_symbol_cons (by omega)]
    simp only [symbolsValue, bytesValue, List.foldl_cons, List.foldl_nil, List.length_cons,
      List.length_nil]
    omega
  | case4 a b c rest ih =>
    -- A full group has the bits of its three bytes and no others.
    have := a.toNat_lt
    have := b.toNat_lt
    have := c.toNat_lt
    have hgroup : (((start * 64 + a.toNat / 4) * 64 + (a.toNat % 4 * 16 + b.toNat / 16)) * 64 +
        (b.toNat % 16 * 4 + c.toNat / 64)) * 64 + c.toNat % 64 =
          ((start * 256 + a.toNat) * 256 + b.toNat) * 256 + c.toNat := by omega
    have hspare : 6 * (encode (a :: b :: c :: rest)).length - 8 * (a :: b :: c :: rest).length =
        6 * (encode rest).length - 8 * rest.length := by
      simp only [encode, List.length_cons]
      omega
    rw [hspare, encode, symbolsValue_symbol_cons (by omega), symbolsValue_symbol_cons (by omega),
      symbolsValue_symbol_cons (by omega), symbolsValue_symbol_cons (by omega), hgroup, ih]
    simp only [bytesValue, List.foldl_cons]

/-- What is written stands for the bytes. -/
theorem represents_encode (bytes : List UInt8) : Represents (encode bytes) bytes where
  mem_alphabet c hc := by
    obtain ⟨n, hn, rfl⟩ := exists_symbol_of_mem_encode bytes c hc
    exact symbol_mem_alphabet hn
  enough := (length_encode bytes).1
  least := (length_encode bytes).2
  bits := symbolsValue_encode bytes 0

/-! ## Reading one symbol -/

section Steps

variable {n pads bits : Nat} {rest : Text}

theorem decodeFrom_empty (hn : n < 64) :
    decodeFrom .empty pads (symbol n :: rest) = decodeFrom (.one n) 0 rest := by
  obtain ⟨hv, hpad, -⟩ := value?_symbol n hn
  rw [decodeFrom, if_neg hpad, hv]

theorem decodeFrom_one (hn : n < 64) :
    decodeFrom (.one bits) pads (symbol n :: rest) =
      (decodeFrom (.two (n % 16)) 0 rest).map (UInt8.ofNat (bits * 4 + n / 16) :: ·) := by
  obtain ⟨hv, hpad, -⟩ := value?_symbol n hn
  rw [decodeFrom, if_neg hpad, hv]

theorem decodeFrom_two (hn : n < 64) :
    decodeFrom (.two bits) pads (symbol n :: rest) =
      (decodeFrom (.three (n % 4)) 0 rest).map (UInt8.ofNat (bits * 16 + n / 4) :: ·) := by
  obtain ⟨hv, hpad, -⟩ := value?_symbol n hn
  rw [decodeFrom, if_neg hpad, hv]

theorem decodeFrom_three (hn : n < 64) :
    decodeFrom (.three bits) pads (symbol n :: rest) =
      (decodeFrom .empty 0 rest).map (UInt8.ofNat (bits * 64 + n) :: ·) := by
  obtain ⟨hv, hpad, -⟩ := value?_symbol n hn
  rw [decodeFrom, if_neg hpad, hv]

end Steps

/-- A byte is the number that its bits were taken from. -/
theorem ofNat_eq_of_eq {b : UInt8} {n : Nat} (h : n = b.toNat) : UInt8.ofNat n = b := by
  rw [h, UInt8.ofNat_toNat]

/-- The padding that reading adds to `n` symbols. -/
def padding (n : Nat) : Text :=
  List.replicate ((4 - n % 4) % 4) '='

/-- Group after group the bytes are read, however much padding came before. -/
theorem decodeFrom_encode (bytes : List UInt8) (pads : Nat) :
    decodeFrom .empty pads (encode bytes ++ padding (encode bytes).length) = some bytes := by
  induction bytes using encode.induct generalizing pads with
  | case1 => rfl
  | case2 a =>
    have := a.toNat_lt
    simp only [encode, List.cons_append, List.nil_append]
    rw [decodeFrom_empty (by omega), decodeFrom_one (by omega), ofNat_eq_of_eq (b := a) (by omega)]
    rfl
  | case3 a b =>
    have := a.toNat_lt
    have := b.toNat_lt
    simp only [encode, List.cons_append, List.nil_append]
    rw [decodeFrom_empty (by omega), decodeFrom_one (by omega), decodeFrom_two (by omega),
      ofNat_eq_of_eq (b := a) (by omega), ofNat_eq_of_eq (b := b) (by omega)]
    rfl
  | case4 a b c rest ih =>
    -- A full group has four symbols, so the padding is that of the rest.
    have := a.toNat_lt
    have := b.toNat_lt
    have := c.toNat_lt
    have hpad : padding (encode (a :: b :: c :: rest)).length = padding (encode rest).length := by
      simp only [encode, padding, List.length_cons]
      rw [Nat.add_assoc, Nat.add_assoc, Nat.add_assoc, Nat.add_mod_right]
    rw [hpad]
    simp only [encode, List.cons_append]
    rw [decodeFrom_empty (by omega), decodeFrom_one (by omega), decodeFrom_two (by omega),
      decodeFrom_three (by omega), ofNat_eq_of_eq (b := a) (by omega),
      ofNat_eq_of_eq (b := b) (by omega), ofNat_eq_of_eq (b := c) (by omega), ih]
    rfl

/-- What is written is read back. -/
theorem decode_encode (bytes : List UInt8) : decode (encode bytes) = some bytes := by
  have hascii : (encode bytes).all (fun c => c.toNat < 128) = true :=
    List.all_eq_true.2 fun c hc => decide_eq_true (ascii_of_mem_encode bytes c hc)
  rw [decode, if_pos hascii]
  exact decodeFrom_encode bytes 0

end FlowScript.Text.Base64
