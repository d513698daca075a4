import Mathlib.Algebra.Group.Nat.Defs
import Mathlib.Data.List.Basic
import MachineOperator.Digest

/-!
Digests and their names. The name of bytes is their kind and 64 hexadecimal digits, and its short form is the first eight of
these. The words that the rounds see are those of the schedule that defines the digest, one window of sixteen after another.
-/
namespace MachineOperator.Digest

/-! Names. -/

theorem stripStart_append (kept cs : List Char) : stripStart kept (kept ++ cs) = some cs := by
  induction kept with
  | nil => rfl
  | cons c kept ih => rw [List.cons_append, stripStart, if_pos rfl, ih]

/-- The short form leaves the kind out. -/
theorem short_nameOf (data : ByteArray) : short (nameOf data) = String.ofList ((hexOf data).toList.take 8) := by
  rw [short, nameOf, String.toList_append, stripStart_append, Option.getD_some]

theorem hexDigit_mem {n : Nat} (small : n < 16) : hexDigit n ∈ "0123456789abcdef".toList := by
  have each : ∀ k : Fin 16, hexDigit k ∈ "0123456789abcdef".toList := by decide
  exact each ⟨n, small⟩

theorem mem_hexDigits {k n : Nat} {c : Char} (member : c ∈ hexDigits k n) : c ∈ "0123456789abcdef".toList := by
  induction k generalizing n with
  | zero => cases member
  | succ k ih =>
    rcases List.mem_append.1 member with earlier | last
    · exact ih earlier
    · obtain rfl := List.mem_singleton.1 last
      exact hexDigit_mem (Nat.mod_lt n (by decide))

/-- A digest is written in lowercase hexadecimal digits, 64 of them. -/
theorem hexOf_digits (data : ByteArray) :
    (hexOf data).toList.length = 64 ∧ ∀ c ∈ (hexOf data).toList, c ∈ "0123456789abcdef".toList := by
  refine ⟨State.length_hex _, ?_⟩
  intro c member
  rw [hexOf, State.hex, String.toList_ofList, List.mem_flatMap] at member
  obtain ⟨word, _, digit⟩ := member
  exact mem_hexDigits digit

/-! The schedule. -/

/-- The word that a round of a block sees: the words of the block first, and then each made of four before it. -/
def scheduled (block : List UInt32) (t : Nat) : UInt32 :=
  if t < 16 then (block[t]?).getD 0
  else
    smallSigma1 (scheduled block (t - 2)) + scheduled block (t - 7) + smallSigma0 (scheduled block (t - 15)) +
      scheduled block (t - 16)
termination_by t

/-- The sixteen words from a round on. -/
def windowAt (block : List UInt32) (t : Nat) : Window := ⟨(List.range' t 16).map (scheduled block)⟩

theorem windowAt_zero {block : List UInt32} (whole : block.length = 16) : windowAt block 0 = ⟨block⟩ := by
  apply congrArg Window.mk
  apply List.ext_getElem
  · simp [whole]
  · intro i small _
    have inside : i < 16 := by simpa using small
    rw [List.getElem_map, List.getElem_range', scheduled, if_pos (by omega)]
    simp [whole, inside]

theorem shift_windowAt (block : List UInt32) (t : Nat) : (windowAt block t).shift = windowAt block (t + 1) := by
  have last : scheduled block (t + 16) = scheduled block t + smallSigma0 (scheduled block (t + 1)) +
      scheduled block (t + 9) + smallSigma1 (scheduled block (t + 14)) := by
    rw [scheduled, if_neg (by omega)]
    simp only [Nat.add_sub_cancel, show t + 16 - 2 = t + 14 by omega, show t + 16 - 7 = t + 9 by omega,
      show t + 16 - 15 = t + 1 by omega]
    ac_rfl
  simp [windowAt, Window.shift, List.range'_succ, last, Nat.add_assoc]

/-- A round sees the word that is scheduled for it, by induction on the rounds that are left. -/
theorem rounds_windowAt (block : List UInt32) (constants : List UInt32) (s : State) (t : Nat) :
    rounds constants s (windowAt block t) =
      (constants.zipIdx t).foldl (fun s (k, i) => round s k (scheduled block i)) s := by
  induction constants generalizing s t with
  | nil => rfl
  | cons k constants ih =>
    have seen : (windowAt block t).words.head?.getD 0 = scheduled block t := rfl
    rw [rounds, seen, shift_windowAt, ih]
    rfl

/-- The state after a block, by the words that are scheduled for the rounds. -/
def digestBlock (s : State) (block : List UInt32) : State :=
  s.add (roundConstants.zipIdx.foldl (fun s (k, i) => round s k (scheduled block i)) s)

theorem compress_eq {block : List UInt32} (whole : block.length = 16) (s : State) : compress s block = digestBlock s block := by
  rw [compress, ← windowAt_zero whole, rounds_windowAt]
  rfl

/-! The blocks. -/

theorem length_bigEndian (k n : Nat) : (bigEndian k n).length = k := by
  induction k generalizing n with
  | zero => rfl
  | succ k ih => simp [bigEndian, ih]

/-- The number that bytes are in base 256, the most significant first. -/
theorem foldl_bigEndian (k n : Nat) : (bigEndian k n).foldl (fun v b => v * 256 + b.toNat) 0 = n % 256 ^ k := by
  induction k generalizing n with
  | zero => simp [bigEndian, Nat.mod_one]
  | succ k ih =>
    have last : n % 256 ^ (k + 1) = n % 256 + 256 * (n / 256 % 256 ^ k) := by
      rw [Nat.pow_succ', Nat.mod_mul]
    rw [bigEndian, List.foldl_append, ih, List.foldl_cons, List.foldl_nil, UInt8.toNat_ofNat', last]
    omega

/-- Padding is a one bit, as few zeros as fill the last block, and the length in bits as a number of 64. -/
theorem padding_fills (size : Nat) :
    ∃ zeros last, padding size = 0x80 :: List.replicate zeros 0 ++ last ∧ last.length = 8 ∧
      last.foldl (fun v b => v * 256 + b.toNat) 0 = size * 8 % 2 ^ 64 ∧ zeros < 64 ∧ (size + (padding size).length) % 64 = 0 := by
  have last := length_bigEndian 8 (size * 8)
  refine ⟨(119 - size % 64) % 64, bigEndian 8 (size * 8), rfl, last, foldl_bigEndian 8 (size * 8), ?_, ?_⟩
  · exact Nat.mod_lt _ (by decide)
  · rw [padding, List.length_append, List.length_cons, List.length_replicate, last]
    omega

theorem length_wordsOf (bytes : List UInt8) : (wordsOf bytes).length = bytes.length / 4 := by
  fun_induction wordsOf bytes with
  | case1 a b c d r ih => simp [ih]; omega
  | case2 bytes few =>
    rcases bytes with _ | ⟨a, _ | ⟨b, _ | ⟨c, _ | ⟨d, r⟩⟩⟩⟩
    · rfl
    · simp
    · simp
    · simp
    · exact (few a b c d r rfl).elim

theorem blocks_succ (n : Nat) :
    blocks (n + 1) = fun words s => blocks n (words.drop 16) (compress s (words.take 16)) := rfl

theorem blocks_eq_foldl (n : Nat) (words : List UInt32) (s : State) :
    blocks n words s = (List.range n).foldl (fun s i => compress s ((words.drop (16 * i)).take 16)) s := by
  induction n generalizing words s with
  | zero => rfl
  | succ n ih =>
    rw [blocks_succ, List.range_succ_eq_map, List.foldl_cons, List.foldl_map]
    refine (ih _ _).trans ?_
    simp only [List.drop_drop, Nat.mul_succ, Nat.mul_zero, List.drop_zero, Nat.add_comm 16]

/-- The words that are digested: those of the bytes and of the padding behind them. -/
def paddedWords (data : ByteArray) : List UInt32 := wordsOf (data.data.toList ++ padding data.size)

/-- The digest of bytes is what is left of the first state when the blocks of the padded bytes are digested in order, each of
sixteen words, with one scheduled word in each round. -/
theorem sha256_eq (data : ByteArray) :
    ∃ n, (paddedWords data).length = 16 * n ∧
      sha256 data = (List.range n).foldl (fun s i => digestBlock s (((paddedWords data).drop (16 * i)).take 16)) initial := by
  obtain ⟨_, _, _, _, _, _, filled⟩ := padding_fills data.size
  have size : data.data.toList.length = data.size := by simp
  have length : (data.data.toList ++ padding data.size).length = data.size + (padding data.size).length := by
    rw [List.length_append, size]
  have words : (paddedWords data).length = 16 * ((data.data.toList ++ padding data.size).length / 64) := by
    rw [paddedWords, length_wordsOf, length]
    omega
  refine ⟨_, words, ?_⟩
  rw [sha256, blocks_eq_foldl]
  apply List.foldl_ext
  intro s i member
  have before := List.mem_range.1 member
  apply compress_eq
  rw [List.length_take, List.length_drop, ← paddedWords]
  omega

/-- The digest of no bytes, which is that of one block of padding. -/
example : nameOf "".toUTF8 = "sha256:e3b0c44298fc1c149afbf4c8996fb92427ae41e4649b934ca495991b7852b855" := by
  decide +kernel

end MachineOperator.Digest
