import LocalPlay.Bytes
import LocalPlay.Failure

set_option autoImplicit false

/-! # Zero-run coding

The bodies of LDN frames are mostly zeros. Their compressed form is a row of tokens: a byte other
than zero stands for itself, and a zero is followed by one byte that tells how many more zeros
there are. Neither form may be longer than `bufferLimit`, which is checked before each token.

`ofBytes` splits a byte string into as few tokens as there can be: it fills each run up to 255
zeros before it begins the next. -/

namespace LocalPlay.Ldn.ZeroRun

/-- The most bytes that either form may have. -/
def bufferLimit : Nat := 2048

/-- The largest count that the compressed form gives to a run; the run has one zero more. -/
def fullCount : UInt8 := 254

/-- A part of the compressed form. -/
inductive Token where
  /-- A byte that stands for itself. -/
  | literal (b : UInt8) (ne_zero : b ≠ 0)
  /-- A zero and as many more as the count says. -/
  | zeros (count : UInt8)
deriving DecidableEq, Repr

namespace Token

/-- The bytes of a token in the compressed form. -/
def toBytes : Token → Bytes
  | literal b _ => [b]
  | zeros count => [0, count]

/-- The bytes that a token stands for. -/
def expand : Token → Bytes
  | literal b _ => [b]
  | zeros count => Bytes.zeros (count.toNat + 1)

theorem length_expand_pos (token : Token) : 0 < token.expand.length := by
  cases token <;> simp [expand]

/-- The token that a byte begins with what stands behind it. Zeros behind a zero are taken in until
the token is full. -/
def first (b : UInt8) (rest : Bytes) : Token :=
  if h : b = 0 then
    zeros (UInt8.ofNat ((rest.take fullCount.toNat).takeWhile (· = 0)).length)
  else literal b h

end Token

/-! ## Compression -/

/-- Compresses, one token after the other, while the result has at most `room` bytes. -/
def compressWithin (room : Nat) : Bytes → Except RunFault Bytes
  | [] => .ok []
  | b :: rest =>
    let token := Token.first b rest
    if room < token.toBytes.length then .error (.compressedTooLong bufferLimit)
    else
      (compressWithin (room - token.toBytes.length) ((b :: rest).drop token.expand.length)).map
        (token.toBytes ++ ·)
termination_by b => b.length
decreasing_by
  have taken := (Token.first b rest).length_expand_pos
  rw [List.length_drop, List.length_cons]
  omega

/-- The compressed form of a byte string, if it is short enough. -/
def compress (b : Bytes) : Except RunFault Bytes := compressWithin bufferLimit b

/-! ## Expansion -/

/-- Expands the compressed form while the result has at most `room` bytes. -/
def expandWithin : Nat → Bytes → Except RunFault Bytes
  | _, [] => .ok []
  | room, b :: rest =>
    if b = 0 then
      match rest with
      | [] => .error .danglingMarker
      | count :: rest' =>
        let size := count.toNat + 1
        if room < size then .error (.expandedTooLong bufferLimit)
        else (expandWithin (room - size) rest').map (Bytes.zeros size ++ ·)
    else if room < 1 then .error (.expandedTooLong bufferLimit)
    else (expandWithin (room - 1) rest).map (b :: ·)

/-- The byte string whose compressed form is given, if it is one and not too long. -/
def decompress (b : Bytes) : Except RunFault Bytes := expandWithin bufferLimit b

/-! ## Rows of tokens -/

/-- Adds a byte to a row of tokens whose last token comes first. A zero lengthens the last run
until that is full. -/
def push (row : List Token) (b : UInt8) : List Token :=
  if h : b = 0 then
    match row with
    | .zeros count :: rest =>
      if count < fullCount then .zeros (count + 1) :: rest else .zeros 0 :: row
    | _ => .zeros 0 :: row
  else .literal b h :: row

/-- The tokens of a byte string, in order. -/
def ofBytes (b : Bytes) : List Token := (b.foldl push []).reverse

/-- The compressed form that a row of tokens is. -/
def encode (row : List Token) : Bytes := row.flatMap Token.toBytes

/-- The byte string that a row of tokens stands for. -/
def expand (row : List Token) : Bytes := row.flatMap Token.expand

theorem lt_fullCount_iff {count : UInt8} : count < fullCount ↔ count.toNat < 254 :=
  UInt8.lt_iff_toNat_lt

/-- A token that is not full has room for one zero more. -/
theorem toNat_add_one_of_lt {count : UInt8} (room : count < fullCount) :
    (count + 1).toNat = count.toNat + 1 := by
  have below := lt_fullCount_iff.1 room
  rw [UInt8.toNat_add, UInt8.toNat_one]
  omega

theorem push_zero_of_lt {count : UInt8} (room : count < fullCount) (row : List Token) :
    push (.zeros count :: row) 0 = .zeros (count + 1) :: row :=
  if_pos room

theorem push_zero_of_not_lt {count : UInt8} (full : ¬ count < fullCount) (row : List Token) :
    push (.zeros count :: row) 0 = .zeros 0 :: .zeros count :: row :=
  if_neg full

theorem push_of_ne_zero (row : List Token) {b : UInt8} (ne_zero : b ≠ 0) :
    push row b = .literal b ne_zero :: row :=
  dif_neg ne_zero

theorem expand_reverse_push (row : List Token) (b : UInt8) :
    expand (push row b).reverse = expand row.reverse ++ [b] := by
  by_cases zero : b = 0
  · subst zero
    rcases row with _ | ⟨_ | count, rest⟩
    · rfl
    · simp [push, expand, Token.expand, Bytes.zeros]
    · by_cases room : count < fullCount
      · rw [push_zero_of_lt room]
        simp [expand, Token.expand, toNat_add_one_of_lt room, Bytes.zeros, List.replicate_succ']
      · rw [push_zero_of_not_lt room]
        simp [expand, Token.expand, Bytes.zeros, List.replicate_succ']
  · rw [push_of_ne_zero row zero]
    simp [expand, Token.expand]

theorem expand_reverse_foldl_push (b : Bytes) (row : List Token) :
    expand (b.foldl push row).reverse = expand row.reverse ++ b := by
  induction b generalizing row with
  | nil => simp
  | cons x b ih => rw [List.foldl_cons, ih, expand_reverse_push, List.append_assoc]; rfl

/-- Splitting into tokens loses nothing. -/
@[simp] theorem expand_ofBytes (b : Bytes) : expand (ofBytes b) = b := by
  rw [ofBytes, expand_reverse_foldl_push]
  rfl

end LocalPlay.Ldn.ZeroRun
