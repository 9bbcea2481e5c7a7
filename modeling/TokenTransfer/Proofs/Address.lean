import TokenTransfer.Address
import TokenTransfer.Proofs.Hex

/-!
# The text of an address

An address is written with all of its digits and read with as many as there are: up to 64 of them,
after one mark `0x` or none.  What they denote is the address, whatever case they are in and whether
or not leading zeros are left out, so an address is read back as it was written, and so is every
native form of it (`parse_grammar`).

A text that is refused is refused for the first of three reasons that applies: there are no digits,
there is something else among them, or there are too many.

## Main definitions

* `Address.remainder` - what remains of a text after at most one mark
* `Address.Reads` - the grammar: what comes of reading that remainder

## Main statements

* `Address.reads_parse` - a text is read as the grammar says
* `Address.parse_grammar` - which texts are read as which address, and which are refused for what
-/

namespace TokenTransfer

/-- Leading zero bytes add nothing to a number. -/
theorem Bytes.value_replicate_append (zeros : Nat) (bytes : Bytes) :
    Bytes.value (List.replicate zeros 0 ++ bytes) = bytes.value := by
  induction zeros with
  | zero => rfl
  | succ zeros ih => rwa [List.replicate_succ, List.cons_append, Bytes.value, List.foldl_cons]

namespace Address

open Hex (IsDigit number pairs)

/-! ### Native forms -/

/-- A native form that is not too long is that of the address of its value. -/
theorem ofNative_of_le {own : Bytes} (le : own.length ≤ size) :
    ∃ address, ofNative own = .ok address ∧ address.toNat = own.value :=
  ⟨_, dif_pos le, Bytes.value_replicate_append _ own⟩

theorem ofNative_of_lt {own : Bytes} (lt : size < own.length) :
    ofNative own = .error (.tooLong own.length) := dif_neg (Nat.not_le.mpr lt)

/-- **A native form denotes its address**, however many of the leading zeros it has. -/
theorem ofNative_eq_ok {address : Address} {zeros : Nat} {own : Bytes}
    (bytes : address.bytes = List.replicate zeros 0 ++ own) : ofNative own = .ok address := by
  have length := congrArg List.length bytes
  rw [address.length_eq, List.length_append] at length
  have le : own.length ≤ size := by
    unfold size
    omega
  obtain ⟨found, native, value⟩ := ofNative_of_le le
  have same : found.toNat = address.toNat := by
    rw [value, FixedBytes.toNat, bytes, Bytes.value_replicate_append]
  rw [native, FixedBytes.toNat_inj same]

/-! ### The mark -/

/-- Characters without one leading `0x`, if they have it. -/
def unmarked : List Char → List Char
  | '0' :: 'x' :: rest => rest
  | text => text

/-- **What remains of a text** after at most one leading `0x`. -/
def remainder (text : String) : List Char := unmarked text.toList

/-- A text without a mark is left as it is. -/
theorem unmarked_of_plain {text : List Char} (no : ¬ ['0', 'x'] <+: text) :
    unmarked text = text := by
  unfold unmarked
  split
  · rename_i rest
    exact absurd ⟨rest, rfl⟩ no
  · rfl

theorem withoutMark_of_plain {bytes : Bytes} (no : ¬ [48, 120] <+: bytes) :
    withoutMark bytes = bytes := by
  unfold withoutMark
  split
  · rename_i rest
    exact absurd ⟨rest, rfl⟩ no
  · rfl

/-- Digits are no mark. -/
theorem unmarked_of_digits {digits : List Char} (all : ∀ c ∈ digits, IsDigit c) :
    unmarked digits = digits := by
  refine unmarked_of_plain fun starts => ?_
  have noDigit : ¬ IsDigit 'x' := by decide
  exact noDigit (all 'x' (starts.subset (by decide)))

/-- The mark is taken off the bytes of a text as it is off its characters. -/
theorem withoutMark_flatMap (text : List Char) :
    withoutMark (text.flatMap String.utf8EncodeChar) =
      (unmarked text).flatMap String.utf8EncodeChar := by
  have ascii : ∀ c ∈ ['0', 'x'], c.toNat < 128 := by simp
  have mark := Hex.flatMap_prefix_iff ascii text
  by_cases starts : ['0', 'x'] <+: text
  · obtain ⟨rest, rfl⟩ := starts
    rfl
  · rw [unmarked_of_plain starts, withoutMark_of_plain (mt mark.mp starts)]

/-! ### The digits -/

/-- Digits in pairs: an odd count of them has its leading zero back. -/
def paired (digits : List Char) : List Char :=
  if digits.length % 2 = 1 then '0' :: digits else digits

/-- Digits are made pairs of by a zero in front, if need be. -/
theorem length_paired (digits : List Char) :
    (paired digits).length = 2 * ((digits.length + 1) / 2) := by
  unfold paired
  split
  · rw [List.length_cons]
    omega
  · omega

/-- A zero in front does not change the number. -/
theorem number_paired (digits : List Char) : number (paired digits) = number digits := by
  unfold paired
  split
  · rfl
  · rfl

theorem isDigit_of_mem_paired {digits : List Char} (all : ∀ c ∈ digits, IsDigit c) :
    ∀ c ∈ paired digits, IsDigit c := by
  unfold paired
  split
  · exact List.forall_mem_cons.mpr ⟨by decide, all⟩
  · exact all

/-- **Digits are read as the bytes of the number that they denote**, half as many, rounded up. -/
theorem decode_evenDigits {digits : List Char} (all : ∀ c ∈ digits, IsDigit c) :
    ∃ native, Hex.decode (evenDigits (digits.flatMap String.utf8EncodeChar)) = .ok native ∧
      native.length = (digits.length + 1) / 2 ∧ native.value = number digits := by
  have bytes : evenDigits (digits.flatMap String.utf8EncodeChar) =
      (paired digits).flatMap String.utf8EncodeChar := by
    unfold evenDigits paired
    rw [(Hex.flatMap_of_digits all).1]
    split
    · rfl
    · rfl
  have all := isDigit_of_mem_paired all
  have length := length_paired digits
  have even : (paired digits).length % 2 = 0 := by omega
  refine ⟨pairs (paired digits), ?_, ?_, ?_⟩
  · rw [bytes, Hex.decode_of_digits all even]
  · rw [Hex.length_pairs]
    omega
  · rw [Hex.value_pairs all even, number_paired]

/-- **A character that is no digit is refused**: the first byte of the first one is named, with its
position among the bytes, the leading zero that was put back included. -/
theorem decode_evenDigits_of_bad {front rest : List Char} {c : Char}
    (digits : ∀ d ∈ front, IsDigit d) (bad : ¬ IsDigit c) :
    ∃ b tail, String.utf8EncodeChar c = b :: tail ∧
      Hex.decode (evenDigits ((front ++ c :: rest).flatMap String.utf8EncodeChar)) =
        .error (.badDigit b (if ((front ++ c :: rest).flatMap String.utf8EncodeChar).length % 2 = 1
          then front.length + 1 else front.length)) := by
  obtain ⟨b, tail, bytes, value⟩ := Hex.exists_encodeChar c
  rw [if_neg bad] at value
  obtain ⟨length, values⟩ := Hex.flatMap_of_digits digits
  refine ⟨b, tail, bytes, ?_⟩
  rw [List.flatMap_append, List.flatMap_cons, bytes, List.cons_append]
  generalize front.flatMap String.utf8EncodeChar = front' at length values
  generalize tail ++ rest.flatMap String.utf8EncodeChar = rest'
  unfold evenDigits
  split
  · rename_i odd
    have zero : ∃ n, Hex.digitValue? 48 = some n := ⟨0, rfl⟩
    rw [← List.cons_append, Hex.decode_of_bad value (List.forall_mem_cons.mpr ⟨zero, values⟩),
      List.length_cons, length]
    rw [List.cons_append, List.length_cons]
    omega
  · rename_i even
    rw [Hex.decode_of_bad value values (by omega), length]

/-- What has something else among its digits has a first character that is none. -/
theorem exists_first_bad {digits : List Char} (bad : ∃ c ∈ digits, ¬ IsDigit c) :
    ∃ front c rest, digits = front ++ c :: rest ∧ (∀ d ∈ front, IsDigit d) ∧ ¬ IsDigit c := by
  induction digits with
  | nil => simp at bad
  | cons d digits ih =>
      by_cases first : IsDigit d
      · obtain ⟨front, c, rest, rfl, all, bad⟩ := ih (by simpa [first] using bad)
        exact ⟨d :: front, c, rest, rfl, List.forall_mem_cons.mpr ⟨first, all⟩, bad⟩
      · exact ⟨[], d, digits, rfl, nofun, first⟩

/-! ### The grammar -/

/-- **What comes of reading** what remains of a text after its mark.  Of what is no digit the first
is named, with its position among the bytes that are read. -/
inductive Reads (digits : List Char) : Except AddressError Address → Prop
  | empty (none : digits = []) : Reads digits (.error .empty)
  | bad {front rest : List Char} {c : Char} {b : UInt8} {tail : Bytes}
      (parts : digits = front ++ c :: rest) (first : ∀ d ∈ front, IsDigit d) (noDigit : ¬ IsDigit c)
      (bytes : String.utf8EncodeChar c = b :: tail) : Reads digits
        (.error (.invalidHex (.badDigit b
          (if (digits.flatMap String.utf8EncodeChar).length % 2 = 1 then front.length + 1
            else front.length))))
  | long (all : ∀ c ∈ digits, IsDigit c) (lt : 64 < digits.length) :
      Reads digits (.error (.tooLong ((digits.length + 1) / 2)))
  | address (some : digits ≠ []) (all : ∀ c ∈ digits, IsDigit c) (le : digits.length ≤ 64)
      {address : Address} (value : address.toNat = number digits) : Reads digits (.ok address)

/-- **A text is read as the grammar says.** -/
theorem reads_parse (text : String) : Reads (remainder text) (parse text) := by
  unfold parse remainder
  rw [Hex.utf8_eq, withoutMark_flatMap]
  generalize unmarked text.toList = digits
  split
  · rename_i none
    refine .empty (List.eq_nil_iff_forall_not_mem.mpr fun c mem => ?_)
    exact String.utf8EncodeChar_ne_nil (List.flatMap_eq_nil_iff.mp none c mem)
  · rename_i some
    have some : digits ≠ [] := by
      rintro rfl
      exact some rfl
    by_cases all : ∀ c ∈ digits, IsDigit c
    · obtain ⟨native, read, length, value⟩ := decode_evenDigits all
      rw [read]
      dsimp only
      rcases Nat.lt_or_ge size native.length with lt | le
      · rw [ofNative_of_lt lt, length]
        rw [length] at lt
        exact .long all (by unfold size at lt; omega)
      · obtain ⟨address, found, value'⟩ := ofNative_of_le le
        rw [found]
        rw [length] at le
        exact .address some all (by unfold size at le; omega) (value'.trans value)
    · obtain ⟨front, c, rest, rfl, first, noDigit⟩ := exists_first_bad (by simpa using all)
      obtain ⟨b, tail, bytes, refused⟩ := decode_evenDigits_of_bad first noDigit
      rw [refused]
      exact .bad rfl first noDigit bytes

namespace Reads

variable {digits : List Char} {result : Except AddressError Address}

/-- **The texts of an address** are those of at most 64 digits, by the number they denote. -/
theorem eq_ok_iff (reads : Reads digits result) (address : Address) :
    result = .ok address ↔ digits ≠ [] ∧ digits.length ≤ 64 ∧ (∀ c ∈ digits, IsDigit c) ∧
      address.toNat = number digits := by
  cases reads with
  | empty none => exact ⟨nofun, fun ⟨nonempty, _⟩ => absurd none nonempty⟩
  | bad parts first noDigit bytes =>
      exact ⟨nofun, fun ⟨_, _, all, _⟩ => absurd (all _ (by simp [parts])) noDigit⟩
  | long all lt => exact ⟨nofun, fun ⟨_, le, _⟩ => absurd le (Nat.not_le.mpr lt)⟩
  | address some all le value =>
      constructor
      · rintro ⟨⟩
        exact ⟨some, le, all, value⟩
      · rintro ⟨-, -, -, value'⟩
        exact congrArg Except.ok (FixedBytes.toNat_inj (value.trans value'.symm))

/-- Only a text without digits is empty. -/
theorem eq_empty_iff (reads : Reads digits result) : result = .error .empty ↔ digits = [] := by
  cases reads with
  | empty none => exact ⟨fun _ => none, fun _ => rfl⟩
  | bad parts first noDigit bytes => exact ⟨nofun, fun none => by simp [none] at parts⟩
  | long all lt => exact ⟨nofun, fun none => by simp [none] at lt⟩
  | address some all le value => exact ⟨nofun, fun none => absurd none some⟩

/-- A text is no hex for a character that is no digit, whatever its length. -/
theorem exists_eq_invalidHex_iff (reads : Reads digits result) :
    (∃ cause, result = .error (.invalidHex cause)) ↔ ∃ c ∈ digits, ¬ IsDigit c := by
  cases reads with
  | empty none =>
      subst none
      simp
  | bad parts first noDigit bytes =>
      exact ⟨fun _ => ⟨_, by simp [parts], noDigit⟩, fun _ => ⟨_, rfl⟩⟩
  | long all lt => exact ⟨nofun, fun ⟨c, mem, noDigit⟩ => absurd (all c mem) noDigit⟩
  | address some all le value => exact ⟨nofun, fun ⟨c, mem, noDigit⟩ => absurd (all c mem) noDigit⟩

/-- A text is too long only if all of it is digits. -/
theorem eq_tooLong_iff (reads : Reads digits result) (count : Nat) :
    result = .error (.tooLong count) ↔ (∀ c ∈ digits, IsDigit c) ∧ 64 < digits.length ∧
      count = (digits.length + 1) / 2 := by
  cases reads with
  | empty none => exact ⟨nofun, fun ⟨_, lt, _⟩ => by simp [none] at lt⟩
  | bad parts first noDigit bytes =>
      exact ⟨nofun, fun ⟨all, _⟩ => absurd (all _ (by simp [parts])) noDigit⟩
  | long all lt =>
      constructor
      · rintro ⟨⟩
        exact ⟨all, lt, rfl⟩
      · rintro ⟨-, -, rfl⟩
        rfl
  | address some all le value => exact ⟨nofun, fun ⟨_, lt, _⟩ => absurd le (Nat.not_le.mpr lt)⟩

end Reads

/-! ### Reading back what was written -/

/-- Hex that was written bare is all remainder. -/
theorem remainder_encode (own : Bytes) : remainder (Hex.encode own) = own.flatMap Hex.digits := by
  rw [remainder, Hex.encode, String.toList_ofList]
  exact unmarked_of_digits fun c mem => Hex.isDigit_of_mem_flatMap mem

/-- Hex behind a mark is what remains without it. -/
theorem remainder_mark_append (own : Bytes) :
    remainder ("0x" ++ Hex.encode own) = own.flatMap Hex.digits := by
  simp only [remainder, Hex.encode, String.toList_append, String.toList_ofList]
  exact unmarked.eq_1 _

/-- The digits of a native form are read as the address that it denotes, marked or not. -/
theorem parse_of_native {address : Address} {zeros : Nat} {own : Bytes} (some : own ≠ [])
    (bytes : address.bytes = List.replicate zeros 0 ++ own) {text : String}
    (digits : remainder text = own.flatMap Hex.digits) : parse text = .ok address := by
  have length := congrArg List.length bytes
  rw [address.length_eq, List.length_append] at length
  refine ((reads_parse text).eq_ok_iff address).mpr ?_
  rw [digits, Hex.length_flatMap_digits, Hex.number_flatMap_digits, FixedBytes.toNat, bytes,
    Bytes.value_replicate_append]
  refine ⟨?_, by omega, fun c mem => Hex.isDigit_of_mem_flatMap mem, rfl⟩
  intro none
  have count := Hex.length_flatMap_digits own
  rw [none, List.length_nil] at count
  exact some (List.length_eq_zero_iff.mp (by omega))

/-- **The texts of addresses.**  A text is read as an address exactly when one to 64 hexadecimal
digits remain of it after at most one mark, and the address is then the number that they denote.
Nothing remaining is refused as empty, anything else among the digits as invalid, and more digits as
too long by their bytes.  An address is read back from its own text, and it is recovered from each
of its native forms and from their digits. -/
theorem parse_grammar :
    (∀ text,
      (∀ address, parse text = .ok address ↔
        remainder text ≠ [] ∧ (remainder text).length ≤ 64 ∧ (∀ c ∈ remainder text, IsDigit c) ∧
          address.toNat = number (remainder text)) ∧
      (parse text = .error .empty ↔ remainder text = []) ∧
      ((∃ cause, parse text = .error (.invalidHex cause)) ↔
        ∃ c ∈ remainder text, ¬ IsDigit c) ∧
      ∀ count, parse text = .error (.tooLong count) ↔
        (∀ c ∈ remainder text, IsDigit c) ∧ 64 < (remainder text).length ∧
          count = ((remainder text).length + 1) / 2) ∧
    ∀ address : Address, parse address.text = .ok address ∧
      ∀ zeros own, own ≠ [] → address.bytes = List.replicate zeros 0 ++ own →
        ofNative own = .ok address ∧ parse (Hex.encode own) = .ok address ∧
          parse ("0x" ++ Hex.encode own) = .ok address := by
  refine ⟨fun text => ?_, fun address => ⟨?_, fun zeros own some bytes => ⟨?_, ?_, ?_⟩⟩⟩
  · have reads := reads_parse text
    exact ⟨reads.eq_ok_iff, reads.eq_empty_iff, reads.exists_eq_invalidHex_iff,
      reads.eq_tooLong_iff⟩
  · have some : address.bytes ≠ [] := by
      intro none
      have := address.length_eq
      simp [none] at this
    have whole : address.bytes = List.replicate 0 0 ++ address.bytes := rfl
    exact parse_of_native some whole (remainder_mark_append address.bytes)
  · exact ofNative_eq_ok bytes
  · exact parse_of_native some bytes (remainder_encode own)
  · exact parse_of_native some bytes (remainder_mark_append own)

/-- Marked and not, and one after the other refused: texts of the address 427, and texts of none. -/
theorem parse_grammar_of_samples :
    parse "0x1Ab" = .ok (.ofNat 32 427) ∧ parse "0x" = .error .empty ∧
      (∃ cause, parse "0x0x1" = .error (.invalidHex cause)) ∧
      parse (String.ofList (List.replicate 65 'f')) = .error (.tooLong 33) ∧
      parse (text (.ofNat 32 427)) = .ok (.ofNat 32 427) ∧
      ofNative [1, 171] = .ok (.ofNat 32 427) ∧
      parse (Hex.encode [1, 171]) = .ok (.ofNat 32 427) ∧
      parse ("0x" ++ Hex.encode [1, 171]) = .ok (.ofNat 32 427) := by
  obtain ⟨reads, -, -, -⟩ := parse_grammar.1 "0x1Ab"
  obtain ⟨-, empty, -, -⟩ := parse_grammar.1 "0x"
  obtain ⟨-, -, invalid, -⟩ := parse_grammar.1 "0x0x1"
  obtain ⟨-, -, -, long⟩ := parse_grammar.1 (String.ofList (List.replicate 65 'f'))
  obtain ⟨own, natives⟩ := parse_grammar.2 (.ofNat 32 427)
  have digits : ∀ c ∈ ['1', 'A', 'b'], IsDigit c := by
    have each : IsDigit '1' ∧ IsDigit 'A' ∧ IsDigit 'b' := by decide
    simpa using each
  have noDigit : ¬ IsDigit 'x' := by decide
  have many : remainder (String.ofList (List.replicate 65 'f')) = List.replicate 65 'f' := by
    rw [remainder, String.toList_ofList]
    rfl
  have bytes : (FixedBytes.ofNat 32 427).bytes = List.replicate 30 0 ++ [1, 171] := by decide
  have native := natives 30 [1, 171] (by decide) bytes
  refine ⟨(reads _).mpr ⟨by decide, by decide, digits, by decide⟩, empty.mpr (by decide),
    invalid.mpr ⟨'x', by decide, noDigit⟩, (long _).mpr ?_, own, native⟩
  rw [many]
  refine ⟨fun c mem => ?_, by decide, by decide⟩
  rw [List.eq_of_mem_replicate mem]
  decide

end Address

end TokenTransfer
