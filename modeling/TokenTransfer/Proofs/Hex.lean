import TokenTransfer.Hex

/-!
# Hexadecimal digits

What a hexadecimal text denotes is a matter of its characters.  What is read are the UTF-8 bytes of
the text, where a character outside ASCII is several bytes and none of them is a digit.  So a text is
read exactly when all of its characters are digits, as what they denote, and otherwise the first byte
of the first character that is no digit is refused.

## Main definitions

* `Hex.IsDigit`, `Hex.numeral` - the hexadecimal digits, and the number that each of them denotes
* `Hex.number` - the number that digits denote
* `Hex.pairs` - the bytes that pairs of digits denote

## Main statements

* `Hex.decode_of_digits` - pairs of digits are read as the bytes that they denote
* `Hex.decode_of_bad` - a byte that is no digit is refused
* `Hex.number_flatMap_digits` - what is written for a byte string denotes its value
-/

namespace TokenTransfer

namespace Hex

/-! ### Digits -/

/-- The sixteen digits in their order. -/
def sixteen : List Char :=
  ['0', '1', '2', '3', '4', '5', '6', '7', '8', '9', 'a', 'b', 'c', 'd', 'e', 'f']

/-- **A hexadecimal digit** of ASCII, in either case. -/
def IsDigit (c : Char) : Prop := c.toLower ∈ sixteen

instance (c : Char) : Decidable (IsDigit c) := inferInstanceAs (Decidable (c.toLower ∈ sixteen))

/-- The number that a digit denotes. -/
def numeral (c : Char) : Nat := sixteen.idxOf c.toLower

/-- **The number that digits denote**, most significant digit first. -/
def number (digits : List Char) : Nat := digits.foldl (fun n c => 16 * n + numeral c) 0

theorem numeral_lt {c : Char} (h : IsDigit c) : numeral c < 16 := List.idxOf_lt_length_of_mem h

/-- Digits are characters of ASCII. -/
theorem toNat_lt_of_isDigit {c : Char} (h : IsDigit c) : c.toNat < 128 := by
  have ascii : ∀ d ∈ sixteen, d.toNat < 128 := by simp [sixteen]
  rcases Nat.lt_or_ge c.toNat 128 with lt | high
  · exact lt
  · -- Only the capital letters of ASCII have another character as their lower case.
    have same : c.toLower = c := by
      unfold Char.toLower
      rw [dif_neg]
      rintro ⟨-, le⟩
      have le : c.toNat ≤ 90 := UInt32.le_iff_toNat_le.mp le
      omega
    have lt := ascii _ h
    rwa [same] at lt

/-! ### Characters and their bytes -/

private theorem toList_loop (bytes : ByteArray) (i : Nat) (before : Bytes) :
    ByteArray.toList.loop bytes i before = before.reverse ++ bytes.data.toList.drop i := by
  fun_induction ByteArray.toList.loop bytes i before with
  | case1 i before lt ih =>
      have lt : i < bytes.data.toList.length := lt
      have here : bytes.get! i = bytes.data.toList[i] := getElem!_pos bytes.data i lt
      rw [ih, List.drop_eq_getElem_cons lt, List.reverse_cons, List.append_assoc, here]
      rfl
  | case2 i before le =>
      have le : bytes.data.toList.length ≤ i := Nat.not_lt.mp le
      rw [List.drop_eq_nil_of_le le, List.append_nil]

/-- The bytes of a text are those of its characters. -/
theorem utf8_eq (text : String) : utf8 text = text.toList.flatMap String.utf8EncodeChar := by
  have bytes : text.toUTF8 = (text.toList.flatMap String.utf8EncodeChar).toByteArray :=
    String.utf8Encode_toList.symm
  have listed : utf8 text = text.toUTF8.data.toList := toList_loop text.toUTF8 0 []
  rw [listed, bytes, List.toList_data_toByteArray]

/-- A character of ASCII is its own byte. -/
theorem encodeChar_of_ascii {c : Char} (ascii : c.toNat < 128) :
    String.utf8EncodeChar c = [UInt8.ofNat c.toNat] := by
  have ascii : c.val.toNat ≤ 127 := Nat.le_of_lt_succ ascii
  unfold String.utf8EncodeChar
  exact if_pos ascii

private theorem le_toNat_ofNat {n : Nat} (le : 128 ≤ n) (lt : n < 256) :
    128 ≤ (UInt8.ofNat n).toNat := by
  rwa [UInt8.toNat_ofNat_of_lt' lt]

/-- The bytes of a character outside ASCII are outside ASCII. -/
theorem le_of_mem_encodeChar {c : Char} (high : 128 ≤ c.toNat) {b : UInt8}
    (mem : b ∈ String.utf8EncodeChar c) : 128 ≤ b.toNat := by
  have high : ¬ c.val.toNat ≤ 127 := Nat.not_le.mpr high
  rw [String.utf8EncodeChar.eq_1, if_neg high] at mem
  split at mem
  · simp only [List.mem_cons, List.not_mem_nil, or_false] at mem
    rcases mem with rfl | rfl <;> exact le_toNat_ofNat (by omega) (by omega)
  · split at mem
    · simp only [List.mem_cons, List.not_mem_nil, or_false] at mem
      rcases mem with rfl | rfl | rfl <;> exact le_toNat_ofNat (by omega) (by omega)
    · simp only [List.mem_cons, List.not_mem_nil, or_false] at mem
      rcases mem with rfl | rfl | rfl | rfl <;> exact le_toNat_ofNat (by omega) (by omega)

/-- A character whose bytes begin as those of an ASCII character is that character. -/
theorem eq_of_encodeChar {c d : Char} (ascii : d.toNat < 128) {rest : Bytes}
    (bytes : String.utf8EncodeChar c = UInt8.ofNat d.toNat :: rest) : c = d := by
  have own : (UInt8.ofNat d.toNat).toNat = d.toNat :=
    UInt8.toNat_ofNat_of_lt' (Nat.lt_trans ascii (by decide))
  rcases Nat.lt_or_ge c.toNat 128 with low | high
  · have own' : (UInt8.ofNat c.toNat).toNat = c.toNat :=
      UInt8.toNat_ofNat_of_lt' (Nat.lt_trans low (by decide))
    rw [encodeChar_of_ascii low] at bytes
    have same := congrArg UInt8.toNat (List.cons.inj bytes).1
    rw [own, own'] at same
    exact Char.toNat_inj.mp same
  · have outside := le_of_mem_encodeChar high (bytes ▸ List.mem_cons_self)
    omega

/-- Characters of ASCII begin a text exactly when their bytes begin its bytes. -/
theorem flatMap_prefix_iff {mark : List Char} (ascii : ∀ c ∈ mark, c.toNat < 128)
    (text : List Char) :
    mark.flatMap String.utf8EncodeChar <+: text.flatMap String.utf8EncodeChar ↔ mark <+: text := by
  induction mark generalizing text with
  | nil => simp
  | cons d mark ih =>
      obtain ⟨first, others⟩ := List.forall_mem_cons.mp ascii
      match text with
      | [] => simp [encodeChar_of_ascii first]
      | c :: rest =>
          by_cases same : c = d
          · subst same
            rw [List.flatMap_cons, List.flatMap_cons, List.prefix_append_right_inj, ih others,
              List.cons_prefix_cons]
            simp
          · obtain ⟨b, tail, bytes⟩ :=
              List.exists_cons_of_ne_nil (String.utf8EncodeChar_ne_nil (c := c))
            have differs : UInt8.ofNat d.toNat ≠ b := by
              rintro rfl
              exact same (eq_of_encodeChar first bytes)
            rw [List.flatMap_cons, List.flatMap_cons, encodeChar_of_ascii first, bytes]
            simp [List.cons_prefix_cons, differs, Ne.symm same]

private theorem digitValue?_of_lt : ∀ n, n < 128 → digitValue? (UInt8.ofNat n) =
    if IsDigit (Char.ofNat n) then some (numeral (Char.ofNat n)) else none := by
  decide +kernel

/-- A byte of ASCII is a digit exactly when its character is one, and then of the same number. -/
theorem digitValue?_of_ascii {c : Char} (ascii : c.toNat < 128) :
    digitValue? (UInt8.ofNat c.toNat) = if IsDigit c then some (numeral c) else none := by
  have values := digitValue?_of_lt c.toNat ascii
  rwa [Char.ofNat_toNat] at values

/-- A byte beyond ASCII is no digit. -/
theorem digitValue?_of_high {b : UInt8} (high : 128 ≤ b.toNat) : digitValue? b = none := by
  have zero : '0'.toNat = 48 := rfl
  have nine : '9'.toNat = 57 := rfl
  have bounds : 'f'.toNat = 102 ∧ 'F'.toNat = 70 := ⟨rfl, rfl⟩
  unfold digitValue?
  dsimp only
  rw [if_neg (by omega), if_neg (by omega), if_neg (by omega)]

/-- The bytes of a character begin with a digit exactly when the character is one. -/
theorem exists_encodeChar (c : Char) : ∃ b rest, String.utf8EncodeChar c = b :: rest ∧
    digitValue? b = if IsDigit c then some (numeral c) else none := by
  rcases Nat.lt_or_ge c.toNat 128 with ascii | high
  · exact ⟨UInt8.ofNat c.toNat, [], encodeChar_of_ascii ascii, digitValue?_of_ascii ascii⟩
  · obtain ⟨b, rest, bytes⟩ := List.exists_cons_of_ne_nil (String.utf8EncodeChar_ne_nil (c := c))
    have mem : b ∈ String.utf8EncodeChar c := bytes ▸ List.mem_cons_self
    have none : ¬ IsDigit c := fun digit => absurd (toNat_lt_of_isDigit digit) (Nat.not_lt.mpr high)
    refine ⟨b, rest, bytes, ?_⟩
    rw [digitValue?_of_high (le_of_mem_encodeChar high mem), if_neg none]

/-! ### Reading -/

/-- The bytes that pairs of digits denote. -/
def pairs : List Char → Bytes
  | [] => []
  | [_] => []
  | high :: low :: rest => UInt8.ofNat (16 * numeral high + numeral low) :: pairs rest

/-- Two digits make a byte. -/
theorem length_pairs (digits : List Char) : (pairs digits).length = digits.length / 2 := by
  fun_induction pairs digits with
  | case1 => rfl
  | case2 last => simp
  | case3 high low rest ih =>
      simp only [List.length_cons, ih]
      omega

/-- What is left of paired digits behind a pair is paired. -/
private theorem even_of_cons_cons {α : Type} {a b : α} {rest : List α}
    (even : (a :: b :: rest).length % 2 = 0) : rest.length % 2 = 0 := by
  simp only [List.length_cons] at even
  omega

/-- Pairs of digits denote, byte by byte, what the digits denote one by one. -/
theorem value_pairs {digits : List Char} (all : ∀ c ∈ digits, IsDigit c)
    (even : digits.length % 2 = 0) : (pairs digits).value = number digits := by
  suffices h : ∀ n, (pairs digits).foldl (fun n b => 256 * n + b.toNat) n =
      digits.foldl (fun n c => 16 * n + numeral c) n from h 0
  fun_induction pairs digits with
  | case1 => exact fun n => rfl
  | case2 last => cases even
  | case3 high low rest ih =>
      intro n
      obtain ⟨first, second, all⟩ : IsDigit high ∧ IsDigit low ∧ ∀ c ∈ rest, IsDigit c := by
        simpa using all
      have small : 16 * numeral high + numeral low < 256 := by
        have := numeral_lt first
        have := numeral_lt second
        omega
      have both : 256 * n + (16 * numeral high + numeral low) =
          16 * (16 * n + numeral high) + numeral low := by omega
      rw [List.foldl_cons, List.foldl_cons, List.foldl_cons, UInt8.toNat_ofNat_of_lt' small, both,
        ih all (even_of_cons_cons even)]

/-- A digit is one byte, which the reader takes for what the digit denotes. -/
private theorem encodeChar_of_isDigit {c : Char} (h : IsDigit c) :
    String.utf8EncodeChar c = [UInt8.ofNat c.toNat] ∧
      digitValue? (UInt8.ofNat c.toNat) = some (numeral c) := by
  have ascii := toNat_lt_of_isDigit h
  refine ⟨encodeChar_of_ascii ascii, ?_⟩
  rw [digitValue?_of_ascii ascii, if_pos h]

/-- Digits are as many bytes as they are characters, and each byte is a digit. -/
theorem flatMap_of_digits {digits : List Char} (all : ∀ c ∈ digits, IsDigit c) :
    (digits.flatMap String.utf8EncodeChar).length = digits.length ∧
      ∀ b ∈ digits.flatMap String.utf8EncodeChar, ∃ n, digitValue? b = some n := by
  induction digits with
  | nil => exact ⟨rfl, nofun⟩
  | cons c rest ih =>
      obtain ⟨first, all⟩ := List.forall_mem_cons.mp all
      obtain ⟨byte, value⟩ := encodeChar_of_isDigit first
      obtain ⟨length, values⟩ := ih all
      rw [List.flatMap_cons, byte]
      refine ⟨congrArg (· + 1) length, ?_⟩
      intro b mem
      rcases List.mem_cons.mp mem with rfl | mem
      · exact ⟨_, value⟩
      · exact values b mem

private theorem decodePairs_of_digits {digits : List Char} (all : ∀ c ∈ digits, IsDigit c)
    (even : digits.length % 2 = 0) (done : Array UInt8) (position : Nat) :
    decodePairs done position (digits.flatMap String.utf8EncodeChar) =
      .ok (done.toList ++ pairs digits) := by
  fun_induction pairs digits generalizing done position with
  | case1 => simp [decodePairs]
  | case2 last => cases even
  | case3 high low rest ih =>
      obtain ⟨first, second, all⟩ : IsDigit high ∧ IsDigit low ∧ ∀ c ∈ rest, IsDigit c := by
        simpa using all
      obtain ⟨byte, value⟩ := encodeChar_of_isDigit first
      obtain ⟨byte', value'⟩ := encodeChar_of_isDigit second
      rw [List.flatMap_cons, List.flatMap_cons, byte, byte']
      simp [decodePairs, value, value', ih all (even_of_cons_cons even)]

/-- **Pairs of digits are read as the bytes that they denote.** -/
theorem decode_of_digits {digits : List Char} (all : ∀ c ∈ digits, IsDigit c)
    (even : digits.length % 2 = 0) :
    decode (digits.flatMap String.utf8EncodeChar) = .ok (pairs digits) := by
  have paired : (digits.flatMap String.utf8EncodeChar).length % 2 ≠ 1 := by
    rw [(flatMap_of_digits all).1]
    omega
  rw [decode, if_neg paired, decodePairs_of_digits all even]
  rfl

private theorem decodePairs_of_bad {bad : UInt8} (noDigit : digitValue? bad = none)
    {front rest : Bytes} (digits : ∀ b ∈ front, ∃ n, digitValue? b = some n)
    (even : (front ++ bad :: rest).length % 2 = 0) (done : Array UInt8) (position : Nat) :
    decodePairs done position (front ++ bad :: rest) =
      .error (.badDigit bad (position + front.length)) := by
  match front with
  | [] =>
      match rest with
      | [] => cases even
      | low :: rest => simp [decodePairs, noDigit]
  | [high] =>
      obtain ⟨n, value⟩ := digits high List.mem_cons_self
      simp [decodePairs, value, noDigit]
  | high :: low :: front =>
      obtain ⟨⟨n, value⟩, ⟨n', value'⟩, digits⟩ : (∃ n, digitValue? high = some n) ∧
          (∃ n, digitValue? low = some n) ∧ ∀ b ∈ front, ∃ n, digitValue? b = some n := by
        simpa using digits
      have later := decodePairs_of_bad noDigit digits (even_of_cons_cons even)
        (done.push (UInt8.ofNat (16 * n + n'))) (position + 2)
      rw [List.cons_append, List.cons_append, decodePairs, value, value']
      dsimp only
      rw [later, List.length_cons, List.length_cons, Nat.add_assoc, Nat.add_comm 2]

/-- **A byte that is no digit is refused**, by its position, if it is the first one. -/
theorem decode_of_bad {bad : UInt8} (noDigit : digitValue? bad = none) {front rest : Bytes}
    (digits : ∀ b ∈ front, ∃ n, digitValue? b = some n)
    (even : (front ++ bad :: rest).length % 2 = 0) :
    decode (front ++ bad :: rest) = .error (.badDigit bad front.length) := by
  rw [decode, if_neg (by omega), decodePairs_of_bad noDigit digits even, Nat.zero_add]

/-! ### Writing -/

private theorem isDigit_digit : ∀ n, n < 16 → IsDigit (digit n) ∧ numeral (digit n) = n := by
  decide

theorem isDigit_of_mem_digits {b : UInt8} {c : Char} (mem : c ∈ digits b) : IsDigit c := by
  have := b.toNat_lt
  simp only [digits, List.mem_cons, List.not_mem_nil, or_false] at mem
  rcases mem with rfl | rfl
  · exact (isDigit_digit _ (by omega)).1
  · exact (isDigit_digit _ (by omega)).1

theorem isDigit_of_mem_flatMap {bytes : Bytes} {c : Char} (mem : c ∈ bytes.flatMap digits) :
    IsDigit c := by
  obtain ⟨b, -, mem⟩ := List.mem_flatMap.mp mem
  exact isDigit_of_mem_digits mem

/-- A byte is written as two digits. -/
theorem length_flatMap_digits (bytes : Bytes) :
    (bytes.flatMap digits).length = 2 * bytes.length := by
  induction bytes with
  | nil => rfl
  | cons b rest ih =>
      rw [List.flatMap_cons, List.length_append, ih, List.length_cons]
      show 2 + 2 * rest.length = _
      omega

/-- **What is written for a byte string denotes its value.** -/
theorem number_flatMap_digits (bytes : Bytes) : number (bytes.flatMap digits) = bytes.value := by
  suffices h : ∀ n, (bytes.flatMap digits).foldl (fun n c => 16 * n + numeral c) n =
      bytes.foldl (fun n b => 256 * n + b.toNat) n from h 0
  induction bytes with
  | nil => exact fun n => rfl
  | cons b rest ih =>
      intro n
      have := b.toNat_lt
      have high := (isDigit_digit (b.toNat / 16) (by omega)).2
      have low := (isDigit_digit (b.toNat % 16) (by omega)).2
      have both : 16 * (16 * n + b.toNat / 16) + b.toNat % 16 = 256 * n + b.toNat := by omega
      rw [List.flatMap_cons, List.foldl_append, List.foldl_cons, ← ih]
      show (rest.flatMap digits).foldl _
        (16 * (16 * n + numeral (digit (b.toNat / 16))) + numeral (digit (b.toNat % 16))) = _
      rw [high, low, both]

end Hex

end TokenTransfer
