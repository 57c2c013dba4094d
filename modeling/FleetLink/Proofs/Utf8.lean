import FleetLink.Text.Utf8

/-! Every text comes back from its bytes. The lead byte of a character tells how many
bytes follow, and the bounds on the second byte admit exactly the shortest forms. -/

namespace FleetLink.Text.Utf8

theorem toNat_toUInt8 {n : Nat} (small : n < 256) : n.toUInt8.toNat = n := by
  rw [Nat.toUInt8, UInt8.toNat_ofNat']
  exact Nat.mod_eq_of_lt small

theorem continued_tail {more sound value low : Nat} {byte : UInt8} (holds : byte.toNat = 0x80 + low)
    (small : low < 0x40) (rest : List UInt8) :
    continued (more + 1) sound value (byte :: rest) = continued more (sound + 1) (value * 0x40 + low) rest := by
  have inside : (0x80 ≤ byte.toNat && byte.toNat ≤ 0xBF) = true := by
    simp only [Bool.and_eq_true, decide_eq_true_eq]
    omega
  have bits : byte.toNat - 0x80 = low := by omega
  rw [continued, if_pos inside, bits]

theorem Lead.read_second {lead : Lead} {byte : UInt8} {second : Nat} (holds : byte.toNat = 0x80 + second)
    (low : lead.low ≤ 0x80 + second) (high : 0x80 + second ≤ lead.high) (rest : List UInt8) :
    lead.read (byte :: rest) = continued lead.more 2 (lead.bits * 0x40 + second) rest := by
  have bits : byte.toNat - 0x80 = second := by omega
  rw [Lead.read, if_pos (by simp only [holds, low, high, decide_true, Bool.and_self]), bits]

/-- A character after a lead byte is read when the bytes after that one complete it. -/
theorem decodeFrom_lead {lead : Lead} {byte : UInt8} {bytes rest : List UInt8} {code start : Nat}
    (long : 0x80 ≤ byte.toNat) (known : lead? byte = some lead) (read : lead.read bytes = .ok (code, rest)) :
    decodeFrom start (byte :: bytes) = (Char.ofNat code :: ·) <$> decodeFrom (start + 2 + lead.more) rest := by
  rw [decodeFrom, if_neg (by omega), known]
  simp only
  split
  next failed => rw [read] at failed; cases failed
  next after passed =>
    rw [read] at passed
    cases passed
    rfl

section
variable (n start : Nat) (rest : List UInt8)

theorem decodeFrom_two (least : 0x80 ≤ n) (most : n < 0x800) :
    decodeFrom start ((0xC0 + n / 0x40).toUInt8 :: (0x80 + n % 0x40).toUInt8 :: rest) =
      (Char.ofNat n :: ·) <$> decodeFrom (start + 2) rest := by
  have lead : (0xC0 + n / 0x40).toUInt8.toNat = 0xC0 + n / 0x40 := toNat_toUInt8 (by omega)
  have second : (0x80 + n % 0x40).toUInt8.toNat = 0x80 + n % 0x40 := toNat_toUInt8 (by omega)
  have known : lead? (0xC0 + n / 0x40).toUInt8 = some ⟨n / 0x40, 0x80, 0xBF, 0⟩ := by
    unfold lead?
    rw [lead, if_neg (by omega), if_pos (by omega), Nat.add_sub_cancel_left]
  have read : (⟨n / 0x40, 0x80, 0xBF, 0⟩ : Lead).read ((0x80 + n % 0x40).toUInt8 :: rest) = .ok (n, rest) := by
    rw [Lead.read_second second (by simp) (by simp; omega), continued, Nat.div_add_mod' n 0x40]
  exact decodeFrom_lead (by omega) known read

theorem decodeFrom_three (least : 0x800 ≤ n) (most : n < 0x10000) (whole : n < 0xD800 ∨ 0xDFFF < n) :
    decodeFrom start ((0xE0 + n / 0x1000).toUInt8 :: (0x80 + n / 0x40 % 0x40).toUInt8 ::
        (0x80 + n % 0x40).toUInt8 :: rest) =
      (Char.ofNat n :: ·) <$> decodeFrom (start + 3) rest := by
  have lead : (0xE0 + n / 0x1000).toUInt8.toNat = 0xE0 + n / 0x1000 := toNat_toUInt8 (by omega)
  have second : (0x80 + n / 0x40 % 0x40).toUInt8.toNat = 0x80 + n / 0x40 % 0x40 := toNat_toUInt8 (by omega)
  have third : (0x80 + n % 0x40).toUInt8.toNat = 0x80 + n % 0x40 := toNat_toUInt8 (by omega)
  obtain ⟨low, high, known, lowest, highest⟩ :
      ∃ low high, lead? (0xE0 + n / 0x1000).toUInt8 = some ⟨n / 0x1000, low, high, 1⟩ ∧
        low ≤ 0x80 + n / 0x40 % 0x40 ∧ 0x80 + n / 0x40 % 0x40 ≤ high := by
    unfold lead?
    rw [lead, if_neg (by omega), if_neg (by omega), if_pos (by omega), Nat.add_sub_cancel_left]
    refine ⟨_, _, rfl, ?_, ?_⟩ <;> split <;> omega
  have read : (⟨n / 0x1000, low, high, 1⟩ : Lead).read
      ((0x80 + n / 0x40 % 0x40).toUInt8 :: (0x80 + n % 0x40).toUInt8 :: rest) = .ok (n, rest) := by
    have value : (n / 0x1000 * 0x40 + n / 0x40 % 0x40) * 0x40 + n % 0x40 = n := by omega
    rw [Lead.read_second second lowest highest, continued_tail third (by omega), continued, value]
  exact decodeFrom_lead (by omega) known read

theorem decodeFrom_four (least : 0x10000 ≤ n) (most : n < 0x110000) :
    decodeFrom start ((0xF0 + n / 0x40000).toUInt8 :: (0x80 + n / 0x1000 % 0x40).toUInt8 ::
        (0x80 + n / 0x40 % 0x40).toUInt8 :: (0x80 + n % 0x40).toUInt8 :: rest) =
      (Char.ofNat n :: ·) <$> decodeFrom (start + 4) rest := by
  have lead : (0xF0 + n / 0x40000).toUInt8.toNat = 0xF0 + n / 0x40000 := toNat_toUInt8 (by omega)
  have second : (0x80 + n / 0x1000 % 0x40).toUInt8.toNat = 0x80 + n / 0x1000 % 0x40 := toNat_toUInt8 (by omega)
  have third : (0x80 + n / 0x40 % 0x40).toUInt8.toNat = 0x80 + n / 0x40 % 0x40 := toNat_toUInt8 (by omega)
  have fourth : (0x80 + n % 0x40).toUInt8.toNat = 0x80 + n % 0x40 := toNat_toUInt8 (by omega)
  obtain ⟨low, high, known, lowest, highest⟩ :
      ∃ low high, lead? (0xF0 + n / 0x40000).toUInt8 = some ⟨n / 0x40000, low, high, 2⟩ ∧
        low ≤ 0x80 + n / 0x1000 % 0x40 ∧ 0x80 + n / 0x1000 % 0x40 ≤ high := by
    unfold lead?
    rw [lead, if_neg (by omega), if_neg (by omega), if_neg (by omega), if_pos (by omega), Nat.add_sub_cancel_left]
    refine ⟨_, _, rfl, ?_, ?_⟩ <;> split <;> omega
  have read : (⟨n / 0x40000, low, high, 2⟩ : Lead).read ((0x80 + n / 0x1000 % 0x40).toUInt8 ::
      (0x80 + n / 0x40 % 0x40).toUInt8 :: (0x80 + n % 0x40).toUInt8 :: rest) = .ok (n, rest) := by
    have value : ((n / 0x40000 * 0x40 + n / 0x1000 % 0x40) * 0x40 + n / 0x40 % 0x40) * 0x40 + n % 0x40 = n := by omega
    rw [Lead.read_second second lowest highest, continued_tail third (by omega), continued_tail fourth (by omega),
      continued, value]
  exact decodeFrom_lead (by omega) known read

end

theorem decodeFrom_char (c : Char) (start : Nat) (rest : List UInt8) :
    decodeFrom start (encodeChar c ++ rest) = (c :: ·) <$> decodeFrom (start + (encodeChar c).length) rest := by
  have valid : c.toNat < 0xD800 ∨ 0xDFFF < c.toNat ∧ c.toNat < 0x110000 := c.valid
  have again : Char.ofNat c.toNat = c := Char.ofNat_toNat c
  unfold encodeChar
  simp only
  split
  next ascii =>
    have byte : c.toNat.toUInt8.toNat = c.toNat := toNat_toUInt8 (by omega)
    rw [List.singleton_append, decodeFrom, byte, if_pos ascii, again]
    rfl
  next =>
    split
    next =>
      have two := decodeFrom_two c.toNat start rest (by omega) (by omega)
      rwa [again] at two
    next =>
      split
      next =>
        have three := decodeFrom_three c.toNat start rest (by omega) (by omega) (by omega)
        rwa [again] at three
      next =>
        have four := decodeFrom_four c.toNat start rest (by omega) (by omega)
        rwa [again] at four

theorem decodeFrom_chars (chars : List Char) (start : Nat) :
    decodeFrom start (chars.flatMap encodeChar) = .ok chars := by
  induction chars generalizing start with
  | nil => rw [List.flatMap_nil, decodeFrom]
  | cons c chars ih =>
    rw [List.flatMap_cons, decodeFrom_char, ih]
    rfl

theorem decode_encode (text : String) : decode (encode text) = .ok text := by
  rw [decode, encode, decodeFrom_chars]
  exact congrArg Except.ok (String.ofList_toList)

end FleetLink.Text.Utf8
