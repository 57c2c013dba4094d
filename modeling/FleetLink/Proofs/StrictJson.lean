import FleetLink.Json.Reader
import FleetLink.Text.Quoted
import FleetLink.Proofs.CharRuns
import FleetLink.Proofs.Dictionary
import FleetLink.Proofs.Digits

/-! The grammar of strict JSON, for values without fractions and for texts without blanks.
The reader takes every text of the grammar to the value that the grammar gives it. -/

namespace FleetLink.Json
open Number Text

/-- The letters that may follow a backslash, and the characters they stand for. -/
def marks : List (Char × Char) :=
  [('"', '"'), ('\\', '\\'), ('/', '/'), ('b', Char.ofNat 8), ('f', Char.ofNat 12), ('n', '\n'), ('r', '\r'),
    ('t', '\t')]

/-- A character inside a text. Quote, backslash and controls cannot stand for themselves. -/
inductive CharForm : Char → List Char → Prop where
  | plain {c : Char} (large : 0x20 ≤ c.toNat) (quote : c ≠ '"') (slash : c ≠ '\\') : CharForm c [c]
  | marked {mark c : Char} (listed : (mark, c) ∈ marks) : CharForm c ['\\', mark]
  | unit {c : Char} (small : c.toNat < 0x10000) : CharForm c ('\\' :: 'u' :: hexChars 4 c.toNat)

/-- What stands between the quotes of a text. -/
inductive TextForm : List Char → List Char → Prop where
  | nil : TextForm [] []
  | cons {c : Char} {text form forms : List Char} (first : CharForm c form) (rest : TextForm text forms) :
      TextForm (c :: text) (form ++ forms)

/-- The digits of an integer. No zero stands before other digits. -/
structure Whole (digits : List Char) : Prop where
  all : ∀ c ∈ digits, c.isDigit = true
  present : digits ≠ []
  lead : digits.head? = some '0' → digits.length = 1

/-- Entries under texts. -/
def spelled (entries : List (String × Value)) : Entries := entries.map fun entry => (.text entry.1, entry.2)

mutual

/-- A value and a text for it. Integers have at most `limit` digits, lists and dictionaries
stand at most `depth` deep in one another, and no key stands twice in a dictionary. -/
inductive Strict (limit : Nat) : Nat → Value → List Char → Prop where
  | null {depth : Nat} : Strict limit depth .null "null".toList
  | bool {depth : Nat} (b : Bool) : Strict limit depth (.bool b) (if b then "true".toList else "false".toList)
  | integer {depth : Nat} (negative : Bool) {digits : List Char} (whole : Whole digits) (short : digits.length ≤ limit) :
      Strict limit depth (.int (signed negative (natOfDigits digits))) ((if negative then ['-'] else []) ++ digits)
  | text {depth : Nat} {text form : List Char} (inside : TextForm text form) :
      Strict limit depth (.text (String.ofList text)) ('"' :: form ++ ['"'])
  | noItems {depth : Nat} : Strict limit depth (.list []) ['[', ']']
  | list {depth : Nat} {items : List Value} {form : List Char} (inside : StrictItems limit depth items form) :
      Strict limit (depth + 1) (.list items) ('[' :: form)
  | noEntries {depth : Nat} : Strict limit depth (.dict []) ['\x7b', '\x7d']
  | dict {depth : Nat} {entries : List (String × Value)} {form : List Char}
      (inside : StrictEntries limit depth entries form) (distinct : (entries.map Prod.fst).Nodup) :
      Strict limit (depth + 1) (.dict (spelled entries)) ('\x7b' :: form)

/-- The items of a list, with the bracket that closes it. -/
inductive StrictItems (limit : Nat) : Nat → List Value → List Char → Prop where
  | last {depth : Nat} {item : Value} {form : List Char} (only : Strict limit depth item form) :
      StrictItems limit depth [item] (form ++ [']'])
  | next {depth : Nat} {item : Value} {items : List Value} {form forms : List Char}
      (first : Strict limit depth item form) (rest : StrictItems limit depth items forms) :
      StrictItems limit depth (item :: items) (form ++ ',' :: forms)

/-- The entries of a dictionary, with the brace that closes it. -/
inductive StrictEntries (limit : Nat) : Nat → List (String × Value) → List Char → Prop where
  | last {depth : Nat} {key keyForm form : List Char} {value : Value} (name : TextForm key keyForm)
      (only : Strict limit depth value form) :
      StrictEntries limit depth [(String.ofList key, value)] ('"' :: keyForm ++ '"' :: ':' :: form ++ ['\x7d'])
  | next {depth : Nat} {key keyForm form forms : List Char} {value : Value} {entries : List (String × Value)}
      (name : TextForm key keyForm) (first : Strict limit depth value form)
      (rest : StrictEntries limit depth entries forms) :
      StrictEntries limit depth ((String.ofList key, value) :: entries)
        ('"' :: keyForm ++ '"' :: ':' :: form ++ ',' :: forms)

end

theorem hexValue?_hexDigit {n : Nat} (small : n < 16) : hexValue? (hexDigit n) = some n := by
  have each : ∀ n < 16, hexValue? (hexDigit n) = some n := by decide
  exact each n small

theorem unit?_hexChars {n : Nat} (small : n < 0x10000) (rest : List Char) :
    unit? (hexChars 4 n ++ rest) = some (n, rest) := by
  have digit (m : Nat) : hexValue? (hexDigit (m % 16)) = some (m % 16) := hexValue?_hexDigit (Nat.mod_lt m (by decide))
  simp only [hexChars, List.nil_append, List.cons_append, unit?, digit, Option.bind_eq_bind, Option.bind_some,
    Option.pure_def, Option.some.injEq, Prod.mk.injEq, and_true]
  omega

/-- The unit of a character is no half of a pair. -/
theorem not_isHalf_toNat (c : Char) : isHalf c.toNat = false := by
  have valid : c.toNat < 0xD800 ∨ 0xDFFF < c.toNat := c.valid.imp id And.left
  simp only [isHalf, isHighHalf, isLowHalf, Bool.or_eq_false_iff, Bool.and_eq_false_iff, decide_eq_false_iff_not]
  omega

theorem unicodeEscape?_hexChars (halves : Bool) {c : Char} (small : c.toNat < 0x10000) (rest : List Char) :
    unicodeEscape? halves (hexChars 4 c.toNat ++ rest) = some (c, rest) := by
  have whole := not_isHalf_toNat c
  have low : isHighHalf c.toNat = false := (Bool.or_eq_false_iff.mp whole).1
  have same : charOrHalf c.toNat = c := by
    rw [charOrHalf, whole]
    exact Char.ofNat_toNat c
  simp only [unicodeEscape?, unit?_hexChars small, Option.bind_eq_bind, Option.bind_some, low, whole, same]
  simp

/-- One character is read from its form, whatever follows it. -/
theorem readText_charForm {halves : Bool} {fuel : Nat} {c : Char} {form rest text after : List Char}
    (char : CharForm c form) (read : readText halves fuel rest = some (text, after)) :
    readText halves (fuel + 1) (form ++ rest) = some (c :: text, after) := by
  cases char with
  | plain large quote slash =>
    rw [List.singleton_append, readText]
    · simp [slash, Nat.not_lt.mpr large, read]
    · exact fun same => quote same
    · exact fun _ same => absurd same slash
    · exact fun _ _ same => absurd same slash
  | marked listed =>
    simp only [marks, List.mem_cons, Prod.mk.injEq, List.not_mem_nil, or_false] at listed
    rcases listed with ⟨rfl, rfl⟩ | ⟨rfl, rfl⟩ | ⟨rfl, rfl⟩ | ⟨rfl, rfl⟩ | ⟨rfl, rfl⟩ | ⟨rfl, rfl⟩ | ⟨rfl, rfl⟩ | ⟨rfl, rfl⟩
    all_goals simp [readText, simpleEscape?, read]
  | unit small =>
    simp only [List.cons_append, readText, unicodeEscape?_hexChars halves small, Option.bind_eq_bind, Option.bind_some, read,
      Option.pure_def]

theorem CharForm.length_pos {c : Char} {form : List Char} (char : CharForm c form) : 0 < form.length := by
  cases char <;> simp

theorem readText_textForm {halves : Bool} {fuel : Nat} {text form : List Char} (inside : TextForm text form)
    (enough : form.length < fuel) (rest : List Char) :
    readText halves fuel (form ++ '"' :: rest) = some (text, rest) := by
  induction inside generalizing fuel with
  | nil =>
    obtain ⟨fuel, rfl⟩ := Nat.exists_eq_succ_of_ne_zero (Nat.ne_of_gt enough)
    rfl
  | @cons c text form forms first others ih =>
    have positive := first.length_pos
    rw [List.length_append] at enough
    obtain ⟨fuel, rfl⟩ := Nat.exists_eq_succ_of_ne_zero (Nat.ne_zero_of_lt enough)
    rw [List.append_assoc]
    exact readText_charForm first (ih (by omega))

/-- What may follow a value: nothing, or a mark that goes on or ends around it. -/
def Ends (rest : List Char) : Prop := ∀ c ∈ rest.head?, c = ',' ∨ c = ']' ∨ c = '\x7d'

theorem ends_nil : Ends [] := by simp [Ends]

theorem ends_cons {c : Char} (mark : c = ',' ∨ c = ']' ∨ c = '\x7d') (rest : List Char) : Ends (c :: rest) := by
  simpa [Ends] using mark

theorem Ends.not_isDigit {rest : List Char} (ends : Ends rest) : ∀ c ∈ rest.head?, c.isDigit = false := by
  intro c first
  rcases ends c first with rfl | rfl | rfl <;> rfl

theorem readFraction_ends {rest : List Char} (ends : Ends rest) : readFraction rest = some ([], rest) := by
  unfold readFraction
  split
  next after => simpa using ends '.' rfl
  next => rfl

theorem readPower_ends {rest : List Char} (ends : Ends rest) : readPower rest = some (none, rest) := by
  unfold readPower
  split
  next mark after =>
    rw [if_neg]
    rcases ends mark rfl with rfl | rfl | rfl <;> decide
  next => rfl

theorem readNumber_whole {limit : Nat} (negative : Bool) {digits rest : List Char} (whole : Whole digits)
    (short : digits.length ≤ limit) (ends : Ends rest) :
    readNumber limit negative (digits ++ rest) = some (.int (signed negative (natOfDigits digits)), rest) := by
  have refused : (digits.isEmpty || limit < digits.length || (digits.head? == some '0' && digits.length != 1)) = false := by
    simp only [Bool.or_eq_false_iff, Bool.and_eq_false_iff, beq_eq_false_iff_ne, bne_eq_false_iff_eq,
      decide_eq_false_iff_not, Nat.not_lt]
    refine ⟨⟨?_, short⟩, ?_⟩
    · simpa using whole.present
    · by_cases zero : digits.head? = some '0'
      · exact .inr (whole.lead zero)
      · exact .inl zero
  simp only [readNumber, span_run whole.all ends.not_isDigit, refused, Bool.false_eq_true, if_false,
    readFraction_ends ends, readPower_ends ends, Option.bind_eq_bind, Option.bind_some]
  rfl

/-- The text begins with a character that no reader passes over and that closes no list. -/
def Opens (form : List Char) : Prop := ∃ c ∈ form.head?, isSpace c = false ∧ c ≠ ']'

theorem skipSpaces_cons {c : Char} (solid : isSpace c = false) (rest : List Char) : skipSpaces (c :: rest) = c :: rest :=
  List.dropWhile_cons_of_neg (by simp [solid])

theorem isSpace_digit {c : Char} (digit : c.isDigit = true) : isSpace c = false := by
  have apart (mark : Char) (other : mark.isDigit = false) : c ≠ mark := ne_of_isDigit digit other
  simp [isSpace, apart ' ' rfl, apart '\n' rfl, apart '\t' rfl, apart '\r' rfl]

theorem readWord_digit {c : Char} (digit : c.isDigit = true) (rest : List Char) : readWord (c :: rest) = none := by
  have apart (mark : Char) (other : mark.isDigit = false) : mark ≠ c := (ne_of_isDigit digit other).symm
  simp [readWord, words, apart 'n' rfl, apart 't' rfl, apart 'f' rfl, apart 'N' rfl, apart 'I' rfl, apart '-' rfl]

theorem readWord_minus {c : Char} (digit : c.isDigit = true) (rest : List Char) : readWord ('-' :: c :: rest) = none := by
  have apart : 'I' ≠ c := (ne_of_isDigit digit rfl).symm
  simp [readWord, words, apart]

theorem readValue_integer (bounds : Bounds) (fuel depth : Nat) (negative : Bool) {digits : List Char}
    (whole : Whole digits) (rest : List Char) :
    readValue bounds (fuel + 1) depth ((if negative then ['-'] else []) ++ digits ++ rest) =
      readNumber (bounds.digits negative) negative (digits ++ rest) := by
  obtain ⟨first, others, rfl⟩ := List.exists_cons_of_ne_nil whole.present
  have digit : first.isDigit = true := whole.all first List.mem_cons_self
  cases negative with
  | true => simp [readValue, skipSpaces_cons, isSpace, readWord_minus digit]
  | false =>
    simp only [Bool.false_eq_true, if_false, List.nil_append, List.cons_append, readValue,
      skipSpaces_cons (isSpace_digit digit)]
    split
    next same => cases same; cases digit
    next same => cases same; cases digit
    next same => cases same; cases digit
    next =>
      simp only [readWord_digit digit]
      split
      next same => cases same; cases digit
      next => rfl

theorem Strict.opens {limit depth : Nat} {value : Value} {form : List Char} (strict : Strict limit depth value form) :
    Opens form := by
  cases strict with
  | null | text | noItems | list | noEntries | dict => exact ⟨_, rfl, by decide⟩
  | bool b => cases b <;> exact ⟨_, rfl, by decide⟩
  | @integer _ negative digits whole short =>
    cases negative with
    | true => exact ⟨'-', rfl, by decide⟩
    | false =>
      obtain ⟨first, others, rfl⟩ := List.exists_cons_of_ne_nil whole.present
      have digit : first.isDigit = true := whole.all first List.mem_cons_self
      exact ⟨first, rfl, isSpace_digit digit, ne_of_isDigit digit rfl⟩

theorem Opens.append {form : List Char} (opens : Opens form) (rest : List Char) : Opens (form ++ rest) := by
  obtain ⟨c, first, solid⟩ := opens
  exact ⟨c, by simp [List.head?_append, Option.mem_def.mp first], solid⟩

theorem StrictItems.opens {limit depth : Nat} {items : List Value} {form : List Char}
    (strict : StrictItems limit depth items form) : Opens form := by
  cases strict with
  | last only => exact only.opens.append _
  | next first rest => exact first.opens.append _

theorem StrictEntries.head {limit depth : Nat} {entries : List (String × Value)} {form : List Char}
    (strict : StrictEntries limit depth entries form) : ∃ others, form = '"' :: others := by
  cases strict <;> exact ⟨_, rfl⟩

/-- Entries put one after another into those before. -/
def entered (entries : List (String × Value)) (before : Entries) : Entries :=
  entries.foldl (fun done entry => done.put (.text entry.1) entry.2) before

theorem entered_distinct {entries : List (String × Value)} (distinct : (entries.map Prod.fst).Nodup) :
    entered entries [] = spelled entries := by
  rw [spelled, ← Dict.ofList_of_nodup distinct, Dict.ofList, List.foldl_map]
  rfl

theorem readValue_null (bounds : Bounds) (fuel space : Nat) (rest : List Char) :
    readValue bounds (fuel + 1) space ("null".toList ++ rest) = some (.null, rest) := by
  simp [readValue, skipSpaces_cons, isSpace, readWord, words]

theorem readValue_bool (bounds : Bounds) (fuel space : Nat) (b : Bool) (rest : List Char) :
    readValue bounds (fuel + 1) space ((if b then "true".toList else "false".toList) ++ rest) = some (.bool b, rest) := by
  cases b <;> simp [readValue, skipSpaces_cons, isSpace, readWord, words]

theorem readValue_text {bounds : Bounds} {fuel space : Nat} {text form : List Char} (inside : TextForm text form)
    (enough : form.length < fuel + 1) (rest : List Char) :
    readValue bounds (fuel + 1) space ('"' :: form ++ ['"'] ++ rest) = some (.text (String.ofList text), rest) := by
  simp [readValue, skipSpaces_cons, isSpace, readText_textForm inside enough]

theorem readValue_list {bounds : Bounds} {fuel space : Nat} {form rest : List Char} {items : List Value} (opens : Opens form)
    (deep : space ≠ 0) (read : readItems bounds fuel (space - 1) (form ++ rest) = some (items, rest)) :
    readValue bounds (fuel + 1) space ('[' :: form ++ rest) = some (.list items, rest) := by
  obtain ⟨c, first, solid, apart⟩ := opens.append rest
  obtain ⟨others, split⟩ := List.head?_eq_some_iff.mp first
  simp only [List.cons_append, readValue, skipSpaces_cons (show isSpace '[' = false by decide)]
  rw [split] at read ⊢
  rw [skipSpaces_cons solid]
  split
  next same => cases same; cases apart rfl
  next => simp [deep, read]

theorem readValue_dict {bounds : Bounds} {fuel space : Nat} {form rest : List Char} {entries : Entries}
    (head : ∃ others, form = '"' :: others) (deep : space ≠ 0)
    (read : readEntries bounds fuel (space - 1) [] (form ++ rest) = some (entries, rest)) :
    readValue bounds (fuel + 1) space ('\x7b' :: form ++ rest) = some (.dict entries, rest) := by
  obtain ⟨others, rfl⟩ := head
  rw [List.cons_append] at read
  simp [readValue, skipSpaces_cons, isSpace, deep, read]

theorem readItems_last {bounds : Bounds} {fuel space : Nat} {form rest : List Char} {item : Value}
    (read : readValue bounds fuel space (form ++ ']' :: rest) = some (item, ']' :: rest)) :
    readItems bounds (fuel + 1) space (form ++ [']'] ++ rest) = some ([item], rest) := by
  simp [readItems, read, skipSpaces_cons, isSpace]

theorem readItems_next {bounds : Bounds} {fuel space : Nat} {form forms rest : List Char} {item : Value}
    {items : List Value}
    (first : readValue bounds fuel space (form ++ ',' :: (forms ++ rest)) = some (item, ',' :: (forms ++ rest)))
    (others : readItems bounds fuel space (forms ++ rest) = some (items, rest)) :
    readItems bounds (fuel + 1) space (form ++ ',' :: forms ++ rest) = some (item :: items, rest) := by
  simp [readItems, first, others, skipSpaces_cons, isSpace]

section
variable {bounds : Bounds} {fuel space : Nat} {key keyForm form rest : List Char} {value : Value} {before : Entries}

theorem readEntries_last (name : TextForm key keyForm) (enough : keyForm.length < fuel + 1)
    (read : readValue bounds fuel space (form ++ '\x7d' :: rest) = some (value, '\x7d' :: rest)) :
    readEntries bounds (fuel + 1) space before ('"' :: keyForm ++ '"' :: ':' :: form ++ ['\x7d'] ++ rest) =
      some (before.put (.text (String.ofList key)) value, rest) := by
  simp [readEntries, readText_textForm name enough, read, skipSpaces_cons, isSpace]

theorem readEntries_next (name : TextForm key keyForm) (enough : keyForm.length < fuel + 1) {forms : List Char}
    {entries : Entries}
    (first : readValue bounds fuel space (form ++ ',' :: (forms ++ rest)) = some (value, ',' :: (forms ++ rest)))
    (others : readEntries bounds fuel space (before.put (.text (String.ofList key)) value) (forms ++ rest) =
      some (entries, rest)) :
    readEntries bounds (fuel + 1) space before ('"' :: keyForm ++ '"' :: ':' :: form ++ ',' :: forms ++ rest) =
      some (entries, rest) := by
  simp [readEntries, readText_textForm name enough, first, others, skipSpaces_cons, isSpace]

end

/-- Fuel for a text that has a first character is fuel for a step and the rest. -/
theorem Opens.fuel {form : List Char} (opens : Opens form) {fuel : Nat} (enough : form.length ≤ fuel) :
    ∃ more, fuel = more + 1 := by
  obtain ⟨c, first, _⟩ := opens
  obtain ⟨others, rfl⟩ := List.head?_eq_some_iff.mp first
  exact Nat.exists_eq_succ_of_ne_zero (Nat.ne_zero_of_lt enough)

theorem StrictEntries.opens {limit depth : Nat} {entries : List (String × Value)} {form : List Char}
    (strict : StrictEntries limit depth entries form) : Opens form := by
  obtain ⟨others, rfl⟩ := strict.head
  exact ⟨'"', rfl, by decide⟩

section
variable {limit : Nat} {bounds : Bounds}

mutual

theorem Strict.read {depth : Nat} {value : Value} {form : List Char}
    (roomy : ∀ negative, limit ≤ bounds.digits negative) (strict : Strict limit depth value form)
    {fuel space : Nat} (enough : form.length ≤ fuel) (deep : depth ≤ space) {rest : List Char} (ends : Ends rest) :
    readValue bounds fuel space (form ++ rest) = some (value, rest) := by
  -- By recursion on the grammar. Each step takes a character, and so a unit of fuel.
  obtain ⟨fuel, rfl⟩ := strict.opens.fuel enough
  match strict with
  | .null => exact readValue_null bounds fuel space rest
  | .bool b => exact readValue_bool bounds fuel space b rest
  | .integer negative whole short =>
    have inside := Nat.le_trans short (roomy negative)
    rw [readValue_integer bounds fuel space negative whole, readNumber_whole negative whole inside ends]
  | .text inside =>
    simp only [List.cons_append, List.length_cons, List.length_append] at enough
    exact readValue_text inside (by omega) rest
  | .noItems => simp [readValue, skipSpaces_cons, isSpace]
  | .list inside =>
    have read := inside.read roomy (Nat.le_of_succ_le_succ enough) (Nat.le_sub_of_add_le deep) rest
    exact readValue_list inside.opens (Nat.ne_zero_of_lt deep) read
  | .noEntries => simp [readValue, skipSpaces_cons, isSpace]
  | .dict inside distinct =>
    have read := inside.read roomy (Nat.le_of_succ_le_succ enough) (Nat.le_sub_of_add_le deep) [] rest
    rw [← entered_distinct distinct]
    exact readValue_dict inside.head (Nat.ne_zero_of_lt deep) read

theorem StrictItems.read {depth : Nat} {items : List Value} {form : List Char}
    (roomy : ∀ negative, limit ≤ bounds.digits negative) (strict : StrictItems limit depth items form)
    {fuel space : Nat} (enough : form.length ≤ fuel) (deep : depth ≤ space) (rest : List Char) :
    readItems bounds fuel space (form ++ rest) = some (items, rest) := by
  obtain ⟨fuel, rfl⟩ := strict.opens.fuel enough
  match strict with
  | .last only =>
    rw [List.length_append] at enough
    exact readItems_last (only.read roomy (Nat.le_of_succ_le_succ enough) deep (ends_cons (.inr (.inl rfl)) rest))
  | .next first others =>
    simp only [List.length_append, List.length_cons] at enough
    exact readItems_next (first.read roomy (by omega) deep (ends_cons (.inl rfl) _))
      (others.read roomy (by omega) deep rest)

theorem StrictEntries.read {depth : Nat} {entries : List (String × Value)} {form : List Char}
    (roomy : ∀ negative, limit ≤ bounds.digits negative) (strict : StrictEntries limit depth entries form)
    {fuel space : Nat} (enough : form.length ≤ fuel) (deep : depth ≤ space) (before : Entries) (rest : List Char) :
    readEntries bounds fuel space before (form ++ rest) = some (entered entries before, rest) := by
  obtain ⟨fuel, rfl⟩ := strict.opens.fuel enough
  match strict with
  | .last name only =>
    simp only [List.length_append, List.length_cons] at enough
    exact readEntries_last name (by omega) (only.read roomy (by omega) deep (ends_cons (.inr (.inr rfl)) rest))
  | .next name first others =>
    simp only [List.length_append, List.length_cons] at enough
    exact readEntries_next name (by omega) (first.read roomy (by omega) deep (ends_cons (.inl rfl) _))
      (others.read roomy (by omega) deep _ rest)

end

/-- A strict text is read as the value that it is a text for. -/
theorem Strict.read? {depth : Nat} {value : Value} {text : String}
    (roomy : ∀ negative, limit ≤ bounds.digits negative) (strict : Strict limit depth value text.toList)
    (deep : depth ≤ bounds.depth) :
    Json.read? bounds text = some value := by
  have read := strict.read roomy (show _ ≤ 2 * text.toList.length + 1 by omega) deep ends_nil
  rw [List.append_nil] at read
  simp only [Json.read?, read]
  rfl

end

end FleetLink.Json
