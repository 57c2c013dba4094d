import FleetLink.Proofs.ConditionReading
import FleetLink.Proofs.DeviceLookups

/-! What a filter adds to the restriction that a statement already has. Terms that are
joined by `and` are required together with the restriction. Of terms joined by `or` only
the first is, and each other one is an alternative to the restriction itself. -/

namespace FleetLink.Query
open Condition

section
variable {truth : Nat → Prop}

theorem holdsFrom_append (place : Nat) (before after : Reading) :
    HoldsFrom truth place (before ++ after) ↔
      HoldsFrom truth place before ∨ HoldsFrom truth (place + before.flatten.length) after := by
  induction before generalizing place with
  | nil => simp [HoldsFrom]
  | cons alternative before ih =>
    rw [List.cons_append, HoldsFrom, HoldsFrom, ih, List.flatten_cons, List.length_append, Nat.add_assoc, or_assoc]

/-- What has a factor in each alternative cannot hold where nothing is true. -/
theorem not_holdsFrom {place : Nat} {reading : Reading} (filled : ∀ alternative ∈ reading, alternative ≠ [])
    (denied : ∀ i < reading.flatten.length, ¬truth (place + i)) : ¬HoldsFrom truth place reading := by
  induction reading generalizing place with
  | nil => exact id
  | cons alternative others ih =>
    obtain ⟨first, rest⟩ := List.forall_mem_cons.mp filled
    rw [List.flatten_cons, List.length_append] at denied
    have size := List.length_pos_of_ne_nil first
    rintro (all | later)
    · exact denied 0 (by omega) (all 0 size)
    · refine ih rest ?_ later
      intro i inside
      rw [Nat.add_assoc]
      exact denied (alternative.length + i) (by omega)

theorem forall_lt_add (place m n : Nat) : (∀ i < m + n, truth (place + i)) ↔
    (∀ i < m, truth (place + i)) ∧ ∀ i < n, truth (place + m + i) := by
  constructor
  · intro all
    refine ⟨fun i inside => all i (by omega), ?_⟩
    intro i inside
    rw [Nat.add_assoc]
    exact all (m + i) (by omega)
  · rintro ⟨first, rest⟩ i inside
    rcases Nat.lt_or_ge i m with before | beyond
    · exact first i before
    · obtain ⟨later, rfl⟩ := Nat.exists_eq_add_of_le beyond
      rw [← Nat.add_assoc]
      exact rest later (by omega)

theorem holds_concat (before : Reading) (last : List Factor) :
    Holds truth (before ++ [last]) ↔
      HoldsFrom truth 0 before ∨ ∀ i < last.length, truth (before.flatten.length + i) := by
  simp only [Holds, holdsFrom_append, HoldsFrom, Nat.zero_add, or_false]

theorem holds_conjoined (before : Reading) (last first : List Factor) (others : Reading) :
    Holds truth (conjoined (before ++ [last]) (first :: others)) ↔
      HoldsFrom truth 0 before ∨
        ((∀ i < last.length, truth (before.flatten.length + i)) ∧
          ∀ i < first.length, truth ((before ++ [last]).flatten.length + i)) ∨
        HoldsFrom truth ((before ++ [last]).flatten.length + first.length) others := by
  have size : (before ++ [last]).flatten.length = before.flatten.length + last.length := by
    rw [List.flatten_append, List.length_append, List.flatten_singleton]
  rw [conjoined_concat, Holds, holdsFrom_append, HoldsFrom, List.length_append, forall_lt_add, size, Nat.zero_add,
    Nat.add_assoc before.flatten.length last.length]

end

/-- The operators that join the terms of a filter. -/
inductive Joint where
  | all
  | any

namespace Joint

def operator : Joint → String
  | .all => andOperator
  | .any => orOperator

def connective : Joint → Part
  | .all => .conjunction
  | .any => .disjunction

/-- What the joined terms are to say: that all of them are true, or that some term is. -/
def Holds (truth : Nat → Prop) (count : Nat) : Joint → Prop
  | .all => ∀ i < count, truth i
  | .any => ∃ i < count, truth i

/-- The terms read by themselves. -/
def reading (terms : List Factor) : Joint → Reading
  | .all => [terms]
  | .any => terms.map ([·])

theorem operator_ne_empty (joint : Joint) : joint.operator ≠ "" := by
  cases joint <;> decide

theorem flatten_reading (joint : Joint) (terms : List Factor) : (joint.reading terms).flatten = terms := by
  cases joint with
  | all => exact List.flatten_singleton
  | any =>
    induction terms with
    | nil => rfl
    | cons first terms ih => exact congrArg (first :: ·) ih

/-- Either all terms are required, or there is no other term to choose. -/
def Requires (joint : Joint) (count : Nat) : Prop := joint = .all ∨ count = 1

theorem Requires.reading {joint : Joint} {terms : List Factor} (required : joint.Requires terms.length) :
    joint.reading terms = [terms] := by
  rcases required with rfl | single
  · rfl
  · obtain ⟨first, rfl⟩ := List.length_eq_one_iff.mp single
    cases joint <;> rfl

theorem exists_reading (joint : Joint) {terms : List Factor} (given : terms ≠ []) :
    ∃ first others, joint.reading terms = first :: others := by
  obtain ⟨term, more, rfl⟩ := List.exists_cons_of_ne_nil given
  cases joint <;> exact ⟨_, _, rfl⟩

theorem Requires.holds_iff {joint : Joint} {count : Nat} (required : joint.Requires count) (truth : Nat → Prop) :
    joint.Holds truth count ↔ ∀ i < count, truth i := by
  rcases required with rfl | rfl
  · exact Iff.rfl
  · cases joint <;> simp [Holds]

/-- Otherwise the terms are alternatives, and there is one behind the first. -/
theorem exists_next {joint : Joint} {terms : List Factor} (given : terms ≠ []) (free : ¬joint.Requires terms.length) :
    joint = .any ∧ ∃ first next more, terms = first :: next :: more := by
  cases joint with
  | all => exact absurd (.inl rfl) free
  | any =>
    match terms with
    | [] => exact absurd rfl given
    | [_] => exact absurd (.inr rfl) free
    | first :: next :: more => exact ⟨rfl, first, next, more, rfl⟩

end Joint

section
variable (before : Reading) (last : List Factor) (joint : Joint) {terms : List Factor}

theorem holds_required {joint : Joint} (required : joint.Requires terms.length) (truth : Nat → Prop) :
    Holds truth (conjoined (before ++ [last]) (joint.reading terms)) ↔
      HoldsFrom truth 0 before ∨
        ((∀ i < last.length, truth (before.flatten.length + i)) ∧
          joint.Holds (fun i => truth ((before ++ [last]).flatten.length + i)) terms.length) := by
  rw [required.reading, holds_conjoined, required.holds_iff, HoldsFrom, or_false]

/-- Where only terms are true, all terms but the first make the condition true without the
restriction. -/
theorem widened (filled : ∀ alternative ∈ before ++ [last], alternative ≠ []) (given : terms ≠ [])
    (free : ¬joint.Requires terms.length) :
    Holds ((before ++ [last]).flatten.length ≤ ·) (conjoined (before ++ [last]) (joint.reading terms)) ∧
      ¬Holds ((before ++ [last]).flatten.length ≤ ·) (before ++ [last]) := by
  obtain ⟨rfl, first, next, more, rfl⟩ := joint.exists_next given free
  refine ⟨?_, not_holdsFrom filled fun i inside => by omega⟩
  apply (holds_conjoined before last [first] _).mpr
  right; right; left
  intro i _
  omega

/-- Where the restriction is true and no term is, an alternative before the last makes the
condition true. -/
theorem unbound (several : before ≠ []) (given : terms ≠ []) :
    Holds (· < (before ++ [last]).flatten.length) (conjoined (before ++ [last]) (joint.reading terms)) ∧
      ¬joint.Holds (fun i => (before ++ [last]).flatten.length + i < (before ++ [last]).flatten.length) terms.length := by
  constructor
  · obtain ⟨first, others, same⟩ := joint.exists_reading given
    obtain ⟨alternative, more, rfl⟩ := List.exists_cons_of_ne_nil several
    rw [same, holds_conjoined]
    left; left
    intro i inside
    simp only [List.cons_append, List.flatten_cons, List.length_append]
    omega
  · intro said
    have some := List.length_pos_of_ne_nil given
    cases joint with
    | all => exact absurd (said 0 some) (by omega)
    | any =>
      obtain ⟨i, _, below⟩ := said
      omega

theorem exists_concat {own : Reading} (given : own ≠ []) : ∃ before last, own = before ++ [last] :=
  ⟨own.dropLast, own.getLast given, (List.dropLast_append_getLast given).symm⟩

variable {own : Reading}

theorem flatten_extended (some : own ≠ []) (given : terms ≠ []) :
    (conjoined own (joint.reading terms)).flatten = own.flatten ++ terms := by
  obtain ⟨before, last, rfl⟩ := exists_concat some
  obtain ⟨first, others, same⟩ := joint.exists_reading given
  have split := joint.flatten_reading terms
  rw [same] at split ⊢
  rw [conjoined_concat, ← split]
  simp

/-- Whatever the restriction is, terms that follow it widen it only as alternatives. -/
theorem narrows_iff (some : own ≠ []) (filled : ∀ alternative ∈ own, alternative ≠ []) (given : terms ≠ []) :
    (∀ truth, Holds truth (conjoined own (joint.reading terms)) → Holds truth own) ↔ joint.Requires terms.length := by
  obtain ⟨before, last, rfl⟩ := exists_concat some
  constructor
  · intro narrows
    by_contra free
    obtain ⟨whole, fails⟩ := widened before last joint filled given free
    exact fails (narrows _ whole)
  · intro required truth whole
    rw [holds_required before last required] at whole
    exact (holds_concat before last).mpr (whole.imp_right And.left)

/-- The terms bind the whole restriction when it has no alternative of its own beside the
last, and only as far as they are required. -/
theorem restricts_iff (some : own ≠ []) (filled : ∀ alternative ∈ own, alternative ≠ []) (given : terms ≠ []) :
    (∀ truth, Holds truth (conjoined own (joint.reading terms)) ↔
        Holds truth own ∧ joint.Holds (fun i => truth (own.flatten.length + i)) terms.length) ↔
      own.length = 1 ∧ joint.Requires terms.length := by
  constructor
  · intro exact
    constructor
    · obtain ⟨before, last, rfl⟩ := exists_concat some
      by_contra several
      have others : before ≠ [] := by
        rintro rfl
        exact several rfl
      obtain ⟨whole, silent⟩ := unbound before last joint others given
      exact silent ((exact _).mp whole).2
    · apply (narrows_iff joint some filled given).mp
      intro truth whole
      exact ((exact truth).mp whole).1
  · rintro ⟨single, required⟩ truth
    obtain ⟨last, rfl⟩ := List.length_eq_one_iff.mp single
    have whole := holds_required [] last required truth
    have alone : Holds truth ([] ++ [last]) ↔ _ := holds_concat [] last
    simp only [HoldsFrom, false_or] at whole alone
    rw [List.nil_append] at whole alone
    rw [whole, alone]

end

/-- A term as it is read: a column is compared with what a placeholder stands for. -/
def termFactor (mark : Factor) (a : Attribute) : Factor := .word a.reference.toList :: .mark '=' :: mark

theorem parts?_term {placeholder : String} {mark : Factor} (read : parts? placeholder.toList = some (mark.map .piece))
    (a : Attribute) : parts? (term placeholder a).toList = some ((termFactor mark a).map .piece) := by
  have column : parts? a.reference.toList = some [.piece (.word a.reference.toList)] := by
    cases a <;> rfl
  have equals : parts? ['='] = some [.piece (.mark '=')] := rfl
  have spelled : (term placeholder a).toList = a.reference.toList ++ ' ' :: (['='] ++ ' ' :: placeholder.toList) := by
    rw [term, String.toList_append, String.toList_append, List.append_assoc]
    rfl
  rw [spelled, parts?_blank column, parts?_blank equals, read]
  rfl

/-- An operator after a text that is whole is the connective. -/
theorem parts?_operator {chars : List Char} {parts : List Part} (read : parts? chars = some parts) (joint : Joint)
    (rest : List Char) :
    parts? (chars ++ (joint.operator.toList ++ rest)) = (parts? rest).map (parts ++ joint.connective :: ·) := by
  obtain ⟨letters, spelled, word⟩ : ∃ letters, joint.operator.toList = ' ' :: letters ++ [' '] ∧
      parts? letters = some [joint.connective] := by
    cases joint with
    | all => exact ⟨['a', 'n', 'd'], rfl, rfl⟩
    | any => exact ⟨['o', 'r'], rfl, rfl⟩
  have apart : ' ' :: letters ++ [' '] ++ rest = ' ' :: (letters ++ ' ' :: rest) := by simp
  rw [spelled, apart, parts?_blank read, parts?_blank word, Option.map_map]
  rfl

theorem parts?_terms {placeholder : String} {mark : Factor} (read : parts? placeholder.toList = some (mark.map .piece))
    (joint : Joint) {found : List Attribute} (given : found ≠ []) :
    ∃ parts, parts? (joint.operator.intercalate (found.map (term placeholder))).toList = some parts ∧
      grouped parts = joint.reading (found.map (termFactor mark)) := by
  induction found with
  | nil => exact absurd rfl given
  | cons a found ih =>
    have own := parts?_term read a
    cases found with
    | nil =>
      refine ⟨(termFactor mark a).map .piece, ?_, ?_⟩
      · rw [← own]
        simp
      · rw [grouped_pieces]
        cases joint <;> rfl
    | cons next found =>
      obtain ⟨parts, later, same⟩ := ih (List.cons_ne_nil _ _)
      refine ⟨(termFactor mark a).map .piece ++ joint.connective :: parts, ?_, ?_⟩
      · have spelled : (joint.operator.intercalate ((a :: next :: found).map (term placeholder))).toList =
            (term placeholder a).toList ++ (joint.operator.toList ++
              (joint.operator.intercalate ((next :: found).map (term placeholder))).toList) := by
          simp [String.toList_intercalate]
        rw [spelled, parts?_operator own, later]
        rfl
      · cases joint with
        | all =>
          rw [Joint.connective, grouped_conjunction, grouped_pieces, same]
          rfl
        | any =>
          rw [Joint.connective, grouped_disjunction, grouped_pieces, same]
          rfl

/-- A restriction and the terms after its `and` are read as what they are by themselves,
conjoined. -/
theorem read?_extended {restriction placeholder : String} {own : Reading} {mark : Factor}
    (read : read? restriction = some own) (marks : read? placeholder = some [[mark]]) (joint : Joint)
    {found : List Attribute} (given : found ≠ []) :
    read? (restriction ++ (andOperator ++ joint.operator.intercalate (found.map (term placeholder)))) =
      some (conjoined own (joint.reading (found.map (termFactor mark)))) := by
  obtain ⟨parts, whole, rfl⟩ := Option.map_eq_some_iff.mp read
  obtain ⟨pieces, plain, single⟩ := Option.map_eq_some_iff.mp marks
  rw [grouped_eq_single single] at plain
  obtain ⟨later, terms, same⟩ := parts?_terms plain joint given
  rw [read?, String.toList_append, String.toList_append, ← Joint.operator.eq_1, parts?_operator whole .all, terms]
  simp only [Option.map_some, Joint.connective, grouped_conjunction, same]

/-- A statement ends in a restriction and an `and`, and a filter appends its terms. What is
read then are the factors of the restriction and one factor for each condition. The filter
never widens the restriction exactly when its terms are joined by `and` or there is only
one. It says exactly that the restriction holds and so do the joined terms when, moreover,
the restriction has no `or` of its own outside of brackets. -/
theorem filtered_restricts_iff {restriction placeholder : String} {own : Reading} {mark : Factor}
    (read : read? restriction = some own) (marks : read? placeholder = some [[mark]]) (joint : Joint)
    {conditions : Entries} (sound : Sound conditions) (opening : String) :
    ∃ condition whole found, AllName conditions found ∧
      filtered (opening ++ restriction ++ andOperator) joint.operator placeholder conditions =
        .ok ⟨opening ++ condition, conditions.map Prod.snd⟩ ∧
      read? condition = some whole ∧ whole.flatten = own.flatten ++ found.map (termFactor mark) ∧
      ((∀ truth, Holds truth whole → Holds truth own) ↔ joint = .all ∨ conditions.length = 1) ∧
      ((∀ truth, Holds truth whole ↔
          Holds truth own ∧ joint.Holds (fun i => truth (own.flatten.length + i)) conditions.length) ↔
        own.length = 1 ∧ (joint = .all ∨ conditions.length = 1)) := by
  obtain ⟨found, named⟩ := (exists_allName_iff conditions).mpr sound.2
  have count : conditions.length = found.length := named.length_eq
  have given : found ≠ [] := by
    rintro rfl
    exact sound.1 (List.length_eq_zero_iff.mp count)
  have terms : found.map (termFactor mark) ≠ [] := List.map_eq_nil_iff.not.mpr given
  obtain ⟨parts, _, rfl⟩ := Option.map_eq_some_iff.mp read
  obtain ⟨first, factors, others, same⟩ := exists_grouped parts
  have some : grouped parts ≠ [] := same ▸ List.cons_ne_nil _ _
  have narrows := narrows_iff joint some ne_nil_of_mem_grouped terms
  have restricts := restricts_iff joint some ne_nil_of_mem_grouped terms
  rw [List.length_map, ← count] at narrows restricts
  refine ⟨_, _, found, named, ?_, read?_extended read marks joint given, ?_, narrows, restricts⟩
  · have opens : opening ++ restriction ++ andOperator ≠ "" := by
      intro empty
      exact absurd (congrArg String.toList empty) (by simp [String.toList_append, andOperator])
    refine (filtered_eq_ok_iff _).mpr ⟨⟨opens, joint.operator_ne_empty, sound.1⟩, found, named, ?_⟩
    rw [statementOf, String.append_assoc, String.append_assoc]
    rfl
  · exact flatten_extended joint some terms

/-- A device or a user, whichever is found. -/
def eitherConditions : Entries := [(.text "IMEI", .text "356"), (.text "USER_ID", .text "user-1")]

theorem eitherConditions_sound : Sound eitherConditions := by
  refine ⟨List.cons_ne_nil _ _, List.forall_mem_cons.mpr ⟨⟨.imei, .name .imei⟩, ?_⟩⟩
  exact List.forall_mem_singleton.mpr ⟨.userId, .name .userId⟩

/-- The restriction of the lookup that counts, as it is read. -/
def liveFactor : Factor :=
  [.word "b.association_status".toList, .word "in".toList, .mark '(', .quoted '\'' "ASSOCIATED".toList, .mark ',',
    .quoted '\'' "ASSOCIATION_INITIATED".toList, .mark ',', .quoted '\'' "SUSPENDED".toList, .mark ')']

/-- The lookup that counts finds a live association of both the device and the user. -/
theorem filtered_restricts_of_countOpening :
    ∃ opening restriction, opening ++ restriction ++ andOperator = countOpening ∧
      read? restriction = some [[liveFactor]] ∧ read? "%s" = some [[[.mark '%', .word ['s']]]] ∧ Sound eitherConditions ∧
      ∃ condition whole, filtered countOpening andOperator "%s" eitherConditions =
          .ok ⟨opening ++ condition, [.text "356", .text "user-1"]⟩ ∧
        read? condition = some whole ∧
        ∀ truth, Holds truth whole ↔ Holds truth [[liveFactor]] ∧ Joint.all.Holds (fun i => truth (1 + i)) 2 := by
  have opens : "select count(*) > 0 FROM " ++ joinText ++ " where " ++
      ("b.association_status in (" ++ statusList AssociationStatus.active ++ ")") ++ andOperator = countOpening := by
    decide +kernel
  have read : read? ("b.association_status in (" ++ statusList AssociationStatus.active ++ ")") = some [[liveFactor]] := by
    decide +kernel
  have marks : read? "%s" = some [[[.mark '%', .word ['s']]]] := by decide +kernel
  refine ⟨_, _, opens, read, marks, eitherConditions_sound, ?_⟩
  obtain ⟨condition, whole, _, _, built, found, _, _, restricts⟩ :=
    filtered_restricts_iff read marks .all eitherConditions_sound ("select count(*) > 0 FROM " ++ joinText ++ " where ")
  rw [opens] at built
  exact ⟨condition, whole, built, found, restricts.mpr ⟨rfl, .inl rfl⟩⟩

def associatedFactor : Factor :=
  [.word "b.association_status".toList, .word "in".toList, .mark '(', .quoted '\'' "ASSOCIATED".toList, .mark ')']

/-- The restriction to associated devices is given up where the second term is true. -/
theorem filtered_widens_of_eitherConditions :
    (filtered "select 1 from t where b.association_status in ('ASSOCIATED') and " orOperator "?" eitherConditions).map
        Statement.sql =
      .ok "select 1 from t where b.association_status in ('ASSOCIATED') and a.imei = ? or b.user_id = ?" ∧
    read? "b.association_status in ('ASSOCIATED')" = some [[associatedFactor]] ∧
    ∃ whole, read? "b.association_status in ('ASSOCIATED') and a.imei = ? or b.user_id = ?" = some whole ∧
      ∃ truth, Holds truth whole ∧
        ¬(Holds truth [[associatedFactor]] ∧ Joint.any.Holds (fun i => truth (1 + i)) eitherConditions.length) := by
  have read : read? "b.association_status in ('ASSOCIATED')" = some [[associatedFactor]] := by decide +kernel
  have marks : read? "?" = some [[[.mark '?']]] := by decide +kernel
  have spelled : "b.association_status in ('ASSOCIATED')" ++
      (andOperator ++ orOperator.intercalate ([Attribute.imei, .userId].map (term "?"))) =
      "b.association_status in ('ASSOCIATED') and a.imei = ? or b.user_id = ?" := by
    decide +kernel
  have whole := read?_extended read marks .any (List.cons_ne_nil Attribute.imei [.userId])
  rw [Joint.operator, spelled] at whole
  have free : ¬Joint.any.Requires 2 := by
    rintro (all | single)
    · cases all
    · cases single
  have filled : ∀ alternative ∈ [] ++ [[associatedFactor]], alternative ≠ [] :=
    List.forall_mem_singleton.mpr (List.cons_ne_nil _ _)
  obtain ⟨holds, fails⟩ := widened [] [associatedFactor] .any filled
    (List.cons_ne_nil (termFactor [.mark '?'] .imei) [termFactor [.mark '?'] .userId]) free
  exact ⟨rfl, read, _, whole, _, holds, fun said => fails said.1⟩

end FleetLink.Query
