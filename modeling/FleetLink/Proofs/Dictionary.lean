import Mathlib.Data.List.Induction
import Mathlib.Data.List.Nodup
import FleetLink.Value.Dict

/-! Lookup by text in dictionaries. A dictionary is known by what is found under each
text, and a later entry under a text hides the earlier ones. -/

namespace FleetLink.Dict

theorem sameKey_spelled {key : Value} {name : String} (spelled : key.text? = some name) (old : Value) :
    old.sameKey key = (old.text? == some name) := by
  unfold Value.sameKey
  rw [spelled]
  cases old.text? <;> rfl

theorem sameKey_text (key : Value) (name : String) :
    key.sameKey (.text name) = (key.text? == some name) :=
  sameKey_spelled rfl key

@[simp] theorem getText?_nil (name : String) : getText? name ([] : Dict α) = none := rfl

theorem getText?_cons (name : String) (key : Value) (value : α) (rest : Dict α) :
    getText? name ((key, value) :: rest) = if key.text? = some name then some value else rest.getText? name := by
  simp only [getText?, get?, sameKey_text, beq_iff_eq]

theorem put_text_cons (name : String) (value : α) (key : Value) (held : α) (rest : Dict α) :
    put (.text name) value ((key, held) :: rest) =
      if key.text? = some name then (key, value) :: rest else (key, held) :: rest.put (.text name) value := by
  simp only [put, sameKey_text, beq_iff_eq]

theorem text?_eq_of_sameKey {key other : Value} (same : key.sameKey other = true) : key.text? = other.text? := by
  unfold Value.sameKey at same
  cases first : key.text? with
  | none =>
    cases second : other.text? with
    | none => rfl
    | some text => simp [first, second] at same
  | some text =>
    cases second : other.text? with
    | none => simp [first, second] at same
    | some found => simpa [first, second] using same

theorem getText?_put_key (key : Value) (other : String) (value : α) (dict : Dict α) :
    getText? other (dict.put key value) = if key.text? = some other then some value else dict.getText? other := by
  induction dict with
  | nil => simp only [put, getText?_cons, getText?_nil]
  | cons entry rest ih =>
    obtain ⟨old, held⟩ := entry
    simp only [put]
    split
    next hit =>
      simp only [getText?_cons, text?_eq_of_sameKey hit]
      split <;> rfl
    next miss =>
      simp only [getText?_cons, ih]
      by_cases found : old.text? = some other
      · have apart : key.text? ≠ some other := by
          intro same
          exact miss (by simp [Value.sameKey, found, same])
        simp only [found, if_true, if_neg apart]
      · simp only [if_neg found]

theorem getText?_put (name other : String) (value : α) (dict : Dict α) :
    getText? other (dict.put (.text name) value) = if name = other then some value else dict.getText? other := by
  simp only [getText?_put_key, Value.text?, Option.some.injEq]

theorem get?_eq_getText? {key : Value} {name : String} (spelled : key.text? = some name) (dict : Dict α) :
    get? key dict = dict.getText? name := by
  induction dict with
  | nil => rfl
  | cons entry rest ih =>
    obtain ⟨old, held⟩ := entry
    rw [getText?_cons, get?, sameKey_spelled spelled, ih]
    simp only [beq_iff_eq]

theorem get?_put_of_ne {key : Value} {name : String} (apart : key.text? ≠ some name) (value : α) (dict : Dict α) :
    get? key (dict.put (.text name) value) = get? key dict := by
  have foreign (old : Value) (spelled : old.text? = some name) : old.sameKey key = false := by
    refine Bool.eq_false_iff.mpr fun same => apart ?_
    rw [← text?_eq_of_sameKey same, spelled]
  induction dict with
  | nil => simp only [put, get?, foreign (.text name) rfl, Bool.false_eq_true, if_false]
  | cons entry rest ih =>
    obtain ⟨old, held⟩ := entry
    simp only [put, sameKey_text, beq_iff_eq]
    split
    next hit => simp only [get?, foreign old hit, Bool.false_eq_true, if_false]
    next miss => simp only [get?, ih]

theorem put_put (name : String) (first second : α) (dict : Dict α) :
    (dict.put (.text name) first).put (.text name) second = dict.put (.text name) second := by
  induction dict with
  | nil => simp [put, sameKey_text, Value.text?]
  | cons entry rest ih =>
    obtain ⟨old, held⟩ := entry
    simp only [put, sameKey_text, beq_iff_eq]
    split
    next hit => simp only [put, sameKey_text, hit, beq_self_eq_true, if_true]
    next miss => simp only [put, sameKey_text, beq_iff_eq, if_neg miss, ih]

theorem put_of_getText? {name : String} {value : α} {dict : Dict α} (found : dict.getText? name = some value) :
    dict.put (.text name) value = dict := by
  induction dict with
  | nil => cases found
  | cons entry rest ih =>
    obtain ⟨key, held⟩ := entry
    rw [getText?_cons] at found
    rw [put_text_cons]
    split at found
    next hit => cases found; rw [if_pos hit]
    next miss => rw [if_neg miss, ih found]

theorem put_of_getText?_none {name : String} {dict : Dict α} (absent : dict.getText? name = none) (value : α) :
    dict.put (.text name) value = dict ++ [(.text name, value)] := by
  induction dict with
  | nil => rfl
  | cons entry rest ih =>
    obtain ⟨key, held⟩ := entry
    rw [getText?_cons] at absent
    rw [put_text_cons]
    split at absent
    next hit => cases absent
    next miss => rw [if_neg miss, ih absent, List.cons_append]

theorem keys_put_of_isSome {name : String} {dict : Dict α} (listed : (dict.getText? name).isSome) (value : α) :
    (dict.put (.text name) value).map Prod.fst = dict.map Prod.fst := by
  induction dict with
  | nil => cases listed
  | cons entry rest ih =>
    obtain ⟨key, held⟩ := entry
    rw [getText?_cons] at listed
    rw [put_text_cons]
    split
    · rfl
    next other =>
      rw [if_neg other] at listed
      rw [List.map_cons, List.map_cons, ih listed]

theorem keys_put_ne {name : String} {dict : Dict α} (absent : dict.getText? name = none) (value : α) :
    (dict.put (.text name) value).map Prod.fst ≠ dict.map Prod.fst := by
  rw [put_of_getText?_none absent]
  intro same
  have longer := congrArg List.length same
  simp at longer

theorem getText?_append (name : String) (first second : Dict α) :
    getText? name (first ++ second) = (first.getText? name).or (second.getText? name) := by
  induction first with
  | nil => rfl
  | cons entry rest ih =>
    obtain ⟨key, value⟩ := entry
    simp only [List.cons_append, getText?_cons, ih]
    split <;> rfl

/-- Of entries put one after another, the last one under a text is found. -/
theorem getText?_foldl_put (name : String) (entries done : Dict α) :
    getText? name (entries.foldl (fun done (key, value) => put key value done) done) =
      (getText? name entries.reverse).or (done.getText? name) := by
  induction entries generalizing done with
  | nil => rfl
  | cons entry rest ih =>
    obtain ⟨key, value⟩ := entry
    simp only [List.foldl_cons, ih, getText?_put_key, List.reverse_cons, getText?_append, getText?_cons, getText?_nil,
      Option.or_assoc]
    split <;> rfl

theorem getText?_texts (f : α → β) (entries : List (String × α)) (name : String) :
    getText? name (entries.map fun entry => (.text entry.1, f entry.2)) = (entries.lookup name).map f := by
  induction entries with
  | nil => rfl
  | cons entry rest ih =>
    obtain ⟨key, value⟩ := entry
    simp only [List.map_cons, getText?_cons, ih, Value.text?, Option.some.injEq, List.lookup_cons]
    by_cases same : key = name
    · simp [same]
    · simp [same, beq_eq_false_iff_ne.mpr (Ne.symm same)]

theorem getText?_ofList (entries : List (String × α)) (name : String) :
    getText? name (ofList (entries.map fun entry => (.text entry.1, entry.2))) = entries.reverse.lookup name := by
  rw [ofList, getText?_foldl_put, getText?_nil, Option.or_none, ← List.map_reverse]
  exact (getText?_texts id entries.reverse name).trans (congrFun Option.map_id _)

theorem getText?_ofList_eq_none {entries : List (String × α)} {name : String}
    (absent : name ∉ entries.map Prod.fst) :
    getText? name (ofList (entries.map fun entry => (.text entry.1, entry.2))) = none := by
  rw [getText?_ofList]
  apply List.lookup_eq_none_iff.mpr
  intro entry inside
  apply bne_iff_ne.mpr
  intro same
  exact absent (List.mem_map.mpr ⟨entry, List.mem_reverse.mp inside, same.symm⟩)

theorem getText?_spelled_of_mem {entries : List (String × α)} (distinct : (entries.map Prod.fst).Nodup)
    {name : String} {value : α} (member : (name, value) ∈ entries) :
    getText? name (entries.map fun entry => (.text entry.1, entry.2)) = some value := by
  induction entries with
  | nil => cases member
  | cons entry rest ih =>
    obtain ⟨absent, distinct⟩ := List.nodup_cons.mp distinct
    rw [List.map_cons, getText?_cons]
    rcases List.mem_cons.mp member with rfl | later
    · exact if_pos rfl
    · have apart : (Value.text entry.1).text? ≠ some name := by
        intro same
        apply absent
        exact List.mem_map.mpr ⟨(name, value), later, (Option.some.inj same).symm⟩
      rw [if_neg apart, ih distinct later]

theorem getText?_spelled_eq_none {entries : List (String × α)} {name : String} (absent : name ∉ entries.map Prod.fst) :
    getText? name (entries.map fun entry => (.text entry.1, entry.2)) = none := by
  refine (getText?_texts id entries name).trans ?_
  rw [Option.map_eq_none_iff, List.lookup_eq_none_iff]
  intro entry inside
  apply bne_iff_ne.mpr
  rintro rfl
  exact absent (List.mem_map_of_mem inside)

/-- Entries under distinct texts stay as they are when they are put one after another. -/
theorem ofList_of_nodup {entries : List (String × α)} (distinct : (entries.map Prod.fst).Nodup) :
    ofList (entries.map fun entry => (.text entry.1, entry.2)) = entries.map fun entry => (.text entry.1, entry.2) := by
  induction entries using List.reverseRecOn with
  | nil => rfl
  | append_singleton entries entry ih =>
    rw [List.map_append, List.nodup_append] at distinct
    obtain ⟨before, _, apart⟩ := distinct
    have absent : entry.1 ∉ entries.map Prod.fst := fun inside => apart entry.1 inside entry.1 (by simp) rfl
    rw [List.map_append, ofList, List.foldl_append]
    change put (.text entry.1) entry.2 (ofList (entries.map fun entry => (.text entry.1, entry.2))) = _
    rw [ih before, put_of_getText?_none (getText?_spelled_eq_none absent)]
    rfl

/-- Under distinct texts every entry is found. -/
theorem getText?_ofList_of_mem {entries : List (String × α)} (distinct : (entries.map Prod.fst).Nodup)
    {name : String} {value : α} (member : (name, value) ∈ entries) :
    getText? name (ofList (entries.map fun entry => (.text entry.1, entry.2))) = some value := by
  rw [ofList_of_nodup distinct, getText?_spelled_of_mem distinct member]

theorem getText?_map (change : α → β) (dict : Dict α) (name : String) :
    getText? name (dict.map fun entry => (entry.1, change entry.2)) = (dict.getText? name).map change := by
  induction dict with
  | nil => rfl
  | cons entry rest ih =>
    rw [List.map_cons, getText?_cons, getText?_cons, ih]
    split <;> rfl

theorem mem_of_getText? {name : String} {value : α} {dict : Dict α} (found : dict.getText? name = some value) :
    ∃ key : Value, key.text? = some name ∧ (key, value) ∈ dict := by
  induction dict with
  | nil => cases found
  | cons entry rest ih =>
    obtain ⟨key, held⟩ := entry
    rw [getText?_cons] at found
    split at found
    next named =>
      cases found
      exact ⟨key, named, List.mem_cons_self⟩
    next =>
      obtain ⟨other, named, member⟩ := ih found
      exact ⟨other, named, List.mem_cons_of_mem _ member⟩

theorem mem_put_key {key : Value} {value : α} {dict : Dict α} {entry : Value × α}
    (member : entry ∈ dict.put key value) :
    ((entry.1 = key ∨ entry.1.sameKey key = true) ∧ entry.2 = value) ∨ entry ∈ dict := by
  induction dict with
  | nil =>
    rw [List.mem_singleton.mp member]
    exact .inl ⟨.inl rfl, rfl⟩
  | cons first rest ih =>
    rw [put] at member
    split at member
    next same =>
      rcases List.mem_cons.mp member with rfl | later
      · exact .inl ⟨.inr same, rfl⟩
      · exact .inr (List.mem_cons_of_mem _ later)
    next =>
      rcases List.mem_cons.mp member with rfl | later
      · exact .inr List.mem_cons_self
      · exact (ih later).imp_right (List.mem_cons_of_mem _)

theorem mem_put {key : String} {value : α} {dict : Dict α} {entry : Value × α}
    (member : entry ∈ dict.put (.text key) value) : (entry.1.text? = some key ∧ entry.2 = value) ∨ entry ∈ dict := by
  rcases mem_put_key member with ⟨named, held⟩ | listed
  · refine .inl ⟨?_, held⟩
    rcases named with here | same
    · rw [here]
      rfl
    · exact text?_eq_of_sameKey same
  · exact .inr listed

end FleetLink.Dict
