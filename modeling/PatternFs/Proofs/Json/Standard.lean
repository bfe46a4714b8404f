import PatternFs.Json.Standard
import PatternFs.Proofs.Json.Laws

/-! The library that the program is built with keeps the laws: it reads every text by the grammar,
and it reads the forms that it writes, whatever the order and the spelling of their parts. -/
namespace PatternFs.Json.Standard

variable {α : Type} {tag content name : String} {fields : List (Field α)} {field : Field α}
  {members : List (List Nat × Json)} {member first second : List Nat × Json}

theorem byte_read (b : UInt8) : byte.read? (ofNat b.toNat) = some b := by
  have digits : (Nat.toDigits 10 b.toNat).all Char.isDigit = true :=
    List.all_eq_true.2 fun c member =>
      Nat.isDigit_of_mem_toDigits (by decide) (by decide) member
  simp only [byte, ofNat, digits, Nat.ofDigitChars_ten_toDigits, UInt8.ofNat_toNat]
  exact if_pos (decide_eq_true b.toNat_lt)

theorem array_read {n : Nat} (item : Codec α) (values : Vector α n)
    (reads : ∀ a ∈ values.toList, item.read? (item.form a) = some a) :
    (array n item).read? (.array (values.toList.map item.form)) = some values := by
  have all (as : List α) (reads : ∀ a ∈ as, item.read? (item.form a) = some a) :
      (as.map item.form).mapM item.read? = some as := by
    induction as with
    | nil => rfl
    | cons a as ih =>
      rw [List.forall_mem_cons] at reads
      rw [List.map_cons, List.mapM_cons, reads.1, ih reads.2]
      rfl
  have same : values.toList.toArray = values.toArray := Array.toArray_toList
  simp [array, all _ reads, same]

theorem optional_read (part : Codec α) {v : Json} (full : v ≠ .null) :
    (optional part).read? v = (part.read? v).map some := by
  cases v with
  | null => exact absurd rfl full
  | _ => rfl

theorem name?_of_isText {v : Json} (text : IsText name v) : name? v = some name := by
  cases v with
  | string units => exact text
  | _ => cases text

theorem choice_read (title : α → String) {all : List α} {a : α} {v : Json} (known : a ∈ all)
    (only : ∀ b ∈ all, title b = title a → b = a) (text : IsText (title a) v) :
    (choice title all).read? v = some a := by
  have read : (choice title all).read? v = all.find? (title · = title a) := by
    simp only [choice, name?_of_isText text, Option.bind_eq_bind, Option.bind_some]
  rw [read]
  cases found : all.find? (title · = title a) with
  | none => exact absurd (decide_eq_true rfl) (List.find?_eq_none.1 found a known)
  | some b =>
    have same :=
      of_decide_eq_true (List.find?_some (p := fun b => decide (title b = title a)) found)
    rw [only b (List.mem_of_find?_eq_some found) same]

theorem part?_tag {kind : Json → Prop} (names : Names tag kind member) (v? : Option Json) :
    part? tag content (none, v?) member = some (some member.2, v?) := by
  simp [part?, names.1]

theorem part?_content {kind : Json → Prop} (apart : tag ≠ content)
    (names : Names content kind member) (v? : Option Json) :
    part? tag content (v?, none) member = some (v?, some member.2) := by
  simp [part?, names.1, apart.symm]

theorem constant_read (sort : α → String × Option Json) {cases : List (String × Case α)} {a : α}
    (known : cases.lookup name = some (.constant a)) (names : Names tag (IsText name) member) :
    (tagged tag content sort cases).read? (.object [member]) = some a := by
  simp [tagged, part?_tag names, name?_of_isText names.2, known, Case.value?]

theorem holding_read (sort : α → String × Option Json) {cases : List (String × Case α)}
    {read? : Json → Option α} (apart : tag ≠ content)
    (known : cases.lookup name = some (.holding read?)) (names : Names tag (IsText name) first)
    (holds : Names content (fun _ => True) second) :
    (tagged tag content sort cases).read? (.object [first, second]) = read? second.2 ∧
      (tagged tag content sort cases).read? (.object [second, first]) = read? second.2 := by
  simp [tagged, part?_tag names, part?_content apart holds, name?_of_isText names.2, known,
    Case.value?]

theorem member?_field {key : List Nat} {v : Json} {read : α × List String}
    (named : textOfUnits? key = some name) (found : fields.find? (·.name = name) = some field) :
    member? fields read (key, v) =
      if name ∈ read.2 then none
      else (field.read? v).map fun change => (change read.1, name :: read.2) := by
  simp only [member?, named, Option.bind_eq_bind, Option.bind_some, found]
  split
  · rfl
  · cases field.read? v <;> rfl

theorem member?_other {key : List Nat} {v : Json} (named : textOfUnits? key = some name)
    (unknown : fields.find? (·.name = name) = none) (read : α × List String) :
    member? fields read (key, v) = some read := by
  simp only [member?, named, Option.bind_eq_bind, Option.bind_some, unknown]
  rfl

theorem members_read {given : List String} {changes : List (α → α)}
    (gives : Gives fields given members changes) (a : α) (seen : List String)
    (fresh : ∀ name ∈ given, name ∉ seen) :
    members.foldlM (member? fields) (a, seen) =
      some (changes.foldl (fun a change => change a) a, given.reverse ++ seen) := by
  induction gives generalizing a seen with
  | nil => rfl
  | @field field name given key v members change changes named found once read _ ih =>
    rw [List.forall_mem_cons] at fresh
    rw [List.foldlM_cons, member?_field named found, if_neg fresh.1, read, List.reverse_cons,
      List.append_assoc]
    refine ih _ _ fun other member => ?_
    rw [List.mem_cons, not_or]
    exact ⟨fun same => once (same ▸ member), fresh.2 other member⟩
  | other named unknown _ ih =>
    rw [List.foldlM_cons, member?_other named unknown]
    exact ih a seen fresh

theorem seen_of_member? {read read' : α × List String}
    (stepped : member? fields read member = some read') (seen : name ∈ read.2) :
    name ∈ read'.2 := by
  unfold member? at stepped
  obtain ⟨other, -, stepped⟩ := Option.bind_eq_some_iff.1 stepped
  split at stepped
  · cases stepped
    exact seen
  · split at stepped
    · cases stepped
    · obtain ⟨next, -, same⟩ := Option.bind_eq_some_iff.1 stepped
      cases same
      exact List.mem_cons_of_mem _ seen

theorem seen_of_members {read read' : α × List String}
    (stepped : members.foldlM (member? fields) read = some read') (seen : name ∈ read.2) :
    name ∈ read'.2 := by
  induction members generalizing read with
  | nil =>
    cases stepped
    exact seen
  | cons member members ih =>
    rw [List.foldlM_cons] at stepped
    obtain ⟨next, first, stepped⟩ := Option.bind_eq_some_iff.1 stepped
    exact ih stepped (seen_of_member? first seen)

/-- The second time a name comes it is known, whatever is between. -/
theorem record_repeats {default : α} (found : fields.find? (·.name = name) = some field)
    (repeats : Repeats name members) : (record default fields).read? (.object members) = none := by
  obtain ⟨front, ⟨key, v⟩, middle, ⟨key', v'⟩, back, rfl, ⟨named, -⟩, ⟨named', -⟩⟩ := repeats
  refine Option.map_eq_none_iff.2 (Option.eq_none_iff_forall_ne_some.2 fun read stepped => ?_)
  rw [List.foldlM_append] at stepped
  obtain ⟨atFirst, -, stepped⟩ := Option.bind_eq_some_iff.1 stepped
  rw [List.foldlM_cons] at stepped
  obtain ⟨afterFirst, taken, stepped⟩ := Option.bind_eq_some_iff.1 stepped
  rw [List.foldlM_append] at stepped
  obtain ⟨atSecond, between, stepped⟩ := Option.bind_eq_some_iff.1 stepped
  rw [List.foldlM_cons] at stepped
  obtain ⟨afterSecond, refused, -⟩ := Option.bind_eq_some_iff.1 stepped
  have known : name ∈ afterFirst.2 := by
    rw [member?_field named found] at taken
    split at taken
    · cases taken
    · obtain ⟨change, -, rfl⟩ := Option.map_eq_some_iff.1 taken
      exact List.mem_cons_self
  rw [member?_field named' found, if_pos (seen_of_members between known)] at refused
  cases refused

theorem lawful : library.Lawful where
  parse := parse?_of_laid
  written := laid_text
  string_form := textOfUnits?_unitsOfText
  string_read text := text
  flag_form _ := rfl
  flag_read _ := rfl
  byte_form _ := rfl
  byte_read := byte_read
  array_form _ _ := rfl
  array_read := array_read
  optional_form _ a? := by cases a? <;> rfl
  optional_null _ := rfl
  optional_read := optional_read
  choice_form title _ a := textOfUnits?_unitsOfText (title a)
  choice_read := choice_read
  constant_form {_ tag _ name _} _ {_} sorted :=
    ⟨(unitsOfText tag, ofText name),
      ⟨textOfUnits?_unitsOfText tag, textOfUnits?_unitsOfText name⟩, by
        simp only [library, tagged, sorted]
        rfl⟩
  constant_read sort _ _ _ _ known names := constant_read sort known names
  holding_form {_ tag content name _} _ {_ v} sorted :=
    ⟨(unitsOfText tag, ofText name), (unitsOfText content, v),
      ⟨textOfUnits?_unitsOfText tag, textOfUnits?_unitsOfText name⟩,
      ⟨textOfUnits?_unitsOfText content, rfl⟩, by
        simp only [library, tagged, sorted]
        rfl⟩
  holding_read sort _ _ _ _ apart known names holds := holding_read sort apart known names holds
  record_form _ _ _ := ⟨unitsOfText, textOfUnits?_unitsOfText, rfl⟩
  record_read {_ default _ _ _ _} gives := by
    have read := members_read gives default [] fun _ _ => List.not_mem_nil
    exact congrArg (Option.map Prod.fst) read
  record_repeats := record_repeats

end PatternFs.Json.Standard
