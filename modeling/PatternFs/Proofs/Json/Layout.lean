import PatternFs.Json.Token

/-! Every way to write JSON tokens down: strings with any escapes, numbers by the grammar, and any
blanks between the tokens. Scanning finds the tokens again, however they are written. -/
namespace PatternFs.Json

def IsBlank (cs : List Char) : Prop := ∀ c ∈ cs, isSpace c = true

def IsDigits (cs : List Char) : Prop := cs ≠ [] ∧ ∀ c ∈ cs, c.isDigit = true

/-- Digits that do not start with a zero, unless there is nothing else. -/
def IsWhole (cs : List Char) : Prop := cs = ['0'] ∨ IsDigits cs ∧ cs.head? ≠ some '0'

def IsFraction (cs : List Char) : Prop := cs = [] ∨ ∃ digits, IsDigits digits ∧ cs = '.' :: digits

def IsExponent (cs : List Char) : Prop :=
  cs = [] ∨ ∃ mark sign digits, mark ∈ ['e', 'E'] ∧ sign ∈ [[], ['+'], ['-']] ∧
    IsDigits digits ∧ cs = mark :: (sign ++ digits)

def IsNumber (cs : List Char) : Prop :=
  ∃ sign whole fraction exponent, sign ∈ [[], ['-']] ∧ IsWhole whole ∧ IsFraction fraction ∧
    IsExponent exponent ∧ cs = sign ++ whole ++ fraction ++ exponent

/-- The letters that stand for a unit after a backslash. -/
def escapes : List (Char × Nat) :=
  [('"', 0x22), ('\\', 0x5c), ('/', 0x2f), ('b', 0x8), ('f', 0xc), ('n', 0xa), ('r', 0xd),
    ('t', 0x9)]

/-- What can stand for units between the quotes of a string. -/
inductive Spells : List Nat → List Char → Prop
  | nil : Spells [] []
  | plain {c : Char} {units : List Nat} {cs : List Char} : c ≠ '"' → c ≠ '\\' → 0x20 ≤ c.toNat →
      Spells units cs → Spells (c.toNat :: units) (c :: cs)
  | escape {c : Char} {unit : Nat} {units : List Nat} {cs : List Char} : (c, unit) ∈ escapes →
      Spells units cs → Spells (unit :: units) ('\\' :: c :: cs)
  | unit {c₁ c₂ c₃ c₄ : Char} {d₁ d₂ d₃ d₄ : Nat} {units : List Nat} {cs : List Char} :
      Text.hexValue? c₁ = some d₁ → Text.hexValue? c₂ = some d₂ → Text.hexValue? c₃ = some d₃ →
      Text.hexValue? c₄ = some d₄ → Spells units cs →
      Spells ((0x1000 * d₁ + 0x100 * d₂ + 0x10 * d₃ + d₄) :: units)
        ('\\' :: 'u' :: c₁ :: c₂ :: c₃ :: c₄ :: cs)

def Token.Spelled : Token → List Char → Prop
  | .number literal, cs => cs = literal ∧ IsNumber literal
  | .string units, cs => ∃ inside, Spells units inside ∧ cs = '"' :: (inside ++ ['"'])
  | t, cs => cs = t.written

def Token.isNumber : Token → Bool
  | .number _ => true
  | _ => false

/-- What may follow a number in a JSON text: a blank, a comma, a closing bracket or nothing. -/
def EndsNumber (cs : List Char) : Prop :=
  ∀ c ∈ cs.head?, isSpace c = true ∨ c = ',' ∨ c = ']' ∨ c = '\x7d'

/-- Tokens one after the other with any blanks before, between and after them. -/
inductive Laid : List Token → List Char → Prop
  | done {blank : List Char} : IsBlank blank → Laid [] blank
  | token {t : Token} {ts : List Token} {blank cs rest : List Char} : IsBlank blank →
      t.Spelled cs → (t.isNumber = true → EndsNumber rest) → Laid ts rest →
      Laid (t :: ts) (blank ++ (cs ++ rest))

namespace Phase

variable {cs : List Char} {phase : Phase}

/-- How far a number is read after some more characters of it. -/
def run? (phase : Phase) (cs : List Char) : Option Phase := cs.foldlM next? phase

theorem run?_digits (stays : ∀ c : Char, c.isDigit = true → phase.next? c = some phase)
    (digits : ∀ c ∈ cs, c.isDigit = true) : phase.run? cs = some phase := by
  induction cs with
  | nil => rfl
  | cons c rest ih =>
    rw [run?, List.foldlM_cons, stays c (digits c (List.mem_cons_self ..))]
    exact ih fun d member => digits d (List.mem_cons_of_mem _ member)

theorem run?_isDigits {first : Phase} (digits : IsDigits cs)
    (enters : ∀ c : Char, c.isDigit = true → first.next? c = some phase)
    (stays : ∀ c : Char, c.isDigit = true → phase.next? c = some phase) :
    first.run? cs = some phase := by
  obtain ⟨some', all⟩ := digits
  cases cs with
  | nil => exact absurd rfl some'
  | cons c rest =>
    rw [run?, List.foldlM_cons, enters c (all c (List.mem_cons_self ..))]
    exact run?_digits stays fun d member => all d (List.mem_cons_of_mem _ member)

theorem run?_append {ds : List Char} {next : Phase} (first : phase.run? cs = some next) :
    phase.run? (cs ++ ds) = next.run? ds := by
  rw [run?, List.foldlM_append]
  exact congrArg (· >>= fun p => p.run? ds) first

theorem run?_exponent (before : phase ∈ [.zero, .whole, .fraction]) (exponent : IsExponent cs) :
    ∃ last, phase.run? cs = some last ∧ last.complete = true := by
  rcases exponent with rfl | ⟨mark, sign, digits, isMark, isSign, isDigits, rfl⟩
  · refine ⟨phase, rfl, ?_⟩
    simp only [List.mem_cons, List.not_mem_nil, or_false] at before
    rcases before with rfl | rfl | rfl <;> rfl
  · have marked : phase.next? mark = some .exponentMark := by
      simp only [List.mem_cons, List.not_mem_nil, or_false] at before isMark
      rcases before with rfl | rfl | rfl <;> rcases isMark with rfl | rfl <;> rfl
    have stays (c : Char) (digit : c.isDigit = true) :
        Phase.exponent.next? c = some .exponent := if_pos digit
    refine ⟨.exponent, ?_, rfl⟩
    rw [run?, List.foldlM_cons, marked]
    change Phase.exponentMark.run? (sign ++ digits) = _
    simp only [List.mem_cons, List.not_mem_nil, or_false] at isSign
    rcases isSign with rfl | rfl | rfl
    · refine run?_isDigits isDigits (fun c digit => ?_) stays
      have : c ≠ '+' := by rintro rfl; exact absurd digit (by decide)
      have : c ≠ '-' := by rintro rfl; exact absurd digit (by decide)
      simp only [next?, *, or_self, if_false, if_true]
    all_goals
      change Phase.exponentSign.run? digits = _
      exact run?_isDigits isDigits (fun c digit => if_pos digit) stays

theorem run?_fraction (before : phase ∈ [.zero, .whole]) (fraction : IsFraction cs) :
    ∃ last ∈ [Phase.zero, .whole, .fraction], phase.run? cs = some last := by
  rcases fraction with rfl | ⟨digits, isDigits, rfl⟩
  · refine ⟨phase, ?_, rfl⟩
    simp only [List.mem_cons, List.not_mem_nil, or_false] at before ⊢
    exact before.imp_right .inl
  · have point : phase.next? '.' = some .point := by
      simp only [List.mem_cons, List.not_mem_nil, or_false] at before
      rcases before with rfl | rfl <;> rfl
    refine ⟨.fraction, by simp, ?_⟩
    rw [run?, List.foldlM_cons, point]
    exact run?_isDigits isDigits (fun c digit => if_pos digit) fun c digit => if_pos digit

theorem run?_whole (whole : IsWhole cs) :
    ∃ c rest first last, cs = c :: rest ∧ start? c = some first ∧ minus.next? c = some first ∧
      last ∈ [Phase.zero, .whole] ∧ first.run? rest = some last := by
  rcases whole with rfl | ⟨⟨some', digits⟩, noZero⟩
  · exact ⟨'0', [], .zero, .zero, rfl, rfl, rfl, by simp, rfl⟩
  · cases cs with
    | nil => exact absurd rfl some'
    | cons c rest =>
      have digit := digits c (List.mem_cons_self ..)
      have noMinus : c ≠ '-' := by rintro rfl; exact absurd digit (by decide)
      have noZero : c ≠ '0' := by rintro rfl; exact noZero rfl
      refine ⟨c, rest, .whole, .whole, rfl, ?_, ?_, by simp, ?_⟩
      · rw [start?, if_neg noMinus, if_neg noZero, if_pos digit]
      · rw [next?, if_neg noZero, if_pos digit]
      · refine run?_digits (fun c digit => if_pos digit) fun d member => ?_
        exact digits d (List.mem_cons_of_mem _ member)

/-- Every number is read, and it may end where it ends. -/
theorem run?_number (number : IsNumber cs) :
    ∃ c rest first last, cs = c :: rest ∧ start? c = some first ∧
      first.run? rest = some last ∧ last.complete = true := by
  obtain ⟨sign, whole, fraction, exponent, isSign, isWhole, isFraction, isExponent, rfl⟩ := number
  obtain ⟨c, rest, first, middle, rfl, starts, follows, isMiddle, run⟩ := run?_whole isWhole
  obtain ⟨late, isLate, run'⟩ := run?_fraction isMiddle isFraction
  obtain ⟨last, run'', complete⟩ := run?_exponent isLate isExponent
  have all : first.run? (rest ++ fraction ++ exponent) = some last := by
    rw [List.append_assoc, run?_append run, run?_append run', run'']
  simp only [List.mem_cons, List.not_mem_nil, or_false] at isSign
  rcases isSign with rfl | rfl
  · exact ⟨c, rest ++ fraction ++ exponent, first, last, rfl, starts, all, complete⟩
  · refine ⟨'-', c :: (rest ++ fraction ++ exponent), .minus, last, rfl, rfl, ?_, complete⟩
    rw [run?, List.foldlM_cons, follows]
    exact all

end Phase

theorem isSpace_iff {c : Char} :
    isSpace c = true ↔ c = ' ' ∨ c = '\t' ∨ c = '\n' ∨ c = '\r' := by
  simp [isSpace, or_assoc]

namespace Scan

variable {ts : List Token} {cs rest blank : List Char}

/-- What comes of a scan when the rest of the text is read. -/
def result? (s : Scan) (rest : List Char) : Option (List Token) := do
  (← rest.foldlM step s).finish?

theorem result?_cons {s t : Scan} {c : Char} (stepped : s.step c = some t) :
    s.result? (c :: rest) = t.result? rest := by
  rw [result?, List.foldlM_cons, stepped]
  rfl

theorem result?_blank (blank' : IsBlank blank) :
    result? ⟨.between, ts⟩ (blank ++ rest) = result? ⟨.between, ts⟩ rest := by
  induction blank with
  | nil => rfl
  | cons c blank ih =>
    have space : step ⟨.between, ts⟩ c = some ⟨.between, ts⟩ :=
      if_pos (blank' c (List.mem_cons_self ..))
    rw [List.cons_append, result?_cons space]
    exact ih fun d member => blank' d (List.mem_cons_of_mem _ member)

theorem escaped?_of_mem {c : Char} {unit : Nat} (escape : (c, unit) ∈ escapes) :
    c ≠ 'u' ∧ escaped? c = some unit := by
  have all : ∀ row ∈ escapes, row.1 ≠ 'u' ∧ escaped? row.1 = some row.2 := by decide
  exact all _ escape

theorem result?_inside {units : List Nat} (spells : Spells units cs) (before : List Nat) :
    result? ⟨.string before, ts⟩ (cs ++ '"' :: rest) =
      result? ⟨.between, ts ++ [.string (before ++ units)]⟩ rest := by
  induction spells generalizing before with
  | nil => rw [List.append_nil]; rfl
  | @plain c units cs noQuote noEscape printed _ ih =>
    have stepped : step ⟨.string before, ts⟩ c = some ⟨.string (before ++ [c.toNat]), ts⟩ := by
      simp only [step, if_neg noQuote, if_neg noEscape, if_neg (Nat.not_lt.2 printed), enter]
    rw [List.cons_append, result?_cons stepped, ih, List.append_assoc]
    rfl
  | @escape c unit units cs member _ ih =>
    obtain ⟨noUnit, escaped⟩ := escaped?_of_mem member
    have stepped : step ⟨.escape before, ts⟩ c = some ⟨.string (before ++ [unit]), ts⟩ := by
      simp only [step, if_neg noUnit, escaped, Option.map_some, enter]
    rw [List.cons_append, List.cons_append,
      result?_cons (t := ⟨.escape before, ts⟩) rfl, result?_cons stepped, ih, List.append_assoc]
    rfl
  | @unit c₁ c₂ c₃ c₄ d₁ d₂ d₃ d₄ units cs h₁ h₂ h₃ h₄ _ ih =>
    have digit {c : Char} {d : Nat} (hex : Text.hexValue? c = some d) (due value : Nat) :
        step ⟨.unit before (due + 2) value, ts⟩ c =
          some ⟨.unit before (due + 1) (16 * value + d), ts⟩ := by
      have more : ¬ due + 2 ≤ 1 := by omega
      simp only [step, hex, Option.bind_eq_bind, Option.bind_some, if_neg more, enter]
      rfl
    have lastDigit (value : Nat) : step ⟨.unit before 1 value, ts⟩ c₄ =
        some ⟨.string (before ++ [16 * value + d₄]), ts⟩ := by
      simp only [step, h₄, Option.bind_eq_bind, Option.bind_some, Nat.le_refl, if_true, enter]
      rfl
    have sum : 16 * (16 * (16 * (16 * 0 + d₁) + d₂) + d₃) + d₄ =
        0x1000 * d₁ + 0x100 * d₂ + 0x10 * d₃ + d₄ := by omega
    simp only [List.cons_append]
    rw [result?_cons (t := ⟨.escape before, ts⟩) rfl,
      result?_cons (t := ⟨.unit before 4 0, ts⟩) rfl, result?_cons (digit h₁ 2 0),
      result?_cons (digit h₂ 1 _), result?_cons (digit h₃ 0 _), result?_cons (lastDigit _), sum,
      ih, List.append_assoc]
    rfl

theorem result?_number {phase last : Phase} {before : List Char} (run : phase.run? cs = some last) :
    result? ⟨.number phase before, ts⟩ (cs ++ rest) =
      result? ⟨.number last (before ++ cs), ts⟩ rest := by
  induction cs generalizing phase before with
  | nil =>
    cases run
    rw [List.append_nil]
    rfl
  | cons c cs ih =>
    rw [Phase.run?, List.foldlM_cons] at run
    obtain ⟨next, stepped, run⟩ := Option.bind_eq_some_iff.1 run
    have taken : step ⟨.number phase before, ts⟩ c = some ⟨.number next (before ++ [c]), ts⟩ := by
      simp only [step, stepped, enter]
    rw [List.cons_append, result?_cons taken, ih run, List.append_assoc]
    rfl

/-- A character with which a number starts has no other meaning between tokens. -/
theorem begin?_number {c : Char} {first : Phase} (starts : Phase.start? c = some first) :
    begin? ⟨.between, ts⟩ c = some ⟨.number first [c], ts⟩ := by
  have noSpace : ¬ isSpace c = true := by
    intro space
    rcases isSpace_iff.1 space with rfl | rfl | rfl | rfl <;> cases starts
  unfold begin?
  rw [if_neg noSpace]
  split
  case h_11 => rw [starts]; rfl
  all_goals cases starts

theorem next?_ends {c : Char} (phase : Phase)
    (ends : isSpace c = true ∨ c = ',' ∨ c = ']' ∨ c = '\x7d') : phase.next? c = none := by
  rcases ends.imp_left isSpace_iff.1 with (rfl | rfl | rfl | rfl) | rfl | rfl | rfl
  all_goals cases phase <;> rfl

theorem result?_ended {phase : Phase} {literal : List Char} (complete : phase.complete = true)
    (ends : EndsNumber rest) :
    result? ⟨.number phase literal, ts⟩ rest =
      result? ⟨.between, ts ++ [.number literal]⟩ rest := by
  cases rest with
  | nil => simp only [result?, List.foldlM_nil, Option.pure_def, Option.bind_eq_bind,
      Option.bind_some, finish?, complete, if_true]
  | cons c rest =>
    have same : step ⟨.number phase literal, ts⟩ c =
        step ⟨.between, ts ++ [.number literal]⟩ c := by
      simp only [step, next?_ends phase (ends c rfl), complete, if_true, emit]
    rw [result?, result?, List.foldlM_cons, List.foldlM_cons, same]

theorem result?_token {t : Token} (spelled : t.Spelled cs)
    (ends : t.isNumber = true → EndsNumber rest) :
    result? ⟨.between, ts⟩ (cs ++ rest) = result? ⟨.between, ts ++ [t]⟩ rest := by
  cases t with
  | number literal =>
    obtain ⟨rfl, number⟩ := spelled
    obtain ⟨c, digits, first, last, rfl, starts, run, complete⟩ := Phase.run?_number number
    have begun : step ⟨.between, ts⟩ c = some ⟨.number first [c], ts⟩ := begin?_number starts
    rw [List.cons_append, result?_cons begun, result?_number run, result?_ended complete (ends rfl)]
    rfl
  | string units =>
    obtain ⟨inside, spells, rfl⟩ := spelled
    rw [List.cons_append, List.append_assoc, result?_cons (t := ⟨.string [], ts⟩) rfl]
    exact result?_inside spells []
  | bool b => cases b <;> (cases spelled; rfl)
  | _ => cases spelled; rfl

end Scan

/-- Scanning finds the tokens again. -/
theorem tokens?_of_laid {ts : List Token} {cs : List Char} (laid : Laid ts cs) :
    tokens? cs = some ts := by
  have general (before : List Token) :
      Scan.result? ⟨.between, before⟩ cs = some (before ++ ts) := by
    induction laid generalizing before with
    | @done blank blank' =>
      have read : Scan.result? ⟨.between, before⟩ (blank ++ []) =
          Scan.result? ⟨.between, before⟩ [] := Scan.result?_blank blank'
      rw [List.append_nil] at read
      rw [read, List.append_nil]
      rfl
    | token blank spelled ends _ ih =>
      rw [Scan.result?_blank blank, Scan.result?_token spelled ends, ih, List.append_assoc]
      rfl
  exact general []

end PatternFs.Json
