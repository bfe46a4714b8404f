import PatternFs.Fallback
import PatternFs.LogLevel
import PatternFs.Proofs.Pattern.Digits
import PatternFs.Proofs.Text.LowerCase

/-! Which texts name a fallback policy or a log level. The whole text is lowered before it is
compared, and outside ASCII too; but the words that are known hold only letters that nothing outside
ASCII is lowered to, and so do the hexadecimal digits. So the texts are those that spell a word in
ASCII letters of either case, and those of eight digits. -/
namespace PatternFs

variable {s word other : String} {p : Pattern} {f g : Fallback} {l : LogLevel}

/-- The text is this word, in ASCII letters of either case. -/
def IsWord (word s : String) : Prop := s.toList.map Char.toLower = word.toList

theorem IsWord.unique (spells : IsWord word s) (spells' : IsWord other s) : word = other :=
  String.toList_inj.1 (spells.symm.trans spells')

theorem IsWord.ascii (spells : IsWord word s) (plain : ∀ c ∈ word.toList, Text.IsPlain c) :
    ∀ c ∈ s.toList, c.toNat < 0x80 := fun c member =>
  Text.toLower_ascii (plain c.toLower (spells ▸ List.mem_map_of_mem member)).1

namespace Text

theorem lowerCase_eq_iff (plain : ∀ c ∈ word.toList, IsPlain c) :
    lowerCase s = word ↔ IsWord word s := by
  rw [← String.toList_inj, lowerCase, String.toList_ofList]
  exact flatMap_lowerChar_eq_iff plain

theorem isPlain_of_isHexDigit {c : Char} (hex : isHexDigit c = true) : IsPlain c := by
  have digits : "0123456789abcdefABCDEF".toList.all (IsPlain ·) = true := by decide
  exact of_decide_eq_true (List.all_eq_true.1 digits c (isHexDigit_iff.1 hex))

end Text

namespace Pattern

theorem isPlain_text (p : Pattern) : ∀ c ∈ p.text.toList, Text.IsPlain c := by
  have lower : p.digits.map Char.toLower = p.digits := ofDigits?_eq_some_iff.1 (ofDigits?_digits p)
  intro c member
  rw [text, String.toList_ofList] at member
  exact Text.isPlain_of_isHexDigit (isHexDigit_of_toLower (lower ▸ List.mem_map_of_mem member))

theorem text_inj {q : Pattern} (same : p.text = q.text) : p = q := by
  have digits := String.ofList_injective same
  have read := ofDigits?_digits p
  rw [digits, ofDigits?_digits] at read
  exact (Option.some.inj read).symm

/-- The digits are looked for in the lowered text, and found where the text itself has them. -/
theorem ofDigits?_lowerCase :
    ofDigits? (Text.lowerCase s).toList = some p ↔ IsWord p.text s := by
  rw [ofDigits?_eq_some_iff, Text.lowerCase, IsWord, text, String.toList_ofList,
    String.toList_ofList]
  constructor
  · intro digits
    have plain : ∀ d ∈ s.toList.flatMap Text.lowerChar, Text.IsPlain d := fun d member =>
      Text.isPlain_of_isHexDigit (isHexDigit_of_toLower (digits ▸ List.mem_map_of_mem member))
    have lower := (Text.flatMap_lowerChar_eq_iff plain).1 rfl
    rwa [← lower, Text.map_toLower_toLower] at digits
  · intro spells
    have plain := p.isPlain_text
    rw [text, String.toList_ofList] at plain
    rw [(Text.flatMap_lowerChar_eq_iff plain).2 spells, ← spells, Text.map_toLower_toLower]

theorem exists_isWord_text_iff : (∃ p : Pattern, IsWord p.text s) ↔
    s.toList.length = 8 ∧ ∀ c ∈ s.toList, c ∈ "0123456789abcdefABCDEF".toList := by
  simp only [IsWord, text, String.toList_ofList, ← ofDigits?_eq_some_iff, exists_ofDigits?_iff,
    Text.isHexDigit_iff]

end Pattern

namespace Fallback

/-- What a text stands for. -/
inductive Named (s : String) : Fallback → Prop
  | counter : IsWord "counter" s → Named s .counter
  | reject : IsWord "reject" s → Named s .reject
  | fixed {p : Pattern} : IsWord p.text s → Named s (.fixed p)

theorem text_ne_word (p : Pattern) (short : word.toList.length < 8) : word ≠ p.text := by
  rintro rfl
  rw [Pattern.text, String.toList_ofList, Pattern.length_digits] at short
  exact Nat.lt_irrefl 8 short

theorem Named.unique (named : Named s f) (named' : Named s g) : f = g := by
  cases named with
  | counter spells =>
    cases named' with
    | counter => rfl
    | reject spells' => exact absurd (spells.unique spells') (by decide)
    | fixed spells' => exact absurd (spells.unique spells') (text_ne_word _ (by decide))
  | reject spells =>
    cases named' with
    | counter spells' => exact absurd (spells.unique spells') (by decide)
    | reject => rfl
    | fixed spells' => exact absurd (spells.unique spells') (text_ne_word _ (by decide))
  | fixed spells =>
    cases named' with
    | counter spells' => exact absurd (spells'.unique spells) (text_ne_word _ (by decide))
    | reject spells' => exact absurd (spells'.unique spells) (text_ne_word _ (by decide))
    | fixed spells' => rw [Pattern.text_inj (spells.unique spells')]

theorem isPlain_counter : ∀ c ∈ "counter".toList, Text.IsPlain c := by
  simp [Text.IsPlain]

theorem isPlain_reject : ∀ c ∈ "reject".toList, Text.IsPlain c := by
  simp [Text.IsPlain]

theorem Named.ascii (named : Named s f) : ∀ c ∈ s.toList, c.toNat < 0x80 := by
  cases named with
  | counter spells => exact spells.ascii isPlain_counter
  | reject spells => exact spells.ascii isPlain_reject
  | fixed spells => exact spells.ascii (Pattern.isPlain_text _)

theorem ofText?_eq_some_iff : ofText? s = some f ↔ Named s f := by
  have counter := Text.lowerCase_eq_iff (s := s) isPlain_counter
  have reject := Text.lowerCase_eq_iff (s := s) isPlain_reject
  have settled {g : Fallback} (named : Named s g) : some g = some f ↔ Named s f :=
    ⟨fun same => Option.some.inj same ▸ named, fun named' => congrArg some (named.unique named')⟩
  simp only [ofText?]
  split
  · next lower => exact settled (.counter (counter.1 lower))
  · next notCounter =>
    split
    · next lower => exact settled (.reject (reject.1 lower))
    · next notReject =>
      rw [Option.map_eq_some_iff]
      constructor
      · rintro ⟨p, digits, rfl⟩
        exact .fixed (Pattern.ofDigits?_lowerCase.1 digits)
      · intro named
        cases named with
        | counter spells => exact absurd (counter.2 spells) notCounter
        | reject spells => exact absurd (reject.2 spells) notReject
        | fixed spells => exact ⟨_, Pattern.ofDigits?_lowerCase.2 spells, rfl⟩

theorem exists_named_iff : (∃ f, Named s f) ↔ IsWord "counter" s ∨ IsWord "reject" s ∨
    s.toList.length = 8 ∧ ∀ c ∈ s.toList, c ∈ "0123456789abcdefABCDEF".toList := by
  rw [← Pattern.exists_isWord_text_iff]
  constructor
  · rintro ⟨f, named⟩
    cases named with
    | counter spells => exact .inl spells
    | reject spells => exact .inr (.inl spells)
    | fixed spells => exact .inr (.inr ⟨_, spells⟩)
  · rintro (spells | spells | ⟨p, spells⟩)
    · exact ⟨_, .counter spells⟩
    · exact ⟨_, .reject spells⟩
    · exact ⟨_, .fixed spells⟩

end Fallback

namespace LogLevel

/-- What a text stands for. -/
inductive Named (s : String) : LogLevel → Prop
  | name {l : LogLevel} : IsWord l.name s → Named s l
  | warning : IsWord "warning" s → Named s .warn

/-- All words for log levels. -/
def words : List String := ["error", "warn", "warning", "info", "debug", "trace"]

theorem isPlain_words : ∀ word ∈ words, ∀ c ∈ word.toList, Text.IsPlain c := by
  simp [words, Text.IsPlain]

theorem name_mem_words (l : LogLevel) : l.name ∈ words := by
  cases l <;> decide

theorem ofName?_eq_some_iff : ofName? word = some l ↔ l.name = word := by
  constructor
  · intro found
    simpa using List.find?_some found
  · rintro rfl
    cases l <;> decide

theorem exists_named_iff : (∃ l, Named s l) ↔ ∃ word ∈ words, IsWord word s := by
  constructor
  · rintro ⟨l, named⟩
    cases named with
    | name spells => exact ⟨_, name_mem_words _, spells⟩
    | warning spells => exact ⟨_, by decide, spells⟩
  · rintro ⟨word, known, spells⟩
    have named : word = "warning" ∨ ∃ l : LogLevel, l.name = word := by
      simp only [words, List.mem_cons, List.not_mem_nil, or_false] at known
      rcases known with rfl | rfl | rfl | rfl | rfl | rfl
      · exact .inr ⟨.error, rfl⟩
      · exact .inr ⟨.warn, rfl⟩
      · exact .inl rfl
      · exact .inr ⟨.info, rfl⟩
      · exact .inr ⟨.debug, rfl⟩
      · exact .inr ⟨.trace, rfl⟩
    rcases named with rfl | ⟨l, rfl⟩
    · exact ⟨_, .warning spells⟩
    · exact ⟨_, .name spells⟩

theorem Named.ascii (named : Named s l) : ∀ c ∈ s.toList, c.toNat < 0x80 := by
  obtain ⟨word, known, spells⟩ := exists_named_iff.1 ⟨l, named⟩
  exact spells.ascii (isPlain_words word known)

theorem ofText?_eq_some_iff : ofText? s = some l ↔ Named s l := by
  have spelled {word : String} (known : word ∈ words) :=
    Text.lowerCase_eq_iff (s := s) (isPlain_words word known)
  simp only [ofText?]
  split
  · next lower =>
    have spells := (spelled (by decide)).1 lower
    constructor
    · intro same
      rw [← Option.some.inj same]
      exact .warning spells
    · intro named
      cases named with
      | name spells' =>
        have same := spells.unique spells'
        cases l <;> exact absurd same (by decide)
      | warning => rfl
  · next notWarning =>
    rw [ofName?_eq_some_iff, eq_comm, spelled (name_mem_words l)]
    constructor
    · exact .name
    · intro named
      cases named with
      | name spells => exact spells
      | warning spells => exact absurd ((spelled (by decide)).2 spells) notWarning

end LogLevel

/-- A text is read as a fallback policy exactly when it spells `counter` or `reject` in ASCII
letters of either case or is eight hexadecimal digits, and then as what it stands for; the text of a
pattern is read as that pattern. It is read as a log level exactly when it spells one of six words.
Neither reads anything from a text with a character outside ASCII. -/
theorem read_of_spelling (s : String) :
    (∀ f, Fallback.ofText? s = some f ↔ Fallback.Named s f) ∧
      ((∃ f, Fallback.ofText? s = some f) ↔ IsWord "counter" s ∨ IsWord "reject" s ∨
        s.toList.length = 8 ∧ ∀ c ∈ s.toList, c ∈ "0123456789abcdefABCDEF".toList) ∧
      (∀ p : Pattern, Fallback.ofText? p.text = some (.fixed p)) ∧
      (∀ l, LogLevel.ofText? s = some l ↔ LogLevel.Named s l) ∧
      ((∃ l, LogLevel.ofText? s = some l) ↔
        ∃ word ∈ ["error", "warn", "warning", "info", "debug", "trace"], IsWord word s) ∧
      ∀ c ∈ s.toList, 0x80 ≤ c.toNat → Fallback.ofText? s = none ∧ LogLevel.ofText? s = none := by
  refine ⟨fun f => Fallback.ofText?_eq_some_iff, ?_, fun p => ?_,
    fun l => LogLevel.ofText?_eq_some_iff, ?_, fun c member outside => ⟨?_, ?_⟩⟩
  · simp only [Fallback.ofText?_eq_some_iff]
    exact Fallback.exists_named_iff
  · refine Fallback.ofText?_eq_some_iff.2 (.fixed ?_)
    rw [IsWord, Pattern.text, String.toList_ofList]
    exact Pattern.ofDigits?_eq_some_iff.1 (Pattern.ofDigits?_digits p)
  · simp only [LogLevel.ofText?_eq_some_iff]
    exact LogLevel.exists_named_iff
  · refine Option.eq_none_iff_forall_ne_some.2 fun f read => ?_
    exact Nat.not_lt.2 outside ((Fallback.ofText?_eq_some_iff.1 read).ascii c member)
  · refine Option.eq_none_iff_forall_ne_some.2 fun l read => ?_
    exact Nat.not_lt.2 outside ((LogLevel.ofText?_eq_some_iff.1 read).ascii c member)

/-- The sign of the kelvin is lowered to a letter of ASCII, and keeps the text from being read all
the same. -/
theorem read_of_kelvin_sign :
    let s := "1234567\u212a"
    '\u212a' ∈ s.toList ∧ Text.lowerCase s = "1234567k" ∧
      Fallback.ofText? s = none ∧ LogLevel.ofText? s = none := by
  intro s
  have kelvin : '\u212a' ∈ s.toList := by decide
  exact ⟨kelvin, by decide +kernel, (read_of_spelling s).2.2.2.2.2 _ kelvin (by decide)⟩

example : Fallback.ofText? "CAFEbabe" = some (.fixed (.ofBytes 0xca 0xfe 0xba 0xbe)) := by
  decide +kernel

end PatternFs
