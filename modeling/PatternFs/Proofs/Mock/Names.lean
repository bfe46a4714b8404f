import PatternFs.Mock.Creation
import PatternFs.Proofs.Host.Lookup
import PatternFs.Proofs.Pattern.Digits

/-! The names of mock files and the patterns that are read off them. A name is read exactly when it
has three fields of which the first is eight hexadecimal digits, in letters of either case; it is
written in small ones. So a directory is found to use exactly the patterns of its regular files that
have such a name. -/
namespace PatternFs.Mock

variable {s size chunk : String} {m : Mock} {p : Pattern} {digits : List Char}

/-- The name is made of the pattern's digits, in letters of any case, and these two texts. -/
def Spells (p : Pattern) (size chunk name : String) : Prop :=
  ∃ digits, digits.map Char.toLower = p.digits ∧
    name.toList = digits ++ '_' :: (size.toList ++ '_' :: chunk.toList)

theorem not_mem_digits (lower : digits.map Char.toLower = p.digits) : '_' ∉ digits := by
  intro member
  have inside : '_'.toLower ∈ p.digits := lower ▸ List.mem_map_of_mem member
  exact absurd (Pattern.isHexDigit_of_toLower inside) (by decide)

theorem splitOn_fields {first second third : List Char} (whole : '_' ∉ first)
    (whole' : '_' ∉ second) (whole'' : '_' ∉ third) :
    (first ++ '_' :: (second ++ '_' :: third)).splitOn '_' = [first, second, third] := by
  rw [List.splitOn_append_cons_self_of_not_mem whole,
    List.splitOn_append_cons_self_of_not_mem whole', List.splitOn_eq_singleton whole'']

theorem ofName?_eq_some_iff : ofName? s = some m ↔
    Spells m.pattern m.size m.chunk s ∧ '_' ∉ m.size.toList ∧ '_' ∉ m.chunk.toList := by
  constructor
  · intro read
    rw [ofName?] at read
    split at read
    · next first second third fields =>
      obtain ⟨p, pattern, rfl⟩ := Option.map_eq_some_iff.1 read
      have joined : ['_'].intercalate (s.toList.splitOn '_') = s.toList :=
        List.intercalate_splitOn '_'
      have whole : ∀ field ∈ [first, second, third], '_' ∉ field := fun field member =>
        Text.not_mem_of_mem_splitOn (fields ▸ member)
      rw [fields] at joined
      refine ⟨⟨first, Pattern.ofDigits?_eq_some_iff.1 pattern, by simp [← joined]⟩, ?_, ?_⟩
      · simpa using whole second (by simp)
      · simpa using whole third (by simp)
    · cases read
  · rintro ⟨⟨digits, lower, spelled⟩, size, chunk⟩
    rw [ofName?, spelled, splitOn_fields (not_mem_digits lower) size chunk]
    simp [Pattern.ofDigits?_eq_some_iff.2 lower]

theorem spells_name (m : Mock) : Spells m.pattern m.size m.chunk m.name :=
  ⟨m.pattern.digits, Pattern.ofDigits?_eq_some_iff.1 (Pattern.ofDigits?_digits _), by
    simp [name, Pattern.text]⟩

theorem ofName?_name (size : '_' ∉ m.size.toList) (chunk : '_' ∉ m.chunk.toList) :
    ofName? m.name = some m :=
  ofName?_eq_some_iff.2 ⟨spells_name m, size, chunk⟩

/-- All that reading and writing a name changes is the letter case of its digits. -/
theorem name_of_ofName? (read : ofName? s = some m) :
    m.name = String.ofList ((s.toList.take 8).map Char.toLower ++ s.toList.drop 8) := by
  obtain ⟨⟨digits, lower, spelled⟩, -⟩ := ofName?_eq_some_iff.1 read
  apply String.toList_inj.1
  simp [spelled, ← Pattern.length_of_toLower lower, lower, name, Pattern.text]

/-- The first of three fields is eight hexadecimal digits. -/
def IsName (s : String) : Prop :=
  s.toList.count '_' = 2 ∧ ∃ digits rest, s.toList = digits ++ '_' :: rest ∧
    digits.length = 8 ∧ ∀ c ∈ digits, c ∈ "0123456789abcdefABCDEF".toList

theorem exists_ofName?_iff : (∃ m, ofName? s = some m) ↔ IsName s := by
  constructor
  · rintro ⟨m, read⟩
    obtain ⟨⟨digits, lower, spelled⟩, size, chunk⟩ := ofName?_eq_some_iff.1 read
    refine ⟨?_, digits, _, spelled, Pattern.length_of_toLower lower, fun c member => ?_⟩
    · simp [spelled, List.count_eq_zero.2 (not_mem_digits lower), List.count_eq_zero.2 size,
        List.count_eq_zero.2 chunk]
    · apply Text.isHexDigit_iff.1
      exact Pattern.isHexDigit_of_toLower (lower ▸ List.mem_map_of_mem member)
  · rintro ⟨two, digits, rest, spelled, eight, hex⟩
    obtain ⟨p, pattern⟩ := Pattern.exists_ofDigits?_iff.2
      ⟨eight, fun c member => Text.isHexDigit_iff.2 (hex c member)⟩
    have whole : '_' ∉ digits := fun member => absurd (hex _ member) (by decide)
    have fields : (rest.splitOn '_').length = 2 := by
      rw [Text.length_splitOn]
      simpa [spelled, List.count_eq_zero.2 whole] using two
    match pieces : rest.splitOn '_', fields with
    | [size, chunk], _ =>
      refine ⟨⟨p, String.ofList size, String.ofList chunk⟩, ?_⟩
      rw [ofName?, spelled, List.splitOn_append_cons_self_of_not_mem whole, pieces]
      simp [pattern]

theorem nodup_eraseDups (patterns : List Pattern) : patterns.eraseDups.Nodup := by
  match patterns with
  | [] => simp
  | p :: rest =>
    rw [List.eraseDups_cons, List.nodup_cons]
    refine ⟨by simp, nodup_eraseDups (rest.filter fun q => !q == p)⟩
termination_by patterns.length
decreasing_by exact Nat.lt_succ_of_le (List.length_filter_le _ _)

theorem mem_patternsIn {entries : List (String × Tree)} (sizePlain : '_' ∉ size.toList)
    (chunkPlain : '_' ∉ chunk.toList) : p ∈ patternsIn entries size chunk ↔
      ∃ name content, (name, .file content) ∈ entries ∧ Spells p size chunk name := by
  rw [patternsIn, List.mem_eraseDups, List.mem_filterMap]
  constructor
  · rintro ⟨⟨name, node⟩, listed, found⟩
    cases node with
    | directory | link => cases found
    | file content =>
      simp only [Tree.isFile, if_true] at found
      split at found
      · next m read =>
        split at found
        · next same =>
          obtain ⟨rfl, rfl⟩ := same
          obtain rfl := Option.some.inj found
          exact ⟨name, content, listed, (ofName?_eq_some_iff.1 read).1⟩
        · cases found
      · cases found
  · rintro ⟨name, content, listed, spells⟩
    refine ⟨(name, .file content), listed, ?_⟩
    have read : ofName? name = some ⟨p, size, chunk⟩ :=
      ofName?_eq_some_iff.2 ⟨spells, sizePlain, chunkPlain⟩
    simp [Tree.isFile, read]

theorem existingPatterns_of_lookup {h : Host} {directory : String} {names : List String}
    {entries : List (String × Tree)}
    (found : h.lookup directory = .ok (names, .directory entries)) :
    existingPatterns h directory size chunk = .ok (patternsIn entries size chunk) := by
  rw [existingPatterns, Host.list, found]

/-- Every mock is read off the name that is written for it, if its two texts have no separator. The
names that are read at all are those of three fields with eight hexadecimal digits in the first, and
they are written again as they were but for the case of these digits. Whatever follows the digits of
a pattern in a name, the pattern is read. So the patterns in use in a directory are exactly those
for which it has a regular file of such a name, each of them once. -/
theorem patterns_of_names :
    (∀ m : Mock, '_' ∉ m.size.toList → '_' ∉ m.chunk.toList → ofName? m.name = some m) ∧
    (∀ s, ((∃ m, ofName? s = some m) ↔ IsName s) ∧ ∀ m, ofName? s = some m →
      m.name = String.ofList ((s.toList.take 8).map Char.toLower ++ s.toList.drop 8)) ∧
    (∀ (p : Pattern) (rest : String), Pattern.ofName? (p.text ++ rest) = some p) ∧
    ∀ (h : Host) (directory : String) (names : List String) (entries : List (String × Tree))
      (size chunk : String), h.lookup directory = .ok (names, .directory entries) →
      '_' ∉ size.toList → '_' ∉ chunk.toList →
      ∃ patterns, existingPatterns h directory size chunk = .ok patterns ∧ patterns.Nodup ∧
        ∀ p, p ∈ patterns ↔
          ∃ name content, (name, .file content) ∈ entries ∧ Spells p size chunk name := by
  refine ⟨fun m => ofName?_name, fun s => ⟨exists_ofName?_iff, fun m => name_of_ofName?⟩,
    Pattern.ofName?_text_append, ?_⟩
  intro h directory names entries size chunk found sizePlain chunkPlain
  refine ⟨patternsIn entries size chunk, existingPatterns_of_lookup found, nodup_eraseDups _, ?_⟩
  exact fun p => mem_patternsIn sizePlain chunkPlain

/-- The digits of the file are in mixed case; a link of such a name is no mock. -/
theorem patterns_of_mixed_case :
    let entries : List (String × Tree) := [("DEADbeef_1gb_1024", .file .empty),
      ("cafebabe_1gb_1024", .link "DEADbeef_1gb_1024")]
    let h : Host := ⟨.directory entries, []⟩
    h.lookup "/" = .ok ([], .directory entries) ∧
      ∃ patterns, existingPatterns h "/" "1gb" "1024" = .ok patterns ∧ patterns.Nodup ∧
        Pattern.ofBytes 0xde 0xad 0xbe 0xef ∈ patterns ∧
        Pattern.ofBytes 0xca 0xfe 0xba 0xbe ∉ patterns := by
  intro entries h
  have located : h.locate "/" = .ok (.node [] h.root) := by
    have segments : ("/".toList.splitOn '/').map String.ofList = ["", ""] := by decide
    rw [Host.locate, if_neg (by decide), if_neg (by decide), if_neg (by decide), segments,
      if_pos (by decide), Host.walk_filler rfl rfl (.inl rfl), Host.walk_filler rfl rfl (.inl rfl)]
    exact Host.walk_nil rfl
  have found : h.lookup "/" = .ok ([], .directory entries) := by
    rw [Host.lookup, located]
  obtain ⟨patterns, read, once, known⟩ :=
    patterns_of_names.2.2.2 h "/" [] entries "1gb" "1024" found (by decide) (by decide)
  refine ⟨found, patterns, read, once, (known _).2 ?_, fun member => ?_⟩
  · exact ⟨"DEADbeef_1gb_1024", .empty, by simp [entries], "DEADbeef".toList, by decide, by decide⟩
  · obtain ⟨name, content, listed, digits, lower, spelled⟩ := (known _).1 member
    obtain ⟨rfl, -⟩ : name = "DEADbeef_1gb_1024" ∧ content = .empty := by
      simpa [entries] using listed
    have first := congrArg (List.take 8) spelled
    rw [← Pattern.length_of_toLower lower, List.take_left, Pattern.length_of_toLower lower] at first
    rw [← first] at lower
    exact absurd lower (by decide)

end PatternFs.Mock
