import PatternFs.Json.Document
import PatternFs.Proofs.Json.Layout
import PatternFs.Proofs.Pattern.Digits

/-! Every JSON text is read as the value whose tokens it shows, whatever blanks and escapes it has
and however deep the value is. The text that `text` writes is one of them. -/
namespace PatternFs.Json

variable {place : Place} {outer stack : List Place} {t : Token} {ts us : List Token}

theorem feed_one (stack : List Place) (t : Token) : [t].foldlM feed? stack = feed? stack t := by
  rw [List.foldlM_cons]
  exact bind_pure (feed? stack t)

theorem feed_cons (next : List Place) (fed : feed? stack t = some next) :
    (t :: ts).foldlM feed? stack = ts.foldlM feed? next := by
  rw [List.foldlM_cons, fed]
  rfl

theorem feed_append (next : List Place) (fed : ts.foldlM feed? stack = some next) :
    (ts ++ us).foldlM feed? stack = us.foldlM feed? next := by
  rw [List.foldlM_append, fed]
  rfl

theorem feed?_openArray (wanted : place.wantsValue = true) :
    feed? (place :: outer) .openArray = some (.arrayStart :: place :: outer) := if_pos wanted

theorem feed?_openObject (wanted : place.wantsValue = true) :
    feed? (place :: outer) .openObject = some (.objectStart :: place :: outer) := if_pos wanted

theorem feed?_string (wanted : place.wantsValue = true) (units : List Nat) :
    feed? (place :: outer) (.string units) = put? (.string units) (place :: outer) := by
  cases place <;> first | rfl | cases wanted

mutual

/-- The tokens of a value lead where the value itself leads. -/
theorem feed_tokens (v : Json) (place : Place) (outer : List Place)
    (wanted : place.wantsValue = true) :
    v.tokens.foldlM feed? (place :: outer) = put? v (place :: outer) := by
  match v with
  | .null | .bool _ | .number _ => rw [tokens, feed_one]; rfl
  | .string units => rw [tokens, feed_one, feed?_string wanted]
  | .array [] => rw [tokens, feed_cons _ (feed?_openArray wanted), feed_one]; rfl
  | .array (item :: items) =>
    have first := feed_tokens item .arrayStart (place :: outer) rfl
    have others := feed_tokensOfItems items [item] (place :: outer)
    rw [tokens, List.cons_append, List.cons_append, feed_cons _ (feed?_openArray wanted),
      List.append_assoc, feed_append _ first, feed_append _ others, feed_one]
    rfl
  | .object [] => rw [tokens, feed_cons _ (feed?_openObject wanted), feed_one]; rfl
  | .object ((key, v) :: members) =>
    have first := feed_tokens v (.objectValue [] key) (place :: outer) rfl
    have others := feed_tokensOfMembers members [(key, v)] (place :: outer)
    rw [tokens]
    simp only [List.cons_append]
    rw [feed_cons _ (feed?_openObject wanted),
      feed_cons (.objectColon [] key :: place :: outer) rfl,
      feed_cons (.objectValue [] key :: place :: outer) rfl, List.append_assoc,
      feed_append (.objectRest [(key, v)] :: place :: outer) first,
      feed_append _ others, feed_one]
    rfl

theorem feed_tokensOfItems (items done : List Json) (outer : List Place) :
    (tokensOfItems items).foldlM feed? (.arrayRest done :: outer) =
      some (.arrayRest (done ++ items) :: outer) := by
  match items with
  | [] => rw [List.append_nil]; rfl
  | item :: items =>
    have first := feed_tokens item (.arrayItem done) outer rfl
    rw [tokensOfItems, List.cons_append, feed_cons (.arrayItem done :: outer) rfl,
      feed_append _ first, feed_tokensOfItems items, List.append_assoc]
    rfl

theorem feed_tokensOfMembers (members done : List (List Nat × Json)) (outer : List Place) :
    (tokensOfMembers members).foldlM feed? (.objectRest done :: outer) =
      some (.objectRest (done ++ members) :: outer) := by
  match members with
  | [] => rw [List.append_nil]; rfl
  | (key, v) :: members =>
    have first := feed_tokens v (.objectValue done key) outer rfl
    rw [tokensOfMembers]
    simp only [List.cons_append]
    rw [feed_cons (.objectKey done :: outer) rfl,
      feed_cons (.objectColon done key :: outer) rfl,
      feed_cons (.objectValue done key :: outer) rfl, feed_append _ first,
      feed_tokensOfMembers members, List.append_assoc]
    rfl

end

theorem ofTokens?_tokens (v : Json) : ofTokens? v.tokens = some v := by
  rw [ofTokens?, feed_tokens v .document [] rfl]
  rfl

/-- A text that shows the tokens of a value is read as that value. -/
theorem parse?_of_laid {v : Json} {s : String} (laid : Laid v.tokens s.toList) :
    parse? s = some v := by
  rw [parse?, tokens?_of_laid laid]
  exact ofTokens?_tokens v

/-- A unit that can stand in a string. -/
def IsUnit (unit : Nat) : Prop := unit < 0x10000 ∨ unit.isValidChar

theorem toNat_of_charOfUnit? {unit : Nat} {c : Char} (stands : charOfUnit? unit = some c) :
    c.toNat = unit := by
  unfold charOfUnit? at stands
  split at stands
  · next valid =>
    cases stands
    exact Text.toNat_ofNat valid
  · cases stands

theorem escape_of_escapeOf? {unit : Nat} {letter : Char}
    (written : escapeOf? unit = some letter) : (letter, unit) ∈ escapes := by
  unfold escapeOf? at written
  split at written <;> cases written <;> simp [escapes]

theorem Spells.written {unit : Nat} {units : List Nat} {cs : List Char} (isUnit : IsUnit unit)
    (spells : Spells units cs) : Spells (unit :: units) (writtenUnit unit ++ cs) := by
  have digit (n : Nat) (small : n < 16) := Text.hexValue?_digitChar n small
  unfold writtenUnit
  cases escape : escapeOf? unit with
  | some letter => exact .escape (escape_of_escapeOf? escape) spells
  | none =>
    cases stands : charOfUnit? unit with
    | some c =>
      obtain rfl := toNat_of_charOfUnit? stands
      by_cases control : c.toNat < 0x20
      · have zero : Text.hexValue? '0' = some 0 := rfl
        have unit := Spells.unit zero zero (digit (c.toNat / 16) (by omega))
          (digit (c.toNat % 16) (by omega)) spells
        have sum : 0x1000 * 0 + 0x100 * 0 + 0x10 * (c.toNat / 16) + c.toNat % 16 = c.toNat := by
          omega
        rw [sum] at unit
        simp only [if_pos control]
        exact unit
      · simp only [if_neg control]
        refine .plain ?_ ?_ (Nat.not_lt.1 control) spells <;> rintro rfl <;> cases escape
    | none =>
      have small : unit < 0x10000 := by
        rcases isUnit with small | valid
        · exact small
        · rw [charOfUnit?, if_pos valid] at stands
          cases stands
      have spelled := Spells.unit (digit (unit / 4096 % 16) (by omega))
        (digit (unit / 256 % 16) (by omega)) (digit (unit / 16 % 16) (by omega))
        (digit (unit % 16) (by omega)) spells
      have sum : 0x1000 * (unit / 4096 % 16) + 0x100 * (unit / 256 % 16) +
          0x10 * (unit / 16 % 16) + unit % 16 = unit := by
        omega
      rw [sum] at spelled
      exact spelled

theorem spells_written {units : List Nat} (isUnits : ∀ unit ∈ units, IsUnit unit) :
    Spells units (units.flatMap writtenUnit) := by
  induction units with
  | nil => exact .nil
  | cons unit units ih =>
    rw [List.forall_mem_cons] at isUnits
    exact (ih isUnits.2).written isUnits.1

theorem Spells.isUnit {units : List Nat} {cs : List Char} (spells : Spells units cs) :
    ∀ unit ∈ units, IsUnit unit := by
  induction spells with
  | nil => nofun
  | @plain c _ _ _ _ _ _ ih => exact List.forall_mem_cons.2 ⟨.inr c.valid, ih⟩
  | escape escape _ ih =>
    have small : ∀ row ∈ escapes, row.2 < 0x10000 := by decide
    exact List.forall_mem_cons.2 ⟨.inl (small _ escape), ih⟩
  | unit first second third fourth _ ih =>
    have := (Text.hexValue?_eq_some_iff.1 first).1
    have := (Text.hexValue?_eq_some_iff.1 second).1
    have := (Text.hexValue?_eq_some_iff.1 third).1
    have := (Text.hexValue?_eq_some_iff.1 fourth).1
    exact List.forall_mem_cons.2 ⟨.inl (by omega), ih⟩

theorem Token.spelled_written {cs : List Char} (spelled : t.Spelled cs) : t.Spelled t.written := by
  cases t with
  | number literal => exact ⟨rfl, spelled.2⟩
  | string units =>
    obtain ⟨inside, spells, -⟩ := spelled
    exact ⟨_, spells_written spells.isUnit, rfl⟩
  | _ => rfl

theorem isUnit_of_text {units : List Nat} {s : String} (text : textOfUnits? units = some s) :
    ∀ unit ∈ units, IsUnit unit := by
  obtain ⟨cs, chars, -⟩ := Option.map_eq_some_iff.1 text
  have single {unit : Nat} {c : Char} (stands : charOfUnit? unit = some c) : IsUnit unit := by
    rw [← toNat_of_charOfUnit? stands]
    exact .inr c.valid
  clear text
  induction units using charsOfUnits?.induct generalizing cs with
  | case1 => nofun
  | case2 high low rest pair ih =>
    rw [charsOfUnits?, if_pos pair] at chars
    obtain ⟨c, -, chars⟩ := Option.bind_eq_some_iff.1 chars
    obtain ⟨others, read, -⟩ := Option.bind_eq_some_iff.1 chars
    simp only [isHighSurrogate, isLowSurrogate, Bool.and_eq_true, decide_eq_true_eq] at pair
    simp only [List.forall_mem_cons]
    exact ⟨.inl (by omega), .inl (by omega), ih others read⟩
  | case3 high low rest noPair ih =>
    rw [charsOfUnits?, if_neg noPair] at chars
    obtain ⟨c, stands, chars⟩ := Option.bind_eq_some_iff.1 chars
    obtain ⟨others, read, -⟩ := Option.bind_eq_some_iff.1 chars
    exact List.forall_mem_cons.2 ⟨single stands, ih others read⟩
  | case4 unit =>
    obtain ⟨c, stands, -⟩ := Option.map_eq_some_iff.1 chars
    exact List.forall_mem_singleton.2 (single stands)

theorem spelled_of_text {units : List Nat} {s : String} (text : textOfUnits? units = some s) :
    (Token.string units).Spelled (Token.string units).written :=
  ⟨_, spells_written (isUnit_of_text text), rfl⟩

theorem spelled_text (s : String) : (Token.string (unitsOfText s)).Spelled
    (Token.string (unitsOfText s)).written := spelled_of_text (textOfUnits?_unitsOfText s)

theorem head?_toDigits {n : Nat} (positive : 0 < n) : (Nat.toDigits 10 n).head? ≠ some '0' := by
  induction n using Nat.strongRecOn with
  | ind n ih =>
    rw [Nat.toDigits_eq_if (by decide)]
    split
    · next digit =>
      have small : ∀ d < 10, 0 < d → [Nat.digitChar d].head? ≠ some '0' := by decide
      exact small n digit positive
    · next long =>
      have first := ih (n / 10) (by omega) (by omega)
      obtain ⟨c, rest, digits⟩ := List.exists_cons_of_ne_nil (Nat.toDigits_ne_nil (n := n / 10))
      rw [digits] at first ⊢
      exact first

theorem isNumber_toDigits (n : Nat) : IsNumber (Nat.toDigits 10 n) := by
  refine ⟨[], Nat.toDigits 10 n, [], [], by simp, ?_, .inl rfl, .inl rfl, by simp⟩
  by_cases zero : n = 0
  · rw [zero]
    exact .inl rfl
  · have digits : ∀ c ∈ Nat.toDigits 10 n, c.isDigit = true := fun c member =>
      Nat.isDigit_of_mem_toDigits (by decide) (by decide) member
    exact .inr ⟨⟨Nat.toDigits_ne_nil, digits⟩, head?_toDigits (Nat.pos_of_ne_zero zero)⟩

theorem endsNumber_cons {t : Token} {cs : List Char}
    (ends : t ∈ [Token.comma, .closeArray, .closeObject]) : EndsNumber (t.written ++ cs) := by
  simp only [List.mem_cons, List.not_mem_nil, or_false] at ends
  rcases ends with rfl | rfl | rfl <;> rintro c ⟨⟩ <;> simp

theorem Laid.written {cs : List Char} (spelled : t.Spelled t.written)
    (ends : t.isNumber = true → EndsNumber cs) (laid : Laid ts cs) :
    Laid (t :: ts) (t.written ++ cs) :=
  @Laid.token _ _ [] _ _ nofun spelled ends laid

theorem Laid.string {units : List Nat} {inside cs : List Char} (spells : Spells units inside)
    (laid : Laid ts cs) : Laid (.string units :: ts) (('"' :: (inside ++ ['"'])) ++ cs) :=
  have spelled : (Token.string units).Spelled ('"' :: (inside ++ ['"'])) := ⟨inside, spells, rfl⟩
  @Laid.token _ _ [] _ _ nofun spelled nofun laid

theorem Laid.blank {blank cs : List Char} (isBlank : IsBlank blank) (laid : Laid ts cs) :
    Laid ts (blank ++ cs) := by
  cases laid with
  | done more => exact .done (List.forall_mem_append.2 ⟨isBlank, more⟩)
  | token more spelled ends laid =>
    rw [← List.append_assoc]
    exact .token (List.forall_mem_append.2 ⟨isBlank, more⟩) spelled ends laid

theorem Laid.mark {us : List Token} {cs : List Char} (spelled : t.Spelled t.written)
    (mark : t.isNumber = false) (laid : Laid us cs) : Laid (t :: us) (t.written ++ cs) :=
  .written spelled (fun number => by rw [mark] at number; cases number) laid

mutual

theorem laid_tokens (v : Json) (us : List Token) (cs : List Char)
    (spelled : ∀ t ∈ v.tokens, t.Spelled t.written) (ends : EndsNumber cs) (laid : Laid us cs) :
    Laid (v.tokens ++ us) (v.tokens.flatMap Token.written ++ cs) := by
  match v with
  | .null | .bool _ | .number _ | .string _ =>
    rw [tokens] at spelled ⊢
    rw [List.flatMap_singleton]
    exact .written (spelled _ (List.mem_singleton.2 rfl)) (fun _ => ends) laid
  | .array [] => exact .mark rfl rfl (.mark rfl rfl laid)
  | .array (item :: items) =>
    simp only [tokens, List.mem_cons, List.mem_append] at spelled
    have close : Laid (.closeArray :: us) (Token.closeArray.written ++ cs) := .mark rfl rfl laid
    have others := laid_tokensOfItems items _ _ (fun t member => spelled t (by simp [member]))
      (endsNumber_cons (by simp)) close
    have first := laid_tokens item _ _ (fun t member => spelled t (by simp [member])) others.1
      others.2
    have whole := Laid.mark (t := .openArray) rfl rfl first
    simpa [tokens, List.append_assoc] using whole
  | .object [] => exact .mark rfl rfl (.mark rfl rfl laid)
  | .object ((key, v) :: members) =>
    simp only [tokens, List.mem_cons, List.mem_append] at spelled
    have close : Laid (.closeObject :: us) (Token.closeObject.written ++ cs) := .mark rfl rfl laid
    have others := laid_tokensOfMembers members _ _ (fun t member => spelled t (by simp [member]))
      (endsNumber_cons (by simp)) close
    have first := laid_tokens v _ _ (fun t member => spelled t (by simp [member])) others.1
      others.2
    have member := Laid.mark (spelled (.string key) (by simp)) rfl
      (Laid.mark (t := .colon) rfl rfl first)
    have whole := Laid.mark (t := .openObject) rfl rfl member
    simpa [tokens, List.append_assoc] using whole

theorem laid_tokensOfItems (items : List Json) (us : List Token) (cs : List Char)
    (spelled : ∀ t ∈ tokensOfItems items, t.Spelled t.written) (ends : EndsNumber cs)
    (laid : Laid us cs) :
    EndsNumber ((tokensOfItems items).flatMap Token.written ++ cs) ∧
      Laid (tokensOfItems items ++ us) ((tokensOfItems items).flatMap Token.written ++ cs) := by
  match items with
  | [] => exact ⟨ends, laid⟩
  | item :: items =>
    simp only [tokensOfItems, List.mem_cons, List.mem_append] at spelled
    have others := laid_tokensOfItems items us cs (fun t member => spelled t (by simp [member]))
      ends laid
    have first := laid_tokens item _ _ (fun t member => spelled t (by simp [member])) others.1
      others.2
    have whole := Laid.mark (t := .comma) rfl rfl first
    rw [tokensOfItems, List.cons_append, List.flatMap_cons, List.append_assoc]
    refine ⟨endsNumber_cons (by simp), ?_⟩
    simpa [List.append_assoc] using whole

theorem laid_tokensOfMembers (members : List (List Nat × Json)) (us : List Token) (cs : List Char)
    (spelled : ∀ t ∈ tokensOfMembers members, t.Spelled t.written) (ends : EndsNumber cs)
    (laid : Laid us cs) :
    EndsNumber ((tokensOfMembers members).flatMap Token.written ++ cs) ∧
      Laid (tokensOfMembers members ++ us)
        ((tokensOfMembers members).flatMap Token.written ++ cs) := by
  match members with
  | [] => exact ⟨ends, laid⟩
  | (key, v) :: members =>
    simp only [tokensOfMembers, List.mem_cons, List.mem_append] at spelled
    have others := laid_tokensOfMembers members us cs
      (fun t member => spelled t (by simp [member])) ends laid
    have first := laid_tokens v _ _ (fun t member => spelled t (by simp [member])) others.1
      others.2
    have member := Laid.mark (spelled (.string key) (by simp)) rfl
      (Laid.mark (t := .colon) rfl rfl first)
    have whole := Laid.mark (t := .comma) rfl rfl member
    rw [tokensOfMembers]
    simp only [List.cons_append, List.flatMap_cons, List.append_assoc]
    refine ⟨endsNumber_cons (by simp), ?_⟩
    simpa [List.append_assoc] using whole

end

/-- Every token of the value can be spelled. -/
def Writable (v : Json) : Prop := ∀ t ∈ v.tokens, ∃ cs, t.Spelled cs

theorem laid_text {v : Json} (writable : v.Writable) : Laid v.tokens v.text.toList := by
  have nothing : EndsNumber [] := nofun
  have spelled : ∀ t ∈ v.tokens, t.Spelled t.written := fun t member =>
    (writable t member).elim fun _ => Token.spelled_written
  have laid := laid_tokens v [] [] spelled nothing (.done nofun)
  rw [List.append_nil, List.append_nil] at laid
  rwa [text, String.toList_ofList]

theorem writable_null : Writable .null := by simp [Writable, tokens, Token.Spelled]

theorem writable_bool (b : Bool) : (Json.bool b).Writable := by
  simp [Writable, tokens, Token.Spelled]

theorem writable_of_text? {v : Json} {s : String} (text : v.text? = some s) : v.Writable := by
  cases v with
  | string units =>
    simp only [Writable, tokens, List.forall_mem_singleton]
    exact ⟨_, spelled_of_text text⟩
  | _ => cases text

theorem writable_ofNat (n : Nat) : (ofNat n).Writable := by
  simp only [Writable, ofNat, tokens, List.forall_mem_singleton]
  exact ⟨_, rfl, isNumber_toDigits n⟩

theorem writable_array {items : List Json} (writable : ∀ item ∈ items, item.Writable) :
    (Json.array items).Writable := by
  have mark (t : Token) (mark : t.Spelled t.written) : ∃ cs, t.Spelled cs := ⟨_, mark⟩
  have others (items : List Json) (writable : ∀ item ∈ items, item.Writable) :
      ∀ t ∈ tokensOfItems items, ∃ cs, t.Spelled cs := by
    induction items with
    | nil => nofun
    | cons item items ih =>
      rw [List.forall_mem_cons] at writable
      simp only [tokensOfItems, List.cons_append, List.forall_mem_cons, List.forall_mem_append]
      exact ⟨mark .comma rfl, writable.1, ih writable.2⟩
  cases items with
  | nil => simp [Writable, tokens, Token.Spelled]
  | cons item items =>
    rw [List.forall_mem_cons] at writable
    simp only [Writable, tokens, List.cons_append, List.forall_mem_cons, List.forall_mem_append]
    exact ⟨mark .openArray rfl, ⟨writable.1, others items writable.2⟩, mark .closeArray rfl, nofun⟩

theorem writable_object {members : List (List Nat × Json)}
    (writable : ∀ member ∈ members,
      (∃ name, textOfUnits? member.1 = some name) ∧ member.2.Writable) :
    (Json.object members).Writable := by
  have mark (t : Token) (mark : t.Spelled t.written) : ∃ cs, t.Spelled cs := ⟨_, mark⟩
  have key {units : List Nat} (text : ∃ name, textOfUnits? units = some name) :
      ∃ cs, (Token.string units).Spelled cs := text.elim fun _ text => ⟨_, spelled_of_text text⟩
  have others (members : List (List Nat × Json))
      (writable : ∀ member ∈ members,
        (∃ name, textOfUnits? member.1 = some name) ∧ member.2.Writable) :
      ∀ t ∈ tokensOfMembers members, ∃ cs, t.Spelled cs := by
    induction members with
    | nil => nofun
    | cons member members ih =>
      rw [List.forall_mem_cons] at writable
      simp only [tokensOfMembers, List.cons_append, List.forall_mem_cons, List.forall_mem_append]
      exact ⟨mark .comma rfl, key writable.1.1, mark .colon rfl, writable.1.2, ih writable.2⟩
  cases members with
  | nil => simp [Writable, tokens, Token.Spelled]
  | cons member members =>
    rw [List.forall_mem_cons] at writable
    simp only [Writable, tokens, List.cons_append, List.forall_mem_cons, List.forall_mem_append]
    exact ⟨mark .openObject rfl, key writable.1.1, mark .colon rfl,
      ⟨writable.1.2, others members writable.2⟩, mark .closeObject rfl, nofun⟩

end PatternFs.Json
