import Mathlib.Data.List.Induction
import Mathlib.Data.List.TakeWhile
import PatternFs.Proofs.Catalog.Rules

/-! Every text has one path, and every path one text. The pieces of a text between its separators
settle both: the path has those pieces that are neither empty nor `.`, and whatever is asked of a
path, its text alone, read from the end, gives the same answer. -/
namespace PatternFs.Path

variable {s : String} {pieces : List String} {last : String}

/-- The pieces of a text between its separators. -/
structure Pieces (s : String) (pieces : List String) : Prop where
  any : pieces ≠ []
  whole : ∀ piece ∈ pieces, '/' ∉ piece.toList
  joined : "/".intercalate pieces = s

/-- The pieces that name something. -/
def kept (pieces : List String) : List String :=
  pieces.filter fun piece => piece ≠ "" ∧ piece ≠ "."

theorem pieces_splitOn (s : String) : Pieces s ((s.toList.splitOn '/').map String.ofList) where
  any := by simp [List.splitOn_ne_nil]
  whole piece member := by
    obtain ⟨chars, inside, rfl⟩ := List.mem_map.1 member
    simpa using Text.not_mem_of_mem_splitOn inside
  joined := by
    apply String.toList_inj.1
    simp [Function.comp_def]

theorem Pieces.eq_splitOn (split : Pieces s pieces) :
    pieces = (s.toList.splitOn '/').map String.ofList := by
  have apart : ∀ chars ∈ pieces.map String.toList, '/' ∉ chars := by
    intro chars member
    obtain ⟨piece, inside, rfl⟩ := List.mem_map.1 member
    exact split.whole piece inside
  have chars : s.toList = ['/'].intercalate (pieces.map String.toList) := by
    simp [← split.joined]
  have same : String.ofList ∘ String.toList = id := funext fun _ => String.ofList_toList
  rw [chars, List.splitOn_intercalate '/' apart (by simpa using split.any), List.map_map, same,
    List.map_id]

theorem Pieces.componentsOf (split : Pieces s pieces) : componentsOf s = kept pieces := by
  rw [Path.componentsOf, kept, split.eq_splitOn, List.filter_map]
  congr 1
  apply List.filter_congr
  intro chars _
  have dot : String.ofList chars = "." ↔ chars = ['.'] := String.ofList_inj
  simp [dot]

theorem intercalate_rooted {c : List String} (any : c ≠ []) :
    "/".intercalate ("" :: c) = String.join (c.map ("/" ++ ·)) := by
  induction c with
  | nil => exact absurd rfl any
  | cons first rest ih =>
    cases rest with
    | nil => simp
    | cons second rest => simpa [String.append_assoc] using ih (by simp)

theorem text_eq_join (p : Path) (any : p.components ≠ []) :
    p.text = String.join (p.components.map ("/" ++ ·)) := by
  rw [text, if_neg any]
  apply String.toList_inj.1
  simp [List.flatMap_map]

theorem pieces_text (p : Path) (any : p.components ≠ []) : Pieces p.text ("" :: p.components) where
  any := by simp
  whole piece member := by
    rcases List.mem_cons.1 member with rfl | component
    · simp
    · exact (p.valid piece component).2.2
  joined := by rw [intercalate_rooted any, text_eq_join p any]

theorem pieces_rootText : Pieces root.text ["", ""] where
  any := by simp
  whole := by simp
  joined := by decide

theorem eq_root_of_components {p : Path} (none : p.components = []) : p = root := Path.ext none

theorem kept_components (p : Path) : kept ("" :: p.components) = p.components := by
  have valid : ∀ c ∈ p.components, c ≠ "" ∧ c ≠ "." := fun c member =>
    ⟨(p.valid c member).1, (p.valid c member).2.1⟩
  simpa [kept] using valid

@[simp] theorem ofText_text (p : Path) : ofText p.text = p := by
  apply Path.ext
  by_cases none : p.components = []
  · rw [eq_root_of_components none, components_ofText, pieces_rootText.componentsOf]
    simp [kept]
  · rw [components_ofText, (pieces_text p none).componentsOf, kept_components]

theorem text_inj {p q : Path} : p.text = q.text ↔ p = q := by
  constructor
  · intro same
    rw [← ofText_text p, same, ofText_text]
  · rintro rfl
    rfl

/-- What stands after the last separator. -/
def afterLast (cs : List Char) : List Char := (cs.reverse.takeWhile (· != '/')).reverse

section Chars

variable {cs : List Char}

theorem bne_of_whole (whole : '/' ∉ cs) : ∀ c ∈ cs.reverse, (c != '/') = true := by
  intro c member
  simpa using ne_of_mem_of_not_mem (List.mem_reverse.1 member) whole

theorem afterLast_whole (whole : '/' ∉ cs) : afterLast cs = cs := by
  rw [afterLast, List.takeWhile_eq_self_iff.2 (bne_of_whole whole), List.reverse_reverse]

theorem afterLast_append (whole : '/' ∉ cs) (front : List Char) :
    afterLast (front ++ '/' :: cs) = cs := by
  simp [afterLast, List.takeWhile_append_of_pos (bne_of_whole whole)]

theorem lastSegment_closed (cs : List Char) : lastSegment (cs ++ ['/']) = lastSegment cs := by
  simp [lastSegment]

theorem lastSegment_open (any : cs ≠ []) (whole : '/' ∉ cs) (before : List Char) :
    lastSegment (before ++ cs) = afterLast (before ++ cs) := by
  cases cs using List.reverseRecOn with
  | nil => exact absurd rfl any
  | append_singleton cs c =>
    have other : ¬ c = '/' := fun same => whole (by simp [same])
    simp [lastSegment, afterLast, other]

theorem lastSegment_eq_nil_iff : lastSegment cs = [] ↔ cs.all (· == '/') = true := by
  induction cs using List.reverseRecOn with
  | nil => simp [lastSegment]
  | append_singleton cs c ih =>
    by_cases separator : c = '/'
    · subst separator
      simpa [lastSegment_closed] using ih
    · simp [lastSegment, separator]

end Chars

/-- Pieces come one by one, each after a separator. -/
@[elab_as_elim]
theorem Pieces.induction {motive : ∀ s pieces, Pieces s pieces → Prop}
    (single : ∀ (last : String) (whole : '/' ∉ last.toList),
      motive last [last] ⟨by simp, by simpa using whole, by simp⟩)
    (concat : ∀ s front (last : String) (split : Pieces s front)
      (split' : Pieces (s ++ "/" ++ last) (front ++ [last])) (_ : '/' ∉ last.toList),
      motive s front split → motive (s ++ "/" ++ last) (front ++ [last]) split')
    (s : String) (pieces : List String) (split : Pieces s pieces) : motive s pieces split := by
  induction pieces using List.reverseRecOn generalizing s with
  | nil => exact absurd rfl split.any
  | append_singleton front last ih =>
    have whole : '/' ∉ last.toList := split.whole last (by simp)
    by_cases more : front = []
    · subst more
      obtain rfl : last = s := by simpa using split.joined
      exact single last whole
    · have split' : Pieces ("/".intercalate front) front :=
        ⟨more, fun piece member => split.whole piece (List.mem_append_left _ member), rfl⟩
      obtain rfl : "/".intercalate front ++ "/" ++ last = s := by
        simpa [String.intercalate_append_of_ne_nil more] using split.joined
      exact concat _ front last split' split whole (ih _ split')

theorem Pieces.afterLast (split : Pieces s pieces) :
    afterLast s.toList = (pieces.getLast?.getD "").toList := by
  induction s, pieces, split using Pieces.induction with
  | single last whole => simpa using afterLast_whole whole
  | concat s front last _ _ whole => simpa using afterLast_append whole s.toList

theorem Pieces.count (split : Pieces s pieces) : s.toList.count '/' + 1 = pieces.length := by
  rw [split.eq_splitOn, List.length_map, Text.length_splitOn]

/-- The last piece that is not empty, if there is one. -/
def lastNamed? (pieces : List String) : Option String := (pieces.filter (· ≠ "")).getLast?

theorem lastNamed?_blank (front : List String) : lastNamed? (front ++ [""]) = lastNamed? front := by
  simp [lastNamed?]

theorem lastNamed?_named (named : last ≠ "") (front : List String) :
    lastNamed? (front ++ [last]) = some last := by
  simp [lastNamed?, named]

/-- What the scan from the end finds is the last piece that is not empty. -/
theorem Pieces.lastSegment (split : Pieces s pieces) :
    lastSegment s.toList = ((lastNamed? pieces).getD "").toList := by
  induction s, pieces, split using Pieces.induction with
  | single last whole =>
    by_cases named : last = ""
    · subst named
      rfl
    · have any : last.toList ≠ [] := by simpa using named
      rw [← List.nil_append [last], lastNamed?_named named, Option.getD_some]
      exact (lastSegment_open any whole []).trans (afterLast_whole whole)
  | concat s front last split _ whole ih =>
    by_cases named : last = ""
    · subst named
      have closed : (s ++ "/" ++ "").toList = s.toList ++ ['/'] := by simp
      rw [closed, lastSegment_closed, ih, lastNamed?_blank]
    · have any : last.toList ≠ [] := by simpa using named
      have ends : (s ++ "/" ++ last).toList = s.toList ++ ['/'] ++ last.toList := by simp
      rw [lastNamed?_named named, Option.getD_some, ends, lastSegment_open any whole]
      simpa using afterLast_append whole s.toList

theorem Pieces.all_separators (split : Pieces s pieces) :
    s.toList.all (· == '/') = true ↔ lastNamed? pieces = none := by
  rw [← lastSegment_eq_nil_iff, split.lastSegment]
  cases found : lastNamed? pieces with
  | none => simp
  | some last =>
    have named : last ≠ "" := by
      have member := List.mem_of_getLast? found
      simpa using (List.mem_filter.1 member).2
    simpa using named

theorem text_eq_root_iff (p : Path) : p.text = "/" ↔ p.components = [] := by
  constructor
  · intro same
    have rooted : p = root := text_inj.1 same
    exact rooted ▸ components_root
  · intro none
    rw [eq_root_of_components none]
    rfl

theorem count_text (p : Path) (any : p.components ≠ []) :
    p.text.toList.count '/' = p.components.length := by
  simpa using (pieces_text p any).count

theorem isTopLevel_iff_text (p : Path) :
    p.isTopLevel = true ↔ p.text ≠ "/" ∧ p.text.toList.count '/' = 1 := by
  by_cases none : p.components = []
  · simp [isTopLevel, (text_eq_root_iff p).2 none, none]
  · simp [isTopLevel, text_eq_root_iff, none, count_text p none]

theorem name_eq_afterLast (p : Path) : p.name.toList = afterLast p.text.toList := by
  by_cases none : p.components = []
  · rw [eq_root_of_components none]
    decide
  · rw [(pieces_text p none).afterLast, List.getLast?_cons_of_ne_nil none]
    rfl

/-- The name of a file that is stored. -/
def IsStored (name : String) : Prop := ∃ stem, name = stem ++ ".mhash" ∨ name = stem ++ ".mbinmap"

theorem isSuffixOf_iff {suffix name : String} :
    suffix.toList.isSuffixOf name.toList = true ↔ ∃ stem, name = stem ++ suffix := by
  rw [List.isSuffixOf_iff_suffix]
  constructor
  · rintro ⟨front, joined⟩
    exact ⟨String.ofList front, String.toList_inj.1 (by simp [joined])⟩
  · rintro ⟨stem, rfl⟩
    exact ⟨stem.toList, by simp⟩

theorem isDelegatedName_iff {name : String} :
    isDelegatedName name.toList = true ↔ IsStored name := by
  simp only [isDelegatedName, delegatedSuffixes, List.any_cons, List.any_nil, Bool.or_false,
    Bool.or_eq_true, isSuffixOf_iff, IsStored, exists_or]

/-- The class of a text whose last piece that is not empty is this one. -/
def nameClass : Option String → PathClass
  | none => .root
  | some name => if isDelegatedName name.toList then .delegated else .synthetic

theorem Pieces.classify (split : Pieces s pieces) :
    classify s = nameClass (lastNamed? pieces) := by
  rw [PatternFs.classify, split.lastSegment]
  cases found : lastNamed? pieces with
  | none => exact if_pos (split.all_separators.2 found)
  | some name =>
    rw [if_neg fun all => nomatch found ▸ split.all_separators.1 all]
    rfl

theorem lastNamed?_text (p : Path) : lastNamed? ("" :: p.components) = p.components.getLast? := by
  have named : ∀ c ∈ p.components, c ≠ "" := fun c member => (p.valid c member).1
  have all : p.components.filter (· ≠ "") = p.components := by simpa using named
  rw [lastNamed?, List.filter_cons_of_neg (by simp), all]

theorem classify_text (p : Path) : PatternFs.classify p.text = nameClass p.components.getLast? := by
  by_cases none : p.components = []
  · rw [eq_root_of_components none, pieces_rootText.classify]
    rfl
  · rw [(pieces_text p none).classify, lastNamed?_text]

/-- Only `.` makes a difference between the pieces that are not empty and those that are kept. -/
theorem lastNamed?_of_no_dot (plain : "." ∉ pieces) :
    lastNamed? pieces = (kept pieces).getLast? := by
  rw [lastNamed?, kept]
  congr 1
  apply List.filter_congr
  intro piece member
  simp [ne_of_mem_of_not_mem member plain]

theorem nameClass_root {name? : Option String} : nameClass name? = .root ↔ name? = none := by
  cases name? with
  | none => simp [nameClass]
  | some name => by_cases stored : isDelegatedName name.toList <;> simp [nameClass, stored]

theorem nameClass_delegated {name? : Option String} :
    nameClass name? = .delegated ↔ ∃ name ∈ name?, IsStored name := by
  cases name? with
  | none => simp [nameClass]
  | some name => simp [nameClass, ← isDelegatedName_iff]

theorem nameClass_synthetic {name? : Option String} :
    nameClass name? = .synthetic ↔ ∃ name ∈ name?, ¬ IsStored name := by
  cases name? with
  | none => simp [nameClass]
  | some name => simp [nameClass, ← isDelegatedName_iff]

/-- What is known of the path that a text with these pieces leads to. -/
structure Canonical (s : String) (pieces : List String) : Prop where
  text : (ofText s).text =
    if kept pieces = [] then "/" else String.join ((kept pieces).map ("/" ++ ·))
  again : ofText (ofText s).text = ofText s
  same : ∀ t others, Pieces t others →
    (ofText s = ofText t ↔ kept pieces = kept others) ∧
    ((ofText s).text = (ofText t).text ↔ kept pieces = kept others)
  isRoot : (ofText s).isRoot = true ↔ kept pieces = []
  isTopLevel : (ofText s).isTopLevel = true ↔ (kept pieces).length = 1
  name : (ofText s).name = (kept pieces).getLast?.getD ""
  child_name : (ofText s).isTopLevel = true → child (ofText s).name = ofText s
  /-- The text alone tells the same. -/
  isRoot_text : (ofText s).isRoot = true ↔ (ofText s).text = "/"
  isTopLevel_text : (ofText s).isTopLevel = true ↔
    (ofText s).text ≠ "/" ∧ (ofText s).text.toList.count '/' = 1
  name_text : (ofText s).name.toList = afterLast (ofText s).text.toList
  root : PatternFs.classify (ofText s).text = .root ↔ kept pieces = []
  delegated : PatternFs.classify (ofText s).text = .delegated ↔
    ∃ last ∈ (kept pieces).getLast?, IsStored last
  synthetic : PatternFs.classify (ofText s).text = .synthetic ↔
    ∃ last ∈ (kept pieces).getLast?, ¬ IsStored last
  raw : "." ∉ pieces → PatternFs.classify s = PatternFs.classify (ofText s).text

theorem Pieces.canonical (split : Pieces s pieces) : Canonical s pieces := by
  have components : (ofText s).components = kept pieces := split.componentsOf
  have same : ∀ t others, Pieces t others → (ofText s = ofText t ↔ kept pieces = kept others) :=
    fun t others split' => by rw [Path.ext_iff, components, components_ofText, split'.componentsOf]
  constructor
  case text =>
    by_cases none : kept pieces = []
    · rw [if_pos none]
      exact (text_eq_root_iff _).2 (components.trans none)
    · rw [if_neg none, ← components]
      exact text_eq_join _ (by rwa [components])
  case again => exact ofText_text _
  case same =>
    intro t others split'
    exact ⟨same t others split', text_inj.trans (same t others split')⟩
  case isRoot => rw [Path.isRoot, components, List.isEmpty_iff]
  case isTopLevel => rw [Path.isTopLevel, components, beq_iff_eq]
  case name => rw [Path.name, components]
  case child_name => exact child_name
  case isRoot_text => simp [isRoot, text_eq_root_iff]
  case isTopLevel_text => exact isTopLevel_iff_text _
  case name_text => exact name_eq_afterLast _
  case root => rw [classify_text, components, nameClass_root, List.getLast?_eq_none_iff]
  case delegated => rw [classify_text, components, nameClass_delegated]
  case synthetic => rw [classify_text, components, nameClass_synthetic]
  case raw =>
    intro plain
    rw [classify_text, components, split.classify, lastNamed?_of_no_dot plain]

/-- Every text has one list of pieces between its separators, and they settle its path: the pieces
that are neither empty nor `.`, each after a separator, are the path's text, which leads to the same
path again. Equal paths have equal pieces. Whether it is the root or a top level path, its name and
its class are read off the last of these pieces or the end of the text alike, and the class is that
of the given text too as long as no piece of that is a `.`. -/
theorem canonical_of_text (s : String) :
    ∃ pieces, (∀ others, Pieces s others ↔ others = pieces) ∧ Canonical s pieces := by
  refine ⟨(s.toList.splitOn '/').map String.ofList, fun others => ⟨Pieces.eq_splitOn, ?_⟩, ?_⟩
  · rintro rfl
    exact pieces_splitOn s
  · exact (pieces_splitOn s).canonical

/-- A `.` at the end is a name of its own for the text as it was given, and nothing for the path. -/
example : classify "//sub/x.mhash/." = .synthetic ∧
    (ofText "//sub/x.mhash/.").text = "/sub/x.mhash" ∧
    classify (ofText "//sub/x.mhash/.").text = .delegated := by decide

end PatternFs.Path
