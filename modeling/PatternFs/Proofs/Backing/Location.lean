import PatternFs.Backing
import PatternFs.Proofs.Host.Lookup

/-! Where the real file of a path can be: right in the backing directory, under one name, whatever
the text is that the path was read from. -/
namespace PatternFs

theorem Path.name_valid (p : Path) : p.name = "" ∨ IsComponent p.name := by
  rw [Path.name]
  cases last : p.components.getLast? with
  | none => exact .inl rfl
  | some c => exact .inr (p.valid c (List.mem_of_getLast? last))

theorem Path.separator_not_mem_name (p : Path) : '/' ∉ p.name.toList := by
  rcases p.name_valid with root | component
  · simp [root]
  · exact component.2.2

namespace HostPath

variable {directory name : String}

/-- What stands between a directory and a name in it. -/
def separator (directory : String) : String :=
  if directory = "" ∨ directory.toList.getLast? = some '/' then "" else "/"

theorem isAbsolute_eq_false (whole : '/' ∉ name.toList) : isAbsolute name = false := by
  cases chars : name.toList with
  | nil => simp [isAbsolute, chars]
  | cons c _ =>
    rw [chars, List.mem_cons, not_or] at whole
    simpa [isAbsolute, chars] using Ne.symm whole.1

theorem join_eq (whole : '/' ∉ name.toList) :
    join directory name = directory ++ separator directory ++ name := by
  rw [join, separator, isAbsolute_eq_false whole]
  by_cases empty : directory = ""
  · simp [empty]
  · by_cases closed : directory.toList.getLast? = some '/' <;> simp [empty, closed]

theorem join_inj {name' : String} (whole : '/' ∉ name.toList) (whole' : '/' ∉ name'.toList) :
    join directory name = join directory name' ↔ name = name' := by
  rw [join_eq whole, join_eq whole', String.append_right_inj]

theorem isAbsolute_join (given : directory ≠ "") (whole : '/' ∉ name.toList) :
    isAbsolute (join directory name) = isAbsolute directory := by
  rw [join_eq whole, String.append_assoc, isAbsolute, isAbsolute, String.toList_append]
  cases chars : directory.toList with
  | nil => exact absurd (String.toList_eq_nil_iff.1 chars) given
  | cons c rest => rfl

theorem noNul_join (clean : '\x00' ∉ directory.toList) (whole : '/' ∉ name.toList)
    (noNul : '\x00' ∉ name.toList) : '\x00' ∉ (join directory name).toList := by
  have apart : '\x00' ∉ (separator directory).toList := by
    rw [separator]
    split <;> decide
  rw [join_eq whole]
  simp [clean, apart, noNul]

theorem segments_join (named : directory ≠ "") (whole : '/' ∉ name.toList) :
    ∃ front blank, (blank = [] ∨ blank = [""]) ∧
      (directory.toList.splitOn '/').map String.ofList = front ++ blank ∧
      ((join directory name).toList.splitOn '/').map String.ofList = front ++ [name] := by
  rw [join_eq whole, separator]
  by_cases closed : directory.toList.getLast? = some '/'
  · obtain ⟨front, chars⟩ := List.getLast?_eq_some_iff.1 closed
    refine ⟨(front.splitOn '/').map String.ofList, [""], .inr rfl, ?_, ?_⟩
    · rw [chars, List.splitOn_append_cons_self]
      simp
    · have joined : (directory ++ "" ++ name).toList = front ++ '/' :: name.toList := by
        simp [chars]
      rw [if_pos (.inr closed), joined, List.splitOn_append_cons_self,
        List.splitOn_eq_singleton whole]
      simp
  · refine ⟨(directory.toList.splitOn '/').map String.ofList, [], .inl rfl, by simp, ?_⟩
    have joined : (directory ++ "/" ++ name).toList = directory.toList ++ '/' :: name.toList := by
      simp
    rw [if_neg (not_or.2 ⟨named, closed⟩), joined, List.splitOn_append_cons_self,
      List.splitOn_eq_singleton whole]
    simp

end HostPath

namespace Host

variable {root t node : Tree} {links : Nat} {here names : List String} {name : String}

theorem at?_append (found : root.at? here = some t) (entry : t.child? name = some node) :
    root.at? (here ++ [name]) = some node := by
  induction here generalizing root with
  | nil =>
    obtain rfl : root = t := Option.some.inj found
    simp [Tree.at?, entry]
  | cons first rest ih =>
    obtain ⟨inner, step, found⟩ := Option.bind_eq_some_iff.1 found
    rw [List.cons_append, Tree.at?, step]
    exact ih found

theorem walk_blank {blank : List String} (last : blank = [] ∨ blank = [""])
    (arrives : walk root links here blank = .ok (.node names t)) :
    here = names ∧ root.at? names = some t := by
  cases found : root.at? here with
  | none =>
    rw [walk, found] at arrives
    cases arrives
  | some node =>
    have ended : walk root links here [] = .ok (.node names t) := by
      rcases last with rfl | rfl
      · exact arrives
      · by_cases inside : node.isDirectory = true
        · rwa [walk_filler found inside (.inl rfl)] at arrives
        · rw [walk, found] at arrives
          simp [inside] at arrives
    rw [walk_nil found] at ended
    cases ended
    exact ⟨rfl, found⟩

theorem locate_eq_ok {h : Host} {path : String} {place : Location}
    (found : h.locate path = .ok place) : '\x00' ∉ path.toList ∧ path ≠ "" ∧
      walk h.root linkLimit (if HostPath.isAbsolute path then [] else h.workingDirectory)
        ((path.toList.splitOn '/').map String.ofList) = .ok place := by
  rw [locate] at found
  split at found
  · cases found
  next clean =>
    split at found
    · cases found
    next given =>
      split at found
      · cases found
      · exact ⟨by simpa using clean, given, found⟩

theorem locate_eq_walk {h : Host} {path : String} (clean : '\x00' ∉ path.toList)
    (given : path ≠ "") (fits : path.utf8ByteSize < pathLimit) :
    h.locate path =
      walk h.root linkLimit (if HostPath.isAbsolute path then [] else h.workingDirectory)
        ((path.toList.splitOn '/').map String.ofList) := by
  rw [locate, if_neg (by simpa using clean), if_neg given, if_neg (Nat.not_le.2 fits)]

/-- Below a directory that is found, a name leads to the directory's own entry of that name, or to
the place for it. -/
theorem locate_join {h : Host} {directory : String}
    (found : h.lookup directory = .ok (names, t)) (inside : t.isDirectory = true)
    (whole : '/' ∉ name.toList) (noNul : '\x00' ∉ name.toList)
    (named : ¬ (name = "" ∨ name = ".")) (noParent : name ≠ "..")
    (short : ¬ name.utf8ByteSize > nameLimit)
    (fits : (HostPath.join directory name).utf8ByteSize < pathLimit) :
    (t.child? name = none → h.locate (HostPath.join directory name) = .ok (.absent names name)) ∧
    ∀ node, t.child? name = some node → (∀ target, node ≠ .link target) →
      h.locate (HostPath.join directory name) = .ok (.node (names ++ [name]) node) := by
  have located : h.locate directory = .ok (.node names t) := by
    rw [lookup] at found
    split at found <;> cases found
    assumption
  obtain ⟨clean, given, segments⟩ := locate_eq_ok located
  obtain ⟨front, blank, last, pieces, joined⟩ := HostPath.segments_join given whole
  rw [pieces] at segments
  obtain ⟨links, middle, leads, ends⟩ := walk_append segments
  obtain ⟨rfl, found⟩ := walk_blank last ends
  have given' : HostPath.join directory name ≠ "" := by
    rw [HostPath.join_eq whole]
    simp [given]
  have onward : h.locate (HostPath.join directory name) = walk h.root links middle [name] := by
    rw [locate_eq_walk (HostPath.noNul_join clean whole noNul) given' fits, joined,
      HostPath.isAbsolute_join given whole]
    exact leads [name]
  rw [onward]
  refine ⟨fun vacant => walk_vacant found inside vacant named noParent short, ?_⟩
  intro node entry apart
  rw [walk_child found entry apart named noParent short, walk_nil (at?_append found entry)]

end Host

namespace Backing

/-- The texts that name nothing, the directory itself or the one above it name no file. -/
def IsFileName (name : String) : Prop := ¬ (name = "" ∨ name = "." ∨ name = "..")
  deriving Decidable

variable {directory real : String} {path : Path}

theorem realPath_noFileName (other : ¬ IsFileName path.name) :
    realPath directory path = .error (.invalidPath path .notAFileName) :=
  if_pos (Decidable.not_not.1 other)

theorem realPath_longName (named : IsFileName path.name)
    (long : nameLimit < path.name.utf8ByteSize) :
    realPath directory path =
      .error (.pathTooLong path.text path.name.utf8ByteSize nameLimit) := by
  rw [realPath, if_neg named, if_pos long]

theorem realPath_longPath (named : IsFileName path.name)
    (short : path.name.utf8ByteSize ≤ nameLimit)
    (long : pathLimit ≤ (HostPath.join directory path.name).utf8ByteSize) :
    realPath directory path = .error (.pathTooLong (HostPath.join directory path.name)
      (HostPath.join directory path.name).utf8ByteSize pathLimit) := by
  rw [realPath, if_neg named, if_neg (Nat.not_lt.2 short)]
  exact if_pos long

theorem realPath_short (named : IsFileName path.name)
    (short : path.name.utf8ByteSize ≤ nameLimit)
    (fits : (HostPath.join directory path.name).utf8ByteSize < pathLimit) :
    realPath directory path = .ok (HostPath.join directory path.name) := by
  rw [realPath, if_neg named, if_neg (Nat.not_lt.2 short)]
  exact if_neg (Nat.not_le.2 fits)

theorem realPath_eq_ok_iff : realPath directory path = .ok real ↔
    real = HostPath.join directory path.name ∧ IsFileName path.name ∧
      path.name.utf8ByteSize ≤ nameLimit ∧
      (HostPath.join directory path.name).utf8ByteSize < pathLimit := by
  constructor
  · intro found
    by_cases named : IsFileName path.name
    · rcases Nat.lt_or_ge nameLimit path.name.utf8ByteSize with long | short
      · rw [realPath_longName named long] at found
        cases found
      · rcases Nat.lt_or_ge (HostPath.join directory path.name).utf8ByteSize pathLimit with
          fits | long
        · rw [realPath_short named short fits] at found
          cases found
          exact ⟨rfl, named, short, fits⟩
        · rw [realPath_longPath named short long] at found
          cases found
    · rw [realPath_noFileName named] at found
      cases found
  · rintro ⟨rfl, named, short, fits⟩
    exact realPath_short named short fits

/-- What is known of the real path that `path` has in `directory`. -/
structure Confined (directory : String) (path : Path) : Prop where
  accepted : ∀ real, realPath directory path = .ok real ↔
    real = HostPath.join directory path.name ∧ IsFileName path.name ∧
      path.name.utf8ByteSize ≤ 255 ∧ (HostPath.join directory path.name).utf8ByteSize < 4096
  noFileName : ¬ IsFileName path.name →
    realPath directory path = .error (.invalidArgument path.text .notAFileName)
  longName : IsFileName path.name → 255 < path.name.utf8ByteSize →
    realPath directory path = .error (.pathTooLong path.text path.name.utf8ByteSize 255)
  longPath : IsFileName path.name → path.name.utf8ByteSize ≤ 255 →
    4096 ≤ (HostPath.join directory path.name).utf8ByteSize →
    realPath directory path = .error (.pathTooLong (HostPath.join directory path.name)
      (HostPath.join directory path.name).utf8ByteSize 4096)
  /-- The text is that of the directory and one name, which is no path of its own. -/
  joined : HostPath.join directory path.name =
    directory ++ HostPath.separator directory ++ path.name
  whole : '/' ∉ path.name.toList
  /-- Whatever a host has, and by whatever links and detours the text of the directory leads to
  it, the real path leads to what the directory itself has under the name. -/
  child : ∀ (h : Host) names t real, h.lookup directory = .ok (names, t) → t.isDirectory = true →
    realPath directory path = .ok real → '\x00' ∉ path.name.toList →
    (t.child? path.name = none → h.locate real = .ok (.absent names path.name)) ∧
    ∀ node, t.child? path.name = some node → (∀ target, node ≠ .link target) →
      h.locate real = .ok (.node (names ++ [path.name]) node)

theorem confined (directory : String) (path : Path) : Confined directory path where
  accepted _ := realPath_eq_ok_iff
  noFileName := realPath_noFileName
  longName := realPath_longName
  longPath := realPath_longPath
  joined := HostPath.join_eq path.separator_not_mem_name
  whole := path.separator_not_mem_name
  child h names t real found inside accepted noNul := by
    obtain ⟨rfl, named, short, fits⟩ := realPath_eq_ok_iff.1 accepted
    obtain ⟨given, notDot, noParent⟩ : path.name ≠ "" ∧ path.name ≠ "." ∧ path.name ≠ ".." := by
      simpa [IsFileName] using named
    exact Host.locate_join found inside path.separator_not_mem_name noNul
      (not_or.2 ⟨given, notDot⟩) noParent (Nat.not_lt.2 short) fits

/-- Every path text has its real file right in the backing directory, under the text's last
component, or has none; and no two names share one. -/
theorem realPath_confined (directory raw raw' : String) :
    Confined directory (.ofText raw) ∧
    ∀ real real', realPath directory (.ofText raw) = .ok real →
      realPath directory (.ofText raw') = .ok real' →
      (real = real' ↔ (Path.ofText raw).name = (Path.ofText raw').name) := by
  refine ⟨confined directory _, fun real real' accepted accepted' => ?_⟩
  obtain ⟨rfl, -⟩ := realPath_eq_ok_iff.1 accepted
  obtain ⟨rfl, -⟩ := realPath_eq_ok_iff.1 accepted'
  exact HostPath.join_inj (Path.separator_not_mem_name _) (Path.separator_not_mem_name _)

/-- The directory is given with a separator at its end, the path leads through fillers and another
directory. -/
theorem realPath_of_detour :
    realPath "/d/" (.ofText "//sub/./x.mhash/") = .ok "/d/x.mhash" ∧
    (⟨.directory [("d", .directory [])], []⟩ : Host).locate "/d/x.mhash" =
      .ok (.absent ["d"] "x.mhash") ∧
    realPath "/d/" (.ofText "/..") = .error (.invalidArgument "/.." .notAFileName) := by
  have known := (realPath_confined "/d/" "//sub/./x.mhash/" "").1
  have name : (Path.ofText "//sub/./x.mhash/").name = "x.mhash" := by decide
  have accepted : realPath "/d/" (.ofText "//sub/./x.mhash/") = .ok "/d/x.mhash" := by
    rw [known.accepted, name]
    decide
  have located : (⟨.directory [("d", .directory [])], []⟩ : Host).locate "/d/" =
      .ok (.node ["d"] (.directory [])) := by
    have segments : ("/d/".toList.splitOn '/').map String.ofList = ["", "d", ""] := by decide
    rw [Host.locate_eq_walk (by decide) (by decide) (by decide), segments, if_pos (by decide),
      Host.walk_filler rfl rfl (.inl rfl),
      Host.walk_child rfl rfl (by nofun) (by decide) (by decide) (by decide),
      Host.walk_filler rfl rfl (.inl rfl), Host.walk_nil rfl]
    rfl
  have found : (⟨.directory [("d", .directory [])], []⟩ : Host).lookup "/d/" =
      .ok (["d"], .directory []) := by
    rw [Host.lookup, located]
  have child := known.child _ _ _ _ found rfl accepted (by rw [name]; decide)
  rw [name] at child
  exact ⟨accepted, child.1 rfl, (realPath_confined "/d/" "/.." "").1.noFileName (by decide)⟩

end Backing

end PatternFs
