import PatternFs.Path

/-! Which side of the mount serves a path. The last component decides: names with one of the stored
suffixes belong to real files in the backing directory, all others to files that exist only as a
pattern and a size. Only a text of nothing but separators is the root. -/
namespace PatternFs

inductive PathClass
  | root
  | delegated
  | synthetic
  deriving DecidableEq

/-- The class of a file; the root is no file. -/
inductive EntryClass
  | synthetic
  | delegated
  deriving DecidableEq

def PathClass.entryClass? : PathClass → Option EntryClass
  | .root => none
  | .delegated => some .delegated
  | .synthetic => some .synthetic

def delegatedSuffixes : List String := [".mhash", ".mbinmap"]

def isDelegatedName (name : List Char) : Bool :=
  delegatedSuffixes.any fun suffix => suffix.toList.isSuffixOf name

/-- What stands after the last separator that is not at the end of the text. -/
def lastSegment (cs : List Char) : List Char :=
  ((cs.reverse.dropWhile (· == '/')).takeWhile (· != '/')).reverse

def classify (s : String) : PathClass :=
  if s.toList.all (· == '/') then .root
  else if isDelegatedName (lastSegment s.toList) then .delegated
  else .synthetic

def Path.pathClass (p : Path) : PathClass := classify p.text

theorem Path.pathClass_eq_root {p : Path} : p.pathClass = .root ↔ p = .root := by
  have only : p.text.toList.all (· == '/') = true ↔ p = .root := by
    obtain ⟨components, valid⟩ := p
    cases components with
    | nil => simp [text, root]
    | cons c rest =>
      obtain ⟨named, -, whole⟩ := valid c List.mem_cons_self
      obtain ⟨x, member⟩ := List.exists_mem_of_ne_nil _ fun e => named (String.toList_inj.1 e)
      refine iff_of_false (fun all => ?_) (fun same => by cases same)
      have inside : x ∈ (text ⟨c :: rest, valid⟩).toList := by simp [text, member]
      have separator : x = '/' := by simpa using List.all_eq_true.1 all x inside
      exact whole (separator ▸ member)
  unfold pathClass classify
  rw [← only]
  split
  · next all => simpa using all
  · next some =>
    refine iff_of_false (fun isRoot => ?_) some
    split at isRoot <;> cases isRoot

def Path.entryClass? (p : Path) : Option EntryClass := p.pathClass.entryClass?

end PatternFs
