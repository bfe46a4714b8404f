import PatternFs.Host
import PatternFs.Path

/-! How a path is looked up, one segment after the other, and what is read from files: those right
below the root, which are found by their names, and those that hold a text. -/
namespace PatternFs

namespace Host

variable {root t : Tree} {links : Nat} {here rest : List String} {name : String}

theorem walk_nil (found : root.at? here = some t) :
    walk root links here [] = .ok (.node here t) := by
  rw [walk, found]

/-- A segment that names nothing leads nowhere, as the one between repeated separators. -/
theorem walk_filler (found : root.at? here = some t) (directory : t.isDirectory = true)
    (filler : name = "" ∨ name = ".") :
    walk root links here (name :: rest) = walk root links here rest := by
  rw [walk, found]
  simp [directory, filler]

theorem walk_parent (found : root.at? here = some t) (directory : t.isDirectory = true) :
    walk root links here (".." :: rest) = walk root links here.dropLast rest := by
  rw [walk, found]
  simp [directory]

theorem isDirectory_of_child? {child : Tree} (found : t.child? name = some child) :
    t.isDirectory = true := by
  cases t with
  | directory => rfl
  | file | link => cases found

theorem walk_child {child : Tree} (found : root.at? here = some t)
    (entry : t.child? name = some child) (apart : ∀ target, child ≠ .link target)
    (named : ¬ (name = "" ∨ name = ".")) (noParent : name ≠ "..")
    (short : ¬ name.utf8ByteSize > nameLimit) :
    walk root links here (name :: rest) = walk root links (here ++ [name]) rest := by
  rw [walk, found]
  simp only [isDirectory_of_child? entry, not_true_eq_false, if_false, named, noParent, short,
    entry]

theorem walk_link {target : String} (found : root.at? here = some t)
    (entry : t.child? name = some (.link target)) (led : target ≠ "")
    (named : ¬ (name = "" ∨ name = ".")) (noParent : name ≠ "..")
    (short : ¬ name.utf8ByteSize > nameLimit) :
    walk root (links + 1) here (name :: rest) =
      walk root links (if HostPath.isAbsolute target then [] else here)
        ((target.toList.splitOn '/').map String.ofList ++ rest) := by
  rw [walk, found]
  simp only [isDirectory_of_child? entry, not_true_eq_false, if_false, named, noParent, short,
    entry, led]

theorem walk_vacant (found : root.at? here = some t) (directory : t.isDirectory = true)
    (vacant : t.child? name = none)
    (named : ¬ (name = "" ∨ name = ".")) (noParent : name ≠ "..")
    (short : ¬ name.utf8ByteSize > nameLimit) :
    walk root links here [name] = .ok (.absent here name) := by
  rw [walk, found]
  simp only [directory, not_true_eq_false, if_false, named, noParent, short, vacant, if_true]

/-- Whatever comes after `segments` is looked up in `middle`, with `links'` more links to take. -/
def Leads (root : Tree) (links : Nat) (here segments : List String) (links' : Nat)
    (middle : List String) : Prop :=
  ∀ rest, walk root links here (segments ++ rest) = walk root links' middle rest

section Parts

variable {links₁ : Nat} {here₁ segments segments₁ more names : List String}

theorem Leads.onward
    (moves : ∀ rest, walk root links here (segments ++ rest) =
      walk root links₁ here₁ (segments₁ ++ rest))
    (arrives : walk root links here (segments ++ more) = .ok (.node names t))
    (ih : walk root links₁ here₁ (segments₁ ++ more) = .ok (.node names t) →
      ∃ links' middle, Leads root links₁ here₁ segments₁ links' middle ∧
        walk root links' middle more = .ok (.node names t)) :
    ∃ links' middle, Leads root links here segments links' middle ∧
      walk root links' middle more = .ok (.node names t) := by
  obtain ⟨links', middle, leads, ends⟩ := ih (moves more ▸ arrives)
  exact ⟨links', middle, fun rest => (moves rest).trans (leads rest), ends⟩

/-- A lookup that ends at a node comes through a node between any two parts of its segments. -/
theorem walk_append (arrives : walk root links here (segments ++ more) = .ok (.node names t)) :
    ∃ links' middle, Leads root links here segments links' middle ∧
      walk root links' middle more = .ok (.node names t) := by
  fun_induction walk root links here segments with
  | case2 links here => exact ⟨links, here, fun _ => rfl, arrives⟩
  | case4 _ _ _ found _ _ inside filler ih =>
    exact Leads.onward (fun _ => walk_filler found (Decidable.not_not.1 inside) filler) arrives ih
  | case5 _ _ _ found _ inside _ ih =>
    exact Leads.onward (fun _ => walk_parent found (Decidable.not_not.1 inside)) arrives ih
  | case11 _ _ found _ _ _ named noParent short _ entry _ led ih =>
    refine Leads.onward (fun rest => ?_) arrives ih
    rw [List.cons_append, walk_link found entry led named noParent short, List.append_assoc,
      dite_eq_ite]
  | case12 _ _ _ found _ _ _ named noParent short _ apart entry ih =>
    exact Leads.onward (fun _ => walk_child found entry apart named noParent short) arrives ih
  | _ =>
    -- Nowhere to start, or a first segment that ends the lookup.
    unfold walk at arrives
    grind

end Parts

theorem pieces_top (component : IsComponent name) :
    (("/" ++ name).toList.splitOn '/').map String.ofList = ["", name] := by
  rw [String.toList_append]
  change (('/' :: name.toList).splitOn '/').map String.ofList = _
  rw [List.splitOn_cons_eq_if_modifyHead, if_pos (by simp),
    List.splitOn_eq_singleton component.2.2]
  simp

theorem readBytes_top {h : Host} {content : Content}
    (file : h.root.child? name = some (.file content)) (component : IsComponent name)
    (noParent : name ≠ "..") (noNul : '\x00' ∉ name.toList)
    (short : name.utf8ByteSize ≤ nameLimit) : h.readBytes ("/" ++ name) = .ok content.bytes := by
  have top : h.root.at? [] = some h.root := rfl
  have inside : h.root.at? [name] = some (.file content) := by
    rw [Tree.at?, file]
    rfl
  have named : ¬ (name = "" ∨ name = ".") := not_or.2 ⟨component.1, component.2.1⟩
  have located : h.locate ("/" ++ name) = .ok (.node [name] (.file content)) := by
    have clean : ("/" ++ name).toList.contains '\x00' = false := by
      simpa using noNul
    have bounded : ¬ ("/" ++ name).utf8ByteSize ≥ pathLimit := by
      have size : ("/" ++ name).utf8ByteSize = 1 + name.utf8ByteSize := by
        rw [String.utf8ByteSize_append]
        rfl
      rw [size, pathLimit]
      rw [nameLimit] at short
      omega
    have absolute : HostPath.isAbsolute ("/" ++ name) = true := by
      simp [HostPath.isAbsolute]
    rw [locate, clean, if_neg Bool.false_ne_true, if_neg (by simp), if_neg bounded,
      if_pos absolute, pieces_top component,
      walk_filler top (isDirectory_of_child? file) (.inl rfl),
      walk_child top file (fun _ => nofun) named noParent (Nat.not_lt.2 short)]
    exact walk_nil inside
  rw [readBytes, lookup, located]

theorem readText_of_bytes {h : Host} {path s : String}
    (bytes : h.readBytes path = .ok s.toUTF8.data.toList) : h.readText path = .ok s := by
  have whole : String.fromUTF8? ⟨s.toUTF8.data.toList.toArray⟩ = some s := dif_pos s.isValidUTF8
  rw [readText, bytes]
  simp only [whole]

end Host

end PatternFs
