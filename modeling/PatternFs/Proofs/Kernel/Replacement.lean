import PatternFs.Proofs.Filesystem.Failures
import PatternFs.Proofs.Kernel.Reachable
import PatternFs.Proofs.Store.Plain

/-! What a rename replaces. The catalog refuses a new name that has an entry; a file that others
left in the backing directory has none, and the real rename puts the moved file in its place. -/
namespace PatternFs

namespace Store

variable {s : Store} {old new : String} {node : Node}

/-- The file can be found under some name. -/
def Named (s : Store) (id : Nat) : Prop := ∃ name, s.fileAt? name = some id

theorem named_iff {id : Nat} : s.Named id ↔ id ∈ s.names.values.filterMap Node.file? := by
  constructor
  · rintro ⟨name, found⟩
    obtain ⟨node, here, file⟩ := Option.bind_eq_some_iff.1 found
    refine List.mem_filterMap.2 ⟨node, ?_, file⟩
    exact List.mem_map.2 ⟨(name, node), Table.mem_rows_iff.2 here, rfl⟩
  · intro member
    obtain ⟨node, live, file⟩ := List.mem_filterMap.1 member
    obtain ⟨⟨name, _⟩, row, rfl⟩ := List.mem_map.1 live
    exact ⟨name, Option.bind_eq_some_iff.2 ⟨_, Table.mem_rows_iff.1 row, file⟩⟩

instance (s : Store) (id : Nat) : Decidable (s.Named id) := decidable_of_iff _ named_iff.symm

theorem lost_renamed (here : s.names.find? old = some node) (different : old ≠ new) (id : Nat) :
    (s.Named id ∧ ¬ (s.renamed old new node).Named id) ↔
      s.fileAt? new = some id ∧ ∀ name, s.fileAt? name = some id → name = new := by
  constructor
  · rintro ⟨⟨name, found⟩, lost⟩
    have only : ∀ other, s.fileAt? other = some id → other = new := by
      intro other found
      by_cases isNew : other = new
      · exact isNew
      · refine absurd ?_ lost
        by_cases isOld : other = old
        · exact ⟨new, by rw [fileAt?_renamed here, if_pos rfl, ← isOld, found]⟩
        · exact ⟨other, by rw [fileAt?_renamed here, if_neg isNew, if_neg isOld, found]⟩
    exact ⟨only name found ▸ found, only⟩
  · rintro ⟨found, only⟩
    refine ⟨⟨new, found⟩, ?_⟩
    rintro ⟨name, there⟩
    rw [fileAt?_renamed here] at there
    split at there
    · exact different (only old there)
    · next isOther =>
      split at there
      · cases there
      · exact isOther (only name there)

theorem find_unnamed (s : Store) (name other : String) :
    (s.unnamed name).find other =
      (s.find other).map fun node? => if other = name then none else node? := by
  have same : (s.unnamed name).names.find? other =
      if other = name then none else s.names.find? other := Table.find?_erase _ _ _
  have blocked : (s.unnamed name).blocked? = s.blocked? := rfl
  simp only [Store.find, blocked, same]
  by_cases unspeakable other = true
  · next hidden => rw [if_pos hidden, if_pos hidden]; rfl
  · next speakable =>
    rw [if_neg speakable, if_neg speakable]
    cases s.blocked? with
    | some e => rfl
    | none => simp only []; split <;> rfl

theorem rename_unnamed {id : Nat} (different : old ≠ new) (there : s.fileAt? new = some id)
    (noDirectory : ∀ inside, s.names.find? old ≠ some (.directory inside)) :
    (s.rename old new).1 = ((s.unnamed new).rename old new).1 := by
  have node : (s.unnamed new).node old = s.node old := by
    simp only [Store.node, find_unnamed, if_neg different]
    cases s.find old <;> rfl
  simp only [rename, node, find_unnamed, if_true]
  split
  · rfl
  · cases here : s.node old with
    | error e => rfl
    | ok moved =>
      cases found : s.find new with
      | error e => rfl
      | ok target? =>
        obtain rfl : some (Node.file id) = target? := by
          rw [← (find_ok.1 found).2, fileAt?_iff.1 there]
        have allowed : replaceError? moved (.file id) = none := by
          cases moved with
          | directory inside => exact absurd (node_iff.1 here).2 (noDirectory inside)
          | file | nullDevice => rfl
        simp only [Except.map, Option.bind_some, allowed, Option.bind_none]
        split <;> split <;> rfl

end Store

namespace Filesystem

variable {fs after : Filesystem} {old new : Path} {id : Nat}

theorem Sound.name_ne_free (sound : fs.Sound) {e : Entry} {kind : EntryClass}
    (found : fs.catalog.find? old = some e) (free : fs.catalog.find? new = none)
    (place : newFileClass new = .ok kind) : old.name ≠ new.name := by
  intro same
  have top := (newFileClass_ok.1 (sound.formed.place found)).2.1
  obtain rfl := Path.eq_of_name_eq top (newFileClass_ok.1 place).2.1 same
  cases found.symm.trans free

/-- The file loses the only name it has to the file of `old`. -/
def Replaces (fs : Filesystem) (old new : Path) (id : Nat) : Prop :=
  (∃ e, fs.catalog.find? old = some e ∧ e.kind = .delegated) ∧
    fs.store.fileAt? new.name = some id ∧ ∀ name, fs.store.fileAt? name = some id → name = new.name

theorem Transition.replaced (step : fs.Transition (.rename old new) (.ok .done) after)
    (sound : fs.Sound) :
    fs.catalog.find? new = none ∧ after.store.files = fs.store.files ∧
      ∀ id, (fs.store.Named id ∧ ¬ after.store.Named id) ↔ fs.Replaces old new id := by
  cases step with
  | looked looks => cases looks
  | renamedSynthetic found kind free _ =>
    refine ⟨free, rfl, fun id => iff_of_false (fun lost => lost.2 lost.1) ?_⟩
    rintro ⟨⟨e, here, delegated⟩, -⟩
    cases found.symm.trans here
    cases kind.symm.trans delegated
  | @renamedDelegated _ _ e _ node _ found kind free place _ here _ _ =>
    have different := sound.name_ne_free found free place
    have lost := Store.lost_renamed (Store.node_iff.1 here).2 different
    refine ⟨free, rfl, fun id => (lost id).trans ⟨fun only => ⟨⟨e, found, kind⟩, only⟩, ?_⟩⟩
    exact fun replaces => replaces.2
  | @renamedTwin _ _ _ _ id found _ free place _ here there =>
    have different := sound.name_ne_free found free place
    refine ⟨free, rfl, fun other => iff_of_false (fun lost => lost.2 lost.1) ?_⟩
    rintro ⟨-, there', only⟩
    -- The file has the old name too.
    cases there'.symm.trans (Store.node_file.1 there).2
    exact different (only _ (Store.node_file.1 here).2)

/-- Whether the file can be renamed does not depend on a file in the place. -/
theorem rename_unnamed (sound : fs.Sound) (there : fs.store.fileAt? new.name = some id)
    (noDirectory : ∀ inside, fs.store.names.find? old.name ≠ some (.directory inside)) :
    (fs.rename old new).1 =
      (Filesystem.rename { fs with store := fs.store.unnamed new.name } old new).1 := by
  unfold Filesystem.rename
  cases checked : fs.catalog.checkRename old new with
  | error f => rfl
  | ok kind =>
    obtain ⟨e, found, -, free, -⟩ := Catalog.checkRename_ok checked
    cases place : newFileClass new with
    | error f => rfl
    | ok kind' =>
      cases kind with
      | synthetic => rfl
      | delegated =>
        have different := sound.name_ne_free found free place
        have same := Store.rename_unnamed different there noDirectory
        simp only [realPath, onStore]
        cases Backing.realPath fs.backingDirectory old with
        | error f => rfl
        | ok real =>
          cases Backing.realPath fs.backingDirectory new with
          | error f => rfl
          | ok real' =>
            cases result : fs.store.rename old.name new.name with
            | mk r store =>
              cases result' : (fs.store.unnamed new.name).rename old.name new.name with
              | mk r' store' =>
                rw [result, result'] at same
                cases same
                cases r <;> rfl

end Filesystem

namespace Kernel.Session

variable {k : Session} {old new : Spot} {flags : Nat} {p q : Path} {reply : Reply}

theorem answer_rename (source : pathAt old = .ok p) (dest : pathAt new = .ok q) :
    k.answer (.rename old new flags) = k.rename p q flags := by
  simp only [answer, withPath, source, dest]

theorem answer_rename_ok (renamed : (k.answer (.rename old new flags)).1 = .ok reply) :
    ∃ p q, pathAt old = .ok p ∧ pathAt new = .ok q ∧ (flags = 0 ∨ flags = keepTargetFlag) ∧
      (k.fs.perform (.rename p q)).1 = .ok .done ∧
      (k.answer (.rename old new flags)).2.fs = (k.fs.perform (.rename p q)).2 := by
  cases source : pathAt old with
  | error d =>
    simp only [answer, withPath, source] at renamed
    cases renamed
  | ok p =>
    cases dest : pathAt new with
    | error d =>
      simp only [answer, withPath, source, dest] at renamed
      cases renamed
    | ok q =>
      rw [answer_rename source dest] at renamed ⊢
      unfold Session.rename at renamed ⊢
      split at renamed
      · cases renamed
      · next known =>
        rw [if_neg known]
        refine ⟨p, q, rfl, rfl, by omega, ?_⟩
        cases result : k.fs.rename p q with
        | mk r fs =>
          rw [result] at renamed
          cases r with
          | error f => cases renamed
          | ok _ =>
            simp only [Filesystem.perform, Filesystem.replied, result]
            exact ⟨rfl, rfl⟩

/-- A rename that works, also one that the kernel wants to replace nothing, takes the name from a
file that others left under the new one. Such a file has no say in the answer. -/
theorem replaced_of_renamed (reachable : k.Reachable) (old new : Spot) (flags : Nat) :
    let r := k.answer (.rename old new flags)
    (∀ reply, r.1 = .ok reply →
      ∃ p q, pathAt old = .ok p ∧ pathAt new = .ok q ∧ (flags = 0 ∨ flags = keepTargetFlag) ∧
        k.fs.catalog.find? q = none ∧ r.2.fs.store.files = k.fs.store.files ∧
        ∀ id, (k.fs.store.Named id ∧ ¬ r.2.fs.store.Named id) ↔ k.fs.Replaces p q id) ∧
      ∀ p q, pathAt old = .ok p → pathAt new = .ok q →
        (k.fs.store.fileAt? q.name).isSome →
        (∀ inside, k.fs.store.names.find? p.name ≠ some (.directory inside)) →
        let freed := { k.fs with store := k.fs.store.unnamed q.name }
        r.1 = (Session.answer { k with fs := freed } (.rename old new flags)).1 := by
  have reachable := reachable.filesystem
  refine ⟨fun reply renamed => ?_, fun p q source dest there noDirectory => ?_⟩
  · obtain ⟨p, q, source, dest, known, done, same⟩ := answer_rename_ok renamed
    have step := reachable.transition (.rename p q)
    rw [done] at step
    rw [same]
    exact ⟨p, q, source, dest, known, step.replaced reachable.sound⟩
  · intro freed
    obtain ⟨id, there⟩ := Option.isSome_iff_exists.1 there
    have same := Filesystem.rename_unnamed reachable.sound there noDirectory
    rw [answer_rename source dest, answer_rename source dest]
    unfold Session.rename
    split
    · rfl
    · simp only [after]
      rw [← same]
      cases (k.fs.rename p q).1 <;> rfl

/-- A file is renamed to a name that is free in both, and no file is lost. -/
theorem replaced_of_free_name :
    let a : Spot := ⟨InodeTable.rootNumber, [0x61, 0x2e, 0x6d, 0x68, 0x61, 0x73, 0x68]⟩
    let b : Spot := ⟨InodeTable.rootNumber, [0x62, 0x2e, 0x6d, 0x68, 0x61, 0x73, 0x68]⟩
    let k := execute [.create a 0o644 0o022 2] (start (.start "/d" .counter .empty))
    let r := k.answer (.rename a b keepTargetFlag)
    r.1.toOption.isSome ∧ ∀ id, k.fs.store.Named id → r.2.fs.store.Named id := by
  intro a b k r
  have reachable : k.Reachable := .answer _ (.start fitting "/d" .counter rfl)
  have renamed : r.1.toOption.isSome := by decide +kernel
  refine ⟨renamed, fun id named => ?_⟩
  cases answer : r.1 with
  | error d =>
    rw [answer] at renamed
    cases renamed
  | ok reply =>
    obtain ⟨p, q, -, dest, -, -, -, lost⟩ :=
      (replaced_of_renamed reachable a b keepTargetFlag).1 reply answer
    have free : (pathAt b).toOption.map (fun q => k.fs.store.fileAt? q.name) = some none := by
      decide +kernel
    by_cases kept : r.2.fs.store.Named id
    · exact kept
    · obtain ⟨-, there, -⟩ := (lost id).1 ⟨named, kept⟩
      rw [dest] at free
      cases there.symm.trans (Option.some.inj free)

/-- Others left a file under the name that a file is renamed to. -/
theorem replaced_despite_flag :
    let a : Spot := ⟨InodeTable.rootNumber, [0x61, 0x2e, 0x6d, 0x68, 0x61, 0x73, 0x68]⟩
    let b : Spot := ⟨InodeTable.rootNumber, [0x62, 0x2e, 0x6d, 0x68, 0x61, 0x73, 0x68]⟩
    let first := start (.start "/d" .counter .empty)
    let store := (first.fs.store.outside "b.mhash" (.write [0x6f, 0x6c, 0x64])).2
    let k := execute [.create a 0o644 0o022 2] { first with fs := { first.fs with store } }
    let r := k.answer (.rename a b keepTargetFlag)
    k.Reachable ∧ r.1.toOption.isSome ∧
      (k.fs.store.outsideRead "b.mhash").toOption = some [0x6f, 0x6c, 0x64] ∧
      (r.2.fs.store.outsideRead "b.mhash").toOption = some [] ∧
      k.fs.store.Named 0 ∧ ¬ r.2.fs.store.Named 0 := by
  intro a b first store k r
  have change := Store.outsideChange_outside first.fs.store "b.mhash" (.write [0x6f, 0x6c, 0x64])
  have reachable : k.Reachable := .answer _ (.outside (.start fitting "/d" .counter rfl) change)
  exact ⟨reachable, by decide +kernel⟩

end Kernel.Session

end PatternFs
