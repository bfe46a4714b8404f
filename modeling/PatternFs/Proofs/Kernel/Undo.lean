import PatternFs.Proofs.Filesystem.Moved
import PatternFs.Proofs.Kernel.Numbers
import PatternFs.Proofs.Kernel.Replacement

/-! A rename and the way back. The entries, the inode table and the backing directory are moved one
after the other, each by rules of its own; what they have in common afterwards is that the file is
under the new path, and that the same rules allow it to go back. -/
namespace PatternFs

namespace InodeTable

variable {t after again : InodeTable} {old new : Path} {moved : Nat}

/-- The number `moved` stands for `new` and no longer for `old`. -/
structure Moved (t : InodeTable) (old new : Path) (moved : Nat) (after : InodeTable) : Prop where
  paths : ∀ number, after.path? number = if number = moved then some new else t.path? number
  numbers : Table.Moved id old new t.numbers after.numbers
  next : after.next = t.next

structure Restored (t again : InodeTable) : Prop where
  paths : ∀ number, again.path? number = t.path? number
  numbers : ∀ path, again.number? path = t.number? path
  next : again.next = t.next

theorem moved_rename (known : t.number? old = some moved) (free : t.number? new = none) :
    t.Moved old new moved (t.rename old new) := by
  have different : old ≠ new := by
    rintro rfl
    cases free.symm.trans known
  have kept : t.drop new = t := by rw [drop, free]
  rw [rename_known known different, kept]
  exact ⟨fun number => Table.find?_insert _ _ _ _, Table.moved_insert known, rfl⟩

theorem Moved.restored (away : t.Moved old new moved after) (home : after.Moved new old moved again)
    (here : t.path? moved = some old) (known : t.number? old = some moved)
    (free : t.number? new = none) : t.Restored again where
  paths number := by
    rw [home.paths, away.paths]
    split
    · next same => rw [same, here]
    · rfl
  numbers := Table.Moved.undone away.numbers home.numbers known free rfl
  next := home.next.trans away.next

end InodeTable

namespace Kernel.Session

variable {k after : Session} {p q : Path} {e : Entry} {number flags : Nat} {past : History}

/-- The file can be moved, and its number with it. -/
structure Movable (k : Session) (p q : Path) (e : Entry) (number : Nat) : Prop where
  fs : k.fs.Movable p q e
  here : k.inodes.path? number = some p
  known : k.inodes.number? p = some number
  free : k.inodes.number? q = none

/-- One file has moved, and its number with it; all else is as it was. -/
structure Moved (k : Session) (p q : Path) (e : Entry) (number : Nat) (after : Session) :
    Prop where
  fs : k.fs.Moved p q e after.fs
  inodes : k.inodes.Moved p q number after.inodes

structure Restored (k again : Session) : Prop where
  fs : k.fs.Restored again.fs
  inodes : k.inodes.Restored again.inodes

theorem answer_read_alike {path path' : Path} {inode length : Nat} (offset : Int)
    (before : k.inodes.path? inode = some path) (now : after.inodes.path? inode = some path')
    (same : ∀ offset, (after.fs.read path' offset length).1 = (k.fs.read path offset length).1) :
    (after.answer (.read inode offset length)).1 = (k.answer (.read inode offset length)).1 := by
  simp only [answer, Session.read]
  cases position offset with
  | error d => rfl
  | ok offset =>
    simp only [withPath, resolve, before, now, Session.after, same]
    cases (k.fs.read path offset length).1 <;> rfl

namespace Movable

theorem rename (movable : k.Movable p q e number) (allowed : flags = 0 ∨ flags = keepTargetFlag) :
    ∃ after, k.rename p q flags = (.ok .done, after) ∧ k.Moved p q e number after := by
  obtain ⟨fs, renamed, moved⟩ := movable.fs.rename
  refine ⟨{ k with fs, inodes := k.inodes.rename p q }, ?_, moved,
    InodeTable.moved_rename movable.known movable.free⟩
  have known : ¬ (flags ≠ 0 ∧ flags ≠ keepTargetFlag) := by omega
  rw [Session.rename, if_neg known, renamed]
  rfl

theorem back (movable : k.Movable p q e number) (moved : k.Moved p q e number after) :
    after.Movable q p { e with path := q } number where
  fs := movable.fs.back moved.fs
  here := by rw [moved.inodes.paths, if_pos rfl]
  known := moved.inodes.numbers.at_new movable.known
  free := moved.inodes.numbers.at_old movable.fs.different

theorem read (movable : k.Movable p q e number) (moved : k.Moved p q e number after)
    (sound : k.Sound) (inode : Nat) (offset : Int) (length : Nat) :
    (after.answer (.read inode offset length)).1 = (k.answer (.read inode offset length)).1 := by
  have now := moved.inodes.paths inode
  by_cases same : inode = number
  · rw [if_pos same] at now
    have before : k.inodes.path? inode = some p := by rw [same, movable.here]
    exact answer_read_alike offset before now fun offset =>
      movable.fs.read_new moved.fs offset length
  · rw [if_neg same] at now
    cases before : k.inodes.path? inode with
    | none =>
      simp only [answer, Session.read, withPath, resolve, now, before]
      cases position offset <;> rfl
    | some path =>
      have known := (sound.coherent.inverse inode path).1 before
      have notOld : path ≠ p := by
        rintro rfl
        exact same (Option.some.inj (known.symm.trans movable.known))
      have notNew : path ≠ q := by
        rintro rfl
        cases movable.free.symm.trans known
      exact answer_read_alike offset before (now.trans before) fun offset =>
        movable.fs.read_other moved.fs sound.fs notOld notNew offset length

end Movable

/-- What is renamed could be moved, if no real file had the new name. -/
theorem Live.movable (live : k.Live) (renamed : (k.fs.perform (.rename p q)).1 = .ok .done)
    (free : ∀ e, k.fs.catalog.find? p = some e → e.kind = .delegated →
      k.fs.store.names.find? q.name = none) : ∃ e number, k.Movable p q e number := by
  have done : (k.fs.rename p q).1 = .ok () := by
    simp only [Filesystem.perform, Filesystem.replied] at renamed
    cases result : (k.fs.rename p q).1 with
    | error f =>
      rw [result] at renamed
      cases renamed
    | ok _ => rfl
  obtain ⟨e, movable⟩ := live.fs.movable done free
  obtain ⟨number, known⟩ := live.numbered p _ (Filesystem.ids_of_find? movable.found)
  have vacant := Filesystem.ids_eq_none.2 movable.free
  exact ⟨e, number, movable, (live.coherent.inverse number p).2 known, known,
    live.number?_vacant (Filesystem.ne_root_of_place movable.target) vacant⟩

/-- A rename that works moves one file and nothing else, unless it replaces a file that others
left. The file keeps its entry and its inode number, a delegated one its real file, and each number
is read as before. The way back works, and leads back to where the rename began. -/
theorem undone_of_renamed (mounted : Mounted past k) {old new : Spot} {flags : Nat} {reply : Reply}
    (renamed : (k.answer (.rename old new flags)).1 = .ok reply)
    (free : ∀ p q e, pathAt old = .ok p → pathAt new = .ok q → k.fs.catalog.find? p = some e →
      e.kind = .delegated → k.fs.store.names.find? q.name = none) :
    let after := (k.answer (.rename old new flags)).2
    ∃ p q e number, pathAt old = .ok p ∧ pathAt new = .ok q ∧
      k.fs.catalog.find? p = some e ∧ k.inodes.path? number = some p ∧
      after.fs.catalog.find? p = none ∧ after.fs.catalog.find? q = some { e with path := q } ∧
      after.inodes.path? number = some q ∧ k.Moved p q e number after ∧
      (∀ offset length, (after.fs.read q offset length).1 = (k.fs.read p offset length).1) ∧
      (∀ inode offset length, (after.answer (.read inode offset length)).1 =
        (k.answer (.read inode offset length)).1) ∧
      ∀ flags', flags' = 0 ∨ flags' = keepTargetFlag →
        (after.answer (.rename new old flags')).1 = .ok .done ∧
          k.Restored (after.answer (.rename new old flags')).2 := by
  intro after
  have live := mounted.live
  obtain ⟨p, q, source, dest, allowed, done, -⟩ := answer_rename_ok renamed
  obtain ⟨e, number, movable⟩ := live.movable done fun e found delegated =>
    free p q e source dest found delegated
  obtain ⟨after', answered, moved⟩ := movable.rename allowed
  have same : after = after' := by
    change (k.answer (.rename old new flags)).2 = after'
    rw [answer_rename source dest, answered]
  rw [← same] at moved
  have back := movable.back moved
  refine ⟨p, q, e, number, source, dest, movable.fs.found, movable.here, back.fs.free,
    back.fs.found, back.here, moved, movable.fs.read_new moved.fs,
    movable.read moved live.toSound, fun flags' allowed' => ?_⟩
  obtain ⟨again, answered', home⟩ := back.rename allowed'
  rw [answer_rename dest source, answered']
  exact ⟨rfl, movable.fs.restored moved.fs home.fs,
    moved.inodes.restored home.inodes movable.here movable.known movable.free⟩

/-- A file that is open and has been written to gets another name and its own one back. -/
theorem undone_of_open_file :
    let a : Spot := ⟨InodeTable.rootNumber, [0x61, 0x2e, 0x6d, 0x68, 0x61, 0x73, 0x68]⟩
    let b : Spot := ⟨InodeTable.rootNumber, [0x62, 0x2e, 0x6d, 0x68, 0x61, 0x73, 0x68]⟩
    let k := execute [.create a 0o644 0o022 2, .write 2 0 [0x78, 0x79]]
      (start (.start "/d" .counter .empty))
    let after := (k.answer (.rename a b keepTargetFlag)).2
    (∃ past, Mounted past k) ∧ (k.answer (.rename a b keepTargetFlag)).1 = .ok .done ∧
      (after.answer (.read 2 0 8)).1 = .ok (.bytes [0x78, 0x79]) ∧
      after.fs.store.text? "b.mhash" = some [0x78, 0x79] ∧ after.fs.store.text? "a.mhash" = none ∧
      (after.answer (.rename b a 0)).1 = .ok .done ∧
      k.Restored (after.answer (.rename b a 0)).2 := by
  intro a b k after
  have mounted : Mounted _ k := ⟨_, "/d", .counter, .empty, rfl, Run.start.execute (by decide)⟩
  have renamed : (k.answer (.rename a b keepTargetFlag)).1 = .ok .done :=
    ok_of_toOption (by decide +kernel)
  have bytes : (k.answer (.read 2 0 8)).1 = .ok (.bytes [0x78, 0x79]) :=
    ok_of_toOption (by decide +kernel)
  have there : pathAt b = .ok (.child "b.mhash") := ok_of_toOption (by decide +kernel)
  have free : (k.fs.store.names.find? (Path.child "b.mhash").name).isNone := by decide +kernel
  have unused : ∀ p q e, pathAt a = .ok p → pathAt b = .ok q → k.fs.catalog.find? p = some e →
      e.kind = .delegated → k.fs.store.names.find? q.name = none := by
    intro p q e _ dest _ _
    cases there.symm.trans dest
    exact Option.isNone_iff_eq_none.1 free
  obtain ⟨_, _, _, _, -, -, -, -, -, -, -, -, -, reads, back⟩ :=
    undone_of_renamed mounted renamed unused
  obtain ⟨answered, restored⟩ := back 0 (.inl rfl)
  refine ⟨⟨_, mounted⟩, renamed, (reads 2 0 8).trans bytes, ?_, ?_, answered, restored⟩
  · decide +kernel
  · decide +kernel

end Kernel.Session

end PatternFs
