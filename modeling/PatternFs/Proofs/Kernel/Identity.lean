import PatternFs.Proofs.Kernel.Numbers

/-! An inode number stands for one file as long as the file lives, and for nothing afterwards. Files
and numbers are both counted up, so a file that is made later has a number and an id that nobody had
before, also when it gets the name of one that is gone. -/
namespace PatternFs

theorem InodeTable.next_le_assign (t : InodeTable) (path : Path) :
    t.next ≤ (t.assign path).2.next := by
  unfold assign
  split
  · exact Nat.le_refl _
  · exact Nat.le_succ _

namespace Kernel

/-- The inode numbers that a callback names, those of parents included. -/
def Callback.inodes : Callback → List Nat
  | .setUp | .destroy => []
  | .lookup spot | .create spot _ _ _ | .unlink spot | .makeDirectory spot | .removeDirectory spot
  | .makeNode spot | .symlink spot => [spot.parent]
  | .getAttributes inode | .setAttributes inode _ | .openFile inode _ | .read inode _ _
  | .write inode _ _ | .flush inode | .release inode | .openDirectory inode
  | .readDirectory inode _ _ | .access inode | .getAttribute inode _ | .setAttribute inode
  | .listAttributes inode | .removeAttribute inode | .getLock inode | .setLock inode
  | .readlink inode => [inode]
  | .rename old new _ => [old.parent, new.parent]
  | .link inode spot => [inode, spot.parent]

namespace Session

variable {first k k' k'' : Session} {past later : History} {c : Callback}
  {r : Except Denial Reply} {path : Path} {inode id : Nat} {reply : Reply}

/-- What is refused for itself, before the number is looked at: a negative offset, and a name under
the root that is not text when another name comes after it. -/
def refusedFirst : Callback → Bool
  | .read _ offset _ | .write _ offset _ => offset < 0
  | .rename old _ _ => old.parent = InodeTable.rootNumber && (decode old.name).toOption.isNone
  | _ => false

/-- The file that a number stands for. -/
def denotes? (k : Session) (inode : Nat) : Option Nat := (k.inodes.path? inode).bind k.fs.ids

theorem denotes?_eq_some :
    k.denotes? inode = some id ↔
      ∃ path, k.inodes.path? inode = some path ∧ k.fs.ids path = some id :=
  Option.bind_eq_some_iff

/-- What a number stands for later it stands for now, or both the number and the file are new. -/
structure Follows (k k' : Session) : Prop where
  next : k.inodes.next ≤ k'.inodes.next
  sequence : k.fs.catalog.nextSequence ≤ k'.fs.catalog.nextSequence
  denoted : ∀ inode id, k'.denotes? inode = some id → k.denotes? inode = some id ∨
    k.inodes.next ≤ inode ∧ k.fs.catalog.nextSequence ≤ id

namespace Follows

theorem refl (k : Session) : k.Follows k := ⟨Nat.le_refl _, Nat.le_refl _, fun _ _ => .inl⟩

theorem trans (first : k.Follows k') (second : k'.Follows k'') : k.Follows k'' where
  next := Nat.le_trans first.next second.next
  sequence := Nat.le_trans first.sequence second.sequence
  denoted inode id denotes := by
    rcases second.denoted inode id denotes with before | ⟨new, new'⟩
    · exact first.denoted inode id before
    · exact .inr ⟨Nat.le_trans first.next new, Nat.le_trans first.sequence new'⟩

theorem of_ids {fs : Filesystem} (sequence : k.fs.catalog.nextSequence ≤ fs.catalog.nextSequence)
    (same : fs.ids = k.fs.ids) : k.Follows { k with fs } where
  next := Nat.le_refl _
  sequence := sequence
  denoted inode id denotes := by
    refine .inl ?_
    rw [denotes?, same] at denotes
    exact denotes

end Follows

theorem Step.follows (step : k.Step c r k') (live : k.Live) (lasts : c ≠ .destroy) :
    k.Follows k' := by
  cases step with
  | refused _ kept => exact .of_ids kept.nextSequence_le kept.ids
  | looked | found | described | unchanged | releasedUnknown => exact .refl k
  | destroyed => exact absurd rfl lasts
  | cut _ _ done _ | opened _ done | read _ done | wrote _ done | writeFailed _ done
  | released _ done => exact .of_ids done.nextSequence_le (done.ids_kept rfl)
  | @created _ _ _ _ _ path _ fs _ done _ =>
    refine ⟨InodeTable.next_le_assign _ _, done.nextSequence_le, fun inode id denotes => ?_⟩
    obtain ⟨other, here, lives⟩ := denotes?_eq_some.1 denotes
    obtain ⟨_, _, -, -, still, kept⟩ | ⟨unknown, -, -, new⟩ := live.created done
    · rw [still] at here
      rw [kept] at lives
      exact .inl (denotes?_eq_some.2 ⟨other, here, lives⟩)
    · rw [new, Told.put] at lives
      rcases (live.coherent.path?_assign_iff unknown _ _).1 here with ⟨rfl, rfl⟩ | before
      · rw [if_pos rfl] at lives
        cases lives
        exact .inr ⟨Nat.le_refl _, Nat.le_refl _⟩
      · have apart : other ≠ path := by
          rintro rfl
          rw [live.coherent.inverse, unknown] at before
          cases before
        rw [if_neg apart] at lives
        exact .inl (denotes?_eq_some.2 ⟨other, before, lives⟩)
  | @renamed _ _ _ p q fs _ _ done =>
    obtain ⟨number, known, different, -, -, moved⟩ := live.renamed done
    refine ⟨Nat.le_of_eq (InodeTable.next_rename known different).symm, done.nextSequence_le,
      fun inode id denotes => .inl ?_⟩
    obtain ⟨other, here, lives⟩ := denotes?_eq_some.1 denotes
    rw [moved, Told.move] at lives
    rw [denotes?_eq_some]
    rcases (live.coherent.path?_rename_iff known different _ _).1 here with
      ⟨rfl, rfl⟩ | ⟨before, notOld, notNew⟩
    · rw [if_pos rfl] at lives
      exact ⟨p, (live.coherent.inverse _ _).2 known, lives⟩
    · rw [if_neg notNew, if_neg notOld] at lives
      exact ⟨other, before, lives⟩
  | @unlinked _ path fs _ done =>
    obtain ⟨⟨_, lived⟩, gone⟩ := done.ids_unlinked
    have forgotten := InodeTable.forget_ne_root (t := k.inodes) (live.fs.ne_root lived)
    refine ⟨?_, done.nextSequence_le, fun inode id denotes => .inl ?_⟩
    · rw [forgotten]
      exact Nat.le_of_eq (InodeTable.next_drop _ _).symm
    · obtain ⟨other, here, lives⟩ := denotes?_eq_some.1 denotes
      rw [forgotten, live.coherent.path?_drop_iff] at here
      rw [gone, Told.put, if_neg here.2] at lives
      exact denotes?_eq_some.2 ⟨other, here.1, lives⟩

theorem Live.follows (live : first.Live) (run : first.Run past k) : first.Follows k := by
  induction run with
  | start => exact .refl first
  | answer c lasts before follows =>
    have now := live.run before
    exact follows.trans ((now.step_answer c).follows now lasts)
  | outside _ change follows => exact follows.trans (.of_ids (Nat.le_refl _) rfl)

theorem Mounted.bounded (mounted : Mounted past k) (denotes : k.denotes? inode = some id) :
    inode < k.inodes.next ∧ id < k.fs.catalog.nextSequence := by
  obtain ⟨path, here, lives⟩ := denotes?_eq_some.1 denotes
  exact ⟨mounted.live.coherent.below _ path here,
    mounted.reachable.filesystem.distinct.below path id lives⟩

theorem Mounted.denotes?_inj (mounted : Mounted past k) {other : Nat}
    (denotes : k.denotes? inode = some id) (denotes' : k.denotes? other = some id) :
    inode = other := by
  obtain ⟨path, here, lives⟩ := denotes?_eq_some.1 denotes
  obtain ⟨path', here', lives'⟩ := denotes?_eq_some.1 denotes'
  obtain rfl := mounted.reachable.filesystem.distinct.apart path path' id lives lives'
  exact mounted.live.toSound.number_eq here' here

/-- A number that was given out and stands for nothing never stands for anything again. -/
theorem Live.unknown_of_run (live : k.Live) (run : k.Run later k')
    (unknown : k.inodes.path? inode = none) (old : inode < k.inodes.next) :
    k'.inodes.path? inode = none := by
  refine Option.eq_none_iff_forall_ne_some.2 fun path here => ?_
  have later := live.run run
  have number := (later.coherent.inverse _ _).1 here
  rcases later.live path inode number with rfl | ⟨id, lives⟩
  · rw [later.coherent.number?_root] at number
    cases number
    cases unknown.symm.trans live.coherent.root
  · rcases (live.follows run).denoted inode id (denotes?_eq_some.2 ⟨path, here, lives⟩) with
      before | ⟨new, -⟩
    · rw [denotes?, unknown] at before
      cases before
    · omega

theorem resolve_unknown (unknown : k.inodes.path? inode = none) :
    k.resolve inode = .error (.unknownInode inode) := by
  rw [resolve, unknown]

theorem pathAt_elsewhere {spot : Spot} (elsewhere : spot.parent ≠ InodeTable.rootNumber) :
    pathAt spot = .error (.notTheRoot spot.parent) := if_pos elsewhere

theorem pathAt_below {spot : Spot} (below : spot.parent = InodeTable.rootNumber) :
    pathAt spot = (decode spot.name).map Path.child := if_neg (not_not_intro below)

theorem resolve_error {d : Denial} (failed : k.resolve inode = .error d) :
    d = .unknownInode inode := by
  unfold resolve at failed
  split at failed <;> cases failed
  rfl

theorem decode_error {bytes : List UInt8} {d : Denial} (failed : decode bytes = .error d) :
    d = .undecodableName bytes := by
  unfold decode at failed
  split at failed <;> cases failed
  rfl

/-- A rename looks at the first parent, then at the first name, and then at the second parent. -/
theorem answer_rename_unknown {old new : Spot} {flags : Nat}
    (notRoot : inode ≠ InodeTable.rootNumber)
    (named : inode = old.parent ∨ inode = new.parent) :
    ∃ d, k.answer (.rename old new flags) = (.error d, k) ∧
      d.errno = if refusedFirst (.rename old new flags) then 22 else 2 := by
  by_cases below : old.parent = InodeTable.rootNumber
  · have second : inode = new.parent := named.resolve_left fun isOld => notRoot (isOld.trans below)
    cases decoded : decode old.name with
    | error d =>
      have first : pathAt old = .error d := by
        rw [pathAt_below below, decoded]
        rfl
      refine ⟨d, ?_, ?_⟩
      · simp only [answer, withPath, first]
      · rw [decode_error decoded]
        simp [refusedFirst, below, decoded, Except.toOption, Denial.errno]
    | ok name =>
      have first : pathAt old = .ok (.child name) := by
        rw [pathAt_below below, decoded]
        rfl
      refine ⟨.notTheRoot new.parent, ?_, ?_⟩
      · simp only [answer, withPath, first, pathAt_elsewhere (second ▸ notRoot)]
      · simp [refusedFirst, decoded, Except.toOption, Denial.errno]
  · refine ⟨.notTheRoot old.parent, ?_, ?_⟩
    · simp only [answer, withPath, pathAt_elsewhere below]
    · simp [refusedFirst, below, Denial.errno]

theorem answer_link_unknown {other : Nat} {spot : Spot} (notRoot : inode ≠ InodeTable.rootNumber)
    (unknown : k.inodes.path? inode = none) (named : inode = other ∨ inode = spot.parent) :
    ∃ d, k.answer (.link other spot) = (.error d, k) ∧ d.errno = 2 := by
  cases resolved : k.resolve other with
  | error d =>
    obtain rfl := resolve_error resolved
    refine ⟨.unknownInode other, ?_, rfl⟩
    simp only [answer, withPath, resolved]
  | ok path =>
    have second : inode = spot.parent := by
      rcases named with rfl | isParent
      · rw [resolve_unknown unknown] at resolved
        cases resolved
      · exact isParent
    refine ⟨.notTheRoot spot.parent, ?_, rfl⟩
    simp only [answer, withPath, resolved, refuseWith, pathAt_elsewhere (second ▸ notRoot)]
    rfl

/-- It is refused and changes nothing, the reason being the number unless something before it is
wrong. -/
theorem answer_unknown (root : k.inodes.path? InodeTable.rootNumber = some .root)
    (unknown : k.inodes.path? inode = none) (named : inode ∈ c.inodes)
    (kept : c ≠ .release inode) :
    ∃ d, k.answer c = (.error d, k) ∧ d.errno = if refusedFirst c then 22 else 2 := by
  have notRoot : inode ≠ InodeTable.rootNumber := by
    rintro rfl
    cases unknown.symm.trans root
  have missing := resolve_unknown unknown
  cases c with
  | setUp | destroy => cases named
  | lookup spot | create spot | unlink spot | makeDirectory spot | removeDirectory spot
  | makeNode spot | symlink spot =>
    have parent := List.mem_singleton.1 named
    refine ⟨.notTheRoot spot.parent, ?_, rfl⟩
    simp only [answer, refuseWith, pathAt_elsewhere (parent ▸ notRoot)]
    rfl
  | release other => exact absurd (congrArg _ (List.mem_singleton.1 named).symm) kept
  | read other offset | write other offset =>
    obtain rfl := List.mem_singleton.1 named
    by_cases negative : offset < 0
    · refine ⟨.negativeOffset offset, ?_, ?_⟩
      · simp only [answer, read, write, position, if_pos negative]
      · simp only [refusedFirst, negative, decide_true, if_true, Denial.errno]
    · refine ⟨.unknownInode inode, ?_, ?_⟩
      · simp only [answer, read, write, position, if_neg negative, missing]
        rfl
      · simp only [refusedFirst, negative, decide_false, Bool.false_eq_true, if_false, Denial.errno]
  | rename old new flags =>
    refine answer_rename_unknown notRoot ?_
    simpa only [Callback.inodes, List.mem_cons, List.not_mem_nil, or_false] using named
  | link other spot =>
    refine answer_link_unknown notRoot unknown ?_
    simpa only [Callback.inodes, List.mem_cons, List.not_mem_nil, or_false] using named
  | _ =>
    obtain rfl := List.mem_singleton.1 named
    refine ⟨.unknownInode inode, ?_, rfl⟩
    simp only [answer, refuseWith, missing]
    rfl

/-- Of two moments of a mount, the numbers of the later one stand for the files of the earlier one
as they did, and the new numbers for new files. -/
theorem Mounted.denotes?_iff (mounted : Mounted past k) (run : k.Run later k') {i j s t : Nat}
    (now : k.denotes? i = some s) (then' : k'.denotes? j = some t) : i = j ↔ s = t := by
  rcases (mounted.live.follows run).denoted j t then' with before | ⟨new, new'⟩
  · constructor
    · rintro rfl
      exact Option.some.inj (now.symm.trans before)
    · rintro rfl
      exact mounted.denotes?_inj now before
  · have := mounted.bounded now
    omega

theorem Live.denotes?_root (live : k.Live) : k.denotes? InodeTable.rootNumber = none := by
  refine Option.eq_none_iff_forall_ne_some.2 fun id denotes => ?_
  obtain ⟨path, here, lives⟩ := denotes?_eq_some.1 denotes
  cases live.coherent.root.symm.trans here
  exact live.fs.ne_root lives rfl

theorem Mounted.kept_or_gone (mounted : Mounted past k) (run : k.Run later k')
    (now : k.denotes? inode = some id) :
    k'.denotes? inode = some id ∨
      k'.inodes.path? inode = none ∧ ∀ path, k'.fs.ids path ≠ some id := by
  have live := mounted.live.run run
  cases here : k'.inodes.path? inode with
  | none =>
    refine .inr ⟨rfl, fun path lives => ?_⟩
    obtain ⟨number, known⟩ := live.numbered path id lives
    have at' := (live.coherent.inverse _ _).2 known
    have then' := denotes?_eq_some.2 ⟨path, at', lives⟩
    obtain rfl := (mounted.denotes?_iff run now then').2 rfl
    cases here.symm.trans at'
  | some path =>
    rcases live.live path inode ((live.coherent.inverse _ _).1 here) with rfl | ⟨other, lives⟩
    · obtain rfl := live.toSound.number_eq live.coherent.root here
      cases mounted.live.denotes?_root.symm.trans now
    · have then' := denotes?_eq_some.2 ⟨path, here, lives⟩
      obtain rfl := (mounted.denotes?_iff run now then').1 rfl
      exact .inl then'

theorem Live.unknown_of_unlinked (live : k.Live) {spot : Spot}
    (here : k.inodes.path? inode = some path) (there : pathAt spot = .ok path)
    (unlinked : (k.answer (.unlink spot)).1 = .ok reply) :
    (k.answer (.unlink spot)).2.inodes.path? inode = none ∧
      inode < (k.answer (.unlink spot)).2.inodes.next := by
  have step := live.toSound.step_ok unlinked
  generalize (k.answer (.unlink spot)).2 = after at step ⊢
  cases step with
  | looked looks => cases looks
  | unlinked there' done =>
    cases there.symm.trans there'
    obtain ⟨⟨_, lived⟩, -⟩ := done.ids_unlinked
    rw [InodeTable.forget_ne_root (live.fs.ne_root lived), InodeTable.next_drop]
    refine ⟨Option.eq_none_iff_forall_ne_some.2 fun other found => ?_,
      live.coherent.below _ path here⟩
    obtain ⟨before, apart⟩ := (live.coherent.path?_drop_iff _ _).1 found
    exact apart (Option.some.inj (before.symm.trans here))

/-- At any two moments of a mount, two numbers are the same one exactly when their files are. A
number that stood for a file stands for it until the file is unlinked; from then on a release under
it is answered and does nothing, and all else is refused and does nothing. -/
theorem denoted_of_run (mounted : Mounted past k) :
    (∀ later k', k.Run later k' → ∀ i s, k.denotes? i = some s →
      (∀ j t, k'.denotes? j = some t → (i = j ↔ s = t)) ∧
        (k'.denotes? i = some s ∨
          k'.inodes.path? i = none ∧ ∀ path, k'.fs.ids path ≠ some s)) ∧
      ∀ i path spot reply, k.inodes.path? i = some path → pathAt spot = .ok path →
        (k.answer (.unlink spot)).1 = .ok reply →
        ∀ later k', (k.answer (.unlink spot)).2.Run later k' →
          k'.answer (.release i) = (.ok .done, k') ∧
            ∀ c, i ∈ c.inodes → c ≠ .release i →
              ∃ d, k'.answer c = (.error d, k') ∧ d.errno = if refusedFirst c then 22 else 2 := by
  refine ⟨fun later k' run i s now => ⟨fun j t then' => mounted.denotes?_iff run now then',
    mounted.kept_or_gone run now⟩, fun i path spot reply here there unlinked later k' run => ?_⟩
  have after := (mounted.live.toSound.step_answer (.unlink spot)).live mounted.live nofun
  obtain ⟨unknown, old⟩ := mounted.live.unknown_of_unlinked here there unlinked
  have still := after.unknown_of_run run unknown old
  refine ⟨?_, fun c named kept => answer_unknown (after.run run).coherent.root still named kept⟩
  simp only [answer, release, resolve_unknown still]
  rfl

/-- A file is unlinked, and another one is made under its name. -/
theorem denoted_of_recreated :
    let a : Spot := ⟨1, [0x61, 0x2e, 0x6d, 0x68, 0x61, 0x73, 0x68]⟩
    let create : Callback := .create a 0o644 0o022 2
    let k := execute [create] (start (.start "/d" .counter .empty))
    let k' := execute [create] (k.answer (.unlink a)).2
    (∃ past, Mounted past k) ∧ k.denotes? 2 = some 1 ∧ k'.denotes? 3 = some 2 ∧
      (∀ path, k'.fs.ids path ≠ some 1) ∧ k'.answer (.release 2) = (.ok .done, k') ∧
      ∃ d, k'.answer (.openFile 2 0) = (.error d, k') ∧ d.errno = 2 := by
  intro a create k k'
  have mounted : Mounted _ k := ⟨_, "/d", .counter, .empty, rfl, Run.start.execute (by decide)⟩
  obtain ⟨moments, unlinked⟩ := denoted_of_run mounted
  have now : k.denotes? 2 = some 1 := by decide +kernel
  have then' : k'.denotes? 3 = some 2 := by decide +kernel
  have again : (k.answer (.unlink a)).2.Run _ k' := Run.start.execute (by decide)
  have whole : k.Run _ k' := (Run.start.answer (.unlink a) nofun).execute (by decide)
  obtain ⟨-, same | ⟨-, gone⟩⟩ := moments _ k' whole 2 1 now
  · exact absurd same (by decide +kernel)
  have spot : (pathAt a).toOption = k.inodes.path? 2 := by decide +kernel
  have done : (k.answer (.unlink a)).1.toOption = some .done := by decide +kernel
  obtain ⟨path, here, -⟩ := denotes?_eq_some.1 now
  obtain ⟨released, refused⟩ := unlinked 2 path a .done here (ok_of_toOption (spot.trans here))
    (ok_of_toOption done) _ k' again
  exact ⟨⟨_, mounted⟩, now, then', gone, released, refused (.openFile 2 0) (by decide) nofun⟩

/-- The offset of a read is looked at first, and so is the name before a second parent. -/
theorem refused_before_number :
    let a : Spot := ⟨1, [0x61, 0x2e, 0x6d, 0x68, 0x61, 0x73, 0x68]⟩
    let k := execute [.create a 0o644 0o022 2] (start (.start "/d" .counter .empty))
    let k' := (k.answer (.unlink a)).2
    (∃ past, Mounted past k) ∧ k.denotes? 2 = some 1 ∧
      (k.answer (.unlink a)).1.toOption = some .done ∧
      (k'.answer (.read 2 (-1) 1)).1 = .error (.negativeOffset (-1)) ∧
      (Denial.negativeOffset (-1)).errno = 22 ∧
      (k'.answer (.rename ⟨1, [0xff]⟩ ⟨2, [0x62]⟩ 0)).1 = .error (.undecodableName [0xff]) ∧
      (Denial.undecodableName [0xff]).errno = 22 := by
  intro a k k'
  have mounted : Mounted _ k := ⟨_, "/d", .counter, .empty, rfl, Run.start.execute (by decide)⟩
  have bytes : String.fromUTF8? ⟨#[0xff]⟩ = none := by decide +kernel
  have first : pathAt ⟨1, [0xff]⟩ = .error (.undecodableName [0xff]) := by
    rw [pathAt_below rfl, decode, bytes]
    rfl
  refine ⟨⟨_, mounted⟩, by decide +kernel, by decide +kernel, rfl, rfl, ?_, rfl⟩
  simp only [answer, withPath, first]

end Session

end Kernel

end PatternFs
