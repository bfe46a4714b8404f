import PatternFs.Proofs.Filesystem.Clients
import PatternFs.Proofs.Filesystem.Descriptors
import PatternFs.Proofs.Kernel.Numbers

/-! Openings and releases as the kernel counts them, number by number. The entries count their
clients path by path, and the number that a release names leads to the path where the file is then.
So the two counts agree as long as the kernel releases no more than it opened. -/
namespace PatternFs

namespace Filesystem

variable {fs after : Filesystem} {path : Path} {mode id : Nat} {flags : OpenFlags} {reply : Reply}

theorem Transition.clients_recreated (sound : fs.Sound) (lives : fs.ids path = some id)
    (step : fs.Transition (.create path mode flags) (.ok reply) after) :
    after.clients = fs.clients.change path (· + 1) := by
  obtain ⟨e, found, -⟩ := ids_eq_some.1 lives
  have place := sound.formed.place found
  rw [step.clients sound, Told.after]
  cases kind : e.kind with
  | synthetic =>
    rw [Clients.told_synthetic (kind ▸ place), Clients.change_absent (clients_synthetic found kind)]
  | delegated => rw [sound.told_recreated mode flags (kind ▸ place) found]

theorem Transition.clients_made (sound : fs.Sound) (vacant : fs.ids path = none)
    (step : fs.Transition (.create path mode flags) (.ok reply) after) {other : Path} {n : Nat}
    (counted : after.clients other = some n) :
    other = path ∧ n = 1 ∨ other ≠ path ∧ fs.clients other = some n := by
  have nobody : fs.clients path = none := Catalog.view_of_vacant (ids_eq_none.1 vacant)
  rw [step.clients sound, Told.after, Clients.told, nobody] at counted
  by_cases here : other = path
  · subst here
    split at counted
    · rw [Told.put, if_pos rfl] at counted
      cases counted
      exact .inl ⟨rfl, rfl⟩
    · cases nobody.symm.trans counted
  · split at counted
    · rw [Told.put, if_neg here] at counted
      exact .inr ⟨here, counted⟩
    · exact .inr ⟨here, counted⟩

end Filesystem

namespace Kernel

/-- The number under which a client is told that it has a file open now. -/
def opened? : Callback × Except Denial Reply → Option Nat
  | (.openFile inode _, .ok _) => some inode
  | (.create _ _ _ _, .ok (.created inode _ _)) => some inode
  | _ => none

def Callback.released? : Callback → Option Nat
  | .release inode => some inode
  | _ => none

variable {c : Callback} {inode : Nat}

theorem opened?_error (c : Callback) (d : Denial) : opened? (c, .error d) = none := by
  cases c <;> rfl

theorem opened?_looks (looks : c.looks = true) (r : Except Denial Reply) :
    opened? (c, r) = none := by
  cases c <;> first | rfl | cases looks

theorem Callback.released?_looks (looks : c.looks = true) : c.released? = none := by
  cases c <;> first | rfl | cases looks

theorem Callback.released?_other (other : c.isRelease = false) : c.released? = none := by
  cases c <;> first | rfl | cases other

namespace History

variable {past : History}

/-- How often a client was told that it has the file of a number open. -/
def opened (past : History) (inode : Nat) : Nat := past.countP (opened? · = some inode)

/-- How often the file of a number was to be released. -/
def released (past : History) (inode : Nat) : Nat := past.countP (·.1.released? = some inode)

/-- Each release has an earlier opening or creation under its number for itself: one that no release
before it has taken. -/
def Balanced : History → Prop
  | [] => True
  | (c, _) :: past =>
    (∀ inode ∈ c.released?, released past inode < opened past inode) ∧ Balanced past

instance Balanced.decidable : (past : History) → Decidable past.Balanced
  | [] => .isTrue trivial
  | (c, _) :: past =>
    have := Balanced.decidable past
    inferInstanceAs (Decidable ((∀ inode ∈ c.released?, released past inode < opened past inode) ∧
      Balanced past))

theorem opened_same {e : Callback × Except Denial Reply} (opens : opened? e = some inode) :
    opened (e :: past) inode = past.opened inode + 1 :=
  List.countP_cons_of_pos (by simpa using opens)

theorem opened_other {e : Callback × Except Denial Reply} (other : opened? e ≠ some inode) :
    opened (e :: past) inode = past.opened inode :=
  List.countP_cons_of_neg (by simpa using other)

theorem released_same {e : Callback × Except Denial Reply} (releases : e.1.released? = some inode) :
    released (e :: past) inode = past.released inode + 1 :=
  List.countP_cons_of_pos (by simpa using releases)

theorem released_other {e : Callback × Except Denial Reply} (other : e.1.released? ≠ some inode) :
    released (e :: past) inode = past.released inode :=
  List.countP_cons_of_neg (by simpa using other)

theorem opened_le_cons (past : History) (e : Callback × Except Denial Reply) (inode : Nat) :
    past.opened inode ≤ opened (e :: past) inode := (List.sublist_cons_self e past).countP_le

theorem Balanced.released_le (balanced : past.Balanced) (inode : Nat) :
    past.released inode ≤ past.opened inode := by
  induction past with
  | nil => exact Nat.le_refl 0
  | cons e past ih =>
    obtain ⟨enough, before⟩ := balanced
    have grows := opened_le_cons past e inode
    by_cases releases : e.1.released? = some inode
    · rw [released_same releases]
      exact Nat.le_trans (enough inode releases) grows
    · rw [released_other releases]
      exact Nat.le_trans (ih before) grows

end History

namespace Session

variable {first k k' : Session} {past past' : History} {r : Except Denial Reply} {path : Path}

/-- The clients of each file are those that were told of it and did not release it. -/
structure Tallied (past : History) (k : Session) : Prop where
  counted : ∀ path n inode, k.fs.clients path = some n → k.inodes.path? inode = some path →
    n + past.released inode = past.opened inode
  /-- Nobody was told of a number that is still to come. -/
  unopened : ∀ inode, k.inodes.next ≤ inode → past.opened inode = 0

namespace Tallied

theorem start (buffer : Nat → List Listed → Nat) (backingDirectory : String)
    (fallback : Fallback) (store : Store) :
    Tallied [] (startOn buffer (.start backingDirectory fallback store)) where
  counted _ _ _ counted := by cases counted
  unopened _ _ := rfl

theorem kept (tallied : Tallied past k) (notOpened : opened? (c, r) = none)
    (notReleased : c.released? = none) (next : k.inodes.next ≤ k'.inodes.next)
    (before : ∀ path n inode, k'.fs.clients path = some n → k'.inodes.path? inode = some path →
      ∃ path, k.fs.clients path = some n ∧ k.inodes.path? inode = some path) :
    Tallied ((c, r) :: past) k' := by
  constructor
  · intro path n inode counted there
    obtain ⟨old, had, here⟩ := before path n inode counted there
    rw [History.opened_other (notOpened ▸ nofun), History.released_other (notReleased ▸ nofun)]
    exact tallied.counted old n inode had here
  · intro inode new
    rw [History.opened_other (notOpened ▸ nofun)]
    exact tallied.unopened inode (Nat.le_trans next new)

theorem silent (tallied : Tallied past k) (notOpened : opened? (c, r) = none)
    (notReleased : c.released? = none) {fs : Filesystem} (same : fs.clients = k.fs.clients) :
    Tallied ((c, r) :: past) { k with fs } :=
  tallied.kept notOpened notReleased (Nat.le_refl _) fun path _ _ counted here =>
    ⟨path, same ▸ counted, here⟩

theorem changed (tallied : Tallied past k) (live : k.Live)
    (here : k.inodes.path? inode = some path) {fs : Filesystem} {f : Nat → Nat}
    (change : fs.clients = k.fs.clients.change path f)
    (others : ∀ other, other ≠ inode →
      past'.opened other = past.opened other ∧ past'.released other = past.released other)
    (agree : ∀ n, n + past.released inode = past.opened inode →
      f n + past'.released inode = past'.opened inode) : Tallied past' { k with fs } := by
  constructor
  · intro other n inode' counted there
    rw [change, Clients.change, Told.put] at counted
    split at counted
    · next same =>
      subst same
      obtain ⟨before, had, rfl⟩ := Option.map_eq_some_iff.1 counted
      obtain rfl := live.toSound.number_eq here there
      exact agree before (tallied.counted other before inode' had here)
    · next apart =>
      have different : inode' ≠ inode := by
        rintro rfl
        exact apart (Option.some.inj (there.symm.trans here))
      obtain ⟨opened, released⟩ := others inode' different
      rw [opened, released]
      exact tallied.counted other n inode' counted there
  · intro inode' new
    have below := live.coherent.below inode path here
    have different : inode' ≠ inode := by
      rintro rfl
      exact Nat.not_le_of_lt below new
    rw [(others inode' different).1]
    exact tallied.unopened inode' new

theorem opened (tallied : Tallied past k) (live : k.Live) {inode : Nat}
    (here : k.inodes.path? inode = some path) (opens : opened? (c, r) = some inode)
    (notReleased : c.released? = none) {fs : Filesystem}
    (change : fs.clients = k.fs.clients.change path (· + 1)) :
    Tallied ((c, r) :: past) { k with fs } := by
  have kept (other : Nat) : History.released ((c, r) :: past) other = past.released other :=
    History.released_other (notReleased ▸ nofun)
  refine tallied.changed live here change (fun other apart => ⟨?_, kept other⟩) fun n agreed => ?_
  · exact History.opened_other fun opens' => apart (Option.some.inj (opens'.symm.trans opens))
  · rw [kept, History.opened_same opens]
    omega

/-- A client of a file leaves. There was one, since the release has an opening for itself. -/
theorem released (tallied : Tallied past k) (live : k.Live) {inode : Nat}
    (here : k.inodes.path? inode = some path)
    (balanced : History.Balanced ((.release inode, r) :: past)) {fs : Filesystem}
    (change : fs.clients = k.fs.clients.change path (· - 1)) :
    Tallied ((.release inode, r) :: past) { k with fs } := by
  have kept (other : Nat) :
      History.opened ((.release inode, r) :: past) other = past.opened other :=
    History.opened_other nofun
  refine tallied.changed live here change (fun other apart => ⟨kept other, ?_⟩) fun n agreed => ?_
  · exact History.released_other fun releases => apart (Option.some.inj releases).symm
  · have enough := balanced.1 inode rfl
    rw [kept, History.released_same rfl]
    omega

/-- A new file has its creator, and the next number, which nobody was told of and nobody could
release. -/
theorem made (tallied : Tallied past k) (live : k.Live) (balanced : past.Balanced)
    (unknown : k.inodes.number? path = none) (vacant : k.fs.ids path = none)
    (opens : opened? (c, r) = some k.inodes.next) (notReleased : c.released? = none)
    {fs : Filesystem} (clients : ∀ other n, fs.clients other = some n →
      other = path ∧ n = 1 ∨ other ≠ path ∧ k.fs.clients other = some n) :
    Tallied ((c, r) :: past) { k with fs, inodes := (k.inodes.assign path).2 } := by
  have numbers := InodeTable.assign_unknown unknown
  constructor
  · intro other n inode counted there
    rw [History.released_other (notReleased ▸ nofun)]
    have now := (live.coherent.path?_assign_iff unknown inode other).1 there
    rcases clients other n counted with ⟨rfl, rfl⟩ | ⟨apart, had⟩
    · obtain ⟨rfl, -⟩ | before := now
      · -- What was never opened was never released, so both counts begin at zero.
        have nobody := tallied.unopened _ (Nat.le_refl _)
        have := balanced.released_le k.inodes.next
        rw [History.opened_same opens]
        omega
      · rw [live.coherent.inverse, unknown] at before
        cases before
    · obtain ⟨-, same⟩ | before := now
      · exact absurd same apart
      · have below := live.coherent.below inode other before
        rw [History.opened_other fun opens' => ?_]
        · exact tallied.counted other n inode had before
        · cases opens'.symm.trans opens
          exact Nat.lt_irrefl _ below
  · intro inode new
    rw [numbers] at new
    rw [History.opened_other fun opens' => ?_]
    · exact tallied.unopened inode (Nat.le_of_succ_le new)
    · cases opens'.symm.trans opens
      exact Nat.lt_irrefl _ new

theorem releasedUnknown (tallied : Tallied past k) {inode : Nat}
    (unknown : k.inodes.path? inode = none) : Tallied ((.release inode, r) :: past) k := by
  have kept (other : Nat) :
      History.opened ((.release inode, r) :: past) other = past.opened other :=
    History.opened_other nofun
  constructor
  · intro path n other counted there
    rw [kept, History.released_other fun releases => ?_]
    · exact tallied.counted path n other counted there
    · cases releases
      cases unknown.symm.trans there
  · intro other new
    rw [kept]
    exact tallied.unopened other new

end Tallied

/-- One callback keeps the counts together. -/
theorem Step.tallied (step : k.Step c r k') (live : k.Live) (lasts : c ≠ .destroy)
    (balanced : History.Balanced ((c, r) :: past)) (tallied : Tallied past k) :
    Tallied ((c, r) :: past) k' := by
  cases step with
  | @refused _ d _ other same =>
    exact tallied.silent (opened?_error c d) (Callback.released?_other other) same.clients
  | looked looks =>
    exact tallied.silent (opened?_looks looks _) (Callback.released?_looks looks) rfl
  | found | described | unchanged => exact tallied.silent rfl rfl rfl
  | destroyed => exact absurd rfl lasts
  | cut _ _ done _ | read _ done | wrote _ done | writeFailed _ done =>
    exact tallied.silent rfl rfl (done.clients live.fs)
  | opened here done => exact tallied.opened live here rfl rfl (done.clients live.fs)
  | released here done => exact tallied.released live here balanced (done.clients live.fs)
  | @releasedUnknown inode unknown => exact tallied.releasedUnknown unknown
  | @created _ _ _ _ _ path _ fs _ done _ =>
    obtain ⟨number, id, known, lives, same, -⟩ | ⟨unknown, new, vacant, -⟩ := live.created done
    · rw [same]
      exact tallied.opened live ((live.coherent.inverse _ _).2 known) rfl rfl
        (done.clients_recreated live.fs lives)
    · rw [new]
      exact tallied.made live balanced.2 unknown vacant rfl rfl fun other n counted =>
        done.clients_made live.fs vacant counted
  | @renamed _ _ _ p q fs _ _ done =>
    obtain ⟨number, known, different, -, -, -⟩ := live.renamed done
    have moved : fs.clients = k.fs.clients.move none p q := done.clients live.fs
    have next := Nat.le_of_eq (InodeTable.next_rename known different).symm
    refine tallied.kept rfl rfl next fun path n inode counted there => ?_
    rw [moved, Told.move] at counted
    rcases (live.coherent.path?_rename_iff known different _ _).1 there with
      ⟨rfl, rfl⟩ | ⟨before, notOld, notNew⟩
    · rw [if_pos rfl] at counted
      exact ⟨p, counted, (live.coherent.inverse _ _).2 known⟩
    · rw [if_neg notNew, if_neg notOld] at counted
      exact ⟨path, counted, before⟩
  | @unlinked _ path fs _ done =>
    obtain ⟨⟨_, lived⟩, -⟩ := done.ids_unlinked
    rw [InodeTable.forget_ne_root (live.fs.ne_root lived)]
    have gone : fs.clients = k.fs.clients.put path none := done.clients live.fs
    have next := Nat.le_of_eq (InodeTable.next_drop k.inodes path).symm
    refine tallied.kept rfl rfl next fun other n inode counted there => ?_
    obtain ⟨before, apart⟩ := (live.coherent.path?_drop_iff _ _).1 there
    rw [gone, Told.put, if_neg apart] at counted
    exact ⟨other, counted, before⟩

theorem Mounted.tallied (mounted : Mounted past k) (balanced : past.Balanced) :
    Tallied past k := by
  obtain ⟨buffer, backingDirectory, fallback, store, unopened, run⟩ := mounted
  have live := Live.start buffer backingDirectory fallback unopened
  induction run with
  | start => exact .start buffer backingDirectory fallback store
  | answer c lasts before tallied =>
    have now := live.run before
    exact (now.step_answer c).tallied now lasts balanced (tallied balanced.2)
  | outside _ _ tallied =>
    obtain ⟨counted, unopened⟩ := tallied balanced
    exact ⟨counted, unopened⟩

/-- In every state of a mount whose kernel releases only what it opened, and that once, a live
delegated file has one number. Its entry counts the openings and creations that were answered under
that number, less the releases under it, under whatever names the file and others of its names
lived meanwhile; and its real file is held open exactly while something is left of them. -/
theorem opens_of_balanced (mounted : Mounted past k) (balanced : past.Balanced) {e : Entry}
    (found : k.fs.catalog.find? path = some e) (kind : e.kind = .delegated) :
    ∃ inode, (∀ other, k.inodes.path? other = some path ↔ other = inode) ∧
      (e.opens : Int) = past.opened inode - past.released inode ∧
      ((∃ d, k.fs.Holds path d ∧ k.fs.store.IsOpen d) ↔
        (0 : Int) < past.opened inode - past.released inode) := by
  have live := mounted.live
  obtain ⟨inode, known⟩ := live.numbered path _ (Filesystem.ids_of_find? found)
  have here := (live.coherent.inverse _ _).2 known
  have counted := (mounted.tallied balanced).counted path _ inode
    (Filesystem.clients_delegated found kind) here
  refine ⟨inode, fun other => ⟨live.toSound.number_eq here, fun same => same ▸ here⟩, by omega, ?_⟩
  have owned := mounted.reachable.filesystem.owned
  have closed := (live.fs.formed.formed path e found).closed_iff
  constructor
  · rintro ⟨d, ⟨e', h, found', held, -⟩, -⟩
    cases found.symm.trans found'
    have some' : e.opens ≠ 0 := fun none' => by cases (closed.2 none').symm.trans held
    omega
  · intro positive
    obtain ⟨h, held⟩ := Option.ne_none_iff_exists'.1 fun none' => by
      have := closed.1 none'
      omega
    have holds : k.fs.Holds path h.descriptor := ⟨e, h, found, held, rfl⟩
    exact ⟨h.descriptor, holds, (owned.isOpen_iff _).2 ⟨path, holds⟩⟩

/-- A file is opened twice and renamed, and another one is made under its name and unlinked before
its own release comes. One client of the first file is left. -/
theorem opens_of_renamed_file :
    let a : Spot := ⟨1, [0x61, 0x2e, 0x6d, 0x68, 0x61, 0x73, 0x68]⟩
    let b : Spot := ⟨1, [0x62, 0x2e, 0x6d, 0x68, 0x61, 0x73, 0x68]⟩
    let create : Callback := .create a 0o644 0o022 2
    let cs : List Callback := [create, .openFile 2 0, .rename a b 0, create, .release 2, .unlink a,
      .release 3, create]
    let fresh := start (.start "/d" .counter .empty)
    let past := recorded cs fresh []
    let k := execute cs fresh
    let new : Path := ⟨["b.mhash"], by simp [IsComponent]⟩
    Mounted past k ∧ past.Balanced ∧ past.opened 2 = 2 ∧ past.released 2 = 1 ∧
      past.opened 3 = 1 ∧ past.released 3 = 1 ∧ k.inodes.path? 3 = none ∧
      ∃ e, k.fs.catalog.find? new = some e ∧ e.kind = .delegated ∧ k.inodes.path? 2 = some new ∧
        e.opens = 1 ∧ ∃ d, k.fs.Holds new d ∧ k.fs.store.IsOpen d := by
  intro a b create cs fresh past k new
  have mounted : Mounted past k := ⟨_, "/d", .counter, .empty, rfl, Run.start.execute (by decide)⟩
  have balanced : past.Balanced := by decide +kernel
  have opened : past.opened 2 = 2 := by decide +kernel
  have released : past.released 2 = 1 := by decide +kernel
  have found : k.fs.catalog.find? new = some ⟨new, .delegated, 0, .zero, some ⟨0, 1⟩, 1⟩ := by
    decide +kernel
  have here : k.inodes.path? 2 = some new := by decide +kernel
  obtain ⟨inode, only, counts, held⟩ := opens_of_balanced mounted balanced found rfl
  obtain rfl := (only 2).1 here
  rw [opened, released] at counts held
  refine ⟨mounted, balanced, opened, released, by decide +kernel, by decide +kernel,
    by decide +kernel, _, found, rfl, here, by omega, held.2 (by decide)⟩

end Session

end Kernel

end PatternFs
