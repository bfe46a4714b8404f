import PatternFs.Proofs.Kernel.Scan

/-! Reading the directory page by page and taking files away that were read already. A position
counts the names of the listing as it is when it is asked for, so with each file that goes, the
files after it move one position to the front. What was to be read next is then taken for read. -/
namespace PatternFs.Kernel.Session

variable {first k : Session} {pages : List (List Listed)} {offset : Nat} {skipped : List String}

/-- The names that are listed of the root, in their order. -/
def shown (k : Session) : List String := "." :: ".." :: k.fs.catalog.names

theorem listed_names (k : Session) : k.listed.map Listed.name = k.shown := by
  simp [listed, shown, Function.comp_def]

theorem Sound.nodup_shown (sound : k.Sound) : k.shown.Nodup := by
  have special (name : String) (dots : isDirectoryName name = true) :
      name ∉ k.fs.catalog.names := by
    intro inside
    obtain ⟨path, e, found, rfl⟩ := sound.fs.formed.mem_names.1 inside
    rw [isDirectoryName_name (sound.fs.formed.place found)] at dots
    cases dots
  refine List.nodup_cons.2 ⟨?_, List.nodup_cons.2 ⟨special ".." (by decide), ?_⟩⟩
  · intro inside
    rcases List.mem_cons.1 inside with same | inside
    · exact absurd same (by decide)
    · exact special "." (by decide) inside
  · exact sound.fs.formed.nodup_names

/-- The names of pages, one after the other. -/
def namesOf (pages : List (List Listed)) : List String := pages.flatten.map Listed.name

/-- Pages of the root, each read from the position of the last entry of the page before it. In
between the kernel may take away files that it read, and it may ask for anything that leaves the
names as they are. The last list has the names that stood next to be read when a file was taken
away. -/
inductive Clearing (first : Session) : List (List Listed) → Nat → List String → Session → Prop
  | start : Clearing first [] 0 [] first
  | page {pages : List (List Listed)} {offset : Nat} {skipped : List String} {k : Session}
      {front : List Listed} {last : Listed} (room : Nat) : Clearing first pages offset skipped k →
      (k.answer (.readDirectory InodeTable.rootNumber offset room)).1 =
        .ok (.listing (front ++ [last])) →
      Clearing first (pages ++ [front ++ [last]]) last.position skipped
        (k.answer (.readDirectory InodeTable.rootNumber offset room)).2
  | unlinked {pages : List (List Listed)} {offset : Nat} {skipped : List String} {k : Session}
      {spot : Spot} {path : Path} : Clearing first pages offset skipped k →
      pathAt spot = .ok path → path.name ∈ namesOf pages →
      (k.answer (.unlink spot)).1 = .ok .done →
      Clearing first pages offset (skipped ++ (k.shown.drop offset).take 1)
        (k.answer (.unlink spot)).2
  | between {pages : List (List Listed)} {offset : Nat} {skipped : List String} {k : Session}
      (c : Callback) : Clearing first pages offset skipped k →
      (k.answer c).2.fs.catalog.names = k.fs.catalog.names →
      Clearing first pages offset skipped (k.answer c).2
  | outside {pages : List (List Listed)} {offset : Nat} {skipped : List String} {k : Session}
      {store : Store} : Clearing first pages offset skipped k → k.fs.store.OutsideChange store →
      Clearing first pages offset skipped { k with fs := { k.fs with store } }

theorem Clearing.reachable (clearing : first.Clearing pages offset skipped k)
    (reachable : first.Reachable) : k.Reachable := by
  induction clearing with
  | start => exact reachable
  | page _ _ _ before => exact .answer _ before
  | unlinked _ _ _ _ before => exact .answer _ before
  | between c _ _ before => exact .answer c before
  | outside _ change before => exact .outside before change

/-- The names before the position are those that were returned or skipped and are still there, and
nothing was returned or skipped twice. -/
structure Passed (shown : List String) (offset : Nat) (returned skipped : List String) : Prop where
  once : (returned ++ skipped).Nodup
  before : ∀ name, name ∈ shown.take offset ↔ name ∈ shown ∧ name ∈ returned ++ skipped

namespace Passed

variable {shown returned : List String} {name gone : String}

theorem fresh (passed : Passed shown offset returned skipped) (nodup : shown.Nodup)
    (ahead : name ∈ shown.drop offset) : name ∉ returned ++ skipped := by
  intro known
  have behind := (passed.before name).2 ⟨List.mem_of_mem_drop ahead, known⟩
  rw [← List.take_append_drop offset shown, List.nodup_append] at nodup
  exact nodup.2.2 name behind name ahead rfl

theorem read (passed : Passed shown offset returned skipped) (nodup : shown.Nodup)
    {page : List String} (rest : page <+: shown.drop offset) :
    Passed shown (offset + page.length) (returned ++ page) skipped := by
  have ahead : ∀ name ∈ page, name ∈ shown.drop offset := fun _ member => rest.subset member
  have order : (returned ++ page ++ skipped).Perm (page ++ (returned ++ skipped)) := by
    rw [List.append_assoc]
    exact List.perm_append_comm_assoc returned page skipped
  constructor
  · rw [order.nodup_iff]
    refine List.nodup_append.2 ⟨?_, passed.once, ?_⟩
    · exact nodup.sublist (rest.sublist.trans (List.drop_sublist offset shown))
    · rintro name new _ known rfl
      exact passed.fresh nodup (ahead name new) known
  · intro name
    rw [List.take_add, ← List.prefix_iff_eq_take.1 rest, List.mem_append, passed.before,
      order.mem_iff, List.mem_append (s := page)]
    constructor
    · rintro (⟨there, known⟩ | new)
      · exact ⟨there, .inr known⟩
      · exact ⟨List.mem_of_mem_drop (ahead name new), .inl new⟩
    · rintro ⟨there, new | known⟩
      · exact .inr new
      · exact .inl ⟨there, known⟩

/-- Where a name goes away in front of the position, one more of those behind gets there. -/
theorem take_filter (nodup : shown.Nodup) (behind : gone ∈ shown.take offset) :
    (shown.filter (· ≠ gone)).take offset =
      (shown.take offset).filter (· ≠ gone) ++ (shown.drop offset).take 1 := by
  have parts := List.take_append_drop offset shown
  rw [← parts, List.nodup_append] at nodup
  obtain ⟨nodupTake, -, apart⟩ := nodup
  have kept : (shown.drop offset).filter (· ≠ gone) = shown.drop offset := by
    refine List.filter_eq_self.2 fun name ahead => decide_eq_true ?_
    rintro rfl
    exact apart _ behind _ ahead rfl
  have shorter : ((shown.take offset).filter (· ≠ gone)).length + 1 = min offset shown.length := by
    have erased : (shown.take offset).erase gone = (shown.take offset).filter (· ≠ gone) := by
      rw [nodupTake.erase_eq_filter]
      exact List.filter_congr fun name _ => by rw [decide_not]; rfl
    rw [← erased, ← List.length_take, List.length_erase_of_mem behind]
    exact Nat.sub_add_cancel (List.length_pos_of_mem behind)
  rw [← parts, List.filter_append, kept, parts, List.take_append]
  congr 1
  · exact List.take_of_length_le (by omega)
  · rcases Nat.le_total shown.length offset with short | long
    · simp [List.drop_eq_nil_of_le short]
    · congr 1
      omega

/-- A name goes away that was returned. What stood next is skipped. -/
theorem clear (passed : Passed shown offset returned skipped) (nodup : shown.Nodup)
    (there : gone ∈ shown) (known : gone ∈ returned) :
    Passed (shown.filter (· ≠ gone)) offset returned
      (skipped ++ (shown.drop offset).take 1) := by
  have behind := (passed.before gone).2 ⟨there, List.mem_append_left _ known⟩
  have ahead : ∀ name ∈ (shown.drop offset).take 1, name ∈ shown.drop offset :=
    fun _ member => List.mem_of_mem_take member
  constructor
  · rw [← List.append_assoc, List.nodup_append]
    refine ⟨passed.once, ?_, ?_⟩
    · exact nodup.sublist ((List.take_sublist 1 _).trans (List.drop_sublist offset shown))
    · rintro name old _ next rfl
      exact passed.fresh nodup (ahead name next) old
  · intro name
    rw [take_filter nodup behind, ← List.append_assoc]
    simp only [List.mem_append, List.mem_filter, decide_eq_true_eq, passed.before]
    constructor
    · rintro (⟨⟨here, old⟩, other⟩ | next)
      · exact ⟨⟨here, other⟩, .inl old⟩
      · refine ⟨⟨List.mem_of_mem_drop (ahead name next), ?_⟩, .inr next⟩
        rintro rfl
        exact passed.fresh nodup (ahead _ next) (List.mem_append_left _ known)
    · rintro ⟨⟨here, other⟩, old | next⟩
      · exact .inl ⟨⟨here, old⟩, other⟩
      · exact .inr next

end Passed

theorem namesOf_append (pages : List (List Listed)) (page : List Listed) :
    namesOf (pages ++ [page]) = namesOf pages ++ page.map Listed.name := by
  simp [namesOf]

/-- What was skipped is still there, and nothing is there that was not there at first. -/
structure Cleared (first k : Session) (pages : List (List Listed)) (offset : Nat)
    (skipped : List String) : Prop where
  passed : Passed k.shown offset (namesOf pages) skipped
  live : ∀ name ∈ skipped, name ∈ k.fs.catalog.names
  old : ∀ name ∈ k.fs.catalog.names, name ∈ first.fs.catalog.names

theorem Cleared.still (cleared : first.Cleared k pages offset skipped) {k' : Session}
    (same : k'.fs.catalog.names = k.fs.catalog.names) :
    first.Cleared k' pages offset skipped := by
  obtain ⟨passed, live, old⟩ := cleared
  refine ⟨?_, same ▸ live, same ▸ old⟩
  rwa [shown, same]

theorem Cleared.page (cleared : first.Cleared k pages offset skipped) (sound : k.Sound)
    {front : List Listed} {last : Listed} (rest : front ++ [last] <+: k.listed.drop offset) :
    first.Cleared k (pages ++ [front ++ [last]]) last.position skipped := by
  refine ⟨?_, cleared.live, cleared.old⟩
  have names : (front ++ [last]).map Listed.name <+: k.shown.drop offset := by
    rw [← listed_names, ← List.map_drop]
    exact rest.map Listed.name
  rw [position_of_page rest, namesOf_append, ← List.length_map (f := Listed.name)]
  exact cleared.passed.read sound.nodup_shown names

theorem Cleared.unlinked (cleared : first.Cleared k pages offset skipped) (sound : k.Sound)
    {path : Path} {e : Entry} (found : k.fs.catalog.find? path = some e)
    (known : path.name ∈ namesOf pages) {k' : Session}
    (gone : k'.fs.catalog = k.fs.catalog.remove path) :
    first.Cleared k' pages offset (skipped ++ (k.shown.drop offset).take 1) := by
  obtain ⟨passed, live, old⟩ := cleared
  have formed := sound.fs.formed
  have nodup := sound.nodup_shown
  have names : k'.fs.catalog.names = k.fs.catalog.names.filter (· ≠ path.name) := by
    rw [gone, formed.names_remove (formed.isTopLevel found)]
  have inside : path.name ∈ k.fs.catalog.names := formed.mem_names.2 ⟨path, e, found, rfl⟩
  obtain ⟨-, -, notDot, notDots, -⟩ := Filesystem.newFileClass_ok.1 (formed.place found)
  have shown' : k'.shown = k.shown.filter (· ≠ path.name) := by
    simp [shown, names, Ne.symm notDot, Ne.symm notDots]
  have there : path.name ∈ k.shown := List.mem_cons_of_mem _ (List.mem_cons_of_mem _ inside)
  -- The file stands before the position, so the two names of the root do as well.
  have dots : 2 ≤ offset := by
    have behind := (passed.before _).2 ⟨there, List.mem_append_left _ known⟩
    match offset with
    | 0 => cases behind
    | 1 => exact absurd (List.mem_singleton.1 behind) notDot
    | n + 2 => exact Nat.le_add_left 2 n
  obtain ⟨n, rfl⟩ := Nat.exists_eq_add_of_le' dots
  refine ⟨?_, fun name member => ?_, fun name member => old name ?_⟩
  · rw [shown']
    exact passed.clear nodup there known
  · rw [names, List.mem_filter, decide_eq_true_eq]
    rcases List.mem_append.1 member with earlier | next
    · refine ⟨live name earlier, ?_⟩
      rintro rfl
      exact (List.nodup_append.1 passed.once).2.2 _ known _ earlier rfl
    · have ahead : name ∈ k.fs.catalog.names.drop n := List.mem_of_mem_take next
      refine ⟨List.mem_of_mem_drop ahead, ?_⟩
      rintro rfl
      exact passed.fresh nodup ahead (List.mem_append_left _ known)
  · rw [names] at member
    exact (List.mem_filter.1 member).1

theorem Clearing.cleared (clearing : first.Clearing pages offset skipped k)
    (reachable : first.Reachable) : first.Cleared k pages offset skipped := by
  induction clearing with
  | start => exact ⟨⟨.nil, fun name => by simp [namesOf]⟩, nofun, fun _ => id⟩
  | @page pages offset skipped k front last room before told cleared =>
    have sound := (before.reachable reachable).sound
    have page := sound.page_of_answer told
    rw [sound.answer_readDirectory offset room]
    exact cleared.page sound (page ▸ List.take_prefix _ _)
  | @unlinked pages offset skipped k spot path before there known told cleared =>
    have sound := (before.reachable reachable).sound
    have step := sound.step_ok told
    generalize (k.answer (.unlink spot)).2 = after at step ⊢
    cases step with
    | looked looks => cases looks
    | unlinked there' done =>
      cases there.symm.trans there'
      obtain ⟨⟨e, found⟩, gone⟩ := done.catalog_unlinked
      exact cleared.unlinked sound found known gone
  | between c _ same cleared => exact cleared.still same
  | outside _ _ cleared => exact cleared.still rfl

/-- While files are read page by page and taken away once they were read, nothing is returned twice.
Once a capacity that takes entries takes none, the files that are left were returned once, apart
from those that were skipped, which were not returned at all. So all that stay are returned exactly
when each file was taken away after the last one had been read. -/
theorem listing_of_clearing (reachable : first.Reachable)
    (clearing : first.Clearing pages offset skipped k) :
    (namesOf pages).Nodup ∧
      (∀ name ∈ k.fs.catalog.names, name ∈ first.fs.catalog.names) ∧
      ∀ room, k.Accepts offset room →
        (k.answer (.readDirectory InodeTable.rootNumber offset room)).1 = .ok (.listing []) →
        (∀ name ∈ k.fs.catalog.names,
          (namesOf pages).count name = if name ∈ skipped then 0 else 1) ∧
        ((∀ name ∈ k.fs.catalog.names, (namesOf pages).count name = 1) ↔ skipped = []) := by
  have sound := (clearing.reachable reachable).sound
  obtain ⟨passed, live, old⟩ := clearing.cleared reachable
  obtain ⟨returnedOnce, -, apart⟩ := List.nodup_append.1 passed.once
  refine ⟨returnedOnce, old, fun room accepts nothing => ?_⟩
  have all : k.shown.take offset = k.shown := by
    have left := congrArg (List.map Listed.name) (sound.listed_of_nothing accepts nothing)
    rw [List.map_drop, listed_names, List.map_nil, List.drop_eq_nil_iff] at left
    exact List.take_of_length_le left
  have counted : ∀ name ∈ k.fs.catalog.names,
      (namesOf pages).count name = if name ∈ skipped then 0 else 1 := by
    intro name inside
    have there : name ∈ k.shown := List.mem_cons_of_mem _ (List.mem_cons_of_mem _ inside)
    split
    · next missed =>
      exact List.count_eq_zero.2 fun returned => apart name returned name missed rfl
    · next kept =>
      have known := ((passed.before name).1 (all.symm ▸ there)).2
      rw [returnedOnce.count, if_pos ((List.mem_append.1 known).resolve_right kept)]
  refine ⟨counted, fun whole => ?_, fun none' name inside => ?_⟩
  · refine List.eq_nil_iff_forall_not_mem.2 fun name missed => ?_
    have once := whole name (live name missed)
    rw [counted name (live name missed), if_pos missed] at once
    cases once
  · rw [counted name inside, none', if_neg List.not_mem_nil]

theorem Clearing.more (clearing : first.Clearing pages offset skipped k) (sound : k.Sound)
    {room : Nat} {front : List Listed} {last : Listed}
    (page : k.page offset room = front ++ [last]) :
    first.Clearing (pages ++ [front ++ [last]]) last.position skipped k := by
  have answered := sound.answer_readDirectory offset room
  rw [page] at answered
  have next := clearing.page room (congrArg Prod.fst answered)
  rwa [answered] at next

/-- Three files, of which the first is read and taken away. The second is never returned. -/
theorem listing_of_cleared_files :
    let first := execute [.create ⟨1, [0x61]⟩ 0o644 0o022 2, .create ⟨1, [0x62]⟩ 0o644 0o022 2,
      .create ⟨1, [0x63]⟩ 0o644 0o022 2] (start (.start "/d" .counter .empty))
    let k := (first.answer (.unlink ⟨1, [0x61]⟩)).2
    let pages : List (List Listed) :=
      [[⟨1, 1, .directory, "."⟩, ⟨1, 2, .directory, ".."⟩, ⟨2, 3, .regular, "a"⟩],
        [⟨4, 4, .regular, "c"⟩]]
    first.Reachable ∧ first.Clearing pages 4 ["b"] k ∧ k.Accepts 4 4096 ∧
      (k.answer (.readDirectory 1 4 4096)).1 = .ok (.listing []) ∧
      (namesOf pages).count "b" = 0 ∧ (namesOf pages).count "c" = 1 := by
  intro first k pages
  have reachable : first.Reachable :=
    .answer _ (.answer _ (.answer _ (.start fitting "/d" .counter rfl)))
  have read : first.Clearing ([] ++ [[⟨1, 1, .directory, "."⟩, ⟨1, 2, .directory, ".."⟩] ++
      [⟨2, 3, .regular, "a"⟩]]) 3 [] first :=
    Clearing.start.more reachable.sound (show first.page 0 96 = _ by
      decide +kernel)
  have there : pathAt ⟨1, [0x61]⟩ = .ok (.child "a") := ok_of_toOption (by decide +kernel)
  have gone : first.Clearing _ 3 ([] ++ (first.shown.drop 3).take 1) k :=
    read.unlinked there (by decide +kernel) (ok_of_toOption (by decide +kernel))
  have sound : k.Sound := (gone.reachable reachable).sound
  have whole : first.Clearing (_ ++ [[] ++ [⟨4, 4, .regular, "c"⟩]]) 4 _ k :=
    gone.more sound (show k.page 3 4096 = _ by decide +kernel)
  have next : [] ++ (first.shown.drop 3).take 1 = ["b"] := by decide +kernel
  rw [next] at whole
  have accepts : k.Accepts 4 4096 := fun left => absurd (by decide +kernel) left
  have nothing : (k.answer (.readDirectory 1 4 4096)).1 = .ok (.listing []) :=
    ok_of_toOption (by decide +kernel)
  obtain ⟨-, -, ended⟩ := listing_of_clearing reachable whole
  obtain ⟨counted, -⟩ := ended 4096 accepts nothing
  exact ⟨reachable, whole, accepts, nothing, counted "b" (by decide +kernel),
    counted "c" (by decide +kernel)⟩

/-- Two files, of which the first is read and taken away. The other one is there from the start to
the end, and the reading ends without it. -/
theorem unread_despite_staying :
    let first := execute [.create ⟨1, [0x61]⟩ 0o644 0o022 2, .create ⟨1, [0x62]⟩ 0o644 0o022 2]
      (start (.start "/d" .counter .empty))
    let k := (first.answer (.unlink ⟨1, [0x61]⟩)).2
    let pages : List (List Listed) :=
      [[⟨1, 1, .directory, "."⟩, ⟨1, 2, .directory, ".."⟩, ⟨2, 3, .regular, "a"⟩]]
    first.Reachable ∧ first.Clearing pages 3 ["b"] k ∧ k.Accepts 3 4096 ∧
      (k.answer (.readDirectory 1 3 4096)).1 = .ok (.listing []) ∧
      "b" ∈ first.fs.catalog.names ∧ "b" ∈ k.fs.catalog.names ∧
      (namesOf pages).count "b" = 0 := by
  intro first k pages
  have reachable : first.Reachable := .answer _ (.answer _ (.start fitting "/d" .counter rfl))
  have read : first.Clearing ([] ++ [[⟨1, 1, .directory, "."⟩, ⟨1, 2, .directory, ".."⟩] ++
      [⟨2, 3, .regular, "a"⟩]]) 3 [] first :=
    Clearing.start.more reachable.sound (show first.page 0 96 = _ by
      decide +kernel)
  have there : pathAt ⟨1, [0x61]⟩ = .ok (.child "a") := ok_of_toOption (by decide +kernel)
  have gone : first.Clearing _ 3 ([] ++ (first.shown.drop 3).take 1) k :=
    read.unlinked there (by decide +kernel) (ok_of_toOption (by decide +kernel))
  have next : [] ++ (first.shown.drop 3).take 1 = ["b"] := by decide +kernel
  rw [next] at gone
  exact ⟨reachable, gone, fun left => absurd (by decide +kernel) left,
    ok_of_toOption (by decide +kernel), by decide +kernel, by decide +kernel, by decide +kernel⟩

end PatternFs.Kernel.Session
