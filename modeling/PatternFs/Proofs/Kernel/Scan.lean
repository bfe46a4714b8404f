import PatternFs.Proofs.Kernel.Steps

/-! Reading the directory page by page. Each page is a front part of what is left of one listing,
and the position of its last entry is where the rest of that listing begins. So the pages add up to
the listing, however they are cut, as long as the files and their numbers stay. -/
namespace PatternFs.Kernel

namespace Session

variable {first k : Session} {pages : List (List Listed)} {offset i : Nat} {e : Listed}

theorem decode_toByteArray (name : String) : decode name.toByteArray.data.toList = .ok name := by
  have whole : String.fromUTF8? ⟨name.toByteArray.data.toList.toArray⟩ = some name :=
    dif_pos name.isValidUTF8
  rw [decode, whole]

/-- What is listed of the root when there is room for everything. -/
def listed (k : Session) : List Listed :=
  ("." :: ".." :: k.fs.catalog.names).zipIdx.map fun (name, i) =>
    { inode := (k.inodes.number? (listedPath name)).getD 0, position := i + 1,
      kind := listedKind name, name }

theorem length_listed (k : Session) : k.listed.length = k.fs.catalog.entries.size + 2 := by
  simp [listed, Catalog.names, Table.values, Table.size]

theorem position_of_listed (here : k.listed[i]? = some e) : e.position = i + 1 := by
  rw [listed, List.getElem?_map, List.getElem?_zipIdx] at here
  obtain ⟨row, at', rfl⟩ := Option.map_eq_some_iff.1 here
  obtain ⟨name, -, rfl⟩ := Option.map_eq_some_iff.1 at'
  exact congrArg (· + 1) (Nat.zero_add i)

theorem listing_map (names : List String) (number : String → Nat) :
    listing names (names.map number) = names.zipIdx.map fun (name, i) =>
      { inode := number name, position := i + 1, kind := listedKind name, name } := by
  have zipped : names.zip (names.map number) = names.map fun name => (name, number name) := by
    induction names with
    | nil => rfl
    | cons name rest ih => simp only [List.map_cons, List.zip_cons_cons, ih]
  rw [listing, zipped, List.zipIdx_map, List.map_map]
  rfl

/-- What a buffer of a size takes of the rest of the listing. -/
def page (k : Session) (offset room : Nat) : List Listed :=
  (k.listed.drop offset).take (k.buffer room (k.listed.drop offset))

/-- A page is what the buffer takes of the rest of the listing, and nothing else happens. -/
theorem Sound.answer_readDirectory (sound : k.Sound) (offset room : Nat) :
    k.answer (.readDirectory InodeTable.rootNumber offset room) =
      (.ok (.listing (k.page offset room)), k) := by
  have here : k.resolve InodeTable.rootNumber = .ok .root := by
    rw [resolve, sound.coherent.root]
  have names : k.fs.list .root = .ok ("." :: ".." :: k.fs.catalog.names) := rfl
  have numbers := InodeTable.assignAll_known (sound.known_of_list names)
  rw [List.map_map] at numbers
  simp only [answer, withPath, here, readDirectory, names, numbers, told, listing_map]
  rfl

theorem Sound.page_of_answer (sound : k.Sound) {room : Nat} {page : List Listed}
    (answered : (k.answer (.readDirectory InodeTable.rootNumber offset room)).1 =
      .ok (.listing page)) : k.page offset room = page := by
  rw [sound.answer_readDirectory] at answered
  injection answered with answered
  injection answered

/-- Of a listing that has not ended, a buffer of the size takes an entry. -/
def Accepts (k : Session) (offset room : Nat) : Prop :=
  k.listed.drop offset ≠ [] → 0 < k.buffer room (k.listed.drop offset)

theorem Sound.listed_of_nothing (sound : k.Sound) {room : Nat} (accepts : k.Accepts offset room)
    (nothing : (k.answer (.readDirectory InodeTable.rootNumber offset room)).1 =
      .ok (.listing [])) : k.listed.drop offset = [] := by
  have none' := sound.page_of_answer nothing
  rcases List.take_eq_nil_iff.1 none' with taken | left
  · by_cases left : k.listed.drop offset = []
    · exact left
    · exact absurd taken (Nat.ne_of_gt (accepts left))
  · exact left

/-- Pages of the root, each read from the position of the last entry of the page before it. In
between the kernel may ask for anything that leaves the files and their numbers as they are, and
others may change the backing directory. -/
inductive Scan (first : Session) : List (List Listed) → Nat → Session → Prop
  | start : Scan first [] 0 first
  | page {pages : List (List Listed)} {offset : Nat} {k : Session} {front : List Listed}
      {last : Listed} (room : Nat) : Scan first pages offset k →
      (k.answer (.readDirectory InodeTable.rootNumber offset room)).1 =
        .ok (.listing (front ++ [last])) →
      Scan first (pages ++ [front ++ [last]]) last.position
        (k.answer (.readDirectory InodeTable.rootNumber offset room)).2
  | between {pages : List (List Listed)} {offset : Nat} {k : Session} (c : Callback) :
      Scan first pages offset k → (k.answer c).2.fs.catalog.entries = k.fs.catalog.entries →
      (k.answer c).2.inodes = k.inodes → Scan first pages offset (k.answer c).2
  | outside {pages : List (List Listed)} {offset : Nat} {k : Session} {store : Store} :
      Scan first pages offset k → k.fs.store.OutsideChange store →
      Scan first pages offset { k with fs := { k.fs with store } }

theorem Scan.more (scan : first.Scan pages offset k) (sound : k.Sound) {room : Nat}
    {front : List Listed} {last : Listed}
    (page : k.page offset room = front ++ [last]) :
    first.Scan (pages ++ [front ++ [last]]) last.position k := by
  have answered := sound.answer_readDirectory offset room
  rw [page] at answered
  have next := scan.page room (congrArg Prod.fst answered)
  rwa [answered] at next

theorem Scan.reachable (scan : first.Scan pages offset k) (reachable : first.Reachable) :
    k.Reachable := by
  induction scan with
  | start => exact reachable
  | page room _ _ before => exact .answer _ before
  | between c _ _ _ before => exact .answer c before
  | outside _ change before => exact .outside before change

/-- The pages are the front part of the listing up to the offset, which grows with every page. -/
structure Paged (k : Session) (pages : List (List Listed)) (offset : Nat) : Prop where
  read : pages.flatten = k.listed.take offset
  grown : pages.length ≤ offset
  within : offset ≤ k.listed.length

theorem Paged.still (paged : k.Paged pages offset) {k' : Session} (same : k'.listed = k.listed) :
    k'.Paged pages offset :=
  ⟨same ▸ paged.read, paged.grown, same ▸ paged.within⟩

theorem position_of_page {front : List Listed} {last : Listed}
    (rest : front ++ [last] <+: k.listed.drop offset) :
    last.position = offset + (front ++ [last]).length := by
  have here : (k.listed.drop offset)[front.length]? = some last := by
    obtain ⟨tail, whole⟩ := rest
    simp [← whole]
  rw [List.getElem?_drop] at here
  rw [position_of_listed here, List.length_append, List.length_singleton]
  rfl

theorem Paged.page (paged : k.Paged pages offset) {front : List Listed} {last : Listed}
    (rest : front ++ [last] <+: k.listed.drop offset) :
    k.Paged (pages ++ [front ++ [last]]) last.position := by
  obtain ⟨read, grown, within⟩ := paged
  have inside := rest.length_le
  rw [List.length_drop, List.length_append, List.length_singleton] at inside
  have end' := position_of_page rest
  constructor
  · rw [end', List.take_add, ← List.prefix_iff_eq_take.1 rest, ← read]
    simp
  · rw [end', List.length_append, List.length_append]
    exact Nat.add_le_add grown (Nat.le_add_left _ _)
  · rw [end', List.length_append, List.length_singleton]
    omega

theorem listed_congr {k' : Session} (entries : k'.fs.catalog.entries = k.fs.catalog.entries)
    (inodes : k'.inodes = k.inodes) : k'.listed = k.listed := by
  rw [listed, listed, Catalog.names, Catalog.names, entries, inodes]

theorem Scan.paged (scan : first.Scan pages offset k) (reachable : first.Reachable) :
    k.Paged pages offset := by
  induction scan with
  | start => exact ⟨rfl, Nat.le_refl 0, Nat.zero_le _⟩
  | @page pages offset k front last room before told paged =>
    have sound := (before.reachable reachable).sound
    have page := sound.page_of_answer told
    rw [sound.answer_readDirectory offset room]
    exact paged.page (page ▸ List.take_prefix _ _)
  | between c _ entries inodes paged => exact paged.still (listed_congr entries inodes)
  | outside _ _ paged => exact paged.still (listed_congr rfl rfl)

/-- After the two names of the root itself the files are listed, each under its number. -/
theorem Sound.listed_files (sound : k.Sound) :
    ∃ files, k.listed = ⟨1, 1, .directory, "."⟩ :: ⟨1, 2, .directory, ".."⟩ :: files ∧
      files.map Listed.name = k.fs.catalog.names ∧
      ∀ f ∈ files, f.kind = .regular ∧ k.inodes.number? (.child f.name) = some f.inode := by
  have root : k.inodes.number? .root = some 1 := sound.coherent.number?_root
  refine ⟨k.listed.drop 2, ?_, ?_, fun f member => ?_⟩
  · simp [listed, listedPath, listedKind, isDirectoryName, root]
  · simp [listed, Function.comp_def]
  · simp only [listed, List.zipIdx_cons, List.map_cons, List.drop_succ_cons,
      List.drop_zero] at member
    obtain ⟨⟨name, i⟩, row, rfl⟩ := List.mem_map.1 member
    have inside : name ∈ k.fs.catalog.names := List.fst_mem_of_mem_zipIdx row
    obtain ⟨path, e, found, rfl⟩ := sound.fs.formed.mem_names.1 inside
    have place := sound.fs.formed.place found
    obtain ⟨number, known⟩ := sound.numbered path _ (Filesystem.ids_of_find? found)
    have child : Path.child path.name = path := Path.child_name (sound.fs.formed.isTopLevel found)
    simp [listedKind, isDirectoryName_name place, listedPath_name place, child, known]

theorem answer_lookup {name : String} {inode : Nat} {a : Attributes}
    (known : k.inodes.number? (.child name) = some inode)
    (attributes : k.fs.getAttributes (.child name) = .ok a) :
    (k.answer (.lookup ⟨InodeTable.rootNumber, name.toByteArray.data.toList⟩)).1 =
      .ok (.node inode a) := by
  have there : pathAt ⟨InodeTable.rootNumber, name.toByteArray.data.toList⟩ =
      .ok (.child name) := by
    simp [pathAt, decode_toByteArray, Except.map]
  have described : k.describe (.child name) = (.ok (inode, a), k) := by
    simp only [Session.describe, attributes, InodeTable.assign_known known]
  simp only [answer, withPath, there, lookup, described]
  rfl

/-- Reading the root page by page, whatever the capacities, takes no more calls than there are
names, and each call is answered and changes nothing. Once a capacity that takes entries takes none,
the pages together were the two names of the root and then each live file once, with the number
under which the file is found by its name. -/
theorem listing_of_scan (reachable : first.Reachable) (scan : first.Scan pages offset k) :
    (∀ room, ∃ page, k.answer (.readDirectory InodeTable.rootNumber offset room) =
        (.ok (.listing page), k)) ∧
      pages.length ≤ k.fs.catalog.entries.size + 2 ∧
      ∀ room, k.Accepts offset room →
        (k.answer (.readDirectory InodeTable.rootNumber offset room)).1 = .ok (.listing []) →
        ∃ files, pages.flatten =
            ⟨1, 1, .directory, "."⟩ :: ⟨1, 2, .directory, ".."⟩ :: files ∧
          (files.map Listed.name).Nodup ∧
          (∀ name, name ∈ files.map Listed.name ↔
            ∃ path e, k.fs.catalog.find? path = some e ∧ path.name = name) ∧
          ∀ f ∈ files, f.kind = .regular ∧
            ∀ a, k.fs.getAttributes (.child f.name) = .ok a →
              (k.answer (.lookup ⟨InodeTable.rootNumber, f.name.toByteArray.data.toList⟩)).1 =
                .ok (.node f.inode a) := by
  have sound := (scan.reachable reachable).sound
  obtain ⟨read, grown, within⟩ := scan.paged reachable
  refine ⟨fun room => ⟨_, sound.answer_readDirectory offset room⟩, ?_,
    fun room accepts nothing => ?_⟩
  · rw [length_listed] at within
    exact Nat.le_trans grown within
  · have all : k.listed.take offset = k.listed := by
      have left := sound.listed_of_nothing accepts nothing
      have whole := List.take_append_drop offset k.listed
      rwa [left, List.append_nil] at whole
    obtain ⟨files, whole, names, numbers⟩ := sound.listed_files
    refine ⟨files, by rw [read, all, whole], ?_, fun name => ?_, fun f member => ?_⟩
    · rw [names]
      exact sound.fs.formed.nodup_names
    · rw [names]
      exact sound.fs.formed.mem_names
    · obtain ⟨kind, known⟩ := numbers f member
      exact ⟨kind, fun a attributes => answer_lookup known attributes⟩

/-- Two files are listed in three pages, the smallest of them with room for a single name. -/
theorem listing_of_two_files :
    let k := execute [.create ⟨1, [0x61, 0x2e, 0x6d, 0x68, 0x61, 0x73, 0x68]⟩ 0o644 0o022 2,
      .create ⟨1, [0x62]⟩ 0o644 0o022 2] (start (.start "/d" .counter .empty))
    let dot : Listed := ⟨1, 1, .directory, "."⟩
    let dots : Listed := ⟨1, 2, .directory, ".."⟩
    let a : Listed := ⟨2, 3, .regular, "a.mhash"⟩
    let b : Listed := ⟨3, 4, .regular, "b"⟩
    k.Reachable ∧ k.Scan [[dot], [dots, a], [b]] 4 k ∧ k.Accepts 4 4096 ∧
      (k.answer (.readDirectory 1 4 4096)).1 = .ok (.listing []) ∧
      ∃ attributes, (k.answer (.lookup ⟨1, [0x62]⟩)).1 = .ok (.node 3 attributes) := by
  intro k dot dots a b
  have reachable : k.Reachable := .answer _ (.answer _ (.start fitting "/d" .counter rfl))
  have sound := reachable.sound
  have first : k.Scan ([] ++ [[] ++ [dot]]) 1 k :=
    Scan.start.more sound (show k.page 0 32 = _ by decide +kernel)
  have second : k.Scan (_ ++ [[dots] ++ [a]]) 3 k :=
    first.more sound (show k.page 1 70 = _ by decide +kernel)
  have third : k.Scan (_ ++ [[] ++ [b]]) 4 k :=
    second.more sound (show k.page 3 4096 = _ by decide +kernel)
  have accepts : k.Accepts 4 4096 := fun left => absurd (by decide +kernel) left
  have nothing : (k.answer (.readDirectory 1 4 4096)).1 = .ok (.listing []) :=
    ok_of_toOption (by decide +kernel)
  obtain ⟨-, -, ended⟩ := listing_of_scan reachable third
  obtain ⟨files, whole, -, -, each⟩ := ended 4096 accepts nothing
  have rest : [a, b] = files := List.tail_eq_of_cons_eq (List.tail_eq_of_cons_eq whole)
  obtain ⟨-, found⟩ := each b (rest ▸ List.mem_cons_of_mem _ List.mem_cons_self)
  have known : (k.fs.getAttributes (.child "b")).toOption = some (.synthetic 0) := by
    decide +kernel
  exact ⟨reachable, third, accepts, nothing, _, found _ (ok_of_toOption known)⟩

end Session

end PatternFs.Kernel
