import PatternFs.Proofs.Filesystem.Clients
import PatternFs.Proofs.Filesystem.Frame
import PatternFs.Proofs.Filesystem.Identities
import PatternFs.Proofs.Store.Answers

/-! All that an operation on one file has to do with: the entry at its path, and what the name of
the path stands for. What becomes of a file is told from these alone. -/
namespace PatternFs

/-- The path of an operation on one file, which may be one that creates the file. -/
def Operation.subject? : Operation → Option Path
  | .create path _ _ => some path
  | op => op.file?

/-- An entry apart from its path, under which it stands, and the number of its descriptor. -/
structure Face where
  identity : Identity
  size : Nat
  opens : Nat
  deriving DecidableEq

namespace Entry

variable {e : Entry}

def face (e : Entry) : Face := ⟨e.identity, e.size, e.opens⟩

theorem face_acquire {h : Holding} (held : e.holding? = some h) :
    e.acquire.face = { e.face with opens := e.opens + 1 } := by
  rw [face, opens_acquire held]
  rfl

theorem face_attach (closed : e.holding? = none) (d : Nat) :
    (e.attach d).face = { e.face with opens := e.opens + 1 } := by
  rw [face, identity_attach, opens_attach, attach_closed closed]
  rfl

theorem face_release (e : Entry) : e.release.face = { e.face with opens := e.opens - 1 } := by
  rw [face, opens_release]
  rfl

end Entry

/-- What is at a path: the entry, and what the name of the path stands for, on its host. -/
@[ext] structure Site where
  platform : Platform
  face? : Option Face
  node? : Option Node
  object? : Option FileObject

namespace Site

def resized (site : Site) (size : Nat) : Site :=
  { site with face? := site.face?.map fun face => { face with size } }

def grown (site : Site) (size : Nat) : Site :=
  { site with face? := site.face?.map fun face => { face with size := max face.size size } }

def counted (site : Site) (f : Nat → Nat) : Site :=
  { site with face? := site.face?.map fun face => { face with opens := f face.opens } }

def changed (site : Site) (f : Content → Content) : Site :=
  { site with object? := site.object?.map (·.change f) }

def vacated (site : Site) : Site := { site with face? := none }

def unnamed (site : Site) : Site := { site with node? := none, object? := none }

/-- The site of a synthetic file after an operation on it that worked. -/
def synthetic (site : Site) : Operation → Site
  | .create _ _ _ => site.resized 0
  | .openFile _ flags => if flags.truncate then site.resized 0 else site
  | .write _ offset data => site.grown (offset + data.length)
  | .truncate _ length => site.resized length
  | .unlink _ => site.vacated
  | _ => site

/-- The site of a delegated file after an operation on it that worked. -/
def delegated (site : Site) : Operation → Site
  | .create _ _ _ => ((site.changed (·.resize 0)).resized 0).counted (· + 1)
  | .openFile _ flags =>
    if flags.truncate then ((site.changed (·.resize 0)).resized 0).counted (· + 1)
    else site.counted (· + 1)
  | .write _ offset data =>
    if data = [] then site.grown (Filesystem.writeEnd offset 0)
    else (site.changed (·.splice offset data)).grown (offset + data.length)
  | .truncate _ length => (site.changed (·.resize length)).resized length
  | .release _ => site.counted (· - 1)
  | .unlink _ => site.unnamed.vacated
  | _ => site

/-- The site after an operation that failed when the host had taken `front` of its data. -/
def left (site : Site) (op : Operation) (front : List UInt8) : Site :=
  match op with
  | .write _ offset _ => if front = [] then site else site.changed (·.splice offset front)
  | _ => site

/-- The site of a file of a class after an operation on it. -/
def after (site : Site) (kind : EntryClass) (op : Operation) (front : List UInt8) :
    Except Failure Reply → Site
  | .error _ => site.left op front
  | .ok _ =>
    match kind with
    | .synthetic => site.synthetic op
    | .delegated => site.delegated op

theorem left_nil (site : Site) (op : Operation) : site.left op [] = site := by
  cases op with
  | write => simp only [left, if_true]
  | _ => rfl

theorem after_looks {op : Operation} (looks : op.looks = true) (site : Site) (kind : EntryClass)
    (front : List UInt8) (r : Except Failure Reply) : site.after kind op front r = site := by
  cases r with
  | error f => cases op <;> first | rfl | cases looks
  | ok reply => cases kind <;> cases op <;> first | rfl | cases looks

end Site

namespace Filesystem

variable {fs base after : Filesystem} {path : Path} {e : Entry} {op : Operation}
  {r : Except Failure Reply} {target : Target}

def site (fs : Filesystem) (path : Path) : Site where
  platform := fs.store.platform
  face? := (fs.catalog.find? path).map Entry.face
  node? := fs.store.names.find? path.name
  object? := fs.store.objectAt? path.name

theorem site_of_find? (found : fs.catalog.find? path = some e) :
    fs.site path = ⟨fs.store.platform, some e.face, fs.store.names.find? path.name,
      fs.store.objectAt? path.name⟩ := by
  rw [site, found]
  rfl

/-- The entry and the real part of a site come from different places. -/
theorem site_eq (entry : after.catalog.find? path = fs.catalog.find? path)
    (keeps : fs.store.Keeps path.name after.store) : after.site path = fs.site path := by
  rw [site, site, entry, keeps.platform, keeps.named, keeps.objectAt?]

theorem Untouched.site (same : fs.Untouched after) (path : Path) :
    after.site path = fs.site path := site_eq (same.find? path) (same.sameFiles.keeps path.name)

theorem site_resizeEntry (found : fs.catalog.find? path = some e) (size : Nat) :
    (fs.resizeEntry path size).site path = (fs.site path).resized size := by
  rw [site_of_find? (Catalog.find?_modify_same found _), site_of_find? found]
  rfl

theorem site_changeTarget (fs : Filesystem)
    (named : fs.store.names.find? path.name = some target.node) (f : Content → Content) :
    site { fs with store := fs.store.changeTarget target f } path =
      (fs.site path).changed f := by
  refine Site.ext ?_ rfl ?_ (Store.objectAt?_changeTarget named f)
  · exact Store.platform_changeTarget _ _ _
  · exact congrArg (·.find? path.name) (Store.names_changeTarget _ _ _)

theorem Referred.site {d : Nat} (referred : fs.Referred path e d base)
    (found : fs.catalog.find? path = some e) :
    base.site path = (fs.site path).counted (· + 1) := by
  have keeps := referred.sameFiles.keeps path.name
  have face : (base.catalog.find? path).map Entry.face =
      some { e.face with opens := e.opens + 1 } := by
    cases referred with
    | shared held =>
      rw [Catalog.find?_modify_same found, Option.map_some, Entry.face_acquire held]
    | opened closed =>
      rw [Catalog.find?_modify_same found, Option.map_some, Entry.face_attach closed]
  rw [site_of_find? found]
  exact Site.ext keeps.platform face keeps.named keeps.objectAt?

theorem site_dropReference (found : fs.catalog.find? path = some e) :
    (fs.dropReference path).site path = (fs.site path).counted (· - 1) := by
  have keeps := (sameFiles_dropReference fs path).keeps path.name
  have now : (fs.dropReference path).catalog.find? path = some e.release := by
    simp only [dropReference, found]
    exact Catalog.find?_modify_same found _
  rw [site_of_find? now, site_of_find? found, keeps.platform, keeps.named, keeps.objectAt?,
    e.face_release]
  rfl

theorem site_vacated (fs : Filesystem) (now : after.catalog.find? path = none)
    (same : fs.store.SameFiles after.store) : after.site path = (fs.site path).vacated := by
  have keeps := same.keeps path.name
  rw [Filesystem.site, now, keeps.platform, keeps.named, keeps.objectAt?]
  rfl

theorem site_unnamed (fs : Filesystem) (path : Path) :
    site { fs with store := fs.store.unnamed path.name } path = (fs.site path).unnamed := by
  refine Site.ext rfl rfl (Table.find?_erase_same _ _) ?_
  change (Store.fileAt? _ _).bind _ = none
  rw [Store.fileAt?_unnamed, if_pos rfl]
  rfl

theorem site_renewed {e' : Entry} {f : Content → Content}
    (named : fs.store.names.find? path.name = some target.node)
    (now : after.catalog.find? path = some e')
    (same : (fs.store.changeTarget target f).SameFiles after.store) :
    after.site path = { (fs.site path).changed f with face? := some e'.face } := by
  have keeps := same.keeps path.name
  rw [site_of_find? now, keeps.platform, keeps.named, keeps.objectAt?,
    Store.objectAt?_changeTarget named, Store.names_changeTarget, Store.platform_changeTarget]
  rfl

theorem Tied.written_reached {store : Store} (tied : fs.Tied)
    (found : fs.catalog.find? path = some e) (kind : e.kind = .delegated)
    (reached : fs.Reached e target store) (offset : Nat) (data : List UInt8) :
    fs.store.names.find? path.name = some target.node ∧
      (fs.store.changeTarget target (·.splice offset data)).SameFiles
        (store.written target offset data) := by
  obtain ⟨_, at'⟩ := tied.anchor found kind
  obtain ⟨rfl, same⟩ := at'.reached (tied.sound.formed.own _ _ found) reached
  refine ⟨at'.named, ?_⟩
  rw [Store.written_eq]
  rcases same with rfl | rfl
  · exact .refl _
  · rw [Store.changeTarget_passed]
    exact Store.sameFiles_passed _

/-- What becomes of a file is told by what it was, by the operation and whether it worked, and by
what the host took of it if it did not. -/
theorem Transition.site (step : fs.Transition op r after) (tied : fs.Tied)
    (about : op.subject? = some path) (found : fs.catalog.find? path = some e) :
    after.site path = (fs.site path).after e.kind op (fs.front op) r := by
  have here := site_of_find? found
  cases step with
  | failed same nothing =>
    rw [nothing]
    exact (same.site path).trans (Site.left_nil _ op).symm
  | looked looks => exact (Site.after_looks looks _ _ _ _).symm
  | destroyed | tornDown | renamedSynthetic | renamedDelegated | renamedTwin => cases about
  | madeSynthetic _ vacant | madeDelegated _ vacant =>
    cases about
    cases vacant.symm.trans found
  | resetSynthetic place found' _ =>
    cases about
    cases found'.symm.trans found
    have kind : e.kind = .synthetic :=
      Except.ok.inj ((tied.sound.formed.place found).symm.trans place)
    rw [kind]
    exact site_resizeEntry found 0
  | resetOpen place found' _ _ made held =>
    cases about
    cases found'.symm.trans found
    obtain ⟨kind, live⟩ := tied.live place found
    obtain ⟨rfl, at'⟩ := tied.made_live live made
    have now := Catalog.find?_modify_same ((Catalog.find?_takeSequence _ _).trans found)
      fun e => (e.resize 0).acquire
    rw [kind, site_renewed at'.named now (Store.sameFiles_passed _), here]
    exact Site.ext rfl (congrArg some (Entry.face_acquire (e := e.resize 0) held)) rfl rfl
  | resetClosed place found' _ _ made closed =>
    cases about
    cases found'.symm.trans found
    obtain ⟨kind, live⟩ := tied.live place found
    obtain ⟨rfl, at'⟩ := tied.made_live live made
    have now := Catalog.find?_modify_same ((Catalog.find?_takeSequence _ _).trans found)
      fun e => (e.resize 0).attach fs.store.nextDescriptor
    rw [kind, site_renewed at'.named now (Store.sameFiles_register _ _), here]
    exact Site.ext rfl (congrArg some (Entry.face_attach (e := e.resize 0) closed _)) rfl rfl
  | @openedSynthetic _ flags _ found' kind =>
    cases about
    cases found'.symm.trans found
    rw [kind]
    change _ = if flags.truncate then _ else _
    split
    · exact site_resizeEntry found 0
    · rfl
  | openedDelegated found' kind cut referred =>
    cases about
    cases found'.symm.trans found
    rw [kind, referred.site found]
    exact (if_neg (by rw [cut]; exact Bool.false_ne_true)).symm
  | @emptiedDelegated _ flags _ _ _ base found' kind cut referred held =>
    cases about
    cases found'.symm.trans found
    obtain ⟨now, lives, -⟩ := referred.find? found
    have named := tied.named_referred found kind referred held
    rw [kind]
    refine (site_changeTarget (base.resizeEntry path 0) named (·.resize 0)).trans ?_
    rw [site_resizeEntry lives, referred.site found, here]
    exact (if_pos cut).symm
  | read _ _ idle =>
    rw [idle.untouched.site]
    cases e.kind <;> rfl
  | wroteSynthetic found' kind _ =>
    cases about
    cases found'.symm.trans found
    rw [kind, site_resizeEntry found, here]
    rfl
  | wroteNothing found' kind idle =>
    cases about
    cases found'.symm.trans found
    have now := (idle.untouched.find? path).trans found
    rw [kind, site_resizeEntry now, idle.untouched.site, here]
    rfl
  | @wroteDelegated _ offset data _ target store found' kind nonempty _ reached =>
    cases about
    cases found'.symm.trans found
    obtain ⟨named, renewed⟩ := tied.written_reached found kind reached offset data
    have now := Catalog.find?_modify_same found (·.resize (max e.size (offset + data.length)))
    rw [kind, site_renewed named now renewed, here]
    exact (if_neg nonempty).symm
  | @brokeOff _ offset data _ _ target store found' kind nonempty _ reached =>
    cases about
    cases found'.symm.trans found
    let after : Filesystem :=
      { fs with store := store.written target offset (fs.front (.write path offset data)) }
    obtain ⟨named, renewed⟩ := tied.written_reached found kind reached offset
      (fs.front (.write path offset data))
    have same : after.site path = _ := site_renewed named found renewed
    refine same.trans ?_
    rw [here]
    exact (if_neg nonempty).symm
  | cutSynthetic found' kind =>
    cases about
    cases found'.symm.trans found
    rw [kind, site_resizeEntry found]
    rfl
  | @cutDelegated _ length id _ _ found' kind _ _ node =>
    cases about
    cases found'.symm.trans found
    have named : fs.store.names.find? path.name = some (Target.file id).node :=
      (Store.node_iff.1 node).2
    rw [kind, site_renewed named (Catalog.find?_modify_same found _) (Store.sameFiles_passed _),
      here]
    rfl
  | unlinkedSynthetic found' kind =>
    cases about
    cases found'.symm.trans found
    have now := (Catalog.find?_remove fs.catalog path path).trans (if_pos rfl)
    rw [kind]
    exact site_vacated fs now (.refl _)
  | unlinkedDelegated found' kind =>
    cases about
    cases found'.symm.trans found
    have now := (Catalog.find?_remove fs.catalog path path).trans (if_pos rfl)
    have same := Store.sameFiles_releaseAll (fs.store.unnamed path.name) e.descriptor?.toList
    rw [kind, site_vacated { fs with store := fs.store.unnamed path.name } now same,
      site_unnamed]
    rfl
  | unlinkedMissing found' kind missing => exact absurd missing (tied.not_missing found' kind)
  | released =>
    cases about
    rw [site_dropReference found]
    cases kind : e.kind with
    | delegated => rfl
    | synthetic =>
      have nobody : e.opens - 1 = e.opens := by
        rw [Entry.opens, (tied.sound.formed.formed _ _ found).closed kind]
        rfl
      rw [here]
      exact Site.ext rfl (congrArg (fun n => some (Face.mk _ _ n)) nobody) rfl rfl

end Filesystem

end PatternFs
