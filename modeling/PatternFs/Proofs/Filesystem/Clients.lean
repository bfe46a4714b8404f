import PatternFs.Proofs.Filesystem.History

/-! How many clients a delegated file has. An entry counts the references to the descriptor that it
holds, in whatever way it came by it; a history counts what clients asked for, path by path. The two
counts are the same, also where others remove or replace the real file. -/
namespace PatternFs

open Filesystem (newFileClass newFileClass_ok)

namespace Entry

variable {e : Entry}

/-- The references to the descriptor of an entry; a closed entry has none. -/
def opens (e : Entry) : Nat := (e.holding?.map Holding.opens).getD 0

theorem opens_acquire {h : Holding} (held : e.holding? = some h) :
    e.acquire.opens = e.opens + 1 := by
  simp [opens, acquire, held]

theorem opens_attach (e : Entry) (d : Nat) : (e.attach d).opens = e.opens + 1 := by
  cases held : e.holding? with
  | none => simp [opens, attach_closed held, held]
  | some h => rw [attach_open held, opens_acquire held]

theorem opens_release (e : Entry) : e.release.opens = e.opens - 1 := by
  cases held : e.holding? with
  | none => simp [opens, release, held]
  | some h =>
    by_cases last : h.opens ≤ 1
    · have nobody : h.opens - 1 = 0 := by omega
      simp [opens, release, held, last, nobody]
    · simp [opens, release, held, last]

theorem WellFormed.closed_iff (formed : e.WellFormed) : e.holding? = none ↔ e.opens = 0 := by
  cases held : e.holding? with
  | none => simp [opens, held]
  | some h =>
    have counted := formed.counted h held
    simp only [opens, held, Option.map_some, Option.getD_some, reduceCtorEq, false_iff]
    omega

/-- The clients of a delegated entry. -/
def clients? (e : Entry) : Option Nat := if e.kind = .delegated then some e.opens else none

theorem clients?_attach (e : Entry) (d : Nat) :
    (e.attach d).clients? = e.clients?.map (· + 1) := by
  have kind : (e.attach d).kind = e.kind := by unfold attach; split <;> rfl
  rw [clients?, clients?, kind, opens_attach]
  split <;> rfl

theorem clients?_acquire {h : Holding} (held : e.holding? = some h) :
    e.acquire.clients? = e.clients?.map (· + 1) := by
  rw [← attach_open held h.descriptor, clients?_attach]

theorem clients?_release (e : Entry) : e.release.clients? = e.clients?.map (· - 1) := by
  rw [clients?, clients?, opens_release]
  by_cases kind : e.kind = .delegated
  · rw [if_pos kind, if_pos (show e.release.kind = .delegated from kind)]
    rfl
  · rw [if_neg kind, if_neg (show ¬ e.release.kind = .delegated from kind)]
    rfl

end Entry

/-- How many clients each live delegated file has. -/
abbrev Clients := Told (Option Nat)

namespace Clients

variable {clients : Clients} {path : Path} {mode : Nat} {flags : OpenFlags}

def change (clients : Clients) (path : Path) (f : Nat → Nat) : Clients :=
  clients.put path ((clients path).map f)

/-- The clients after an operation that worked. A file that is created has its creator, beside those
it had; a release at a path without clients changes nothing. -/
def told (clients : Clients) : Operation → Clients
  | .destroy | .teardown => fun _ => none
  | .create path _ _ =>
    if path.entryClass? = some .delegated then
      clients.put path (some ((clients path).getD 0 + 1))
    else clients
  | .openFile path _ => clients.change path (· + 1)
  | .release path => clients.change path (· - 1)
  | .rename old new => clients.move none old new
  | .unlink path => clients.put path none
  | .setUp | .getAttributes _ | .read _ _ _ | .write _ _ _ | .truncate _ _ | .flush _
  | .openDirectory _ | .list _ | .access _ | .lock _ | .getAttribute _ _ | .refused _ => clients

theorem told_looks {op : Operation} (looks : op.looks = true) : clients.told op = clients := by
  cases op <;> first | rfl | cases looks

theorem told_synthetic (place : newFileClass path = .ok .synthetic) :
    clients.told (.create path mode flags) = clients := by
  refine if_neg fun delegated => ?_
  rw [(newFileClass_ok.1 place).1] at delegated
  cases delegated

theorem told_delegated (place : newFileClass path = .ok .delegated) {n : Nat}
    (had : (clients path).getD 0 = n) :
    clients.told (.create path mode flags) = clients.put path (some (n + 1)) := by
  rw [← had]
  exact if_pos (newFileClass_ok.1 place).1

theorem change_absent (absent : clients path = none) (f : Nat → Nat) :
    clients.change path f = clients := by
  rw [change, absent]
  exact Told.put_same absent

end Clients

namespace Filesystem

variable {fs base after : Filesystem} {path : Path} {e : Entry} {op : Operation}
  {r : Except Failure Reply}

/-- The clients that the live delegated entries count. -/
def clients (fs : Filesystem) : Clients := fs.catalog.view Entry.clients?

theorem clients_of_find? (found : fs.catalog.find? path = some e) :
    fs.clients path = e.clients? := Catalog.view_of_find? found

theorem clients_delegated (found : fs.catalog.find? path = some e) (kind : e.kind = .delegated) :
    fs.clients path = some e.opens := (clients_of_find? found).trans (if_pos kind)

theorem clients_synthetic (found : fs.catalog.find? path = some e) (kind : e.kind = .synthetic) :
    fs.clients path = none := by
  rw [clients_of_find? found, Entry.clients?, kind]
  rfl

theorem clients_modify (found : fs.catalog.find? path = some e) {g : Entry → Entry} {f : Nat → Nat}
    (counts : (g e).clients? = e.clients?.map f) :
    (fs.catalog.modify path g).view Entry.clients? = fs.clients.change path f := by
  rw [Clients.change, clients_of_find? found, ← counts]
  exact Catalog.view_modify found g

theorem clients_resizeEntry (fs : Filesystem) (path : Path) (size : Nat) :
    (fs.resizeEntry path size).clients = fs.clients :=
  Catalog.view_modify_same path fun _ => rfl

theorem Untouched.clients (same : fs.Untouched after) : after.clients = fs.clients := same.view _

/-- However a client comes to its descriptor, it is one client more. -/
theorem Referred.clients {d : Nat} (found : fs.catalog.find? path = some e)
    (referred : fs.Referred path e d base) : base.clients = fs.clients.change path (· + 1) := by
  cases referred with
  | shared held => exact clients_modify found (Entry.clients?_acquire held)
  | opened => exact clients_modify found (e.clients?_attach _)

theorem clients_dropReference (fs : Filesystem) (path : Path) :
    (fs.dropReference path).clients = fs.clients.change path (· - 1) := by
  unfold dropReference
  cases found : fs.catalog.find? path with
  | none => exact (Clients.change_absent (Catalog.view_of_vacant found) _).symm
  | some e => exact clients_modify found e.clients?_release

theorem clients_move {old : Path} (new : Path) (found : fs.catalog.find? old = some e) :
    (fs.catalog.move old new).view Entry.clients? = fs.clients.move none old new :=
  Catalog.view_move new (fun _ => rfl) found

theorem Sound.told_recreated (sound : fs.Sound) (mode : Nat) (flags : OpenFlags)
    (place : newFileClass path = .ok .delegated) (found : fs.catalog.find? path = some e) :
    fs.clients.told (.create path mode flags) = fs.clients.change path (· + 1) := by
  have kind := Except.ok.inj ((sound.formed.place found).symm.trans place)
  have now := clients_delegated found kind
  have had : (fs.clients path).getD 0 = e.opens := by rw [now]; rfl
  rw [Clients.told_delegated place had, Clients.change, now]
  rfl

theorem Sound.clients_recreated (sound : fs.Sound) {g : Entry → Entry} (mode : Nat)
    (flags : OpenFlags) (place : newFileClass path = .ok .delegated)
    (found : fs.catalog.find? path = some e) (counts : (g e).clients? = e.clients?.map (· + 1)) :
    (fs.catalog.modify path g).view Entry.clients? =
      fs.clients.told (.create path mode flags) := by
  rw [clients_modify found counts, sound.told_recreated mode flags place found]

/-- One operation changes the clients as it tells. -/
theorem Transition.clients (sound : fs.Sound) (step : fs.Transition op r after) :
    after.clients = Told.after Clients.told fs.clients op r := by
  cases step with
  | failed same => exact same.clients
  | looked looks => exact (Told.after_same (Clients.told_looks looks) r).symm
  | destroyed => rfl
  | tornDown => rfl
  | madeSynthetic place vacant _ =>
    rw [Told.after, Clients.told_synthetic place]
    exact Catalog.view_put_same vacant rfl
  | resetSynthetic place =>
    rw [Told.after, Clients.told_synthetic place]
    exact clients_resizeEntry _ _ 0
  | @madeDelegated path mode flags _ _ _ place vacant _ _ _ =>
    have had : (fs.clients path).getD 0 = 0 := by
      rw [Filesystem.clients, Catalog.view_of_vacant vacant]
      rfl
    rw [Told.after, Clients.told_delegated place had]
    exact Catalog.view_put _
  | @resetOpen path mode flags _ _ _ e _ place found _ _ _ held =>
    have counts := Entry.clients?_acquire (e := e.resize 0) held
    exact sound.clients_recreated mode flags place found (g := fun e => (e.resize 0).acquire) counts
  | @resetClosed path mode flags _ _ _ e place found _ _ _ _ =>
    have counts := (e.resize 0).clients?_attach fs.store.nextDescriptor
    exact sound.clients_recreated mode flags place found
      (g := fun e => (e.resize 0).attach fs.store.nextDescriptor) counts
  | openedSynthetic found kind =>
    rw [Told.after, Clients.told, Clients.change_absent (clients_synthetic found kind)]
    split
    · exact clients_resizeEntry _ _ 0
    · rfl
  | openedDelegated found _ _ referred => exact referred.clients found
  | @emptiedDelegated path _ _ _ _ base found _ _ referred _ =>
    exact (clients_resizeEntry base path 0).trans (referred.clients found)
  | read _ _ idle => exact idle.untouched.clients
  | wroteSynthetic => exact clients_resizeEntry _ _ _
  | wroteNothing _ _ idle => exact (clients_resizeEntry _ _ _).trans idle.untouched.clients
  | wroteDelegated => exact clients_resizeEntry _ _ _
  | brokeOff => rfl
  | cutSynthetic => exact clients_resizeEntry _ _ _
  | cutDelegated => exact clients_resizeEntry _ _ _
  | renamedSynthetic found => exact clients_move _ found
  | renamedDelegated found => exact clients_move _ found
  | renamedTwin found => exact clients_move _ found
  | unlinkedSynthetic => exact Catalog.view_remove
  | unlinkedDelegated => exact Catalog.view_remove
  | unlinkedMissing => exact Catalog.view_remove
  | released => exact clients_dropReference fs _

/-- Whatever a mount was asked and whatever others did to the backing directory, a live delegated
entry counts the creations and openings of its file that worked, less the releases, since it was
made and wherever it was moved; and it is closed exactly while the count is zero. -/
theorem opens_of_recorded {past : History} (recorded : Recorded past fs) :
    let clients := past.told Clients.told fun _ => none
    (∀ path e, fs.catalog.find? path = some e → e.kind = .delegated →
      clients path = some e.opens ∧ (e.holding? = none ↔ clients path = some 0)) ∧
      ∀ path n, clients path = some n →
        ∃ e, fs.catalog.find? path = some e ∧ e.kind = .delegated := by
  intro clients
  have same : fs.clients = clients :=
    recorded.told_eq (fun _ _ _ => rfl) (fun sound step => step.clients sound) fun _ _ => rfl
  rw [← same]
  constructor
  · intro path e found kind
    have formed := recorded.reachable.sound.formed.formed path e found
    rw [clients_delegated found kind]
    exact ⟨rfl, by rw [formed.closed_iff, Option.some_inj]⟩
  · intro path n counted
    obtain ⟨e, found, here⟩ := Option.bind_eq_some_iff.1 counted
    refine ⟨e, found, ?_⟩
    by_cases kind : e.kind = .delegated
    · exact kind
    · rw [Entry.clients?, if_neg kind] at here
      cases here

/-- Others put the null device in the place of a closed file. An opening that is to empty it fails
and counts for nothing; another opening and a creation count, on either side of a move. -/
theorem opens_of_moved_device :
    let old : Path := ⟨["a.mhash"], by simp [IsComponent]⟩
    let new : Path := ⟨["b.mhash"], by simp [IsComponent]⟩
    let closed := execute [.create old 0o644 (.ofBits 6), .release old]
      (start "/d" .counter .empty)
    let store := ((closed.store.outside "a.mhash" .remove).2.outside "a.mhash" .linkNull).2
    let fs := execute [.openFile old (.ofBits 8), .openFile old (.ofBits 2), .rename old new,
      .create new 0o644 (.ofBits 6)] { closed with store }
    ∃ e, fs.catalog.find? new = some e ∧ e.kind = .delegated ∧ e.opens = 2 := by
  intro old new closed store fs
  have change : closed.store.OutsideChange store :=
    (Store.outsideChange_outside _ "a.mhash" .remove).trans
      (Store.outsideChange_outside _ "a.mhash" .linkNull)
  have first : Recorded [] (start "/d" .counter .empty) := .start "/d" .counter ⟨rfl, rfl, rfl⟩
  have before : Recorded _ closed := .perform (.release old) (.perform (.create old _ _) first)
  have recorded : Recorded _ fs :=
    .perform (.create new _ _) (.perform (.rename old new) (.perform (.openFile old _)
      (.perform (.openFile old _) (.outside before change))))
  obtain ⟨counts, -⟩ := opens_of_recorded recorded
  have found : fs.catalog.find? new = some ⟨new, .delegated, 0, .zero, some ⟨2, 2⟩, 1⟩ := by
    decide +kernel
  obtain ⟨told, -⟩ := counts new _ found rfl
  exact ⟨_, found, rfl, Option.some.inj (told.symm.trans (by decide +kernel))⟩

end Filesystem

end PatternFs
