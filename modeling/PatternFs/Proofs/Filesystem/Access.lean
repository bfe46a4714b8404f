import PatternFs.Filesystem.Operation
import PatternFs.Proofs.Catalog.Rules
import PatternFs.Proofs.Store.Outcomes

/-! How an operation comes by the real file of an entry: through the descriptor that the entry
holds, or through one that is opened for it. What fails on the way leaves the mount as it was. -/
namespace PatternFs

namespace Filesystem

variable {fs base : Filesystem} {path : Path} {e : Entry} {d : Nat}

/-- A sequence id may have been spent, and a descriptor may have been given out and taken back;
all else is as it was. -/
structure Untouched (fs after : Filesystem) : Prop where
  catalog : after.catalog = fs.catalog ∨ after.catalog = fs.catalog.takeSequence.2
  store : after.store = fs.store ∨ after.store = fs.store.passed
  directory : after.backingDirectory = fs.backingDirectory
  fallback : after.fallback = fs.fallback

theorem Untouched.refl (fs : Filesystem) : fs.Untouched fs := ⟨.inl rfl, .inl rfl, rfl, rfl⟩

/-- A descriptor may have been given out and taken back, and nothing else happened. -/
def Idle (fs after : Filesystem) : Prop := after = fs ∨ after = { fs with store := fs.store.passed }

theorem Idle.untouched {after : Filesystem} (idle : fs.Idle after) : fs.Untouched after := by
  rcases idle with rfl | rfl
  · exact .refl after
  · exact ⟨.inl rfl, .inr rfl, rfl, rfl⟩

theorem Untouched.find? {after : Filesystem} (same : fs.Untouched after) (path : Path) :
    after.catalog.find? path = fs.catalog.find? path := by
  rcases same.catalog with eq | eq <;> rw [eq]
  rfl

theorem Untouched.store_eq {α : Type} {after : Filesystem} (same : fs.Untouched after)
    {f : Store → α} (passed : f fs.store.passed = f fs.store) : f after.store = f fs.store := by
  rcases same.store with eq | eq <;> rw [eq]
  exact passed

/-- The target on which an operation works that needs the file of `e`, and the store in which it
finds it: through the descriptor that `e` holds, or through one of its own. -/
inductive Reached (fs : Filesystem) (e : Entry) : Target → Store → Prop
  | held {h : Holding} {target : Target} : e.holding? = some h →
      fs.store.target h.descriptor = .ok target → Reached fs e target fs.store
  | transient {target : Target} {real : String} : e.holding? = none →
      fs.realPath e.path = .ok real → fs.store.node e.path.name = .ok target.node →
      fs.store.admits .readWrite target = true → Reached fs e target fs.store.passed

theorem openReal_ok (opened : fs.openReal path = (.ok d, base)) :
    ∃ target, (∃ real, fs.realPath path = .ok real) ∧
      fs.store.node path.name = .ok target.node ∧ fs.store.admits .readWrite target = true ∧
      d = fs.store.nextDescriptor ∧ base = { fs with store := (fs.store.register target).2 } := by
  unfold openReal at opened
  split at opened
  · cases opened
  · next real there =>
    cases result : fs.store.openExisting path.name with
    | mk r store =>
      rw [onStore, result] at opened
      cases r with
      | error e => cases opened
      | ok d =>
        cases opened
        obtain ⟨target, found, admitted, rfl, rfl⟩ := Store.openFor_ok result
        exact ⟨target, ⟨real, there⟩, found, admitted, rfl, rfl⟩

theorem openReal_error {f : Failure} (failed : fs.openReal path = (.error f, base)) :
    base = fs := by
  unfold openReal at failed
  split at failed
  · cases failed; rfl
  · cases result : fs.store.openExisting path.name with
    | mk r store =>
      rw [onStore, result] at failed
      cases r with
      | error e =>
        cases failed
        obtain rfl := Store.openFor_error result
        rfl
      | ok d => cases failed

/-- The descriptor of a new client of `e`, which lives at `path`, and the mount with this client. -/
inductive Referred (fs : Filesystem) (path : Path) (e : Entry) : Nat → Filesystem → Prop
  | shared {h : Holding} : e.holding? = some h →
      Referred fs path e h.descriptor
        { fs with catalog := fs.catalog.modify path Entry.acquire }
  | opened {target : Target} {real : String} : e.holding? = none →
      fs.realPath path = .ok real → fs.store.node path.name = .ok target.node →
      fs.store.admits .readWrite target = true →
      Referred fs path e fs.store.nextDescriptor
        { fs with
          store := (fs.store.register target).2
          catalog := fs.catalog.modify path (·.attach fs.store.nextDescriptor) }

theorem addReference_ok (referred : fs.addReference path e = (.ok d, base)) :
    fs.Referred path e d base := by
  unfold addReference at referred
  split at referred
  · next h held => cases referred; exact .shared held
  · next closed =>
    split at referred
    · cases referred
    · next d opened' opened =>
      cases referred
      obtain ⟨target, ⟨real, there⟩, found, admitted, rfl, rfl⟩ := openReal_ok opened
      exact .opened closed there found admitted

theorem addReference_error {f : Failure} (failed : fs.addReference path e = (.error f, base)) :
    base = fs := by
  unfold addReference at failed
  split at failed
  · cases failed
  · split at failed
    · next opened => cases failed; exact openReal_error opened
    · cases failed

/-- The ways of an operation that needs the file of an entry. -/
theorem withDescriptor_cases {α : Type} {f : Nat → Store → Except HostError α × Store}
    {r : Except Failure α} (done : fs.withDescriptor e f = (r, base)) :
    ((∃ failure, r = .error failure) ∧ base = fs) ∨
      (∃ h result store, e.holding? = some h ∧ f h.descriptor fs.store = (result, store) ∧
        r = result.mapError .host ∧ base = { fs with store }) ∨
      ∃ target real result store, e.holding? = none ∧ fs.realPath e.path = .ok real ∧
        fs.store.node e.path.name = .ok target.node ∧ fs.store.admits .readWrite target = true ∧
        f fs.store.nextDescriptor (fs.store.register target).2 = (result, store) ∧
        r = result.mapError .host ∧
        base = { fs with store := store.release fs.store.nextDescriptor } := by
  unfold withDescriptor at done
  split at done
  · next h held =>
    cases done
    exact .inr (.inl ⟨h, _, _, held, rfl, rfl, rfl⟩)
  · next closed =>
    split at done
    · next failure opened' opened =>
      cases done
      exact .inl ⟨⟨failure, rfl⟩, openReal_error opened⟩
    · next d opened' opened =>
      obtain ⟨target, ⟨real, there⟩, found, admitted, rfl, rfl⟩ := openReal_ok opened
      cases done
      exact .inr (.inr ⟨target, real, _, _, closed, there, found, admitted, rfl, rfl, rfl⟩)

theorem mapError_ok {α : Type} {result : Except HostError α} {a : α}
    (ok : Except.ok a = result.mapError Failure.host) : result = .ok a := by
  cases result <;> cases ok
  rfl

theorem mapError_error {α : Type} {result : Except HostError α} {f : Failure}
    (failed : Except.error f = result.mapError Failure.host) :
    ∃ error, result = .error error := by
  cases result with
  | error error => exact ⟨error, rfl⟩
  | ok a => cases failed

/-- A client that has the file open reads it by its descriptor, and any other by its name. -/
theorem Reached.read {id offset length : Nat} {store : Store}
    (reached : fs.Reached e (.file id) store)
    (found : fs.catalog.find? path = some e) (kind : e.kind = .delegated)
    (inside : offset + length < Content.limit) :
    (fs.read path offset length).1 = .ok ((fs.store.content id).slice offset length) := by
  simp only [Filesystem.read, find, found, kind, withDescriptor]
  cases reached with
  | held held open' =>
    simp only [held, onStore, Store.read_file open' inside]
    rfl
  | transient closed there here admitted =>
    have open' := Store.target_register fs.store (.file id)
    simp only [closed, openReal, there, onStore, Store.openExisting,
      Store.openFor_target here admitted]
    change ((fs.store.register (.file id)).2.read fs.store.nextDescriptor offset length).mapError
      Failure.host = _
    rw [Store.read_file open' inside]
    rfl

theorem withDescriptor_read {offset length : Nat} {r : Except Failure (List UInt8)}
    (numbered : fs.store.Numbered)
    (done : fs.withDescriptor e (fun d store => (store.read d offset length, store)) =
      (r, base)) :
    fs.Idle base := by
  rcases withDescriptor_cases done with ⟨-, rfl⟩ | ⟨h, result, store, -, same, -, rfl⟩ |
    ⟨target, real, result, store, -, -, -, -, same, -, rfl⟩
  · exact .inl rfl
  · cases same
    exact .inl rfl
  · cases same
    rw [Store.release_register numbered target]
    exact .inr rfl

theorem withDescriptor_write_ok {offset : Nat} {data : List UInt8} (numbered : fs.store.Numbered)
    (done : fs.withDescriptor e (fun d store => store.write d offset data) = (.ok (), base)) :
    (data = [] ∧ fs.Idle base) ∨
      ∃ target store, data ≠ [] ∧ offset + data.length < Content.limit ∧
        fs.Reached e target store ∧
        base = { fs with store := store.written target offset data } := by
  rcases withDescriptor_cases done with ⟨⟨_, failed⟩, -⟩ |
    ⟨h, result, store, held, wrote, ok, rfl⟩ |
    ⟨target, real, result, store, closed, there, found, admitted, wrote, ok, rfl⟩
  · cases failed
  · obtain rfl := mapError_ok ok
    rcases Store.write_ok wrote with ⟨nothing, rfl⟩ | ⟨target, some, open', inside, rfl⟩
    · exact .inl ⟨nothing, .inl rfl⟩
    · exact .inr ⟨target, fs.store, some, inside, .held held open', rfl⟩
  · obtain rfl := mapError_ok ok
    rcases Store.write_ok wrote with ⟨nothing, rfl⟩ | ⟨other, some, open', inside, rfl⟩
    · rw [Store.release_register numbered target]
      exact .inl ⟨nothing, .inr rfl⟩
    · rw [Store.target_register] at open'
      cases open'
      rw [Store.release_written numbered]
      exact .inr ⟨target, fs.store.passed, some, inside, .transient closed there found admitted,
        rfl⟩

/-- How much of the data a write to the file of `e` puts there: nothing where the file cannot be
opened. -/
def landed (fs : Filesystem) (e : Entry) (offset : Nat) (data : List UInt8) : Nat :=
  ((fs.withDescriptor e fun d store => (.ok (store.taken d offset data), store)).1.toOption).getD 0

theorem landed_held {h : Holding} (held : e.holding? = some h) (offset : Nat)
    (data : List UInt8) :
    fs.landed e offset data = fs.store.taken h.descriptor offset data := by
  simp only [landed, withDescriptor, held, onStore]
  rfl

theorem landed_opened (closed : e.holding? = none) (opened : fs.openReal e.path = (.ok d, base))
    (offset : Nat) (data : List UInt8) :
    fs.landed e offset data = base.store.taken d offset data := by
  simp only [landed, withDescriptor, closed, opened, onStore]
  rfl

theorem landed_refused {f : Failure} (closed : e.holding? = none)
    (refused : fs.openReal e.path = (.error f, base)) (offset : Nat) (data : List UInt8) :
    fs.landed e offset data = 0 := by
  simp only [landed, withDescriptor, closed, refused]
  rfl

theorem withDescriptor_write_error {offset : Nat} {data : List UInt8} {f : Failure}
    (numbered : fs.store.Numbered)
    (failed : fs.withDescriptor e (fun d store => store.write d offset data) = (.error f, base)) :
    (fs.landed e offset data = 0 ∧ fs.Idle base) ∨
      ∃ target store, 0 < fs.landed e offset data ∧ fs.landed e offset data < data.length ∧
        offset + data.length < Content.limit ∧ fs.Reached e target store ∧
        base = { fs with
          store := store.written target offset (data.take (fs.landed e offset data)) } := by
  cases held : e.holding? with
  | some h =>
    rw [landed_held held]
    cases wrote : fs.store.write h.descriptor offset data with
    | mk result store =>
      simp only [withDescriptor, held, onStore, wrote, Prod.mk.injEq] at failed
      obtain ⟨error, rfl⟩ := failed
      obtain ⟨error, rfl⟩ := mapError_error error.symm
      rcases Store.write_error wrote with ⟨nothing, rfl⟩ | ⟨target, some, short, open', inside, rfl⟩
      · exact .inl ⟨nothing, .inl rfl⟩
      · exact .inr ⟨target, fs.store, some, short, inside, .held held open', rfl⟩
  | none =>
    cases opened : fs.openReal e.path with
    | mk r opened' =>
      cases r with
      | error failure =>
        simp only [withDescriptor, held, opened, Prod.mk.injEq] at failed
        obtain ⟨-, rfl⟩ := failed
        exact .inl ⟨landed_refused held opened offset data, .inl (openReal_error opened)⟩
      | ok d =>
        obtain ⟨target, ⟨real, there⟩, found, admitted, rfl, rfl⟩ := openReal_ok opened
        rw [landed_opened held opened]
        cases wrote : (fs.store.register target).2.write fs.store.nextDescriptor offset data with
        | mk result store =>
          simp only [withDescriptor, held, opened, onStore, wrote, Prod.mk.injEq] at failed
          obtain ⟨error, rfl⟩ := failed
          obtain ⟨error, rfl⟩ := mapError_error error.symm
          rcases Store.write_error wrote with ⟨nothing, rfl⟩ |
            ⟨other, some, short, open', inside, rfl⟩
          · rw [Store.release_register numbered]
            exact .inl ⟨nothing, .inr rfl⟩
          · rw [Store.target_register] at open'
            cases open'
            rw [Store.release_written numbered]
            exact .inr ⟨target, fs.store.passed, some, short, inside,
              .transient held there found admitted, rfl⟩

theorem Untouched.of_dropped (numbered : fs.store.Numbered)
    (found : fs.catalog.find? path = some e)
    (counted : ∀ h, e.holding? = some h → 1 ≤ h.opens)
    (referred : fs.Referred path e d base) : fs.Untouched (base.dropReference path) := by
  have restored (f : Entry → Entry) (undone : (f e).release = e) :
      (fs.catalog.modify path f).modify path Entry.release = fs.catalog := by
    have same : ∀ v, fs.catalog.entries.find? path = some v → (f v).release = v := by
      intro v here
      cases found.symm.trans here
      exact undone
    rw [Catalog.modify, Catalog.modify, Table.modify_modify, Table.modify_same _ _ _ same]
  cases referred with
  | shared held =>
    have now : (fs.catalog.modify path Entry.acquire).find? path = some e.acquire := by
      rw [Catalog.find?_modify, if_pos rfl, found]; rfl
    simp only [dropReference, now, Entry.lastDescriptor?_acquire counted]
    exact ⟨.inl (restored _ (Entry.release_acquire counted)), .inl rfl, rfl, rfl⟩
  | opened closed _ _ =>
    have now : (fs.catalog.modify path (·.attach fs.store.nextDescriptor)).find? path =
        some (e.attach fs.store.nextDescriptor) := by
      rw [Catalog.find?_modify, if_pos rfl, found]; rfl
    simp only [dropReference, now, Entry.lastDescriptor?_attach closed]
    exact ⟨.inl (restored _ (Entry.release_attach closed _)),
      .inr (Store.release_register numbered _), rfl, rfl⟩

end Filesystem

end PatternFs
