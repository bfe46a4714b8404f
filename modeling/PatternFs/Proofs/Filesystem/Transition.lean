import PatternFs.Filesystem.Operation
import PatternFs.Proofs.Filesystem.Access

/-! Everything that one operation can do to a mount, one rule for each way it can go. What holds
along a run is derived from these rules; no later proof opens an operation again. -/
namespace PatternFs

/-- Operations that only look. -/
def Operation.looks : Operation → Bool
  | .setUp | .getAttributes _ | .flush _ | .openDirectory _ | .list _ | .access _ | .lock _
  | .getAttribute _ _ | .refused _ => true
  | _ => false

namespace Filesystem

variable {fs : Filesystem}

/-- The front part of its data that an operation puts into a real file, if it is a write and fails.
-/
def front (fs : Filesystem) : Operation → List UInt8
  | .write path offset data =>
    match fs.catalog.find? path with
    | none => []
    | some e =>
      match e.kind with
      | .synthetic => []
      | .delegated => data.take (fs.landed e offset data)
  | _ => []

inductive Transition (fs : Filesystem) : Operation → Except Failure Reply → Filesystem → Prop
  | failed {op : Operation} {f : Failure} {after : Filesystem} : fs.Untouched after →
      fs.front op = [] → Transition fs op (.error f) after
  | looked {op : Operation} {r : Except Failure Reply} : op.looks = true →
      (fs.perform op).1 = r → Transition fs op r fs
  | destroyed : Transition fs .destroy (.ok .done) fs.teardown.2
  | tornDown : Transition fs .teardown (.ok (.count fs.teardown.1)) fs.teardown.2
  | madeSynthetic {path : Path} {mode : Nat} {flags : OpenFlags} {pattern : Pattern} :
      newFileClass path = .ok .synthetic → fs.catalog.find? path = none →
      Pattern.derive fs.fallback path.name fs.catalog.nextSequence = .ok pattern →
      Transition fs (.create path mode flags) (.ok (.count fs.catalog.nextSequence))
        { fs with
          catalog :=
            fs.catalog.takeSequence.2.put (.synthetic path pattern fs.catalog.nextSequence) }
  | resetSynthetic {path : Path} {mode : Nat} {flags : OpenFlags} {e : Entry} :
      newFileClass path = .ok .synthetic → fs.catalog.find? path = some e →
      flags.isExclusiveCreate = false →
      Transition fs (.create path mode flags) (.ok (.count e.sequence)) (fs.resizeEntry path 0)
  | madeDelegated {path : Path} {mode : Nat} {flags : OpenFlags} {real : String} {target : Target}
      {base : Store} :
      newFileClass path = .ok .delegated → fs.catalog.find? path = none →
      fs.realPath path = .ok real → fs.store.Made path.name mode target base →
      (flags.isExclusiveCreate = true → fs.store.find path.name = .ok none) →
      Transition fs (.create path mode flags) (.ok (.count fs.catalog.nextSequence))
        { fs with
          store := (base.register target).2
          catalog := fs.catalog.takeSequence.2.put
            (.delegated path fs.store.nextDescriptor fs.catalog.nextSequence) }
  /-- The descriptor of the new file has no owner: the resident entry is open already. -/
  | resetOpen {path : Path} {mode : Nat} {flags : OpenFlags} {real : String} {target : Target}
      {base : Store} {e : Entry} {h : Holding} :
      newFileClass path = .ok .delegated → fs.catalog.find? path = some e →
      flags.isExclusiveCreate = false → fs.realPath path = .ok real →
      fs.store.Made path.name mode target base → e.holding? = some h →
      Transition fs (.create path mode flags) (.ok (.count e.sequence))
        { fs with
          store := base.passed
          catalog := fs.catalog.takeSequence.2.modify path fun e => (e.resize 0).acquire }
  | resetClosed {path : Path} {mode : Nat} {flags : OpenFlags} {real : String} {target : Target}
      {base : Store} {e : Entry} :
      newFileClass path = .ok .delegated → fs.catalog.find? path = some e →
      flags.isExclusiveCreate = false → fs.realPath path = .ok real →
      fs.store.Made path.name mode target base → e.holding? = none →
      Transition fs (.create path mode flags) (.ok (.count e.sequence))
        { fs with
          store := (base.register target).2
          catalog := fs.catalog.takeSequence.2.modify path fun e =>
            (e.resize 0).attach fs.store.nextDescriptor }
  | openedSynthetic {path : Path} {flags : OpenFlags} {e : Entry} :
      fs.catalog.find? path = some e → e.kind = .synthetic →
      Transition fs (.openFile path flags) (.ok (.count e.sequence))
        (if flags.truncate then fs.resizeEntry path 0 else fs)
  | openedDelegated {path : Path} {flags : OpenFlags} {e : Entry} {d : Nat} {base : Filesystem} :
      fs.catalog.find? path = some e → e.kind = .delegated → flags.truncate = false →
      fs.Referred path e d base →
      Transition fs (.openFile path flags) (.ok (.count e.sequence)) base
  | emptiedDelegated {path : Path} {flags : OpenFlags} {e : Entry} {d id : Nat}
      {base : Filesystem} :
      fs.catalog.find? path = some e → e.kind = .delegated → flags.truncate = true →
      fs.Referred path e d base → base.store.target d = .ok (.file id) →
      Transition fs (.openFile path flags) (.ok (.count e.sequence))
        { base.resizeEntry path 0 with store := base.store.changeContent id (·.resize 0) }
  | read {path : Path} {offset length : Nat} {data : List UInt8} {e : Entry}
      {after : Filesystem} :
      fs.catalog.find? path = some e → (fs.read path offset length).1 = .ok data →
      fs.Idle after → Transition fs (.read path offset length) (.ok (.bytes data)) after
  | wroteSynthetic {path : Path} {offset : Nat} {data : List UInt8} {e : Entry} :
      fs.catalog.find? path = some e → e.kind = .synthetic →
      offset + data.length < Size.limit →
      Transition fs (.write path offset data) (.ok (.count data.length))
        (fs.resizeEntry path (max e.size (offset + data.length)))
  /-- A write of no bytes goes as far as opening the file. -/
  | wroteNothing {path : Path} {offset : Nat} {e : Entry} {base : Filesystem} :
      fs.catalog.find? path = some e → e.kind = .delegated → fs.Idle base →
      Transition fs (.write path offset []) (.ok (.count 0))
        (base.resizeEntry path (max e.size (writeEnd offset 0)))
  | wroteDelegated {path : Path} {offset : Nat} {data : List UInt8} {e : Entry} {target : Target}
      {base : Store} :
      fs.catalog.find? path = some e → e.kind = .delegated → data ≠ [] →
      offset + data.length < Content.limit → fs.Reached e target base →
      Transition fs (.write path offset data) (.ok (.count data.length))
        { fs.resizeEntry path (max e.size (offset + data.length)) with
          store := base.written target offset data }
  /-- A call failed when the host had taken some of the data. -/
  | brokeOff {path : Path} {offset : Nat} {data : List UInt8} {f : Failure} {e : Entry}
      {target : Target} {base : Store} :
      fs.catalog.find? path = some e → e.kind = .delegated →
      fs.front (.write path offset data) ≠ [] →
      offset + (fs.front (.write path offset data)).length < Content.limit →
      fs.Reached e target base → (fs.front (.write path offset data)).length < data.length →
      Transition fs (.write path offset data) (.error f)
        { fs with store := base.written target offset (fs.front (.write path offset data)) }
  | cutSynthetic {path : Path} {length : Nat} {e : Entry} :
      fs.catalog.find? path = some e → e.kind = .synthetic →
      Transition fs (.truncate path length) (.ok .done) (fs.resizeEntry path length)
  | cutDelegated {path : Path} {length id : Nat} {e : Entry} {real : String} :
      fs.catalog.find? path = some e → e.kind = .delegated → fs.realPath path = .ok real →
      length < Content.limit → fs.store.node path.name = .ok (.file id) →
      Transition fs (.truncate path length) (.ok .done)
        { fs.resizeEntry path length with
          store := (fs.store.changeContent id (·.resize length)).passed }
  | renamedSynthetic {old new : Path} {e : Entry} :
      fs.catalog.find? old = some e → e.kind = .synthetic → fs.catalog.find? new = none →
      newFileClass new = .ok .synthetic →
      Transition fs (.rename old new) (.ok .done)
        { fs with catalog := fs.catalog.move old new }
  | renamedDelegated {old new : Path} {e : Entry} {real : String} {node : Node}
      {target? : Option Node} :
      fs.catalog.find? old = some e → e.kind = .delegated → fs.catalog.find? new = none →
      newFileClass new = .ok .delegated → fs.realPath new = .ok real →
      fs.store.node old.name = .ok node → fs.store.find new.name = .ok target? →
      target?.bind (Store.replaceError? node) = none →
      Transition fs (.rename old new) (.ok .done)
        { fs with
          store := { fs.store with names := (fs.store.names.erase old.name).insert new.name node }
          catalog := fs.catalog.move old new }
  /-- Both names are names of one file and stay. -/
  | renamedTwin {old new : Path} {e : Entry} {real : String} {id : Nat} :
      fs.catalog.find? old = some e → e.kind = .delegated → fs.catalog.find? new = none →
      newFileClass new = .ok .delegated → fs.realPath new = .ok real →
      fs.store.node old.name = .ok (.file id) → fs.store.node new.name = .ok (.file id) →
      Transition fs (.rename old new) (.ok .done)
        { fs with catalog := fs.catalog.move old new }
  | unlinkedSynthetic {path : Path} {e : Entry} :
      fs.catalog.find? path = some e → e.kind = .synthetic →
      Transition fs (.unlink path) (.ok .done) { fs with catalog := fs.catalog.remove path }
  | unlinkedDelegated {path : Path} {e : Entry} {target : Target} :
      fs.catalog.find? path = some e → e.kind = .delegated →
      fs.store.node path.name = .ok target.node →
      Transition fs (.unlink path) (.ok .done)
        ({ fs with store := { fs.store with names := fs.store.names.erase path.name } }.forget
          path e)
  | unlinkedMissing {path : Path} {e : Entry} :
      fs.catalog.find? path = some e → e.kind = .delegated →
      fs.store.node path.name = .error .noEntry →
      Transition fs (.unlink path) (.ok .done) (fs.forget path e)
  | released {path : Path} : Transition fs (.release path) (.ok .done) (fs.dropReference path)

theorem transition_createSynthetic {path : Path} {mode : Nat} {flags : OpenFlags}
    (class' : newFileClass path = .ok .synthetic) :
    fs.Transition (.create path mode flags)
      ((fs.createSynthetic path flags.isExclusiveCreate).1.map .count)
      (fs.createSynthetic path flags.isExclusiveCreate).2 := by
  unfold createSynthetic Catalog.resetExisting
  cases found : fs.catalog.find? path with
  | some e =>
    cases exclusive : flags.isExclusiveCreate with
    | true => exact .failed (.refl fs) rfl
    | false => exact .resetSynthetic class' found exclusive
  | none =>
    cases derived : Pattern.derive fs.fallback path.name fs.catalog.nextSequence with
    | error f =>
      simp only [Catalog.takeSequence, derived]
      exact .failed ⟨.inr rfl, .inl rfl, rfl, rfl⟩ rfl
    | ok pattern =>
      simp only [Catalog.takeSequence, derived]
      exact .madeSynthetic class' found derived

/-- The real file is made first, so the catalog has to take what it gets. -/
theorem transition_createDelegated {path : Path} {mode : Nat} {flags : OpenFlags}
    (numbered : fs.store.Numbered) (class' : newFileClass path = .ok .delegated) :
    fs.Transition (.create path mode flags)
      ((fs.createDelegated path mode flags.isExclusiveCreate).1.map .count)
      (fs.createDelegated path mode flags.isExclusiveCreate).2 := by
  unfold createDelegated
  split
  · exact .failed (.refl fs) rfl
  · next free =>
    split
    · exact .failed (.refl fs) rfl
    · next real there =>
      cases result : fs.store.create path.name mode flags.isExclusiveCreate with
      | mk r store =>
        cases r with
        | error error =>
          obtain rfl := Store.create_error result
          simp only [onStore, result]
          exact .failed (.refl fs) rfl
        | ok d =>
          obtain ⟨target, base, made, alone, rfl, rfl⟩ := Store.create_ok result
          have worked : fs.onStore (·.create path.name mode flags.isExclusiveCreate) =
              (.ok fs.store.nextDescriptor, { fs with store := (base.register target).2 }) := by
            rw [onStore, result]
            rfl
          simp only [worked, Catalog.insertOrReset, Entry.delegated, Catalog.find?_takeSequence]
          cases found : fs.catalog.find? path with
          | none => exact .madeDelegated class' found there made alone
          | some e =>
            have shared : flags.isExclusiveCreate = false := by
              have known : fs.catalog.contains path = true := Catalog.contains_iff.2 ⟨e, found⟩
              simpa [known] using free
            obtain ⟨-, next', -⟩ := made.descriptors
            simp only [shared, Bool.false_eq_true, if_false]
            cases held : e.holding? with
            | none =>
              simp only [Entry.surplus?, Entry.isOpen, held, Option.isSome_none]
              exact .resetClosed class' found shared there made held
            | some h =>
              simp only [Entry.surplus?, Entry.isOpen, held, Option.isSome_some, if_true,
                Option.toList_some, Store.releaseAll, List.foldl_cons, List.foldl_nil]
              rw [← next', Store.release_register (made.numbered numbered),
                Catalog.modify_congr (g := fun e => (e.resize 0).acquire)
                  ((Catalog.find?_takeSequence _ _).trans found)
                  (Entry.attach_open (e := e.resize 0) held _)]
              exact .resetOpen class' found shared there made held

theorem transition_openFile {path : Path} {flags : OpenFlags} (formed : fs.catalog.WellFormed)
    (numbered : fs.store.Numbered) :
    fs.Transition (.openFile path flags) ((fs.openFile path flags).1.map .count)
      (fs.openFile path flags).2 := by
  unfold openFile find
  cases found : fs.catalog.find? path with
  | none => exact .failed (.refl fs) rfl
  | some e =>
    cases kind : e.kind with
    | synthetic =>
      simp only [kind]
      exact .openedSynthetic found kind
    | delegated =>
      simp only [kind, openDelegated]
      cases result : fs.addReference path e with
      | mk r base =>
        cases r with
        | error f =>
          obtain rfl := addReference_error result
          exact .failed (.refl base) rfl
        | ok d =>
          have referred := addReference_ok result
          cases truncate : flags.truncate with
          | false => exact .openedDelegated found kind truncate referred
          | true =>
            simp only [if_true, onStore]
            cases cut : base.store.setLength d 0 with
            | mk r store =>
              cases r with
              | error error =>
                obtain rfl := Store.setLength_error cut
                exact .failed (.of_dropped numbered found (formed.formed path e found).counted
                  referred) rfl
              | ok _ =>
                obtain ⟨id, -, held, rfl⟩ := Store.setLength_ok cut
                exact .emptiedDelegated found kind truncate referred held

theorem idle_read (numbered : fs.store.Numbered) (path : Path) (offset length : Nat) :
    fs.Idle (fs.read path offset length).2 := by
  unfold read
  split
  · exact .inl rfl
  · split
    · exact .inl rfl
    · exact withDescriptor_read numbered rfl

theorem transition_read {path : Path} {offset length : Nat} (numbered : fs.store.Numbered) :
    fs.Transition (.read path offset length) ((fs.read path offset length).1.map .bytes)
      (fs.read path offset length).2 := by
  have idle := idle_read numbered path offset length
  cases found : fs.catalog.find? path with
  | none =>
    simp only [read, find, found]
    exact .failed (.refl fs) rfl
  | some e =>
    cases result : (fs.read path offset length).1 with
    | error f => exact .failed idle.untouched rfl
    | ok data => exact .read found result idle

theorem transition_write {path : Path} {offset : Nat} {data : List UInt8}
    (numbered : fs.store.Numbered) :
    fs.Transition (.write path offset data) ((fs.write path offset data).1.map .count)
      (fs.write path offset data).2 := by
  unfold write find
  cases found : fs.catalog.find? path with
  | none => exact .failed (.refl fs) (by simp only [front, found])
  | some e =>
    cases kind : e.kind with
    | synthetic =>
      simp only [kind, Synthetic.write, Synthetic.grown?]
      by_cases inside : offset + data.length < Size.limit
      · simp only [if_pos inside]
        exact .wroteSynthetic found kind inside
      · simp only [if_neg inside]
        exact .failed (.refl fs) (by simp only [front, found, kind])
    | delegated =>
      have part : fs.front (.write path offset data) = data.take (fs.landed e offset data) := by
        simp only [front, found, kind]
      simp only [kind]
      cases result : fs.withDescriptor e fun d store => store.write d offset data with
      | mk r base =>
        cases r with
        | error f =>
          rcases withDescriptor_write_error numbered result with
            ⟨nothing, idle⟩ | ⟨target, store, some, short, inside, reached, rfl⟩
          · exact .failed idle.untouched (by rw [part, nothing, List.take_zero])
          · have length : (data.take (fs.landed e offset data)).length = fs.landed e offset data :=
              List.length_take_of_le (Nat.le_of_lt short)
            simp only [← part] at length ⊢
            refine .brokeOff found kind (fun none => ?_) (by omega) reached (by omega)
            rw [none, List.length_nil] at length
            omega
        | ok _ =>
          rcases withDescriptor_write_ok numbered result with
            ⟨rfl, idle⟩ | ⟨target, store, some, inside, reached, rfl⟩
          · exact .wroteNothing found kind idle
          · have same : writeEnd offset data.length = offset + data.length := by
              have : Content.limit < Size.limit := by decide
              unfold writeEnd
              omega
            simp only [same]
            exact .wroteDelegated found kind some inside reached

theorem transition_truncate {path : Path} {length : Nat} (numbered : fs.store.Numbered) :
    fs.Transition (.truncate path length) ((fs.truncate path length).1.map fun _ => .done)
      (fs.truncate path length).2 := by
  unfold truncate find
  cases found : fs.catalog.find? path with
  | none => exact .failed (.refl fs) rfl
  | some e =>
    cases kind : e.kind with
    | synthetic =>
      simp only [kind]
      exact .cutSynthetic found kind
    | delegated =>
      simp only [kind]
      cases there : fs.realPath path with
      | error f => exact .failed (.refl fs) rfl
      | ok real =>
        simp only [onStore]
        cases result : fs.store.truncate path.name length with
        | mk r store =>
          cases r with
          | error error =>
            exact .failed ⟨.inl rfl, Store.truncate_error numbered result, rfl, rfl⟩ rfl
          | ok _ =>
            obtain ⟨id, inside, node, rfl⟩ := Store.truncate_ok numbered result
            exact .cutDelegated found kind there inside node

/-- A free path cannot have the name of a live one, so the real file does move. -/
theorem transition_rename {old new : Path} (formed : fs.catalog.WellFormed) :
    fs.Transition (.rename old new) ((fs.rename old new).1.map fun _ => .done)
      (fs.rename old new).2 := by
  unfold rename
  cases checked : fs.catalog.checkRename old new with
  | error f => exact .failed (.refl fs) rfl
  | ok kind =>
    obtain ⟨e, found, rfl, free, class'⟩ := Catalog.checkRename_ok checked
    cases place : newFileClass new with
    | error f => exact .failed (.refl fs) rfl
    | ok kind =>
      obtain ⟨known, top, -⟩ := newFileClass_ok.1 place
      obtain rfl : e.kind = kind := by
        rw [known] at class'
        cases class'
        rfl
      cases kind : e.kind with
      | synthetic => exact .renamedSynthetic found kind free (kind ▸ place)
      | delegated =>
        cases fs.realPath old with
        | error f => exact .failed (.refl fs) rfl
        | ok realOld =>
          cases there : fs.realPath new with
          | error f => exact .failed (.refl fs) rfl
          | ok realNew =>
            simp only [onStore]
            cases result : fs.store.rename old.name new.name with
            | mk r store =>
              cases r with
              | error error =>
                obtain rfl := Store.rename_error result
                exact .failed (.refl fs) rfl
              | ok _ =>
                obtain ⟨node, target?, here, target, ⟨same | twin, rfl⟩ | ⟨-, allowed, rfl⟩⟩ :=
                  Store.rename_ok result
                · obtain ⟨-, oldTop, -⟩ := newFileClass_ok.1 (formed.place found)
                  obtain rfl := Path.eq_of_name_eq oldTop top same
                  rw [found] at free
                  cases free
                · obtain ⟨id, rfl, rfl⟩ := Node.sameFile_any twin
                  exact .renamedTwin found kind free (kind ▸ place) there here
                    (Store.node_ok.2 target)
                · exact .renamedDelegated found kind free (kind ▸ place) there here target allowed

theorem transition_unlink {path : Path} (formed : fs.catalog.WellFormed) :
    fs.Transition (.unlink path) ((fs.unlink path).1.map fun _ => .done) (fs.unlink path).2 := by
  unfold unlink find
  cases found : fs.catalog.find? path with
  | none => exact .failed (.refl fs) rfl
  | some e =>
    cases kind : e.kind with
    | synthetic =>
      simp only [kind, forget, (formed.formed path e found).closed kind]
      exact .unlinkedSynthetic found kind
    | delegated =>
      simp only [kind]
      cases fs.realPath path with
      | error f => exact .failed (.refl fs) rfl
      | ok real =>
        simp only []
        cases result : fs.store.remove path.name with
        | mk r store =>
          cases r with
          | ok _ =>
            obtain ⟨⟨target, here⟩, rfl⟩ := Store.remove_ok result
            exact .unlinkedDelegated found kind here
          | error error =>
            obtain ⟨-, missing⟩ := Store.remove_error result
            by_cases gone : error = .noEntry
            · simp only [if_pos gone]
              refine .unlinkedMissing found kind ?_
              rcases missing with missing | other
              · rw [missing, gone]
              · rw [gone] at other; cases other
            · simp only [if_neg gone]
              exact .failed (.refl fs) rfl

/-- The rules are all that an operation can do, whatever others made of the backing directory. -/
theorem transition_perform (formed : fs.catalog.WellFormed) (numbered : fs.store.Numbered)
    (op : Operation) : fs.Transition op (fs.perform op).1 (fs.perform op).2 := by
  cases op with
  | destroy => exact .destroyed
  | teardown => exact .tornDown
  | create path mode flags =>
    simp only [perform, replied, create]
    cases place : newFileClass path with
    | error f => exact .failed (.refl fs) rfl
    | ok kind =>
      cases kind with
      | synthetic => exact transition_createSynthetic place
      | delegated => exact transition_createDelegated numbered place
  | openFile path flags => exact transition_openFile formed numbered
  | read path offset length => exact transition_read numbered
  | write path offset data => exact transition_write numbered
  | truncate path length => exact transition_truncate numbered
  | rename old new => exact transition_rename formed
  | unlink path => exact transition_unlink formed
  | release path => exact .released
  | setUp | getAttributes | flush | openDirectory | list | access | lock | getAttribute | refused =>
    exact .looked rfl rfl

end Filesystem

end PatternFs
