import PatternFs.Kernel.Session
import PatternFs.Proofs.Filesystem.Reachable

/-! The states of a mount that the kernel drives. A callback makes at most one operation of the file
system happen, so the file system of a session is in a state that operations lead to. -/
namespace PatternFs.Kernel.Session

variable {k : Session} {α β : Type}

/-- At most one operation of the file system happened. -/
def Advances (k : Session) (r : Except Denial α × Session) : Prop :=
  r.2.fs = k.fs ∨ ∃ op, r.2.fs = (k.fs.perform op).2

theorem advances_withPath {path : Except Denial Path} {f : Path → Except Denial α × Session}
    (advances : ∀ path, k.Advances (f path)) : k.Advances (k.withPath path f) := by
  cases path with
  | error d => exact .inl rfl
  | ok path => exact advances path

theorem advances_refuse (k : Session) (path : Except Denial Path) (f : Path → Failure) :
    k.Advances (k.refuse path f) := by
  cases path <;> exact .inl rfl

/-- Where an operation is the first step, the others do not touch the file system. -/
theorem advances_andThen (op : Operation) {r : Except Failure α × Filesystem}
    {f : α → Session → Except Denial β × Session} (performed : r.2 = (k.fs.perform op).2)
    (still : ∀ a k, (f a k).2.fs = k.fs) : k.Advances (andThen (k.after r) f) := by
  obtain ⟨answer, fs⟩ := r
  cases performed
  cases answer with
  | error failure => exact .inr ⟨op, rfl⟩
  | ok a => exact .inr ⟨op, still a _⟩

theorem still_describe (k : Session) (path : Path) (reply : Nat × Attributes → Reply) :
    (andThen (k.describe path) fun found => told (reply found)).2.fs = k.fs := by
  unfold describe
  cases k.fs.getAttributes path <;> rfl

theorem advances_answer (k : Session) (c : Callback) : k.Advances (k.answer c) := by
  cases c with
  | setUp => exact .inl rfl
  | destroy => exact .inr ⟨.destroy, rfl⟩
  | lookup spot => exact advances_withPath fun path => .inl (still_describe k path _)
  | getAttributes inode => exact advances_withPath fun path => .inl (still_describe k path _)
  | setAttributes inode change =>
    refine advances_withPath fun path => ?_
    unfold setAttributes
    split
    · exact .inl rfl
    · split
      · exact .inl (still_describe k path _)
      · next size _ =>
        exact advances_andThen (.truncate path size) rfl fun _ k => still_describe k path _
  | openFile inode flags =>
    exact advances_withPath fun path =>
      advances_andThen (.openFile path (.ofHost flags)) rfl fun _ _ => rfl
  | read inode offset length =>
    simp only [answer, read]
    split
    · exact .inl rfl
    · next offset _ =>
      exact advances_withPath fun path =>
        advances_andThen (.read path offset length) rfl fun _ _ => rfl
  | write inode offset data =>
    simp only [answer, write]
    split
    · exact .inl rfl
    · next offset _ =>
      exact advances_withPath fun path =>
        advances_andThen (.write path offset data) rfl fun _ _ => rfl
  | release inode =>
    simp only [answer, release]
    split
    · exact .inl rfl
    · next path _ => exact .inr ⟨.release path, rfl⟩
  | create spot mode mask flags =>
    exact advances_withPath fun path =>
      advances_andThen (.create path (masked mode mask) (creationFlags flags)) rfl
        fun _ k => still_describe k path _
  | rename old new flags =>
    refine advances_withPath fun old => advances_withPath fun new => ?_
    unfold rename
    split
    · exact .inl rfl
    · exact advances_andThen (.rename old new) rfl fun _ _ => rfl
  | unlink spot =>
    exact advances_withPath fun path => advances_andThen (.unlink path) rfl fun _ _ => rfl
  | openDirectory inode =>
    exact advances_withPath fun path =>
      advances_andThen (.openDirectory path) rfl fun _ _ => rfl
  | readDirectory inode offset room =>
    refine advances_withPath fun path => .inl ?_
    unfold readDirectory
    split <;> rfl
  | flush inode => exact advances_withPath fun _ => .inl rfl
  | access inode => exact advances_withPath fun _ => .inl rfl
  | getAttribute inode name =>
    refine advances_withPath fun path => .inl ?_
    split <;> rfl
  | link inode spot => exact advances_withPath fun _ => advances_refuse k _ _
  | setAttribute | listAttributes | removeAttribute | getLock | setLock | makeDirectory
  | removeDirectory | makeNode | symlink | readlink => exact advances_refuse k _ _

/-- The states that a session can be in while others use the backing directory. -/
inductive Reachable : Session → Prop
  | start (buffer : Nat → List Listed → Nat) (backingDirectory : String) (fallback : Fallback)
      {store : Store} : store.descriptors = .empty →
      Reachable (startOn buffer (.start backingDirectory fallback store))
  | answer {k : Session} (c : Callback) : Reachable k → Reachable (k.answer c).2
  | outside {k : Session} {store : Store} : Reachable k → k.fs.store.OutsideChange store →
      Reachable { k with fs := { k.fs with store } }

theorem Reachable.filesystem (reachable : k.Reachable) : k.fs.Reachable := by
  induction reachable with
  | start buffer backingDirectory fallback unopened =>
    exact .start backingDirectory fallback unopened
  | @answer k c _ before =>
    rcases advances_answer k c with same | ⟨op, performed⟩
    · rw [same]; exact before
    · rw [performed]; exact .perform op before
  | outside _ change before => exact .outside before change

end PatternFs.Kernel.Session
