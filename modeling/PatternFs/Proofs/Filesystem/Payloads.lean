import PatternFs.Filesystem.Operation
import PatternFs.Store.Outside

/-! What is written to a synthetic file is never kept, so nobody can find out what it was. Two runs
that differ only in such bytes give the same answers and go through the same states. Which writes
these are, the run itself decides: a file that is renamed or made anew takes its class along, and
the same path may lead to a delegated file later. -/
namespace PatternFs

/-- What happens to a mount: an operation, or a deed of others in its backing directory. -/
inductive Event
  | operation (op : Operation)
  | deed (name : String) (deed : Deed)

namespace Filesystem

variable {fs : Filesystem} {path : Path} {e : Entry} {event : Event} {events events' : List Event}
  {data data' : List UInt8}

/-- The next state, and the answer where somebody gets one. -/
def meet (fs : Filesystem) : Event → Option (Except Failure Reply) × Filesystem
  | .operation op => ((fs.perform op).1, (fs.perform op).2)
  | .deed name deed => (none, { fs with store := (fs.store.outside name deed).2 })

/-- The answers and the states of a run, one after the other. -/
def trace : List Event → Filesystem → List (Option (Except Failure Reply) × Filesystem)
  | [], _ => []
  | event :: events, fs => fs.meet event :: trace events (fs.meet event).2

/-- The events of two runs that start in the same state: the same ones, but where the path of a
write leads to a synthetic file at that moment the bytes may differ, though not their number. -/
inductive Alike : Filesystem → List Event → List Event → Prop
  | nil {fs : Filesystem} : Alike fs [] []
  | same {fs : Filesystem} {event : Event} {events events' : List Event} :
      Alike (fs.meet event).2 events events' → Alike fs (event :: events) (event :: events')
  | payload {fs : Filesystem} {path : Path} {e : Entry} {offset : Nat} {data data' : List UInt8}
      {events events' : List Event} :
      fs.catalog.find? path = some e → e.kind = .synthetic → data.length = data'.length →
      Alike (fs.meet (.operation (.write path offset data))).2 events events' →
      Alike fs (.operation (.write path offset data) :: events)
        (.operation (.write path offset data') :: events')

theorem write_synthetic (found : fs.catalog.find? path = some e) (kind : e.kind = .synthetic)
    (offset : Nat) (data : List UInt8) :
    fs.write path offset data =
      match Synthetic.grown? e.size offset data.length with
      | some size => (.ok data.length, fs.resizeEntry path size)
      | none => (.error (.invalidPath e.path (.pastRange offset)), fs) := by
  simp only [write, find, found, kind, Synthetic.write]
  cases Synthetic.grown? e.size offset data.length <;> rfl

/-- Only the number of the bytes counts. -/
theorem write_payload (found : fs.catalog.find? path = some e) (kind : e.kind = .synthetic)
    (offset : Nat) (same : data.length = data'.length) :
    fs.write path offset data = fs.write path offset data' := by
  rw [write_synthetic found kind, write_synthetic found kind, same]

/-- Synthetic payloads never matter: two runs that differ in nothing else have the same answers and
the same states, with their entries, the next id and the whole backing directory. -/
theorem trace_of_alike (alike : fs.Alike events events') : trace events fs = trace events' fs := by
  induction alike with
  | nil => rfl
  | same _ ih => rw [trace, trace, ih]
  | @payload fs path e offset data data' events events' found kind same _ ih =>
    have step : fs.meet (.operation (.write path offset data)) =
        fs.meet (.operation (.write path offset data')) := by
      simp only [meet, perform, write_payload found kind offset same]
    rw [trace, trace, ih, step]

/-- Different bytes go to a synthetic file before and after it is moved; the bytes for a delegated
file, which others shorten in between, are the same. -/
theorem trace_of_moved_file :
    let p : Path := ⟨["deadbeef"], by simp [IsComponent]⟩
    let q : Path := ⟨["moved"], by simp [IsComponent]⟩
    let r : Path := ⟨["a.mhash"], by simp [IsComponent]⟩
    let fs := start "/d" .counter .empty
    let run (data : List UInt8) : List Event :=
      [.operation (.create p 0o644 (.ofBits 6)), .operation (.create r 0o644 (.ofBits 6)),
        .operation (.write p 0 data), .operation (.write r 0 [7, 8]), .operation (.rename p q),
        .deed "a.mhash" (.write [7]), .operation (.write q 5 data), .operation (.read q 4 3)]
    run [1, 2] ≠ run [3, 4] ∧ fs.Alike (run [1, 2]) (run [3, 4]) ∧
      trace (run [1, 2]) fs = trace (run [3, 4]) fs := by
  intro p q r fs run
  let pattern := Pattern.ofBytes 0xde 0xad 0xbe 0xef
  have alike : fs.Alike (run [1, 2]) (run [3, 4]) := by
    refine .same (.same (.payload (e := .synthetic p pattern 1) ?_ rfl rfl
      (.same (.same (.same (.payload (e := ⟨q, .synthetic, 2, pattern, none, 1⟩) ?_ rfl rfl
        (.same .nil)))))))
    · decide +kernel
    · decide +kernel
  exact ⟨by simp [run], alike, trace_of_alike alike⟩

end Filesystem

end PatternFs
