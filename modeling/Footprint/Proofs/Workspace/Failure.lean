import Footprint.Proofs.Workspace.Transaction

namespace Footprint

/-- Whether the operation is a single call; the insertion of a subdomain may insert its domain first. -/
def Operation.isSingle : Operation → Bool
  | insertSubdomain .. => false
  | _ => true

inductive Action.Single : Action Answer → Prop
  | operation {op : Operation} : op.isSingle = true → Single op.action
  | unsupported (attempt : Attempt) (value : Data) : Single (Action.unsupported attempt value)

theorem Operation.commits_of_failed {s : Session} {op : Operation} (single : op.isSingle = true)
    (failed : (perform op.action s).1.isOk = false) : op.commits s = false := by
  have unchanged : answersChange (perform op.action s).1 = false := by
    cases result : (perform op.action s).1 with
    | error fault => rfl
    | ok answer =>
      rw [result] at failed
      cases failed
  cases op with
  | insertSubdomain value domain => cases single
  | insert | insertUnseen | insertDomain | insertAddress | insertLink | insertEmail => exact unchanged
  | update => exact Bool.and_eq_false_iff.mpr (.inl failed)
  | scope | noscope | delete => exact failed
  | getRow | getId | findId | list | filter => rfl

namespace Session

variable {s : Session}

def Undoes {α : Type} (s : Session) (x : Action α) : Prop := (perform x s).1.isOk = false → s.Alike (perform x s).2

theorem Undoes.action (settled : s.pending = none) (sound : s.Sound) {op : Operation} (single : op.isSingle = true) :
    s.Undoes op.action := by
  intro failed
  have handles := op.handles sound
  rw [op.commits_of_failed single failed] at handles
  exact handles.alike_of_settled settled

/-- A call that fails changes no table, and all that happens afterwards is answered and ends as if the call had
    not been made. -/
theorem failed_leaves_no_trace (reached : s.Reachable) (settled : s.pending = none) {call : Action Answer}
    (single : call.Single) (failed : (perform call s).1.isOk = false) :
    (perform call s).2.contents = s.contents ∧ (perform call s).2.database = s.database ∧
    ∀ later : List Event, (perform call s).2.answers later = s.answers later ∧
      ((perform call s).2.through later).contents = (s.through later).contents ∧
      ((perform call s).2.through later).database = (s.through later).database := by
  have alike : s.Alike (perform call s).2 := by
    cases single with
    | operation single => exact Undoes.action settled reached.sound single failed
    | unsupported attempt value => exact ⟨s.seen, rfl⟩
  refine ⟨alike.contents_eq, alike.database_eq, fun later => ?_⟩
  obtain ⟨same, alike'⟩ := alike.through reached.sound.enforced later
  exact ⟨same, alike'.contents_eq, alike'.database_eq⟩

/-- A URL without its subdomain is refused, and the domain that is offered next is the first row. -/
theorem failed_leaves_no_trace_of_orphan :
    let call := (Operation.insert (.object [("kind", .text "url"), ("value", .text "http://www.example.com/"),
      ("subdomain_id", .int 7)])).action
    let refused := perform call inMemory
    refused.1.isOk = false ∧ refused.2.contents = .empty ∧
      refused.2.answers [.operation (.insertDomain (.text "example.com"))] = [.ok (some (.outcome (true, 1)))] := by
  intro call refused
  have failed : refused.1.isOk = false := by decide +kernel
  obtain ⟨contents, -, later⟩ := failed_leaves_no_trace (.fresh .memory) rfl (.operation rfl) failed
  let next := Event.operation (.insertDomain (.text "example.com"))
  refine ⟨failed, contents, (later [next]).1.trans ?_⟩
  have answered : (perform next.action inMemory).1 = .ok (some (.outcome (true, 1))) :=
    eq_ok_of_toOption (by decide +kernel)
  rw [answers, answered]
  rfl

end Session
end Footprint
