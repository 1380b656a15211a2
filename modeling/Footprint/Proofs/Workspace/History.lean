import Footprint.Proofs.Workspace.Run

namespace Footprint

structure Event where
  operation : Operation
  answer : Except Fault Answer
  before : Store
  after : Store

namespace Event

/-- The value that the event supplies for a column. A failed operation supplies nothing. -/
def supplied (e : Event) : Supply := e.operation.supply e.answer

def creates (e : Event) (kind : Kind) (id : Int) : Bool := !e.before.holds kind id && e.after.holds kind id

/-- The last value supplied for a column of a row since the row was created, or else null. The latest
    event comes first. -/
def lastSupplied (kind : Kind) (id : Int) (a : Attribute) : List Event → Cell
  | [] => .null
  | e :: earlier =>
    (e.supplied kind id a).getD (if e.creates kind id then .null else lastSupplied kind id a earlier)

end Event

namespace Session

variable {s : Session}

def event (s : Session) (op : Operation) : Event where
  operation := op
  answer := (perform op.action s).1
  before := s.contents
  after := (s.step op).contents

def history (s : Session) : List Operation → List Event
  | [] => []
  | op :: rest => s.event op :: (s.step op).history rest

theorem event_steps (sound : s.Sound) (op : Operation) : s.Steps (s.event op).supplied (s.step op) :=
  op.steps sound

def Recorded (s : Session) (kind : Kind) (id : Int) (a : Attribute) (past : List Event) : Prop :=
  s.contents.holds kind id = true →
    s.contents.value kind id a = (Event.lastSupplied kind id a past).stored

variable {kind : Kind} {id : Int} {a : Attribute} {past : List Event}

theorem Recorded.step (sound : s.Sound) (settled : s.pending = none) (named : a ∈ kind.attributes)
    (recorded : s.Recorded kind id a past) (op : Operation) :
    (s.step op).Recorded kind id a (s.event op :: past) := by
  intro held
  have steps := event_steps sound op
  obtain ⟨row, member, rfl, rfl⟩ := Store.holds_iff.mp held
  rw [steps.sound.contents.value_eq member, (steps.step settled).cells row member a named, Event.lastSupplied]
  cases given : (s.event op).supplied row.kind row.id a with
  | some cell => rfl
  | none =>
    have creates : (s.event op).creates row.kind row.id = !s.contents.holds row.kind row.id := by
      simp [Event.creates, event, held]
    -- Without a row nothing is known of its columns, whatever the history says of an earlier one.
    cases held' : s.contents.holds row.kind row.id with
    | true => simpa [creates, held'] using recorded held'
    | false => simp [creates, held', Store.value_eq_null held', Cell.stored]

theorem Recorded.run (sound : s.Sound) (settled : s.pending = none) (named : a ∈ kind.attributes)
    (recorded : s.Recorded kind id a past) (ops : List Operation) :
    (s.run ops).Recorded kind id a ((s.history ops).reverse ++ past) := by
  induction ops generalizing s past with
  | nil => exact recorded
  | cons op rest ih =>
    have steps := event_steps sound op
    rw [history, List.reverse_cons, List.append_assoc]
    exact ih steps.sound (steps.settled settled) (recorded.step sound settled named op)

/-- What a row's attributes hold after every run: the values supplied last. An operation changes no
    attribute that it does not supply, and clears one only by a null, or by a NaN, which is kept as null. -/
theorem run_keeps_last_supplied (fresh : s.Fresh) (ops : List Operation) :
    (∀ row ∈ (s.run ops).contents.rows, ∀ a ∈ row.kind.attributes,
      row.cell (.field a) = (Event.lastSupplied row.kind row.id a (s.history ops).reverse).stored) ∧
    ∀ op, ∀ old ∈ (s.run ops).contents.rows, ∀ new ∈ ((s.run ops).step op).contents.rows,
      new.kind = old.kind → new.id = old.id → ∀ a ∈ old.kind.attributes,
        (((s.run ops).event op).supplied old.kind old.id a = none → new.cell (.field a) = old.cell (.field a)) ∧
        (old.cell (.field a) ≠ .null → new.cell (.field a) = .null →
          ((s.run ops).event op).supplied old.kind old.id a = some .null ∨
          ((s.run ops).event op).supplied old.kind old.id a = some (.real .nan)) := by
  have sound := fresh.sound.run ops
  have settled := settled_run fresh.sound fresh.settled ops
  constructor
  · intro row member a named
    have blank : s.Recorded row.kind row.id a [] := fun held => by
      rw [fresh.contents] at held
      cases held
    have recorded := blank.run fresh.sound fresh.settled named ops (Store.holds_iff.mpr ⟨row, member, rfl, rfl⟩)
    rwa [sound.contents.value_eq member, List.append_nil] at recorded
  · intro op old member new member' kind id a named
    have written := ((event_steps sound op).step settled).cells new member' a (kind ▸ named)
    rw [kind, id, sound.contents.value_eq member] at written
    rw [written]
    cases given : ((s.run ops).event op).supplied old.kind old.id a with
    | none => exact ⟨fun _ => rfl, fun kept cleared => absurd cleared kept⟩
    | some cell =>
      refine ⟨nofun, fun _ cleared => ?_⟩
      simpa using Cell.stored_eq_null_iff.mp cleared

/-- To offer a row again without an attribute leaves the attribute as it was supplied before. -/
theorem run_keeps_last_supplied_before :
    let offer (members : List (String × Data)) : Operation := .insert (.object
      ([("kind", .text "subdomain"), ("value", .text "www.example.com"), ("domain_id", .int 1)] ++ members))
    let ops : List Operation := [.insertDomain (.text "example.com"), offer [("resolvable", .bool true)], offer []]
    ∃ row ∈ (inMemory.run ops).contents.rows, row.kind = .subdomain ∧ row.cell (.field .resolvable) = .bool true := by
  intro offer ops
  let row : Row := ⟨1, .subdomain 1 "www.example.com", [(.resolvable, .bool true)], false⟩
  have member : row ∈ (inMemory.run ops).contents.rows := by decide +kernel
  have cell := (run_keeps_last_supplied .memory ops).1 row member .resolvable (by decide)
  exact ⟨row, member, rfl, cell.trans (by decide +kernel)⟩

end Session
end Footprint
