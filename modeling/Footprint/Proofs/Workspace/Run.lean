import Footprint.Proofs.Session.Connection
import Footprint.Proofs.Session.Operation
import Footprint.Proofs.Workspace.Directory

namespace Footprint

namespace Session

def inMemory : Session := { database := .unversioned, enforced := true }

/-- A session on an empty workspace: in memory, or connected to a file that was opened. -/
inductive Fresh : Session → Prop
  | memory : Fresh inMemory
  | file {directory after : Directory} {name : String} {database : Database} {s : Session} :
    directory.establish name = (after, .ok database) → database.store = .empty → connect database = .ok s → Fresh s

def step (s : Session) (op : Operation) : Session := (perform op.action s).2

def run (s : Session) (ops : List Operation) : Session := ops.foldl step s

variable {s : Session}

theorem run_append (s : Session) (ops later : List Operation) : s.run (ops ++ later) = (s.run ops).run later := by
  simp [run]

namespace Fresh

theorem settled (fresh : s.Fresh) : s.pending = none := by
  cases fresh with
  | memory => rfl
  | file opened empty connected =>
    cases (connect_eq _).symm.trans connected
    rfl

theorem contents (fresh : s.Fresh) : s.contents = .empty := by
  cases fresh with
  | memory => rfl
  | file opened empty connected =>
    cases (connect_eq _).symm.trans connected
    exact empty

theorem enforced (fresh : s.Fresh) : s.enforced = true := by
  cases fresh with
  | memory => rfl
  | file opened empty connected =>
    cases (connect_eq _).symm.trans connected
    rfl

theorem sound (fresh : s.Fresh) : s.Sound := by
  have formed : s.contents.WellFormed := fresh.contents ▸ .empty
  exact ⟨contents_of_settled fresh.settled ▸ formed, formed, fresh.enforced⟩

end Fresh

theorem Sound.run (sound : s.Sound) (ops : List Operation) : (s.run ops).Sound := by
  induction ops generalizing s with
  | nil => exact sound
  | cons op rest ih => exact ih (op.steps sound).sound

theorem settled_run (sound : s.Sound) (settled : s.pending = none) (ops : List Operation) :
    (s.run ops).pending = none := by
  induction ops generalizing s with
  | nil => exact settled
  | cons op rest ih => exact ih (op.steps sound).sound ((op.steps sound).settled settled)

/-- Whether a row of the given kind and id is stored now and after each of the operations. -/
def holdsDuring (s : Session) (kind : Kind) (id : Int) : List Operation → Bool
  | [] => s.contents.holds kind id
  | op :: rest => s.contents.holds kind id && (s.step op).holdsDuring kind id rest

theorem holds_of_holdsDuring {kind : Kind} {id : Int} {ops : List Operation}
    (held : s.holdsDuring kind id ops = true) : s.contents.holds kind id = true := by
  cases ops with
  | nil => exact held
  | cons op rest => exact (Bool.and_eq_true_iff.mp held).1

theorem identity_step (sound : s.Sound) (settled : s.pending = none) {op : Operation} {row : Row}
    (member : row ∈ s.contents.rows) (held : (s.step op).contents.holds row.kind row.id = true) :
    ∃ later ∈ (s.step op).contents.rows, later.identity = row.identity := by
  rcases ((op.steps sound).step settled).moved with grows | shrinks
  · exact List.mem_map.mp (grows.subset (List.mem_map_of_mem member))
  · -- The row that has the id afterwards was there before, and no other row had the id.
    obtain ⟨later, member', kind, id⟩ := Store.holds_iff.mp held
    obtain ⟨old, known, identity⟩ := List.mem_map.mp (shrinks.subset (List.mem_map_of_mem member'))
    obtain ⟨kind', id'⟩ := Row.kind_and_id_of_identity identity
    obtain rfl := sound.contents.eq_of_id known member (kind'.trans kind) (id'.trans id)
    exact ⟨later, member', identity.symm⟩

theorem identity_run (sound : s.Sound) (settled : s.pending = none) {ops : List Operation} {row : Row}
    (member : row ∈ s.contents.rows) (held : s.holdsDuring row.kind row.id ops = true) :
    ∃ later ∈ (s.run ops).contents.rows, later.identity = row.identity := by
  induction ops generalizing s row with
  | nil => exact ⟨row, member, rfl⟩
  | cons op rest ih =>
    obtain ⟨-, rest⟩ := Bool.and_eq_true_iff.mp held
    obtain ⟨next, member', identity⟩ := identity_step sound settled member (holds_of_holdsDuring rest)
    obtain ⟨kind, id⟩ := Row.kind_and_id_of_identity identity
    have steps := op.steps sound
    obtain ⟨later, member'', same⟩ := ih steps.sound (steps.settled settled) member' (by rwa [kind, id])
    exact ⟨later, member'', same.trans identity⟩

end Session
end Footprint
