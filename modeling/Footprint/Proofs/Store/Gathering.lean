import Footprint.Proofs.Session.Repetition
import Footprint.Proofs.Store.Scope

/-!
What the tables come to by one insertion after another. Every row is told by the tables from before and by the
candidates with its key, whatever their order, as long as these do not contradict each other.
-/

namespace Footprint

theorem Family.eq_of_problem? {family other : Family} {text : String} (sane : family.problem? text = none)
    (sane' : other.problem? text = none) : family = other := by
  have shown (claimed : Family) (sane : claimed.problem? text = none) : Address.family? text = some claimed := by
    cases actual : Address.family? text with
    | none => simp [problem?, actual] at sane
    | some family => simpa [problem?, actual] using sane
  exact Option.some.inj ((shown family sane).symm.trans (shown other sane'))

theorem Subject.eq_of_key {subject other : Subject} (sane : subject.familyProblem? = none)
    (sane' : other.familyProblem? = none) (kind : subject.kind = other.kind) (key : subject.key = other.key)
    (parents : subject.parents = other.parents) : subject = other := by
  cases subject <;> cases other <;> simp [Subject.kind] at kind
  case address.address family value family' value' =>
    obtain rfl : value = value' := by simpa [Subject.key] using key
    rw [Family.eq_of_problem? sane sane']
  case raggedAddress.raggedAddress family value family' value' =>
    obtain rfl : value = value' := by simpa [Subject.key] using key
    rw [Family.eq_of_problem? sane sane']
  all_goals simp_all [Subject.key, Subject.parents]

namespace Candidate

variable {c d : Candidate}

/-- Two candidates for one key name the same parents and agree wherever both supply a value. -/
def Agrees (c d : Candidate) : Prop := c.kind = d.kind → c.key = d.key →
  c.subject.parents = d.subject.parents ∧
  ∀ a one other, c.supplied.get? a = some one → d.supplied.get? a = some other → one.equals other = true

def Concurs (c d : Candidate) : Prop := c.kind = d.kind → c.key = d.key →
  c.subject = d.subject ∧
  ∀ a one other, c.supplied.get? a = some one → d.supplied.get? a = some other → one.stored = other.stored

theorem Concurs.refl (c : Candidate) : c.Concurs c := by
  refine fun _ _ => ⟨rfl, fun a one other given given' => ?_⟩
  rw [given] at given'
  rw [Option.some.inj given']

theorem Agrees.concurs (agree : c.Agrees d) (accepted : c.Accepted) (accepted' : d.Accepted) : c.Concurs d := by
  intro kind key
  obtain ⟨parents, values⟩ := agree kind key
  refine ⟨Subject.eq_of_key accepted.sane accepted'.sane kind key parents, fun a one other given given' => ?_⟩
  exact Cell.stored_eq_of_equals (accepted.proper.admits given) (accepted'.proper.admits given')
    (values a one other given given')

end Candidate

def Row.traced (old : Store) (row : Row) : Option Int × Subject × Assignment × Bool :=
  (if old.holds row.kind row.id then some row.id else none, row.subject, row.attributes, row.unscoped)

namespace Store

variable {old before after : Store} {cs : List Candidate} {c : Candidate} {outcome : Outcome} {row : Row}

namespace Inserted

theorem writtenTo (formed : before.WellFormed) (proper : c.Proper) (inserted : before.Inserted c outcome after)
    (member : row ∈ after.rows) (kind : c.kind = row.kind) (key : c.key = row.key) : c.WrittenTo row := by
  obtain ⟨own, found, -, written⟩ := inserted.found formed proper
  obtain ⟨member', kind', key'⟩ := mem_of_lookup? found
  have formed' := inserted.wellFormed formed proper
  obtain rfl := formed'.eq_of_key member' member (kind'.trans kind) (key'.trans key)
  exact written

theorem cell_kept (formed : before.WellFormed) (proper : c.Proper) (inserted : before.Inserted c outcome after)
    (member : row ∈ after.rows) {a : Attribute} (named : a ∈ row.kind.attributes)
    (unsupplied : c.kind = row.kind → c.key = row.key → c.supplied.get? a = none) :
    row.cell (.field a) = before.value row.kind row.id a := by
  obtain ⟨own, found, id, -⟩ := inserted.found formed proper
  obtain ⟨member', kind, key⟩ := mem_of_lookup? found
  rw [(inserted.step formed).cells row member a named, ← id]
  by_cases touched : row.kind = c.kind ∧ row.id = own.id
  · have formed' := inserted.wellFormed formed proper
    obtain rfl := formed'.eq_of_id member member' (touched.1.trans kind.symm) touched.2
    simp [Supply.only, unsupplied kind.symm key.symm]
  · simp [Supply.only, touched]

theorem source (inserted : before.Inserted c outcome after) (member : row ∈ after.rows) :
    before.holds row.kind row.id = true ∨ row.subject = c.subject := by
  cases inserted with
  | same found same => exact .inl (holds_iff.mpr ⟨row, member, rfl, rfl⟩)
  | merged found =>
    obtain ⟨old, member', rfl⟩ := List.mem_map.mp member
    refine .inl (holds_iff.mpr ⟨old, member', ?_⟩)
    split <;> exact ⟨rfl, rfl⟩
  | created _ inserted =>
    obtain ⟨-, -, rfl⟩ := insert?_eq_some_iff.mp inserted
    rcases List.mem_append.mp member with member | last
    · exact .inl (holds_iff.mpr ⟨row, member, rfl, rfl⟩)
    · obtain rfl := List.mem_singleton.mp last
      exact .inr rfl

end Inserted

/-- The tables hold the rows from before and one row for each key that is offered. A row that was not there
    before is in scope and has its subject from a candidate; and every column holds what some candidate with
    the key of the row supplies for it, or else what it held before. -/
structure Gathers (old : Store) (cs : List Candidate) (new : Store) : Prop where
  grows : old.Grows new
  scope : Marked .nothing old new
  known : ∀ c ∈ cs, ∃ row ∈ new.rows, row.kind = c.kind ∧ row.key = c.key
  source : ∀ row ∈ new.rows, old.holds row.kind row.id = false → ∃ c ∈ cs, c.subject = row.subject
  written : ∀ row ∈ new.rows, ∀ c ∈ cs, c.kind = row.kind → c.key = row.key → c.WrittenTo row
  unwritten : ∀ row ∈ new.rows, ∀ a ∈ row.kind.attributes,
    (∀ c ∈ cs, c.kind = row.kind → c.key = row.key → c.supplied.get? a = none) →
    row.cell (.field a) = old.value row.kind row.id a

namespace Gathers

theorem refl (formed : old.WellFormed) : old.Gathers [] old where
  grows := .refl old
  scope := .refl formed
  known _ member := nomatch member
  source row member absent := by
    have held : old.holds row.kind row.id = true := holds_iff.mpr ⟨row, member, rfl, rfl⟩
    simp [absent] at held
  written _ _ _ member := nomatch member
  unwritten row member a _ _ := (formed.value_eq member a).symm

section

variable (gathers : old.Gathers cs before) (formed : before.WellFormed) (proper : c.Proper)
  (inserted : before.Inserted c outcome after)

include gathers formed proper inserted

theorem written_earlier {d : Candidate} (earlier : d ∈ cs) (proper' : d.Proper) (concur : d.Concurs c)
    (member : row ∈ after.rows) (kind : d.kind = row.kind) (key : d.key = row.key) : d.WrittenTo row := by
  intro a cell given
  have named : a ∈ row.kind.attributes := kind ▸ proper'.order.subset (List.mem_map_of_mem (mem_of_lookup given))
  -- The next candidate writes the same over the column, or leaves it.
  by_cases supplied : (c.kind = row.kind ∧ c.key = row.key) ∧ (c.supplied.get? a).isSome = true
  · obtain ⟨⟨kind', key'⟩, some⟩ := supplied
    obtain ⟨other, given'⟩ := Option.isSome_iff_exists.mp some
    have same := (concur (kind.trans kind'.symm) (key.trans key'.symm)).2 a cell other given given'
    rw [inserted.writtenTo formed proper member kind' key' a other given', same]
  · have kept := inserted.cell_kept formed proper member named fun kind' key' => by simp_all
    obtain ⟨old', member', kind', key'⟩ := gathers.known d earlier
    have formed' := inserted.wellFormed formed proper
    have identity := inserted.grows.identity_of_key formed' member' member (kind'.trans kind) (key'.trans key)
    obtain ⟨kind'', id⟩ := Row.kind_and_id_of_identity identity
    rw [kept, ← kind'', ← id, formed.value_eq member']
    exact gathers.written old' member' d earlier kind'.symm key'.symm a cell given

theorem unwritten_later (member : row ∈ after.rows) {a : Attribute} (named : a ∈ row.kind.attributes)
    (unsupplied : ∀ d ∈ cs ++ [c], d.kind = row.kind → d.key = row.key → d.supplied.get? a = none) :
    row.cell (.field a) = old.value row.kind row.id a := by
  rw [inserted.cell_kept formed proper member named (unsupplied c (by simp))]
  cases held : before.holds row.kind row.id with
  | true =>
    have formed' := inserted.wellFormed formed proper
    obtain ⟨old', member', identity⟩ := inserted.grows.older formed' member held
    obtain ⟨kind, id⟩ := Row.kind_and_id_of_identity identity
    rw [← kind, ← id, formed.value_eq member']
    refine gathers.unwritten old' member' a (kind ▸ named) fun d earlier kind' key' => ?_
    exact unsupplied d (by simp [earlier]) (kind'.trans kind) (key'.trans (Row.key_of_identity identity))
  | false =>
    have absent : old.holds row.kind row.id = false := by
      rw [← Bool.not_eq_true]
      exact fun held' => Bool.false_ne_true (held.symm.trans (gathers.grows.holds held'))
    rw [value_eq_null held, value_eq_null absent]

theorem insert (proper' : ∀ d ∈ cs, d.Proper) (concur : ∀ d ∈ cs, d.Concurs c) : old.Gathers (cs ++ [c]) after where
  grows := gathers.grows.trans inserted.grows
  scope := gathers.scope.trans gathers.grows formed (.inserted formed inserted)
  known d member := by
    rcases List.mem_append.mp member with earlier | last
    · obtain ⟨row, member', kind, key⟩ := gathers.known d earlier
      obtain ⟨later, member'', identity⟩ := List.mem_map.mp (inserted.grows.subset (List.mem_map_of_mem member'))
      exact ⟨later, member'', (Row.kind_and_id_of_identity identity).1.trans kind,
        (Row.key_of_identity identity).trans key⟩
    · obtain rfl := List.mem_singleton.mp last
      obtain ⟨own, found, -⟩ := inserted.found formed proper
      exact ⟨own, mem_of_lookup? found⟩
  source row member absent := by
    rcases inserted.source member with held | made
    · obtain ⟨old', member', identity⟩ := inserted.grows.older (inserted.wellFormed formed proper) member held
      obtain ⟨kind, id⟩ := Row.kind_and_id_of_identity identity
      obtain ⟨d, earlier, subject⟩ := gathers.source old' member' (by rw [kind, id, absent])
      exact ⟨d, by simp [earlier], subject.trans (congrArg Prod.snd identity)⟩
    · exact ⟨c, by simp, made.symm⟩
  written row member d member' kind key := by
    rcases List.mem_append.mp member' with earlier | last
    · exact gathers.written_earlier formed proper inserted earlier (proper' d earlier) (concur d earlier) member kind key
    · obtain rfl := List.mem_singleton.mp last
      exact inserted.writtenTo formed proper member kind key
  unwritten row member a named unsupplied :=
    gathers.unwritten_later formed proper inserted member named unsupplied

end

theorem congr {cs' : List Candidate} (gathers : old.Gathers cs before) (same : ∀ c, c ∈ cs ↔ c ∈ cs') :
    old.Gathers cs' before where
  grows := gathers.grows
  scope := gathers.scope
  known c member := gathers.known c ((same c).mpr member)
  source row member absent := by
    obtain ⟨c, member', subject⟩ := gathers.source row member absent
    exact ⟨c, (same c).mp member', subject⟩
  written row member c member' := gathers.written row member c ((same c).mpr member')
  unwritten row member a named unsupplied :=
    gathers.unwritten row member a named fun c member' => unsupplied c ((same c).mp member')

section

variable {one other : Store} (first : old.Gathers cs one) (second : old.Gathers cs other)

include first second

theorem unscoped_eq {row' : Row} (member : row ∈ one.rows) (member' : row' ∈ other.rows)
    (scope : old.unscoped row.kind row.id = old.unscoped row'.kind row'.id) : row.unscoped = row'.unscoped :=
  (first.scope row member).trans (scope.trans (second.scope row' member').symm)

variable (formed : one.WellFormed) (formed' : other.WellFormed)

include formed formed'

theorem attributes_eq {row' : Row} (member : row ∈ one.rows) (member' : row' ∈ other.rows)
    (subject : row.subject = row'.subject)
    (values : ∀ a, old.value row.kind row.id a = old.value row'.kind row'.id a) : row.attributes = row'.attributes := by
  have kind : row.kind = row'.kind := congrArg Subject.kind subject
  have key : row.key = row'.key := congrArg Subject.key subject
  rw [(formed.rows row member).attributes_eq, (formed'.rows row' member').attributes_eq, ← kind]
  refine List.map_congr_left fun a named => ?_
  by_cases supplied : ∃ c ∈ cs, (c.kind = row.kind ∧ c.key = row.key) ∧ (c.supplied.get? a).isSome = true
  · obtain ⟨c, offered, ⟨kind', key'⟩, some⟩ := supplied
    obtain ⟨cell, given⟩ := Option.isSome_iff_exists.mp some
    rw [first.written row member c offered kind' key' a cell given,
      second.written row' member' c offered (kind'.trans kind) (key'.trans key) a cell given]
  · have unsupplied (c : Candidate) (offered : c ∈ cs) (kind' : c.kind = row.kind) (key' : c.key = row.key) :
        c.supplied.get? a = none := by
      rw [← Option.not_isSome_iff_eq_none]
      exact fun some => supplied ⟨c, offered, ⟨kind', key'⟩, some⟩
    rw [first.unwritten row member a named unsupplied, values a, second.unwritten row' member' a (kind ▸ named)]
    exact fun c offered kind' key' => unsupplied c offered (kind'.trans kind.symm) (key'.trans key.symm)

theorem absent_of_absent {row' : Row} (member : row ∈ one.rows) (member' : row' ∈ other.rows)
    (kind : row'.kind = row.kind) (key : row'.key = row.key) (absent : old.holds row.kind row.id = false) :
    old.holds row'.kind row'.id = false := by
  rw [← Bool.not_eq_true]
  intro held
  -- A row that was there before with this key would be in both tables, under its id of then.
  obtain ⟨earlier, known, identity⟩ := second.grows.older formed' member' held
  have kind' := (Row.kind_and_id_of_identity identity).1.trans kind
  have key' := (Row.key_of_identity identity).trans key
  have same := Row.kind_and_id_of_identity (first.grows.identity_of_key formed known member kind' key')
  exact Bool.false_ne_true (absent.symm.trans (holds_iff.mpr ⟨earlier, known, same⟩))

theorem exists_traced (concur : ∀ c ∈ cs, ∀ d ∈ cs, c.Concurs d) (member : row ∈ one.rows) :
    ∃ row' ∈ other.rows, row'.traced old = row.traced old := by
  -- A row from before is found by its id, and a new one by the key of the candidate that it was made for.
  cases held : old.holds row.kind row.id with
  | true =>
    obtain ⟨earlier, known, identity⟩ := first.grows.older formed member held
    obtain ⟨row', member', identity'⟩ := List.mem_map.mp (second.grows.subset (List.mem_map_of_mem known))
    have subject : row.subject = row'.subject := congrArg Prod.snd (identity'.trans identity).symm
    have id : row.id = row'.id := congrArg Prod.fst (identity'.trans identity).symm
    have kind : row.kind = row'.kind := congrArg Subject.kind subject
    have attributes := attributes_eq first second formed formed' member member' subject fun a => by rw [kind, id]
    have scope := unscoped_eq first second member member' (by rw [kind, id])
    exact ⟨row', member', by simp [Row.traced, kind, id, subject, attributes, scope]⟩
  | false =>
    obtain ⟨c, offered, subject⟩ := first.source row member held
    have kind : c.kind = row.kind := congrArg Subject.kind subject
    have key : c.key = row.key := congrArg Subject.key subject
    obtain ⟨row', member', kind', key'⟩ := second.known c offered
    have held' := absent_of_absent first second formed formed' member member' (kind'.trans kind) (key'.trans key) held
    obtain ⟨d, offered', subject'⟩ := second.source row' member' held'
    have agreed : d.kind = c.kind → d.key = c.key → d.subject = c.subject := fun kind key =>
      (concur d offered' c offered kind key).1
    have same : row.subject = row'.subject := by
      rw [← subject, ← subject', agreed ((congrArg Subject.kind subject').trans kind')
        ((congrArg Subject.key subject').trans key')]
    have attributes := attributes_eq first second formed formed' member member' same fun a => by
      rw [value_eq_null held, value_eq_null held']
    have scope := unscoped_eq first second member member' (by rw [unscoped_eq_false held, unscoped_eq_false held'])
    exact ⟨row', member', by simp [Row.traced, held, held', same, attributes, scope]⟩

omit first second formed' in
theorem nodup_traced : (one.rows.map (Row.traced old)).Nodup := by
  refine List.pairwise_map.mpr (formed.keys.imp fun apart same => ?_)
  have subject := congrArg (fun traced => traced.2.1) same
  exact apart (congrArg Subject.kind subject) (congrArg Subject.key subject)

theorem perm (concur : ∀ c ∈ cs, ∀ d ∈ cs, c.Concurs d) :
    (one.rows.map (Row.traced old)).Perm (other.rows.map (Row.traced old)) := by
  refine (List.perm_ext_iff_of_nodup (nodup_traced formed) (nodup_traced formed')).mpr fun traced => ?_
  simp only [List.mem_map]
  constructor
  · rintro ⟨row, member, rfl⟩
    exact exists_traced first second formed formed' concur member
  · rintro ⟨row, member, rfl⟩
    exact exists_traced second first formed' formed concur member

end

end Gathers
end Store
end Footprint
