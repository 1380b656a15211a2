import Footprint.Proofs.Entity.Row

namespace Footprint

def Row.identity (row : Row) : Int × Subject := (row.id, row.subject)

theorem Row.kind_and_id_of_identity {row other : Row} (same : row.identity = other.identity) :
    row.kind = other.kind ∧ row.id = other.id :=
  ⟨congrArg (fun identity => identity.2.kind) same, congrArg Prod.fst same⟩

theorem Row.key_of_identity {row other : Row} (same : row.identity = other.identity) : row.key = other.key :=
  congrArg (fun identity => identity.2.key) same

theorem Row.identity_write (changes : Assignment) (row : Row) : (row.write changes).identity = row.identity := rfl

namespace Store

variable {store new : Store} {kind : Kind} {row : Row}

structure WellFormed (store : Store) : Prop where
  ids : store.rows.Pairwise fun row other => row.kind = other.kind → row.id ≠ other.id
  keys : store.rows.Pairwise fun row other => row.kind = other.kind → row.key ≠ other.key
  parents : ∀ row ∈ store.rows, store.parentsStored row.subject = true
  rows : ∀ row ∈ store.rows, row.WellFormed
  plain : ∀ row ∈ store.rows, row.Plain

theorem WellFormed.empty : Store.empty.WellFormed where
  ids := .nil
  keys := .nil
  parents _ member := nomatch member
  rows _ member := nomatch member
  plain _ member := nomatch member

theorem mem_table : row ∈ store.table kind ↔ row ∈ store.rows ∧ row.kind = kind := by
  simp [table]

theorem holds_iff {id : Int} : store.holds kind id = true ↔ ∃ row ∈ store.rows, row.kind = kind ∧ row.id = id := by
  simp [holds, mem_table, and_assoc]

theorem keyTaken_iff {subject : Subject} :
    store.keyTaken subject = true ↔ ∃ row ∈ store.rows, row.kind = subject.kind ∧ row.key = subject.key := by
  simp [keyTaken, mem_table, and_assoc]

theorem parentsStored_iff {subject : Subject} :
    store.parentsStored subject = true ↔ ∀ parent ∈ subject.parents, store.holds parent.1 parent.2 = true := by
  simp [parentsStored]

theorem parentsStored_subdomain (store : Store) (domain : Int) (value : String) :
    store.parentsStored (.subdomain domain value) = store.holds .domain domain := by
  simp [parentsStored, Subject.parents]

theorem eq_of_pairwise {β : Type} {f : Row → β} {rows : List Row} {other : Row}
    (apart : rows.Pairwise fun row other => row.kind = other.kind → f row ≠ f other) (member : row ∈ rows)
    (member' : other ∈ rows) (kind : row.kind = other.kind) (same : f row = f other) : row = other := by
  have one := apart.imp (S := fun row other => row.kind = other.kind → f row = f other → row = other)
    fun differ kind same => absurd same (differ kind)
  have two := apart.imp (S := flip fun row other => row.kind = other.kind → f row = f other → row = other)
    fun differ kind same => absurd same.symm (differ kind.symm)
  exact List.Pairwise.forall_of_forall_of_flip (fun _ _ _ _ => rfl) one two member member' kind same

theorem nodup_table {β : Type} {f : Row → β}
    (apart : store.rows.Pairwise fun row other => row.kind = other.kind → f row ≠ f other) (kind : Kind) :
    ((store.table kind).map f).Nodup := by
  refine List.pairwise_map.mpr ((apart.filter _).imp_of_mem fun member member' differ => ?_)
  exact differ ((mem_table.mp member).2.trans (mem_table.mp member').2.symm)

theorem WellFormed.eq_of_id {other : Row} (formed : store.WellFormed) (member : row ∈ store.rows)
    (member' : other ∈ store.rows) (kind : row.kind = other.kind) (id : row.id = other.id) : row = other :=
  eq_of_pairwise formed.ids member member' kind id

theorem WellFormed.eq_of_key {other : Row} (formed : store.WellFormed) (member : row ∈ store.rows)
    (member' : other ∈ store.rows) (kind : row.kind = other.kind) (key : row.key = other.key) : row = other :=
  eq_of_pairwise formed.keys member member' kind key

theorem mem_of_lookup? {key : Key} (found : store.lookup? kind key = some row) :
    row ∈ store.rows ∧ row.kind = kind ∧ row.key = key := by
  obtain ⟨member, same⟩ := mem_table.mp (List.mem_of_find?_eq_some found)
  exact ⟨member, same, by simpa using List.find?_some found⟩

theorem lookup?_eq_none_iff {key : Key} :
    store.lookup? kind key = none ↔ ∀ row ∈ store.rows, row.kind = kind → row.key ≠ key := by
  simp [lookup?, mem_table]

theorem WellFormed.lookup? (formed : store.WellFormed) (member : row ∈ store.rows) :
    store.lookup? row.kind row.key = some row := by
  cases found : store.lookup? row.kind row.key with
  | none => exact absurd rfl (lookup?_eq_none_iff.mp found row member rfl)
  | some other =>
    obtain ⟨member', kind, key⟩ := mem_of_lookup? found
    rw [formed.eq_of_key member' member kind key]

theorem filter_eq_find? {β : Type} [BEq β] [LawfulBEq β] {f : Row → β} {rows : List Row} (apart : (rows.map f).Nodup)
    (b : β) : rows.filter (f · == b) = (rows.find? (f · == b)).toList := by
  induction rows with
  | nil => rfl
  | cons row rest ih =>
    obtain ⟨others, apart⟩ := List.nodup_cons.mp apart
    by_cases same : f row = b
    · have none : rest.filter (f · == b) = [] := by
        rw [List.filter_eq_nil_iff]
        intro other member equal
        exact others (List.mem_map.mpr ⟨other, member, (beq_iff_eq.mp equal).trans same.symm⟩)
      simp [same, none]
    · simpa [same] using ih apart

theorem WellFormed.filter_key (formed : store.WellFormed) (kind : Kind) (key : Key) :
    (store.table kind).filter (·.key == key) = (store.lookup? kind key).toList :=
  filter_eq_find? (nodup_table formed.keys kind) key

theorem WellFormed.filter_id (formed : store.WellFormed) (kind : Kind) (id : Int) :
    (store.table kind).filter (·.id == id) = (store.find? kind id).toList :=
  filter_eq_find? (nodup_table formed.ids kind) id

/-! Inserting -/

theorem lt_nextId (member : row ∈ store.rows) : row.id < store.nextId row.kind := by
  have bound (rows : List Row) (start : Int) :
      start ≤ rows.foldl (fun greatest row => max greatest row.id) start ∧
        ∀ row ∈ rows, row.id ≤ rows.foldl (fun greatest row => max greatest row.id) start := by
    induction rows generalizing start with
    | nil => simp
    | cons first rest ih =>
      obtain ⟨least, each⟩ := ih (max start first.id)
      refine ⟨by simp only [List.foldl_cons]; omega, fun row member => ?_⟩
      rcases List.mem_cons.mp member with rfl | member
      · simp only [List.foldl_cons]
        omega
      · exact each row member
  have greatest := (bound (store.table row.kind) 0).2 row (mem_table.mpr ⟨member, rfl⟩)
  simp only [nextId]
  omega

theorem holds_nextId (store : Store) (kind : Kind) : store.holds kind (store.nextId kind) = false := by
  rw [← Bool.not_eq_true, holds_iff]
  rintro ⟨row, member, kind, id⟩
  have below := lt_nextId member
  rw [kind, id] at below
  exact Int.lt_irrefl _ below

theorem nextId_pos (store : Store) (kind : Kind) : 0 < store.nextId kind := by
  have grows (rows : List Row) (start : Int) : start ≤ rows.foldl (fun greatest row => max greatest row.id) start := by
    induction rows generalizing start with
    | nil => exact Int.le_refl start
    | cons row rest ih => exact Int.le_trans (Int.le_max_left _ _) (ih _)
  exact Int.lt_add_one_of_le (grows (store.table kind) 0)

theorem nextId_le {bound : Int} (positive : 0 < bound) (below : ∀ row ∈ store.rows, row.kind = kind → row.id < bound) :
    store.nextId kind ≤ bound := by
  have less (rows : List Row) (start : Int) (first : start < bound) (each : ∀ row ∈ rows, row.id < bound) :
      rows.foldl (fun greatest row => max greatest row.id) start < bound := by
    induction rows generalizing start with
    | nil => exact first
    | cons row rest ih =>
      refine ih _ (Int.max_lt.mpr ⟨first, each row (by simp)⟩) fun other member => each other (by simp [member])
  refine Int.add_one_le_of_lt (less _ 0 positive fun row member => ?_)
  obtain ⟨member, kind⟩ := mem_table.mp member
  exact below row member kind

def created (store : Store) (c : Candidate) : Row := Row.create (store.nextId c.kind) c.subject c.supplied

theorem insert?_eq_some_iff {c : Candidate} :
    store.insert? c = some new ↔ store.keyTaken c.subject = false ∧ store.parentsStored c.subject = true ∧
      new = ⟨store.rows ++ [store.created c]⟩ := by
  unfold insert? created
  split
  next rejected =>
    simp only [reduceCtorEq, false_iff]
    rintro ⟨free, parents, -⟩
    simp [free, parents] at rejected
  next accepted =>
    simp only [Bool.or_eq_true, Bool.not_eq_true', not_or, Bool.not_eq_true, Bool.not_eq_false] at accepted
    simp only [accepted, true_and, Option.some.injEq]
    exact eq_comm

theorem insert?_of_absent {c : Candidate} (absent : store.lookup? c.kind c.key = none)
    (parents : store.parentsStored c.subject = true) : store.insert? c = some ⟨store.rows ++ [store.created c]⟩ := by
  refine insert?_eq_some_iff.mpr ⟨?_, parents, rfl⟩
  rw [← Bool.not_eq_true, keyTaken_iff]
  rintro ⟨row, member, kind, key⟩
  exact lookup?_eq_none_iff.mp absent row member kind key

theorem insert?_of_known {c : Candidate} (found : store.lookup? c.kind c.key = some row) : store.insert? c = none := by
  obtain ⟨member, kind, key⟩ := mem_of_lookup? found
  simp [insert?, keyTaken_iff.mpr ⟨row, member, kind, key⟩]

theorem absent_of_insert? {c : Candidate} (inserted : store.insert? c = some new) : store.lookup? c.kind c.key = none := by
  cases known : store.lookup? c.kind c.key with
  | none => rfl
  | some row => cases inserted.symm.trans (insert?_of_known known)

theorem insert?_of_orphan {c : Candidate} (orphan : store.parentsStored c.subject = false) : store.insert? c = none := by
  simp [insert?, orphan]

theorem orphan_of_rejected {c : Candidate} (absent : store.lookup? c.kind c.key = none)
    (rejected : store.insert? c = none) : store.parentsStored c.subject = false := by
  cases parents : store.parentsStored c.subject with
  | false => rfl
  | true => cases rejected.symm.trans (insert?_of_absent absent parents)

theorem nextId_insert_le {c : Candidate} (inserted : store.insert? c = some new) (kind : Kind) :
    new.nextId kind ≤ store.nextId kind + 1 := by
  obtain ⟨-, -, rfl⟩ := insert?_eq_some_iff.mp inserted
  have positive := store.nextId_pos kind
  refine nextId_le (by omega) fun row member same => ?_
  rcases List.mem_append.mp member with member | last
  · have below := lt_nextId member
    rw [same] at below
    omega
  · obtain rfl := List.mem_singleton.mp last
    subst same
    exact Int.lt_succ _

theorem holds_append {id : Int} {rest : List Row} (held : store.holds kind id = true) :
    (Store.mk (store.rows ++ rest)).holds kind id = true := by
  obtain ⟨row, member, same⟩ := holds_iff.mp held
  exact holds_iff.mpr ⟨row, List.mem_append_left _ member, same⟩

theorem WellFormed.insert {c : Candidate} (formed : store.WellFormed) (proper : c.supplied.Proper c.kind)
    (plain : c.Plain) (inserted : store.insert? c = some new) : new.WellFormed := by
  obtain ⟨free, parents, rfl⟩ := insert?_eq_some_iff.mp inserted
  refine ⟨?_, ?_, fun row member => ?_, fun row member => ?_, fun row member => ?_⟩
  · refine List.pairwise_append.mpr ⟨formed.ids, List.pairwise_singleton _ _, fun row member other last kind => ?_⟩
    obtain rfl := List.mem_singleton.mp last
    have below := lt_nextId member
    rw [kind] at below
    exact Int.ne_of_lt below
  · refine List.pairwise_append.mpr ⟨formed.keys, List.pairwise_singleton _ _, fun row member other last kind key => ?_⟩
    obtain rfl := List.mem_singleton.mp last
    have taken := keyTaken_iff.mpr ⟨row, member, kind, key⟩
    simp [Store.created, Row.create, free] at taken
  · have stored : store.parentsStored row.subject = true := by
      rcases List.mem_append.mp member with member | last
      · exact formed.parents row member
      · obtain rfl := List.mem_singleton.mp last
        exact parents
    exact parentsStored_iff.mpr fun parent needed => holds_append (parentsStored_iff.mp stored parent needed)
  · rcases List.mem_append.mp member with member | last
    · exact formed.rows row member
    · obtain rfl := List.mem_singleton.mp last
      exact Row.WellFormed.create proper
  · rcases List.mem_append.mp member with member | last
    · exact formed.plain row member
    · obtain rfl := List.mem_singleton.mp last
      exact .create plain _

theorem lookup?_insert {c : Candidate} (inserted : store.insert? c = some new) :
    new.lookup? c.kind c.key = some (store.created c) := by
  have absent := absent_of_insert? inserted
  obtain ⟨-, -, rfl⟩ := insert?_eq_some_iff.mp inserted
  have kind : (store.created c).kind = c.kind := rfl
  have key : (store.created c).key = c.key := rfl
  simp only [lookup?, table] at absent ⊢
  simp [List.filter_append, List.find?_append, absent, kind, key]

/-! Overwriting -/

def identities (store : Store) : List (Int × Subject) := store.rows.map Row.identity

theorem holds_iff_identity {id : Int} :
    store.holds kind id = true ↔ ∃ subject, (id, subject) ∈ store.identities ∧ subject.kind = kind := by
  rw [holds_iff]
  constructor
  · rintro ⟨row, member, rfl, rfl⟩
    exact ⟨row.subject, List.mem_map_of_mem member, rfl⟩
  · rintro ⟨subject, named, same⟩
    obtain ⟨row, member, identity⟩ := List.mem_map.mp named
    cases identity
    exact ⟨row, member, same, rfl⟩

theorem WellFormed.of_identities (formed : store.WellFormed) (same : new.identities = store.identities)
    (rows : ∀ row ∈ new.rows, row.WellFormed) (plain : ∀ row ∈ new.rows, row.Plain) : new.WellFormed where
  ids := by
    have apart : store.identities.Pairwise fun p q => p.2.kind = q.2.kind → p.1 ≠ q.1 :=
      List.pairwise_map.mpr formed.ids
    exact List.pairwise_map.mp (same ▸ apart)
  keys := by
    have apart : store.identities.Pairwise fun p q => p.2.kind = q.2.kind → p.2.key ≠ q.2.key :=
      List.pairwise_map.mpr formed.keys
    exact List.pairwise_map.mp (same ▸ apart)
  parents row member := by
    have known : row.identity ∈ store.identities := same ▸ List.mem_map_of_mem member
    obtain ⟨old, member', identity⟩ := List.mem_map.mp known
    have stored := parentsStored_iff.mp (formed.parents old member')
    rw [show old.subject = row.subject from congrArg Prod.snd identity] at stored
    refine parentsStored_iff.mpr fun parent needed => ?_
    rw [holds_iff_identity, same, ← holds_iff_identity]
    exact stored parent needed
  rows := rows
  plain := plain

section

variable {affected : Row → Bool} {change : Row → Row} (keeps : ∀ row, (change row).identity = row.identity)

include keeps

theorem identity_change (row : Row) : (if affected row then change row else row).identity = row.identity := by
  split
  · exact keeps row
  · rfl

theorem identities_modify : (store.modify affected change).identities = store.identities := by
  simp only [identities, modify, List.map_map]
  exact List.map_congr_left fun row _ => identity_change keeps row

theorem nextId_modify_le (kind : Kind) :
    (store.modify affected change).nextId kind ≤ store.nextId kind := by
  refine nextId_le (store.nextId_pos kind) fun row member same => ?_
  obtain ⟨old, member', rfl⟩ := List.mem_map.mp member
  obtain ⟨kind', id⟩ := Row.kind_and_id_of_identity (identity_change keeps old)
  rw [id, ← same, kind']
  exact lt_nextId member'

theorem WellFormed.modify (formed : store.WellFormed)
    (rows : ∀ row ∈ store.rows, affected row = true → (change row).WellFormed)
    (plain : ∀ row ∈ store.rows, affected row = true → (change row).Plain) :
    (store.modify affected change).WellFormed := by
  refine formed.of_identities (identities_modify keeps) (fun row changed => ?_) fun row changed => ?_
  · obtain ⟨old, member, rfl⟩ := List.mem_map.mp changed
    split
    next touched => exact rows old member touched
    next => exact formed.rows old member
  · obtain ⟨old, member, rfl⟩ := List.mem_map.mp changed
    split
    next touched => exact plain old member touched
    next => exact formed.plain old member

theorem lookup?_modify (key : Key) : (store.modify affected change).lookup? kind key =
    (store.lookup? kind key).map fun row => if affected row then change row else row := by
  have kind' (row : Row) : (if affected row then change row else row).kind = row.kind :=
    (Row.kind_and_id_of_identity (identity_change keeps row)).1
  have key' (row : Row) : (if affected row then change row else row).key = row.key :=
    Row.key_of_identity (identity_change keeps row)
  simp only [lookup?, table, Store.modify, List.filter_map, List.find?_map]
  congr 2
  · funext row
    simp [key']
  · congr 1
    funext row
    simp [kind']

end

theorem WellFormed.update (formed : store.WellFormed) {changes : Assignment} (proper : changes.Proper kind)
    (plain : changes.Plain) (id : Int) : (store.update kind id changes).WellFormed := by
  refine formed.modify (fun _ => rfl) (fun row member touched => ?_) fun row member _ =>
    (formed.plain row member).write plain
  have same : row.kind = kind := by simp_all
  exact (formed.rows row member).write (same ▸ proper)

theorem lookup?_update {changes : Assignment} {key : Key} (found : store.lookup? kind key = some row) :
    (store.update kind row.id changes).lookup? kind key = some (row.write changes) := by
  rw [update, lookup?_modify (Row.identity_write changes), found]
  simp [(mem_of_lookup? found).2.1]

theorem WellFormed.setScope (formed : store.WellFormed) (affected : Row → Bool) (unscoped : Bool) :
    (store.setScope affected unscoped).WellFormed :=
  formed.modify (fun _ => rfl)
    (fun row member _ => ⟨(formed.rows row member).shape, (formed.rows row member).types, (formed.rows row member).normal⟩)
    fun row member _ => ⟨(formed.plain row member).subject, (formed.plain row member).attributes⟩

/-! Removing -/

/-- A row is one of the roots or hangs, by any number of links, below one. -/
inductive Below (store : Store) (root : Row → Bool) : Row → Prop
  | root {row : Row} : root row = true → Below store root row
  | link {row parent : Row} : parent ∈ store.rows → row.isChildOf parent = true → Below store root parent →
    Below store root row

def depth : Kind → Nat
  | .domain | .address | .email => 0
  | .subdomain => 1
  | .link | .url => 2

theorem isChildOf_iff {parent : Row} :
    row.isChildOf parent = true ↔ (parent.kind, parent.id) ∈ row.subject.parents := by
  simp [Row.isChildOf]

theorem depth_lt_of_isChildOf {parent : Row} (child : row.isChildOf parent = true) :
    depth parent.kind < depth row.kind := by
  have named := isChildOf_iff.mp child
  generalize parent.kind = above at named
  simp only [Row.kind]
  cases subject : row.subject <;> simp [subject, Subject.parents] at named
  case subdomain => simp [named, Subject.kind, depth]
  case url => simp [named, Subject.kind, depth]
  case link => rcases named with ⟨rfl, -⟩ | ⟨rfl, -⟩ <;> simp [Subject.kind, depth]

variable {root : Row → Bool}

theorem below_of_isBelow {links : Nat} (found : store.isBelow root links row = true) : store.Below root row := by
  induction links generalizing row with
  | zero => exact .root found
  | succ links ih =>
    simp only [isBelow, Bool.or_eq_true, List.any_eq_true, Bool.and_eq_true] at found
    rcases found with found | ⟨parent, member, child, found⟩
    · exact .root found
    · exact .link member child (ih found)

theorem isBelow_of_below (below : store.Below root row) {links : Nat} (enough : depth row.kind ≤ links) :
    store.isBelow root links row = true := by
  induction below generalizing links with
  | root found =>
    cases links with
    | zero => exact found
    | succ links => simp [isBelow, found]
  | @link row parent member child below ih =>
    have less := depth_lt_of_isChildOf child
    cases links with
    | zero => omega
    | succ links =>
      simp only [isBelow, Bool.or_eq_true, List.any_eq_true, Bool.and_eq_true]
      exact .inr ⟨parent, member, child, ih (by omega)⟩

theorem isBelow_longestChain_iff : store.isBelow root longestChain row = true ↔ store.Below root row := by
  refine ⟨below_of_isBelow, fun below => isBelow_of_below below ?_⟩
  cases row.kind <;> decide

theorem mem_delete : row ∈ (store.delete root).rows ↔ row ∈ store.rows ∧ ¬ store.Below root row := by
  rw [← isBelow_longestChain_iff]
  simp [delete]

theorem identities_delete : (store.delete root).identities.Sublist store.identities :=
  List.filter_sublist.map _

/-- No child is left behind: what hangs below a removed row is removed. -/
theorem WellFormed.delete (formed : store.WellFormed) (root : Row → Bool) : (store.delete root).WellFormed where
  ids := formed.ids.sublist List.filter_sublist
  keys := formed.keys.sublist List.filter_sublist
  parents row member := by
    obtain ⟨member, kept⟩ := mem_delete.mp member
    refine parentsStored_iff.mpr fun needed named => ?_
    obtain ⟨parent, member', kind, id⟩ := holds_iff.mp (parentsStored_iff.mp (formed.parents row member) needed named)
    have child : row.isChildOf parent = true := isChildOf_iff.mpr (by rw [kind, id]; exact named)
    exact holds_iff.mpr ⟨parent, mem_delete.mpr ⟨member', fun below => kept (.link member' child below)⟩, kind, id⟩
  rows row member := formed.rows row (mem_delete.mp member).1
  plain row member := formed.plain row (mem_delete.mp member).1

end Store
end Footprint
