import Footprint.Validation.Candidate

namespace Footprint

structure Store where
  rows : List Row := []
  deriving DecidableEq, Repr

namespace Store

def empty : Store := {}

def table (store : Store) (kind : Kind) : List Row := store.rows.filter (·.kind == kind)

def find? (store : Store) (kind : Kind) (id : Int) : Option Row :=
  (store.table kind).find? (·.id == id)

def lookup? (store : Store) (kind : Kind) (key : Key) : Option Row :=
  (store.table kind).find? (·.key == key)

/-- The greatest id of the table plus one, so that the ids of removed last rows come back. -/
def nextId (store : Store) (kind : Kind) : Int :=
  (store.table kind).foldl (fun greatest row => max greatest row.id) 0 + 1

def keyTaken (store : Store) (subject : Subject) : Bool :=
  (store.table subject.kind).any (·.key == subject.key)

def holds (store : Store) (kind : Kind) (id : Int) : Bool := (store.table kind).any (·.id == id)

def parentsStored (store : Store) (subject : Subject) : Bool :=
  subject.parents.all fun (kind, id) => store.holds kind id

/-- Nothing if the key is taken or a parent is missing. -/
def insert? (store : Store) (c : Candidate) : Option Store :=
  if store.keyTaken c.subject || !store.parentsStored c.subject then none
  else some ⟨store.rows ++ [Row.create (store.nextId c.kind) c.subject c.supplied]⟩

def modify (store : Store) (affected : Row → Bool) (change : Row → Row) : Store :=
  ⟨store.rows.map fun row => if affected row then change row else row⟩

def update (store : Store) (kind : Kind) (id : Int) (changes : Assignment) : Store :=
  store.modify (fun row => row.kind == kind && row.id == id) (·.write changes)

def setScope (store : Store) (affected : Row → Bool) (unscoped : Bool) : Store :=
  store.modify affected fun row => { row with unscoped }

/-- Whether the row is one of the roots or hangs, by at most the given number of links, below
    one. -/
def isBelow (store : Store) (root : Row → Bool) : Nat → Row → Bool
  | 0, row => root row
  | links + 1, row =>
    root row || store.rows.any fun parent => row.isChildOf parent && store.isBelow root links parent

def longestChain : Nat := 2

def delete (store : Store) (root : Row → Bool) : Store :=
  ⟨store.rows.filter fun row => !store.isBelow root longestChain row⟩

end Store
end Footprint
