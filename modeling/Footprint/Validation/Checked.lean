import Footprint.Validation.Issue

namespace Footprint

inductive Checked (α : Type)
  | valid (value : α)
  | invalid (issues : List Issue)

namespace Checked

variable {α β : Type}

def map (f : α → β) : Checked α → Checked β
  | valid a => valid (f a)
  | invalid issues => invalid issues

/-- Both sides are checked; the issues of the left one come first. -/
def apply : Checked (α → β) → Checked α → Checked β
  | valid f, valid a => valid (f a)
  | valid _, invalid issues => invalid issues
  | invalid issues, valid _ => invalid issues
  | invalid issues, invalid more => invalid (issues ++ more)

instance : Functor Checked := ⟨map, fun a => map fun _ => a⟩

instance : Applicative Checked where
  pure := valid
  seq f a := apply f (a ())

/-- A check that needs the whole value runs only on a value without issues. -/
def andThen (checked : Checked α) (next : α → Checked β) : Checked β :=
  match checked with
  | valid a => next a
  | invalid issues => invalid issues

def within (segment : String) : Checked α → Checked α
  | valid a => valid a
  | invalid issues => invalid (issues.map (Issue.within segment))

def toExcept : Checked α → Except (List Issue) α
  | valid a => .ok a
  | invalid issues => .error issues

end Checked

abbrev Rule (α : Type) := Data → Except Problem α

abbrev Members := List (String × Data)

namespace Members

variable {α : Type}

def read (rule : Rule α) (name : String) (data : Data) : Checked α :=
  match rule data with
  | .ok value => .valid value
  | .error problem => .invalid [⟨problem, [name], data⟩]

def required (members : Members) (name : String) (rule : Rule α) : Checked α :=
  match members.lookup name with
  | some data => read rule name data
  | none => .invalid [⟨.missing, [name], .object members⟩]

def optional (members : Members) (name : String) (rule : Rule α) : Checked (Option α) :=
  match members.lookup name with
  | some data => (read rule name data).map some
  | none => .valid none

def unexpected (members : Members) (declared : List String) : List Issue :=
  let extra := members.filter fun (name, _) => !declared.contains name
  (extra.mergeSort fun a b => a.1 ≤ b.1).map fun (name, data) => ⟨.unexpected, [name], data⟩

def noOthers (members : Members) (declared : List String) : Checked Unit :=
  match members.unexpected declared with
  | [] => .valid ()
  | issues => .invalid issues

end Members
end Footprint
