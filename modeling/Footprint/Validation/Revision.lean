import Footprint.Validation.Candidate

namespace Footprint

structure Revision where
  kind : Kind
  id : Int
  changes : Assignment
  deriving DecidableEq, Repr

namespace Revision

def title (kind : Kind) : String := kind.title ++ "Update"

def fields (kind : Kind) : List String :=
  "id" :: "kind" :: kind.attributes.map Attribute.name

def read (kind : Kind) (members : Members) : Checked Revision :=
  (fun id _ changes _ => ⟨kind, id, changes⟩) <$> members.required "id" Rule.integer <*>
    members.tagged kind <*> members.assignment kind.attributes <*> members.noOthers (fields kind)

def ofData (data : Data) : Except (List Issue) Revision := readTagged Kind.revisable read data

def misfit? (r : Revision) : Option Misfit := r.changes.misfit?.or (Cell.int r.id).misfit?

def fits (r : Revision) : Bool := r.misfit?.isNone

end Revision
end Footprint
