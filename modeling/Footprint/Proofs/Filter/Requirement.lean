import Footprint.Command.Run
import Footprint.Proofs.Filter.Operand

namespace Footprint

open Sql

/-- The text is read as the condition, from one token at least. -/
def Sql.Query.Reads (q : Query) (text : String) (condition : Expr) : Prop :=
  ∃ tokens rest reading, Token.lex text.toList = some (tokens, rest) ∧ tokens ≠ [] ∧
    Reading.ofTokens? tokens = some reading ∧ reading.term.resolve? q = some condition

theorem Sql.Query.condition_empty (q : Query) : q.condition "" = .ok (.boolean true) := rfl

theorem Sql.Query.reads_of_condition {q : Query} {text : String} {condition : Expr} (written : text ≠ "")
    (read : q.condition text = .ok condition) : q.Reads text condition := by
  obtain ⟨-, -, tokens, rest, lexed, read⟩ := (condition_eq_ok_iff written).mp read
  obtain ⟨reading, built, -, resolved, -⟩ := conditionOf_eq_ok_iff.mp read
  refine ⟨tokens, rest, reading, lexed, ?_, built, resolved⟩
  rintro rfl
  cases built

namespace Filter

variable {first : String} {words : List String}

theorem parse_of_where (start : Text.isWord "where" first.toList = true) (words : List String) :
    parse (first :: words) = .ok ⟨String.ofList (render (pieces false (words.map String.toList)))⟩ := by
  rw [parse, if_pos start]

theorem parse_of_other (other : Text.isWord "where" first.toList = false) (words : List String) :
    parse (first :: words) = .error .noWhere := by
  rw [parse, if_neg (by simp [other])]

theorem pieces_ne_nil (awaiting : Bool) (word : List Char) (later : List (List Char)) :
    pieces awaiting (word :: later) ≠ [] := by
  rw [pieces]
  split
  · exact List.cons_ne_nil _ _
  · split <;> exact List.cons_ne_nil _ _

theorem render_ne_nil {pieces : List Piece} (some : pieces ≠ []) : render pieces ≠ [] := by
  cases pieces with
  | nil => exact absurd rfl some
  | cons piece rest => cases piece <;> exact List.cons_ne_nil _ _

theorem text_ne_empty (awaiting : Bool) (word : List Char) (later : List (List Char)) :
    String.ofList (render (pieces awaiting (word :: later))) ≠ "" := by
  intro same
  have chars := congrArg String.toList same
  rw [String.toList_ofList] at chars
  exact render_ne_nil (pieces_ne_nil awaiting word later) chars

end Filter

inductive Alteration
  | scope
  | noscope
  | delete

namespace Alteration

def suits : Alteration → Kind → Bool
  | delete, _ => true
  | _, kind => kind.scopable

def attempt : Alteration → Attempt
  | scope => .scope
  | noscope => .noscope
  | delete => .delete

def action : Alteration → Kind → Search → Action Nat
  | scope => Action.scope
  | noscope => Action.noscope
  | delete => Action.delete

def query : Alteration → Kind → Query
  | scope, kind => .update kind false
  | noscope, kind => .update kind true
  | delete, kind => .delete kind

def apply : Alteration → Store → (Row → Bool) → Store
  | scope, store, matched => store.setScope matched false
  | noscope, store, matched => store.setScope matched true
  | delete, store, matched => store.delete matched

/-- Whether a row may look like this when it was changed. -/
def leaves : Alteration → Row → Bool
  | scope, row => !row.unscoped
  | noscope, row => row.unscoped
  | delete, _ => false

def asked (change : Alteration) (kind : Kind) (engine : Engine) (words : List String) : Action Nat :=
  Command.withFilter (Filter.parse words) fun f => change.action kind ⟨f, engine⟩

variable {change : Alteration} {kind : Kind} {s : Session} {words : List String} {engine : Engine}

@[simp] theorem query_kind (change : Alteration) (kind : Kind) : (change.query kind).kind = kind := by
  cases change <;> rfl

theorem perform_action_eq (suits : change.suits kind = true) (enforced : s.enforced = true) (f : Search) :
    perform (change.action kind f) s =
      perform (Action.bulk change.attempt kind (Action.changeMatching (change.query kind) f change.apply)) s := by
  cases change with
  | scope => exact congrArg (perform · s) (Action.setScope_eq suits .scope f false)
  | noscope => exact congrArg (perform · s) (Action.setScope_eq suits .noscope f true)
  | delete => exact Action.perform_delete_eq enforced kind f

theorem perform_action_unsuited (unsuited : change.suits kind = false) (f : Search) (s : Session) :
    perform (change.action kind f) s = (.error (.notScopable kind), s) := by
  cases change with
  | scope => exact Action.perform_setScope_refused unsuited .scope f false s
  | noscope => exact Action.perform_setScope_refused unsuited .noscope f true s
  | delete => cases unsuited

theorem asked_of_parsed {f : Filter} (parsed : Filter.parse words = .ok f) :
    change.asked kind engine words = change.action kind ⟨f, engine⟩ := by
  rw [asked, parsed]
  rfl

theorem perform_asked_refused {refusal : Filter.Refusal} (refused : Filter.parse words = .error refusal)
    (s : Session) : perform (change.asked kind engine words) s = (.error (.filter refusal), s) := by
  rw [asked, refused]
  rfl

theorem hits_empty (change : Alteration) (kind : Kind) (engine : Engine) (store : Store) :
    (change.query kind).hits engine "" store = .ok ⟨fun row => row.kind == kind, true⟩ := by
  have all : Hits.within ⟨(Expr.boolean true).matchesRow, true⟩ kind = ⟨fun row => row.kind == kind, true⟩ := by
    have holds (row : Row) : (Expr.boolean true).matchesRow row = true := rfl
    simp only [Hits.within, holds, Bool.and_true]
  have answered := Query.hits_ok engine (change.query kind).condition_empty
    (show (Expr.boolean true).strains (store.table (change.query kind).kind) = false from rfl)
  rwa [query_kind, all] at answered

section

variable (suits : change.suits kind = true) (enforced : s.enforced = true) {text : String}

include suits enforced

theorem perform_action (ready : s.Ready) {hits : Hits}
    (answered : (change.query kind).hits engine text s.contents = .ok hits) :
    let done := perform (change.action kind ⟨⟨.plain text⟩, engine⟩) s
    done.1 = .ok (hits.count s.contents) ∧ done.2.contents = change.apply s.contents hits.affects := by
  have run : perform (Action.bulk change.attempt kind
      (Action.changeMatching (change.query kind) ⟨⟨.plain text⟩, engine⟩ change.apply)) s = _ :=
    Action.perform_bulk ready (Query.misfit?_plain _ _) answered
  rw [← perform_action_eq suits enforced] at run
  exact ⟨congrArg Prod.fst run, congrArg (fun left => left.2.contents) run⟩

theorem perform_action_refused
    (refused : s.Ready → ∃ defect, (change.query kind).hits engine text s.contents = .error defect) :
    perform (change.action kind ⟨⟨.plain text⟩, engine⟩) s = (.error (.query change.attempt kind), s.rollback) := by
  rw [perform_action_eq suits enforced]
  exact Action.perform_bulk_refused (fun _ => Query.misfit?_plain _ _) refused

end

theorem leaves_apply {row : Row} {store : Store}
    (member : row ∈ (change.apply store fun row => row.kind == kind).table kind) : change.leaves row = true := by
  cases change with
  | delete =>
    have emptied : (store.delete fun row => row.kind == kind).table kind = [] := by
      rw [Store.table_delete (fun row found => eq_of_beq found), List.filter_eq_nil_iff]
      intro row member
      simp [(Store.mem_table.mp member).2]
    rw [apply, emptied] at member
    cases member
  | scope | noscope =>
    obtain ⟨member, same⟩ := Store.mem_table.mp member
    obtain ⟨old, -, rfl⟩ := List.mem_map.mp member
    by_cases touched : old.kind = kind
    · simp [touched, leaves]
    · simp [touched] at same

end Alteration

namespace Session

variable {s : Session}

/-- The words of a required filter decide which rows are changed. Without the word `where` in front, in any letter
    case, they are refused and nothing is done. With nothing behind it they are no condition, and yet accepted: all
    rows of the kind are changed. With anything behind it, either the text is refused and nothing but a rollback is
    done, or a condition is read from it, and exactly the rows that it holds of are changed; or the grammar does not
    settle what the text comes to, and exactly the rows are changed that the engine finds for it. -/
theorem required_filter_alters (ready : s.Ready) (enforced : s.enforced = true) (change : Alteration) (kind : Kind)
    (engine : Engine) :
    perform (change.asked kind engine []) s = (.error (.filter .missing), s) ∧
    ∀ first : String,
      (Text.isWord "where" first.toList = false → ∀ words,
        perform (change.asked kind engine (first :: words)) s = (.error (.filter .noWhere), s)) ∧
      (Text.isWord "where" first.toList = true →
        (change.suits kind = false → ∀ words,
          perform (change.asked kind engine (first :: words)) s = (.error (.notScopable kind), s)) ∧
        (change.suits kind = true →
          (let done := perform (change.asked kind engine [first]) s
          done.1 = .ok (s.contents.table kind).length ∧
            done.2.contents = change.apply s.contents (fun row => row.kind == kind) ∧
            ∀ row ∈ done.2.contents.table kind, change.leaves row = true) ∧
          ∀ word words, ∃ f, Filter.parse (first :: word :: words) = .ok f ∧ f.text ≠ "" ∧
            let done := perform (change.asked kind engine (first :: word :: words)) s
            done = (.error (.query change.attempt kind), s.rollback) ∨
            (∃ condition, (change.query kind).Reads f.text condition ∧
              let matched := fun row : Row => row.kind == kind && condition.matchesRow row
              done.1 = .ok (s.contents.rows.filter matched).length ∧
                done.2.contents = change.apply s.contents matched) ∨
            ((change.query kind).ruled? f.text s.contents = none ∧
              ∃ hits, engine.change (change.query kind) f.text s.contents = .ok hits ∧
                done.1 = .ok ((hits.within kind).count s.contents) ∧
                done.2.contents = change.apply s.contents (hits.within kind).affects))) := by
  refine ⟨Alteration.perform_asked_refused rfl s, fun first => ⟨fun other words => ?_, fun start => ?_⟩⟩
  · exact Alteration.perform_asked_refused (Filter.parse_of_other other words) s
  constructor
  · intro unsuited words
    rw [Alteration.asked_of_parsed (Filter.parse_of_where start words)]
    exact Alteration.perform_action_unsuited unsuited _ s
  intro suits
  constructor
  · have parsed : Filter.parse [first] = .ok ⟨.plain ""⟩ := Filter.parse_of_where start []
    obtain ⟨count, left⟩ := Alteration.perform_action suits enforced ready (change.hits_empty kind engine s.contents)
    rw [Alteration.asked_of_parsed parsed]
    intro done
    refine ⟨count, left, fun row member => ?_⟩
    rw [left] at member
    exact Alteration.leaves_apply member
  · intro word words
    have parsed := Filter.parse_of_where start (word :: words)
    refine ⟨_, parsed, Filter.text_ne_empty _ _ _, ?_⟩
    rw [Alteration.asked_of_parsed parsed]
    generalize given : String.ofList _ = text
    have some : text ≠ "" := given ▸ Filter.text_ne_empty _ _ _
    intro done
    rcases (change.query kind).hits_ways engine text s.contents with
      ⟨defect, refused⟩ | ⟨condition, read, answered⟩ | ⟨unruled, hits, found, answered⟩
    · exact .inl (Alteration.perform_action_refused suits enforced fun _ => ⟨defect, refused⟩)
    · have altered := Alteration.perform_action suits enforced ready answered
      rw [Alteration.query_kind] at altered
      exact .inr (.inl ⟨condition, Query.reads_of_condition some read, altered⟩)
    · have altered := Alteration.perform_action suits enforced ready answered
      rw [Alteration.query_kind] at altered
      exact .inr (.inr ⟨unruled, hits, found, altered⟩)

/-- With the word `where` alone, the deletion of domains leaves neither a domain nor its subdomain. -/
theorem required_filter_alters_without_condition :
    let s := inMemory.run [.insertDomain (.text "example.com"),
      .insertSubdomain (.text "www.example.com") (.text "example.org")]
    let deleted := perform (Alteration.delete.asked .domain .basic ["Where"]) s
    deleted.1 = .ok 2 ∧ deleted.2.contents.table .domain = [] ∧ deleted.2.contents.table .subdomain = [] ∧
      perform (Alteration.delete.asked .domain .basic ["value=example.com"]) s = (.error (.filter .noWhere), s) := by
  intro s deleted
  have ready : s.Ready := ⟨by decide +kernel, by decide +kernel, by decide +kernel⟩
  obtain ⟨-, words⟩ := required_filter_alters ready (by decide +kernel) .delete .domain .basic
  obtain ⟨-, altered⟩ := (words "Where").2 (by decide +kernel)
  obtain ⟨⟨count, left, none⟩, -⟩ := altered rfl
  have domains : (s.contents.table .domain).length = 2 := by decide +kernel
  refine ⟨count.trans (congrArg _ domains), ?_, ?_, (words "value=example.com").1 (by decide +kernel) []⟩
  · exact List.eq_nil_iff_forall_not_mem.mpr fun row member => Bool.noConfusion (none row member)
  · rw [left]
    decide +kernel

end Session
end Footprint
