import Footprint.Sql.Query

namespace Footprint.Sql

/-- A property of terms that every term built of such terms has. -/
structure Term.Closed (P : Term → Prop) : Prop where
  integer (n : Nat) : P (.integer n)
  literal (value : Value) : P (.literal value)
  truth (value : Bool) : P (.truth value)
  name (parts : List NamePart) : P (.name parts)
  compare (op : Comparison) {l r : Term} : P l → P r → P (.compare op l r)
  like {e pattern : Term} : P e → P pattern → P (.like e pattern)
  between {e low high : Term} : P e → P low → P high → P (.between e low high)
  member {e : Term} {choices : List Term} : P e → (∀ choice ∈ choices, P choice) → P (.member e choices)
  and {l r : Term} : P l → P r → P (.and l r)
  or {l r : Term} : P l → P r → P (.or l r)
  not {e : Term} : P e → P (.not e)
  negate {e : Term} : P e → P (.negate e)

section

variable {P : Term → Prop} (closed : Term.Closed P)

namespace Sized

variable {e l r : Sized}

include closed

theorem closed_negatedIf {negated : Bool} (known : P e.term) : P (negatedIf negated e).term := by
  cases negated with
  | false => exact known
  | true => exact closed.not known

theorem closed_and (left : P l.term) (right : P r.term) : P (Sized.and l r).term := by
  unfold Sized.and
  split
  · exact closed.integer 0
  · exact closed.and left right

theorem closed_isNull {negated : Bool} (known : P e.term) : P (e.isNull negated).term :=
  closed.compare _ known (closed.literal .null)

theorem closed_member {negated : Bool} {choices : List Sized} (known : P e.term) (all : ∀ choice ∈ choices, P choice.term) :
    P (member negated e choices).term := by
  unfold member
  split
  · exact closed.truth negated
  · refine closed_negatedIf closed (closed.member known fun choice member => ?_)
    obtain ⟨given, found, rfl⟩ := List.mem_map.mp member
    exact all given found

end Sized

namespace Parser

variable {deepest : Nat} {stack : Stack} {e built : Sized} {state next : State} {token : Token} {level : Level}

def Frame.All (P : Term → Prop) : Frame → Prop
  | paren | not | minus => True
  | operator _ left | pattern _ left | low _ left => P left.term
  | high _ left least => P left.term ∧ P least.term
  | choices _ left found => P left.term ∧ ∀ e ∈ found, P e.term

def Stack.All (P : Term → Prop) (stack : Stack) : Prop := ∀ frame ∈ stack, frame.All P

def Focus.All (P : Term → Prop) : Focus → Prop
  | start => True
  | behind e | behindNot e | behindIs e | behindIn _ e | firstChoice _ e => P e.term

structure State.All (P : Term → Prop) (state : State) : Prop where
  stack : state.stack.All P
  focus : state.focus.All P

theorem Stack.all_push {frame : Frame} (known : frame.All P) (all : stack.All P) : Stack.All P (frame :: stack) :=
  List.forall_mem_cons.mpr ⟨known, all⟩

theorem State.all_opened {frame : Frame} (known : frame.All P) (all : stack.All P) : (opened deepest frame stack).All P :=
  ⟨Stack.all_push known all, True.intro⟩

theorem State.all_finish {symbols : Nat} (all : stack.All P) (known : P e.term) :
    (finish deepest stack symbols e).All P := ⟨all, known⟩

theorem State.all_predicate {negated : Bool} {word : Keyword} (all : stack.All P) (known : P e.term)
    (read : predicate deepest negated stack e word = some next) : next.All P := by
  unfold predicate at read
  split at read <;> cases read
  · exact all_opened known all
  · exact all_opened known all
  · exact ⟨all, known⟩

theorem State.all_and {top : Stack × Sized} (all : top.1.All P) (known : P top.2.term) : (and deepest top).All P := by
  unfold Parser.and
  split
  · obtain ⟨first, rest⟩ := List.forall_mem_cons.mp all
    exact all_opened ⟨first, known⟩ rest
  · exact all_opened known all

theorem State.all_comma {top : Stack × Sized} (all : top.1.All P) (known : P top.2.term)
    (read : comma deepest top = some next) : next.All P := by
  unfold comma at read
  split at read
  · cases read
    obtain ⟨⟨left, found⟩, rest⟩ := List.forall_mem_cons.mp all
    exact all_opened ⟨left, List.forall_mem_cons.mpr ⟨known, found⟩⟩ rest
  · cases read

theorem closed_leaf? (closed : Term.Closed P) (parameters : ∀ number, token = .parameter number → P (.parameter number))
    (read : leaf? token = some built) : P built.term := by
  unfold leaf? at read
  split at read
  case h_7 =>
    obtain ⟨part, -, rfl⟩ := Option.map_eq_some_iff.mp read
    exact closed.name _
  all_goals cases read
  · exact closed.literal _
  · exact closed.name _
  · exact closed.literal _
  · exact closed.integer _
  · exact closed.literal _
  · exact parameters _ rfl

theorem State.all_startTerm (closed : Term.Closed P)
    (parameters : ∀ number, token = .parameter number → P (.parameter number))
    (all : stack.All P) (read : startTerm deepest stack token = some next) : next.All P := by
  unfold startTerm at read
  split at read
  · cases read
    exact all_opened True.intro all
  · cases read
    exact all_opened True.intro all
  · cases read
    exact all_opened True.intro all
  · obtain ⟨built, made, rfl⟩ := Option.map_eq_some_iff.mp read
    exact all_finish all (closed_leaf? closed parameters made)

include closed

theorem closed_fill {frame : Frame} (all : frame.All P) (known : P e.term) (made : frame.fill e = some built) :
    P built.term := by
  cases frame with
  | paren | low | choices => cases made
  | not =>
    cases made
    exact closed.not known
  | minus =>
    cases made
    exact closed.negate known
  | operator op left =>
    cases made
    cases op with
    | or => exact closed.or all known
    | and => exact Sized.closed_and closed all known
    | compare op => exact closed.compare op all known
  | pattern negated left =>
    cases made
    exact Sized.closed_negatedIf closed (closed.like all known)
  | high negated left least =>
    cases made
    exact Sized.closed_negatedIf closed (closed.between all.1 all.2 known)

theorem closed_reduce {top : Stack × Sized} (all : stack.All P) (known : P e.term)
    (read : stack.reduce level e = some top) : top.1.All P ∧ P top.2.term := by
  induction stack generalizing e with
  | nil =>
    cases read
    exact ⟨all, known⟩
  | cons frame rest ih =>
    obtain ⟨first, later⟩ := List.forall_mem_cons.mp all
    unfold Stack.reduce at read
    split at read
    · obtain ⟨built, made, read⟩ := Option.bind_eq_some_iff.mp read
      exact ih later (closed_fill closed first known made) read
    · cases read
      exact ⟨all, known⟩

theorem State.all_close {top : Stack × Sized} (all : top.1.All P) (known : P top.2.term)
    (read : close deepest top = some next) : next.All P := by
  unfold close at read
  split at read
  · cases read
    exact all_finish (List.forall_mem_cons.mp all).2 known
  · cases read
    obtain ⟨⟨left, found⟩, rest⟩ := List.forall_mem_cons.mp all
    refine all_finish rest (Sized.closed_member closed left fun choice member => ?_)
    rcases List.mem_append.mp member with member | last
    · exact found choice (List.mem_reverse.mp member)
    · exact List.mem_singleton.mp last ▸ known
  · cases read

theorem State.all_continueTerm (all : stack.All P) (known : P e.term)
    (read : continueTerm deepest stack e token = some next) : next.All P := by
  have reduced {level : Level} {top : Stack × Sized} (done : stack.reduce level e = some top) :
      top.1.All P ∧ P top.2.term := closed_reduce closed all known done
  unfold continueTerm at read
  split at read
  · obtain ⟨top, done, rfl⟩ := Option.map_eq_some_iff.mp read
    exact all_opened (reduced done).2 (reduced done).1
  · obtain ⟨top, done, rfl⟩ := Option.map_eq_some_iff.mp read
    exact all_and (reduced done).1 (reduced done).2
  · obtain ⟨top, done, read⟩ := Option.bind_eq_some_iff.mp read
    exact all_close closed (reduced done).1 (reduced done).2 read
  · obtain ⟨top, done, read⟩ := Option.bind_eq_some_iff.mp read
    exact all_comma (reduced done).1 (reduced done).2 read
  · obtain ⟨top, done, read⟩ := Option.bind_eq_some_iff.mp read
    obtain ⟨all, known⟩ := reduced done
    dsimp only at read
    split at read
    · cases read
      exact all_finish all (Sized.closed_isNull closed known)
    · cases read
      exact all_finish all (Sized.closed_isNull closed known)
    · cases read
      exact ⟨all, known⟩
    · cases read
      exact ⟨all, known⟩
    · exact all_predicate all known read
  · cases read

theorem State.all_step (parameters : ∀ number, token = .parameter number → P (.parameter number)) (all : state.All P)
    (read : step state token = some next) : next.All P := by
  obtain ⟨stack, focus, deepest⟩ := state
  obtain ⟨all, known⟩ := all
  unfold step at read
  dsimp only at read all known
  split at read
  · exact all_startTerm closed parameters all read
  · exact all_continueTerm closed all known read
  · cases read
    exact all_finish all (Sized.closed_isNull closed known)
  · exact all_predicate all known read
  · cases read
    exact all_opened known all
  · refine all_startTerm closed parameters (Stack.all_push ?_ all) read
    exact known
  · cases read
    exact ⟨all, known⟩
  · cases read
    exact all_finish all (Sized.closed_member closed known (List.forall_mem_nil _))
  · refine all_startTerm closed parameters (Stack.all_push ?_ all) read
    exact ⟨known, List.forall_mem_nil _⟩
  · cases read

theorem State.all_foldlM {tokens : List Token} (parameters : ∀ number, .parameter number ∈ tokens → P (.parameter number))
    (all : state.All P) (read : tokens.foldlM step state = some next) : next.All P := by
  induction tokens generalizing state with
  | nil =>
    cases read
    exact all
  | cons token rest ih =>
    obtain ⟨middle, first, later⟩ := Option.bind_eq_some_iff.mp read
    refine ih (fun number member => parameters number (List.mem_cons_of_mem _ member)) ?_ later
    exact all_step closed (fun number same => parameters number (same ▸ List.mem_cons_self)) all first

theorem closed_ofState? {reading : Reading} (all : state.All P) (read : Reading.ofState? state = some reading) :
    P reading.term := by
  obtain ⟨stack, focus, deepest⟩ := state
  obtain ⟨all, known⟩ := all
  unfold Reading.ofState? at read
  dsimp only at read all known
  split at read
  · split at read <;> cases read
    next reduced => exact (closed_reduce closed all known reduced).2
  · cases read

end Parser

include closed

theorem Term.Closed.of_ofTokens? {tokens : List Token} {reading : Reading}
    (parameters : ∀ number, .parameter number ∈ tokens → P (.parameter number))
    (read : Reading.ofTokens? tokens = some reading) : P reading.term := by
  obtain ⟨state, steps, ends⟩ := Option.bind_eq_some_iff.mp read
  have start : Parser.State.All P ⟨[], .start, 0⟩ := ⟨List.forall_mem_nil _, True.intro⟩
  exact Parser.closed_ofState? closed (Parser.State.all_foldlM closed parameters start steps) ends

end

theorem Term.closed_resolve? {q p : Query} (same : q.kind = p.kind) : Term.Closed fun t => t.resolve? q = t.resolve? p where
  integer n := by simp only [Term.resolve?]
  literal value := by simp only [Term.resolve?]
  truth value := by simp only [Term.resolve?]
  name parts := by simp only [Term.resolve?, same]
  compare op {_ _} l r := by simp only [Term.resolve?, l, r]
  like e pattern := by simp only [Term.resolve?, e, pattern]
  between e low high := by simp only [Term.resolve?, e, low, high]
  member {e choices} known all := by
    have members : Term.resolveAll? q choices = Term.resolveAll? p choices := by
      induction choices with
      | nil => simp only [Term.resolveAll?]
      | cons choice rest ih =>
        obtain ⟨first, later⟩ := List.forall_mem_cons.mp all
        simp only [Term.resolveAll?, first, ih later]
    simp only [Term.resolve?, known, members]
  and l r := by simp only [Term.resolve?, l, r]
  or l r := by simp only [Term.resolve?, l, r]
  not e := by simp only [Term.resolve?, e]
  negate {e} known := by
    cases e with
    | integer n => simp only [Term.resolve?]
    | _ => exact congrArg (Option.map Expr.negate) known

end Footprint.Sql
