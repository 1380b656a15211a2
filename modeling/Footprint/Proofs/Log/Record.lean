import Footprint.Log.Record
import Footprint.Proofs.Number.Numeral
import Footprint.Proofs.Text.Split

namespace Footprint.Log

structure Fields where
  level : String
  name : String
  action : String
  target : String
  message : String
  deriving DecidableEq

def Record.fields (r : Record) : Fields :=
  ⟨r.level.name, r.name, shownField r.action, shownField r.target, r.message⟩

def bar : List Char := " | ".toList

def actionMark : List Char := " | action=".toList

def targetMark : List Char := " | target=".toList

namespace Fields

def tail (f : Fields) : List Char :=
  f.name.toList ++ actionMark ++ (f.action.toList ++ targetMark ++ (f.target.toList ++ bar ++ f.message.toList))

/-- Read from the left, each field ends at the first place of the mark behind it. -/
structure Readable (f : Fields) : Prop where
  name : Text.EndsAt actionMark f.name.toList
  action : Text.EndsAt targetMark f.action.toList
  target : Text.EndsAt bar f.target.toList

theorem Readable.of_unbarred {f : Fields} (name : '|' ∉ f.name.toList) (action : '|' ∉ f.action.toList)
    (target : '|' ∉ f.target.toList) : f.Readable where
  name := Text.endsAt_of_unbarred (by decide) (by decide) name
  action := Text.endsAt_of_unbarred (by decide) (by decide) action
  target := Text.endsAt_of_unbarred (by decide) (by decide) target

theorem Readable.tail_unique {f g : Fields} (readable : f.Readable) (readable' : g.Readable) (same : f.tail = g.tail) :
    f.name = g.name ∧ f.action = g.action ∧ f.target = g.target ∧ f.message = g.message := by
  obtain ⟨name, behind⟩ := readable.name.unique readable'.name same
  obtain ⟨action, behind⟩ := readable.action.unique readable'.action behind
  obtain ⟨target, message⟩ := readable.target.unique readable'.target behind
  exact ⟨String.toList_inj.mp name, String.toList_inj.mp action, String.toList_inj.mp target,
    String.toList_inj.mp message⟩

theorem exists_readable (f : Fields) : ∃ g : Fields, g.Readable ∧ g.level = f.level ∧ g.tail = f.tail := by
  obtain ⟨name, behindName, whole, first, front, later⟩ := Text.exists_endsAt (by decide : actionMark ≠ [])
    f.name.toList (f.action.toList ++ targetMark ++ (f.target.toList ++ bar ++ f.message.toList))
  obtain ⟨action, behindAction, whole', first', front', later'⟩ := Text.exists_endsAt (by decide : targetMark ≠ [])
    (front ++ f.action.toList) (f.target.toList ++ bar ++ f.message.toList)
  obtain ⟨target, message, whole'', first'', -⟩ := Text.exists_endsAt (by decide : bar ≠ [])
    (front' ++ f.target.toList) f.message.toList
  refine ⟨⟨f.level, .ofList name, .ofList action, .ofList target, .ofList message⟩, ⟨?_, ?_, ?_⟩, rfl, ?_⟩
  · rw [String.toList_ofList]
    exact first
  · rw [String.toList_ofList]
    exact first'
  · rw [String.toList_ofList]
    exact first''
  · simp only [tail, String.toList_ofList]
    simp only [List.append_assoc] at whole whole' whole'' later later' ⊢
    rw [← whole'', later', ← whole', later, ← whole]

end Fields

/-! The frame of a line: its time, its level and its marks -/

def Framed (text : String) : Prop := ∀ c ∈ text.toList, 0x20 ≤ c.toNat ∧ c.toNat < 0x7c

instance (text : String) : Decidable (Framed text) := List.decidableBAll _ text.toList

theorem framed_append {a b : String} : Framed (a ++ b) ↔ Framed a ∧ Framed b := by
  simp only [Framed, String.toList_append, List.forall_mem_append]

theorem toString_bounds (n : Int) : ∀ c ∈ (toString n).toList, 0x2d ≤ c.toNat ∧ c.toNat ≤ 0x39 := by
  have digits : ∀ c ∈ Nat.toDigits 10 n.natAbs, 0x2d ≤ c.toNat ∧ c.toNat ≤ 0x39 := by
    intro c member
    have digit := Numeral.isDigit_toDigits _ c member
    simp only [Char.isDigit, Bool.and_eq_true, decide_eq_true_eq, UInt32.le_iff_toNat_le] at digit
    change 48 ≤ c.toNat ∧ c.toNat ≤ 57 at digit
    omega
  intro c member
  rw [Numeral.toList_toString] at member
  split at member
  · rcases List.mem_cons.mp member with rfl | member
    · decide
    · exact digits c member
  · exact digits c member

theorem framed_int (n : Int) : Framed (toString n) := by
  intro c member
  have bounds := toString_bounds n c member
  omega

theorem framed_twoDigits (n : Int) : Framed (twoDigits n) := by
  unfold twoDigits
  split
  · exact framed_append.mpr ⟨by decide, framed_int n⟩
  · exact framed_int n

theorem framed_timestamp {seconds : Int} {time : String} (written : timestamp seconds = .ok time) : Framed time := by
  have dash : Framed "-" := by decide
  have colon : Framed ":" := by decide
  have between : Framed "T" := by decide
  have zone : Framed "+0000" := by decide
  unfold timestamp at written
  dsimp only at written
  split at written
  · cases written
  · split at written
    · cases written
    · split at written
      · cases written
      · cases written
        simp only [ToString.toString, framed_append, framed_twoDigits, dash, colon, between, zone, and_true]
        exact framed_int _

theorem framed_name (level : Level) : Framed level.name := by
  unfold Level.name
  split
  next found =>
    have known : ∀ pair ∈ Level.named, Framed pair.1 := by decide
    exact known _ (List.mem_of_find?_eq_some found)
  next => exact framed_append.mpr ⟨by decide, framed_int level⟩

theorem framed_padRight {text : String} (width : Nat) (framed : Framed text) : Framed (padRight width text) := by
  refine framed_append.mpr ⟨framed, ?_⟩
  intro c member
  rw [String.toList_ofList] at member
  obtain rfl := List.eq_of_mem_replicate member
  decide

theorem Framed.unbroken {text : String} (framed : Framed text) : Text.Unbroken text.toList := by
  intro c member
  obtain ⟨least, greatest⟩ := framed c member
  simp only [Text.isLineEnd, Bool.or_eq_false_iff, Bool.and_eq_false_iff, decide_eq_false_iff_not, beq_eq_false_iff_ne]
  omega

theorem Framed.endsAt_bar {text : String} (framed : Framed text) : Text.EndsAt bar text.toList := by
  refine Text.endsAt_of_unbarred (by decide) (by decide) fun barred => ?_
  exact absurd (framed '|' barred) (by decide)

/-! Levels -/

theorem getLast?_name (level : Level) : level.name.toList.getLast? ≠ some ' ' := by
  unfold Level.name
  split
  next found =>
    have known : ∀ pair ∈ Level.named, pair.1.toList.getLast? ≠ some ' ' := by decide
    exact known _ (List.mem_of_find?_eq_some found)
  next =>
    intro blank
    change ("Level " ++ toString level).toList.getLast? = _ at blank
    have some : (toString level).toList ≠ [] := by
      rw [Numeral.toList_toString]
      split <;> simp [Nat.toDigits_ne_nil]
    rw [String.toList_append, List.getLast?_append_of_ne_nil _ some] at blank
    exact absurd (toString_bounds level ' ' (List.mem_of_getLast? blank)) (by decide)

theorem padRight_inj {width : Nat} {one other : String} (proper : one.toList.getLast? ≠ some ' ')
    (proper' : other.toList.getLast? ≠ some ' ') (same : padRight width one = padRight width other) : one = other := by
  have no_more {text more : List Char} {count : Nat} (proper : (text ++ more).getLast? ≠ some ' ')
      (blanks : ∀ c ∈ more, c ∈ List.replicate count ' ') : more = [] := by
    by_contra some
    rw [List.getLast?_append_of_ne_nil _ some] at proper
    have last := blanks _ (List.getLast_mem some)
    rw [List.getLast?_eq_some_getLast some, List.eq_of_mem_replicate last] at proper
    exact proper rfl
  have lists := String.toList_inj.mpr same
  simp only [padRight, String.toList_append, String.toList_ofList] at lists
  rcases List.append_eq_append_iff.mp lists with ⟨more, longer, blanks⟩ | ⟨more, longer, blanks⟩
  · have nothing : more = [] := no_more (longer ▸ proper') fun c member => blanks ▸ List.mem_append_left _ member
    rw [nothing, List.append_nil] at longer
    exact String.toList_inj.mp longer.symm
  · have nothing : more = [] := no_more (longer ▸ proper) fun c member => blanks ▸ List.mem_append_left _ member
    rw [nothing, List.append_nil] at longer
    exact String.toList_inj.mp longer

/-! Lines -/

namespace Record

variable {r : Record} {text : String}

theorem line_eq_ok_iff : r.line = .ok text ↔ ∃ time, timestamp r.created = .ok time ∧
    text.toList = time.toList ++ bar ++ ((padRight 8 r.level.name).toList ++ bar ++ r.fields.tail) := by
  unfold Record.line
  cases timestamp r.created with
  | error fault => simp [bind, Except.bind]
  | ok time =>
    have action : actionMark = bar ++ "action=".toList := by decide
    have target : targetMark = bar ++ "target=".toList := by decide
    have shown : (" | ".intercalate [time, padRight 8 r.level.name, r.name, "action=" ++ shownField r.action,
        "target=" ++ shownField r.target, r.message]).toList =
        time.toList ++ bar ++ ((padRight 8 r.level.name).toList ++ bar ++ r.fields.tail) := by
      simp only [String.toList_intercalate, List.map_cons, List.map_nil, String.toList_append, Fields.tail,
        Record.fields, action, target, List.intercalate, List.intersperse_cons_cons, List.intersperse_singleton,
        List.flatten_cons, List.flatten_nil, List.append_nil, List.append_assoc]
      rfl
    change Except.ok _ = _ ↔ _
    rw [Except.ok.injEq, ← String.toList_inj, shown]
    constructor
    · intro same
      exact ⟨time, rfl, same.symm⟩
    · rintro ⟨_, same, text⟩
      cases same
      exact text.symm

theorem fields_unique {r' : Record} (created : r'.created = r.created) (written : r.line = .ok text)
    (written' : r'.line = .ok text) (readable : r.fields.Readable) (readable' : r'.fields.Readable) :
    r'.fields = r.fields := by
  obtain ⟨time, moment, whole⟩ := line_eq_ok_iff.mp written
  obtain ⟨time', moment', whole'⟩ := line_eq_ok_iff.mp written'
  rw [created, moment] at moment'
  cases moment'
  rw [whole] at whole'
  have behind := List.append_cancel_left whole'
  have ends (level : Level) := (framed_padRight 8 (framed_name level)).endsAt_bar
  obtain ⟨padded, tails⟩ := (ends r'.level).unique (ends r.level) behind.symm
  have level := padRight_inj (getLast?_name _) (getLast?_name _) (String.toList_inj.mp padded)
  obtain ⟨name, action, target, message⟩ := readable'.tail_unique readable tails
  cases f : r.fields
  cases f' : r'.fields
  simp_all [fields]

theorem exists_readable (written : r.line = .ok text) :
    ∃ r' : Record, r'.created = r.created ∧ r'.line = .ok text ∧ r'.fields.Readable := by
  obtain ⟨time, moment, whole⟩ := line_eq_ok_iff.mp written
  obtain ⟨g, readable, level, tail⟩ := r.fields.exists_readable
  let r' : Record := { r with
    name := g.name, action := some (.text g.action), target := some (.text g.target), message := g.message }
  have fields : r'.fields = g := by rw [show r'.fields = ⟨r.fields.level, _, _, _, _⟩ from rfl, ← level]; rfl
  refine ⟨r', rfl, line_eq_ok_iff.mpr ⟨time, moment, ?_⟩, fields ▸ readable⟩
  rw [fields, tail]
  exact whole

theorem unbroken_iff (written : r.line = .ok text) : Text.printedLines text = [text] ↔
    ∀ field ∈ [r.fields.name, r.fields.action, r.fields.target, r.fields.message], Text.Unbroken field.toList := by
  obtain ⟨time, moment, whole⟩ := line_eq_ok_iff.mp written
  have some : text ≠ "" := by
    rintro rfl
    have none := congrArg List.length whole
    simp [bar] at none
  have bars : Text.Unbroken bar := by decide
  have actions : Text.Unbroken actionMark := by decide
  have targets : Text.Unbroken targetMark := by decide
  have time := (framed_timestamp moment).unbroken
  have level := (framed_padRight 8 (framed_name r.level)).unbroken
  rw [Text.printedLines_eq_iff some, whole]
  simp only [Fields.tail, Text.unbroken_append, List.forall_mem_cons, List.not_mem_nil, IsEmpty.forall_iff,
    implies_true, and_true]
  constructor
  · rintro ⟨-, -, ⟨name, -⟩, ⟨action, -⟩, ⟨target, -⟩, message⟩
    exact ⟨name, action, target, message⟩
  · rintro ⟨name, action, target, message⟩
    exact ⟨⟨time, bars⟩, ⟨level, bars⟩, ⟨name, actions⟩, ⟨action, targets⟩, ⟨target, bars⟩, message⟩

/-- The line of a record is also that of a record which can be read back, and of all of these it tells the fields. So it
    tells the fields of the record itself exactly if this one can be read back, and it is one line exactly if no field
    has a line end. -/
theorem line_tells (written : r.line = .ok text) :
    (∃ r' : Record, r'.created = r.created ∧ r'.line = .ok text ∧ r'.fields.Readable) ∧
      (r.fields.Readable ↔ ∀ r' : Record, r'.created = r.created → r'.line = .ok text → r'.fields.Readable →
        r'.fields = r.fields) ∧
      (Text.printedLines text = [text] ↔
        ∀ field ∈ [r.fields.name, r.fields.action, r.fields.target, r.fields.message], Text.Unbroken field.toList) := by
  refine ⟨exists_readable written, ⟨?_, ?_⟩, unbroken_iff written⟩
  · intro readable r' created written' readable'
    exact fields_unique created written written' readable readable'
  · intro told
    obtain ⟨r', created, written', readable'⟩ := exists_readable written
    rw [← told r' created written' readable']
    exact readable'

/-- A target from outside ends its own line and writes another one, which is that of a record of its own. -/
theorem line_tells_of_forged :
    let r : Record := {
      name := "recongraph", level := 20, message := "row inserted", created := 0, action := some (.text "insert")
      target := some (.text
        "a.example | row inserted\n1970-01-01T00:00:00+0000 | ERROR    | recongraph | action=- | target=-") }
    let other : Record := { name := "recongraph", level := 40, message := "row inserted", created := 0 }
    let one := "1970-01-01T00:00:00+0000 | INFO     | recongraph | action=insert | target=a.example | row inserted"
    let another := "1970-01-01T00:00:00+0000 | ERROR    | recongraph | action=- | target=- | row inserted"
    r.line = .ok (one ++ "\n" ++ another) ∧ Text.printedLines (one ++ "\n" ++ another) ≠ [one ++ "\n" ++ another] ∧
      (∃ r' : Record, r'.created = r.created ∧ r'.line = .ok (one ++ "\n" ++ another) ∧ r'.fields ≠ r.fields) ∧
      other.line = .ok another ∧ Text.printedLines another = [another] ∧
      ∀ r' : Record, r'.created = other.created → r'.line = .ok another → r'.fields.Readable → r'.fields = other.fields := by
  intro r other one another
  have written : r.line = .ok (one ++ "\n" ++ another) := by decide +kernel
  have written' : other.line = .ok another := by decide +kernel
  have split : ¬ r.fields.Readable := by
    intro readable
    exact readable.target ⟨"a.example".toList, r.fields.target.toList.drop 12 ++ bar.dropLast, by decide +kernel⟩
  have whole : other.fields.Readable := .of_unbarred (by decide) (by decide) (by decide)
  obtain ⟨⟨r', created, same, readable⟩, -, single⟩ := line_tells written
  obtain ⟨-, told, single'⟩ := line_tells written'
  refine ⟨written, ?_, ⟨r', created, same, ?_⟩, written', single'.mpr (by decide +kernel), told.mp whole⟩
  · intro unbroken
    have target : r.fields.target ∈ [r.fields.name, r.fields.action, r.fields.target, r.fields.message] := by simp
    exact absurd (single.mp unbroken _ target '\n' (by decide +kernel)) (by decide)
  · intro fields
    exact split (fields ▸ readable)

end Record
end Footprint.Log
