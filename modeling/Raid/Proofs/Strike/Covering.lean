import Raid.Proofs.Strike.Aggregation

/-!
What following through makes of the movements that ran. It sees of them what the result still has: one
message, and the last report under each name. A message is lost where the movement that decides
the verdict has none, and a change is passed over where a later movement of the same name took the
place of the one that returned it.
-/

namespace Raid.StrikeResult

open Act StrikeReport

section

variable {start result kept : StrikeResult} {calls : List MovementCall}
  {ran : List (String × MovementReport (Ref Change))} {world middle later swept : World}

theorem message_withDefaultMessage_eq (result : StrikeResult) :
    result.withDefaultMessage.report.message =
      if result.report.message = "" then notImplementedMessage else result.report.message := by
  unfold withDefaultMessage
  by_cases empty : result.report.message = ""
  · simp only [empty]
    rfl
  · have filled : result.report.message.isEmpty = false := by simpa using empty
    simp only [filled, empty, Bool.false_eq_true, ↓reduceIte]

theorem withDefaultMessage_ne_iff :
    result.withDefaultMessage ≠ result ↔ result.report.message = "" := by
  constructor
  · intro differs
    by_contra empty
    exact differs (withDefaultMessage_of_message (by simpa using empty))
  · intro empty same
    have filled := message_withDefaultMessage result
    rw [same, empty] at filled
    cases filled

/-- Where no revert fails, following through does not touch a result but for the placeholder. -/
theorem followThrough_of_fine (fine : result.revertChanges later = (.done [], swept)) :
    result.followThrough later = (.done result.withDefaultMessage, swept) := by
  have reverted : result.withDefaultMessage.revertChanges later = (.done [], swept) := by
    rw [revertChanges, changes_withDefaultMessage]
    exact fine
  rw [followThrough, settle, bind_apply, reverted]
  rfl

/-- The words of the movements are kept: where one of them has a message the result has a message of
one of them, and the placeholder stands only where none of them has one. -/
structure WordsKept (ran : List (String × MovementReport (Ref Change)))
    (result kept : StrikeResult) : Prop where
  words : (∃ one ∈ ran, one.2.message ≠ "") →
    kept.report.message ≠ "" ∧ ∃ one ∈ ran, one.2.message = kept.report.message
  placeholder : result.withDefaultMessage ≠ result → ∀ one ∈ ran, one.2.message = ""

/-- Following through leaves the message of the decisive movement, or the placeholder where that one
has none. So the words of the movements are kept unless the decisive one has none while another
one has some. -/
theorem followThrough_words_iff (fresh : start.report.Fresh)
    (run : start.runCalls calls world = (.done result, middle))
    (fine : result.revertChanges later = (.done [], swept)) :
    ∃ kept, result.followThrough later = (.done kept, swept) ∧
      kept.report.message = (if shown (start.ran calls world) = "" then notImplementedMessage
        else shown (start.ran calls world)) ∧
      (WordsKept (start.ran calls world) result kept ↔
        shown (start.ran calls world) ≠ "" ∨
          ∀ one ∈ start.ran calls world, one.2.message = "") := by
  have same := (runCalls_done run).same
  generalize start.ran calls world = ran at same
  have message : result.report.message = shown ran := by
    rw [same]
    exact message_recordAll fresh ran
  have left := message_withDefaultMessage_eq result
  rw [message] at left
  refine ⟨_, followThrough_of_fine fine, left, ?_⟩
  constructor
  · intro words
    by_cases silent : shown ran = ""
    · exact .inr (words.placeholder (withDefaultMessage_ne_iff.mpr (message.trans silent)))
    · exact .inl silent
  · rintro (speaks | silent)
    · rw [if_neg speaks] at left
      constructor
      · intro _
        rw [left]
        refine ⟨speaks, ?_⟩
        unfold shown at speaks ⊢
        cases decisive : decisive? ran with
        | none => simp [decisive] at speaks
        | some report =>
          obtain ⟨one, member, rfl⟩ := mem_of_decisive? decisive
          exact ⟨one, member, rfl⟩
      · intro replaced
        exact absurd (message.symm.trans (withDefaultMessage_ne_iff.mp replaced)) speaks
    · constructor
      · rintro ⟨one, member, speaks⟩
        exact absurd (silent one member) speaks
      · exact fun _ => silent

end

def spokenCalls : List MovementCall :=
  [.returning "second" {}, .returning "first" { message := "broken" }]

/-- In this order the message stays. -/
theorem followThrough_words_spoken :
    ∃ result middle kept swept,
      (standalone "s").runCalls spokenCalls {} = (.done result, middle) ∧
      result.followThrough middle = (.done kept, swept) ∧ kept.report.message = "broken" ∧
      WordsKept ((standalone "s").ran spokenCalls {}) result kept := by
  obtain ⟨kept, followed, message, iff⟩ := @followThrough_words_iff (standalone "s") _ spokenCalls {}
    _ _ _ (fresh_standalone "s") rfl rfl
  refine ⟨_, _, kept, _, rfl, followed, message.trans ?_, iff.mpr (.inl ?_)⟩
  · decide +kernel
  · decide +kernel

/-- In the other order the second movement fails without a message, and the message of the first one
gives way to the placeholder. -/
theorem not_wordsKept_silenced :
    ∃ result middle kept swept,
      (standalone "s").runCalls spokenCalls.reverse {} = (.done result, middle) ∧
      result.revertChanges middle = (.done [], swept) ∧
      result.followThrough middle = (.done kept, swept) ∧
      kept.report.message = notImplementedMessage ∧
      ¬WordsKept ((standalone "s").ran spokenCalls.reverse {}) result kept := by
  refine ⟨_, _, _, _, rfl, rfl, rfl, rfl, fun words => ?_⟩
  obtain ⟨-, one, member, same⟩ := words.words
    ⟨("first", { message := "broken" }), List.mem_cons_self, by decide⟩
  revert one
  decide +kernel

/-- The result refers to the change after its movements: the last one under some name returned it, or
the result came with it under a name that none of them has. -/
def Covered (start : StrikeResult) (ran : List (String × MovementReport (Ref Change)))
    (ref : Ref Change) : Prop :=
  ∃ name report, (last? name ran).or (start.report.movements.get? name) = some report ∧
    ref ∈ report.changes.values

def Returned (ran : List (String × MovementReport (Ref Change))) (ref : Ref Change) : Prop :=
  ∃ one ∈ ran, ref ∈ one.2.changes.values

section

variable {start result kept : StrikeResult} {calls : List MovementCall}
  {ran : List (String × MovementReport (Ref Change))} {world middle later swept : World}
  {ref : Ref Change}

/-- The changes of a result after its movements are those that it covers. -/
theorem mem_changes_folded (start : StrikeResult)
    (ran : List (String × MovementReport (Ref Change))) (ref : Ref Change) :
    ref ∈ (start.folded ran).report.changes ↔ Covered start ran ref := by
  rw [mem_changes]
  refine exists_congr fun name => ?_
  have found : (start.folded ran).report.movements.get? name =
      ((last? name ran).map (MovementReport.named name)).or (start.report.movements.get? name) :=
    movements_recordAll start.report ran name
  rw [found]
  cases last? name ran with
  | none => rfl
  | some report => simp [MovementReport.named]

theorem Returned.covered (distinct : (ran.map Prod.fst).Nodup) (returned : Returned ran ref) :
    Covered start ran ref := by
  obtain ⟨one, member, known⟩ := returned
  exact ⟨one.1, one.2, by rw [last?_of_nodup distinct member]; rfl, known⟩

structure Covers (covered : Ref Change → Prop) (start kept : StrikeResult) (before after : World) :
    Prop where
  settled : ∀ ref, covered ref → (after.change ref).Settled
  others : ∀ ref, ¬covered ref → after.change ref = before.change ref
  alert : kept.report.badStateAlert = true ↔ start.report.badStateAlert = true ∨
    ∃ ref, covered ref ∧ (after.change ref).badState = true
  message : (∃ ref, covered ref ∧ (after.change ref).badState = true) →
    kept.report.message = badStateMessage

/-- Every change that a movement returned is settled, and one in bad state raises the alert. -/
structure CoversAll (ran : List (String × MovementReport (Ref Change))) (kept : StrikeResult)
    (after : World) : Prop where
  settled : ∀ ref, Returned ran ref → (after.change ref).Settled
  alert : (∃ ref, Returned ran ref ∧ (after.change ref).badState = true) →
    kept.report.badStateAlert = true ∧ kept.report.message = badStateMessage

theorem covers_of_followThrough (run : (start.folded ran).followThrough later = (.done kept, swept)) :
    Covers (Covered start ran) start kept later swept := by
  have followed := followThrough_done run
  have covered := mem_changes_folded start ran
  constructor
  case settled => exact fun ref known => followed.settled ref ((covered ref).mpr known)
  case others =>
    intro ref unknown
    obtain ⟨pass, passed, refs⟩ := followThrough_swept run
    have absent : ref ∉ Change.refsOf pass := by
      rw [refs, covered]
      exact unknown
    exact (passed.of_not_mem absent).1
  case alert =>
    have same : (start.folded ran).report.badStateAlert = start.report.badStateAlert := by
      change (start.report.recordAll ran).badStateAlert = start.report.badStateAlert
      rw [recordAll_eq]
    simp only [followed.alert, covered, same]
  case message =>
    rintro ⟨ref, known, bad⟩
    exact followed.message_bad ⟨ref, (covered ref).mpr known, bad⟩

/-- Following through settles the changes that the result covers after its movements, and does not
touch any other. So all that the movements returned is settled when what is not covered was so before;
and where everything is covered, as it is when no two movements have one name, whatever is in bad
state raises the alert. -/
theorem followThrough_covers (run : start.runCalls calls world = (.done result, middle))
    (returns : ∀ ref, Covered start (start.ran calls world) ref → (later.change ref).RevertReturns) :
    ∃ kept swept, result.followThrough later = (.done kept, swept) ∧
      Covers (Covered start (start.ran calls world)) start kept later swept ∧
      ((∀ ref, Returned (start.ran calls world) ref → (swept.change ref).Settled) ↔
        ∀ ref, Returned (start.ran calls world) ref →
          Covered start (start.ran calls world) ref ∨ (later.change ref).Settled) ∧
      ((∀ ref, Returned (start.ran calls world) ref → Covered start (start.ran calls world) ref) →
        CoversAll (start.ran calls world) kept swept) ∧
      (((calls.filter fun call => call.runs start).map MovementCall.name).Nodup →
        ∀ ref, Returned (start.ran calls world) ref → Covered start (start.ran calls world) ref) := by
  obtain ⟨rfl, names, -, -⟩ := runCalls_done run
  generalize start.ran calls world = ran at *
  have gentle : ∀ ref ∈ (start.folded ran).report.changes, (later.change ref).RevertReturns := by
    intro ref member
    exact returns ref ((mem_changes_folded start ran ref).mp member)
  obtain ⟨kept, swept, followed⟩ := followThrough_returns gentle
  have covers := covers_of_followThrough followed
  refine ⟨kept, swept, followed, covers, ?_, ?_, ?_⟩
  · refine forall₂_congr fun ref returned => ?_
    by_cases covered : Covered start ran ref
    · exact iff_of_true (covers.settled ref covered) (.inl covered)
    · rw [covers.others ref covered]
      exact (or_iff_right covered).symm
  · intro all
    constructor
    · exact fun ref returned => covers.settled ref (all ref returned)
    · rintro ⟨ref, returned, bad⟩
      have found : ∃ ref, Covered start ran ref ∧ (swept.change ref).badState = true :=
        ⟨ref, all ref returned, bad⟩
      exact ⟨covers.alert.mpr (.inr found), covers.message found⟩
  · intro distinct ref returned
    rw [← names] at distinct
    exact returned.covered distinct

end

def refusingWorld : World :=
  let change (name : String) (reply : Reply) : Change :=
    { name, description := "d", applier := some (.scripted [reply])
      reverter := some (.scripted [.value .null]) }
  { changes := ⟨2, [(0, change "c1" (.value .null)), (1, change "c2" (.failure ["refused"]))]⟩
    ledgers := ⟨1, []⟩
    bench := { changes := Dict.ofList [("c1", ⟨0⟩), ("c2", ⟨1⟩)] } }

def callsNamed (second : String) : List MovementCall :=
  [.ofStep none { id := none, name := "mv"
                  body := [.apply "c1" "svc" .null, .apply "c2" "svc" .null]
                  plan := { description := "d", verdict := .pass "fine"
                            changes := Dict.ofList [("c1", "c1"), ("c2", "c2")] } },
    .ofStep none { id := none, name := second
                   plan := { description := "d", verdict := .pass "fine" } }]

def course (second : String) : Task StrikeResult := do
  let result ← gentleStart.runCalls (callsNamed second)
  result.followThrough

/-- Under two names all is covered. -/
theorem followThrough_covers_distinct :
    ∃ kept swept, course "other" refusingWorld = (.done kept, swept) ∧
      CoversAll (gentleStart.ran (callsNamed "other") refusingWorld) kept swept := by
  have gentle : ∀ ref ∈
      (gentleStart.folded (gentleStart.ran (callsNamed "other") refusingWorld)).report.changes,
      ((gentleStart.runCalls (callsNamed "other") refusingWorld).2.change ref).RevertReturns := by
    decide +kernel
  have done : (gentleStart.runCalls (callsNamed "other") refusingWorld).1.isDone = true := by
    decide +kernel
  have distinct : (((callsNamed "other").filter fun call => call.runs gentleStart).map
      MovementCall.name).Nodup := by decide
  obtain ⟨result, middle, run⟩ := Outcome.exists_of_isDone done
  rw [run] at gentle
  obtain ⟨kept, swept, followed, -, -, covers, covered⟩ := followThrough_covers run
    fun ref covered => gentle ref ((mem_changes_folded _ _ ref).mpr covered)
  refine ⟨kept, swept, ?_, covers (covered distinct)⟩
  rw [course, bind_apply, run]
  exact followed

/-- Under one name it is not: the first change is left live, and the second one, which is in bad
state, raises no alert. -/
theorem not_coversAll_repeated :
    ∃ kept swept, course "mv" refusingWorld = (.done kept, swept) ∧
      ¬CoversAll (gentleStart.ran (callsNamed "mv") refusingWorld) kept swept ∧
      (swept.change ⟨0⟩).live = true ∧ (swept.change ⟨1⟩).badState = true ∧
      kept.report.badStateAlert = false := by
  have done : (course "mv" refusingWorld).1.isDone = true := by decide +kernel
  have calm : (course "mv" refusingWorld).1.map (·.report.badStateAlert) = .done false := by
    decide +kernel
  have pending : ¬((course "mv" refusingWorld).2.change ⟨0⟩).Settled := by decide +kernel
  have bad : ((course "mv" refusingWorld).2.change ⟨1⟩).badState = true := by decide +kernel
  have returned : ∃ one ∈ gentleStart.ran (callsNamed "mv") refusingWorld,
      ⟨0⟩ ∈ one.2.changes.values := by decide +kernel
  obtain ⟨kept, swept, run⟩ := Outcome.exists_of_isDone done
  rw [run] at calm pending bad
  refine ⟨kept, swept, run, ?_, (Change.not_settled_iff.mp pending).2, bad, ?_⟩
  · intro covers
    exact pending (covers.settled ⟨0⟩ returned)
  · simpa [Outcome.map] using calm

end Raid.StrikeResult
