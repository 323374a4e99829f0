import Raid.Change.Basic
import Raid.Outcome
import Raid.World.Event

/-!
The calls that a change's functions receive over its life, and what they make of its flags. The calls
are in order when apply and revert take turns and nothing comes after an error.
-/

namespace Raid.Change

inductive Call where
  | apply (targetName : String) (input : Json) (outcome : Outcome (Except String Json))
  | revert (target : Json) (outcome : Outcome (Except String Unit))

namespace Call

def isApply : Call → Bool
  | apply .. => true
  | revert .. => false

def panicked : Call → Bool
  | apply _ _ (.panicked _) => true
  | revert _ (.panicked _) => true
  | _ => false

def succeeded : Call → Bool
  | apply _ _ (.done (.ok _)) => true
  | revert _ (.done (.ok _)) => true
  | _ => false

def made? : Call → Option Json
  | apply _ _ (.done (.ok target)) => some target
  | _ => none

def error? (name : String) : Call → Option ChangeError
  | apply _ _ (.done (.error reason)) => some (.applyFailed name reason)
  | revert _ (.done (.error reason)) => some (.revertFailed name reason)
  | _ => none

def failed : Call → Bool
  | apply _ _ (.done (.error _)) => true
  | revert _ (.done (.error _)) => true
  | _ => false

theorem failed_of_error? {name : String} {call : Call} {error : ChangeError}
    (noted : call.error? name = some error) : call.failed = true := by
  match call with
  | apply _ _ (.done (.error _)) => rfl
  | revert _ (.done (.error _)) => rfl

def event (name : String) : Call → Event
  | apply targetName input _ => .applyCalled name targetName input
  | revert target _ => .revertCalled name target

end Call

def latest? (calls : List Call) : Option Json := (calls.filterMap Call.made?).getLast?

def answered (calls : List Call) : List Call := calls.filter fun call => !call.panicked

/-- In which order calls come: apply and revert by turns, nothing after an error, and every revert
with what the latest apply returned. -/
structure Orderly (calls : List Call) : Prop where
  alternate : ∀ index (inside : index < (answered calls).length),
    (answered calls)[index].isApply = decide (index % 2 = 0)
  final : ∀ before call later, calls = before ++ call :: later → call.failed = true → later = []
  fed : ∀ before target outcome later, calls = before ++ .revert target outcome :: later →
    latest? before = some target

structure Recorded (name : String) (calls : List Call) (change : Change) : Prop where
  applied : change.applied = true ↔ ∃ call ∈ calls, call.isApply = true ∧ call.succeeded = true
  reverted : change.reverted = true ↔
    ∃ call, (calls.filter Call.succeeded).getLast? = some call ∧ call.isApply = false
  target : change.target = latest? calls
  badState : change.badState = true ↔ ∃ call ∈ calls, call.failed = true
  lastError : ∀ call ∈ calls, ∀ error, call.error? name = some error →
    change.lastError = some error

/-- What holds of a change and all the calls that it has received: they are in order and on record,
and while nothing failed the next call is an apply just when the change is not live. -/
structure Traced (name : String) (calls : List Call) (change : Change) : Prop where
  orderly : Orderly calls
  recorded : Recorded name calls change
  named : change.name = name
  phase : change.badState = false → ((answered calls).length % 2 = 0 ↔ change.live = false)
  whole : change.applied = true → change.lacks? = none
  clean : change.lacks? = none → change.badState = false → change.lastError = none

variable {name : String} {calls : List Call} {call : Call} {change : Change}

theorem latest?_append (calls : List Call) (call : Call) :
    latest? (calls ++ [call]) = call.made?.or (latest? calls) := by
  cases found : call.made? <;> simp [latest?, found]

theorem answered_append (calls : List Call) (call : Call) :
    answered (calls ++ [call]) =
      if call.panicked then answered calls else answered calls ++ [call] := by
  cases panicked : call.panicked <;> simp [answered, panicked]

theorem applied_of_live (live : change.live = true) : change.applied = true := by
  simp only [Change.live, Bool.and_eq_true] at live
  exact live.1

theorem latest?_isSome {calls : List Call}
    (succeeded : ∃ call ∈ calls, call.isApply = true ∧ call.succeeded = true) :
    ∃ target, latest? calls = some target := by
  obtain ⟨call, member, isApply, succeeded⟩ := succeeded
  have made : ∃ target, call.made? = some target := by
    match call with
    | .apply _ _ (.done (.ok target)) => exact ⟨target, rfl⟩
  obtain ⟨target, made⟩ := made
  rw [latest?, ← Option.isSome_iff_exists, List.getLast?_isSome]
  exact List.ne_nil_of_mem (List.mem_filterMap.mpr ⟨call, member, made⟩)

theorem exists_append {property : Call → Prop} (other : ¬property call) :
    (∃ found ∈ calls ++ [call], property found) ↔ ∃ found ∈ calls, property found := by
  simp [or_and_right, exists_or, other]

theorem cut_append {before later : List Call} {other : Call}
    (cut : calls ++ [call] = before ++ other :: later) :
    (later = [] ∧ before = calls ∧ other = call) ∨
      ∃ shorter, later = shorter ++ [call] ∧ calls = before ++ other :: shorter := by
  rcases later.eq_nil_or_concat with rfl | ⟨shorter, last, rfl⟩
  · obtain ⟨same, last⟩ := List.append_inj' cut rfl
    cases last
    exact .inl ⟨rfl, same.symm, rfl⟩
  · rw [List.concat_eq_append] at cut ⊢
    have regrouped : calls ++ [call] = (before ++ other :: shorter) ++ [last] := by simp [cut]
    obtain ⟨same, last⟩ := List.append_inj' regrouped rfl
    cases last
    exact .inr ⟨shorter, rfl, same⟩

theorem Orderly.append (orderly : Orderly calls) (fine : ∀ other ∈ calls, other.failed = false)
    (turn : call.panicked = false → call.isApply = decide ((answered calls).length % 2 = 0))
    (fed : ∀ target outcome, call = .revert target outcome → latest? calls = some target) :
    Orderly (calls ++ [call]) where
  alternate := by
    intro index inside
    cases panicked : call.panicked with
    | true =>
      simp only [answered_append, panicked, ↓reduceIte] at inside ⊢
      exact orderly.alternate index inside
    | false =>
      simp only [answered_append, panicked, Bool.false_eq_true, ↓reduceIte] at inside ⊢
      by_cases earlier : index < (answered calls).length
      · rw [List.getElem_append_left earlier]
        exact orderly.alternate index earlier
      · have last : index = (answered calls).length := by
          rw [List.length_append, List.length_singleton] at inside
          omega
        subst last
        rw [List.getElem_concat_length rfl]
        exact turn panicked
  final := by
    intro before other later cut failed
    rcases cut_append cut with ⟨rfl, -, -⟩ | ⟨shorter, rfl, rfl⟩
    · rfl
    · have kept := fine other (by simp)
      rw [failed] at kept
      cases kept
  fed := by
    intro before target outcome later cut
    rcases cut_append cut with ⟨-, rfl, same⟩ | ⟨shorter, -, cut⟩
    · exact fed target outcome same.symm
    · exact orderly.fed before target outcome shorter cut

theorem Recorded.lastError_append (recorded : Recorded name calls change)
    (noError : call.error? name = none) :
    ∀ other ∈ calls ++ [call], ∀ error, other.error? name = some error →
      change.lastError = some error := by
  intro other member error noted
  rcases List.mem_append.mp member with earlier | last
  · exact recorded.lastError other earlier error noted
  · rw [List.mem_singleton.mp last, noError] at noted
    cases noted

namespace Traced

theorem start (name description : String) (applier : Option ApplyFunction)
    (reverter : Option RevertFunction) :
    Traced name [] { name, description, applier, reverter } where
  orderly := ⟨by simp [answered], by simp, by simp⟩
  recorded := ⟨by simp, by simp, rfl, by simp, by simp⟩
  named := rfl
  phase _ := by simp [answered, live]
  whole applied := by cases applied
  clean _ _ := rfl

/-- While the change is not in bad state no call has failed. -/
theorem fine (traced : Traced name calls change) (fine : change.badState = false) :
    ∀ other ∈ calls, other.failed = false := by
  intro other member
  cases failed : other.failed with
  | false => rfl
  | true =>
    have bad := traced.recorded.badState.mpr ⟨other, member, failed⟩
    rw [fine] at bad
    cases bad

/-- A live change has the value of its latest apply. -/
theorem latest (traced : Traced name calls change) (live : change.live = true) :
    latest? calls = some change.targetOrNull := by
  have applied := traced.recorded.applied.mp (applied_of_live live)
  obtain ⟨target, latest⟩ := latest?_isSome applied
  rw [targetOrNull, traced.recorded.target, latest]
  rfl

theorem of_functions (traced : Traced name calls change) {applier : Option ApplyFunction}
    {reverter : Option RevertFunction} (before : change.lacks? = none)
    (after : { change with applier, reverter }.lacks? = none) :
    Traced name calls { change with applier, reverter } where
  orderly := traced.orderly
  recorded := ⟨traced.recorded.applied, traced.recorded.reverted, traced.recorded.target,
    traced.recorded.badState, traced.recorded.lastError⟩
  named := traced.named
  phase := traced.phase
  whole _ := after
  clean _ := traced.clean before

theorem withError (traced : Traced name calls change) (fine : change.badState = false)
    {error : ChangeError} (lacks : change.lacks? = some error) :
    Traced name calls (change.withError error) where
  orderly := traced.orderly
  recorded := by
    refine ⟨traced.recorded.applied, traced.recorded.reverted, traced.recorded.target,
      traced.recorded.badState, ?_⟩
    intro other member found noted
    exact absurd (Call.failed_of_error? noted) (by simp [traced.fine fine other member])
  named := traced.named
  phase := traced.phase
  whole applied := by
    have whole := traced.whole applied
    rw [lacks] at whole
    cases whole
  clean whole := by
    have missing : (change.withError error).lacks? = some error := lacks
    rw [missing] at whole
    cases whole

theorem append_panicked (traced : Traced name calls change) (call : Call)
    (fine : change.badState = false) (panicked : call.panicked = true)
    (fed : ∀ target outcome, call = .revert target outcome → latest? calls = some target) :
    Traced name (calls ++ [call]) change where
  orderly := traced.orderly.append (traced.fine fine) (by simp [panicked]) fed
  recorded := by
    have unsuccessful : call.succeeded = false ∧ call.failed = false ∧ call.made? = none ∧
        call.error? name = none := by
      match call with
      | .apply _ _ (.panicked _) => exact ⟨rfl, rfl, rfl, rfl⟩
      | .revert _ (.panicked _) => exact ⟨rfl, rfl, rfl, rfl⟩
    obtain ⟨unsuccessful, unfailed, unmade, noError⟩ := unsuccessful
    constructor
    · rw [exists_append (by simp [unsuccessful])]
      exact traced.recorded.applied
    · simpa [unsuccessful] using traced.recorded.reverted
    · simpa [latest?_append, unmade] using traced.recorded.target
    · rw [exists_append (by simp [unfailed])]
      exact traced.recorded.badState
    · exact traced.recorded.lastError_append noError
  named := traced.named
  phase := by simpa [answered_append, panicked] using traced.phase
  whole := traced.whole
  clean := traced.clean

theorem append_made (traced : Traced name calls change) (fine : change.badState = false)
    (whole : change.lacks? = none) (idle : change.live = false) (targetName : String)
    (input target : Json) :
    Traced name (calls ++ [.apply targetName input (.done (.ok target))])
      (change.afterApply target) where
  orderly := by
    refine traced.orderly.append (traced.fine fine) ?_ (by simp)
    intro _
    simp [Call.isApply, (traced.phase fine).mpr idle]
  recorded := by
    constructor
    · simp [afterApply, Call.isApply, Call.succeeded]
    · simp [afterApply, Call.isApply, Call.succeeded]
    · simp [afterApply, latest?_append, Call.made?]
    · rw [exists_append (by simp [Call.failed])]
      exact traced.recorded.badState
    · exact traced.recorded.lastError_append rfl
  named := traced.named
  phase _ := by
    have even := (traced.phase fine).mpr idle
    simp only [answered_append, Call.panicked, Bool.false_eq_true, ↓reduceIte, List.length_append,
      List.length_singleton, live, afterApply, Bool.not_false, Bool.and_true]
    simp only [Bool.true_eq_false, iff_false]
    omega
  whole _ := whole
  clean _ := traced.clean whole

theorem append_undone (traced : Traced name calls change) (fine : change.badState = false)
    (live : change.live = true) :
    Traced name (calls ++ [.revert change.targetOrNull (.done (.ok ()))]) change.afterRevert where
  orderly := by
    refine traced.orderly.append (traced.fine fine) ?_ ?_
    · intro _
      simp [Call.isApply, traced.phase fine, live]
    · rintro target outcome ⟨⟩
      exact traced.latest live
  recorded := by
    constructor
    · rw [exists_append (by simp [Call.isApply])]
      exact traced.recorded.applied
    · simp [afterRevert, Call.isApply, Call.succeeded]
    · simpa [afterRevert, latest?_append, Call.made?] using traced.recorded.target
    · rw [exists_append (by simp [Call.failed])]
      exact traced.recorded.badState
    · exact traced.recorded.lastError_append rfl
  named := traced.named
  phase _ := by
    have odd := mt (traced.phase fine).mp (by simp [live])
    simp only [answered_append, Call.panicked, Bool.false_eq_true, ↓reduceIte, List.length_append,
      List.length_singleton, Change.live, afterRevert, Bool.not_true, Bool.and_false, iff_true]
    omega
  whole := traced.whole
  clean := traced.clean

/-- A call that failed is the last, and its error is the one on the change. -/
theorem append_failed (traced : Traced name calls change) (call : Call)
    (fine : change.badState = false) {error : ChangeError} (found : call.error? name = some error)
    (turn : call.isApply = decide ((answered calls).length % 2 = 0))
    (fed : ∀ target outcome, call = .revert target outcome → latest? calls = some target) :
    Traced name (calls ++ [call]) (change.spoiled error) where
  orderly := traced.orderly.append (traced.fine fine) (fun _ => turn) fed
  recorded := by
    have failed : call.succeeded = false ∧ call.failed = true ∧ call.made? = none := by
      match call with
      | .apply _ _ (.done (.error _)) => exact ⟨rfl, rfl, rfl⟩
      | .revert _ (.done (.error _)) => exact ⟨rfl, rfl, rfl⟩
    obtain ⟨unsuccessful, failed, unmade⟩ := failed
    constructor
    · rw [exists_append (by simp [unsuccessful])]
      exact traced.recorded.applied
    · simpa [spoiled, unsuccessful] using traced.recorded.reverted
    · simpa [spoiled, latest?_append, unmade] using traced.recorded.target
    · simp [spoiled, failed]
    · intro other member noted same
      rcases List.mem_append.mp member with earlier | last
      · exact absurd (Call.failed_of_error? same) (by simp [traced.fine fine other earlier])
      · rw [List.mem_singleton.mp last, found] at same
        exact same
  named := traced.named
  phase bad := by cases bad
  whole := traced.whole
  clean _ bad := by cases bad

end Traced

end Raid.Change
