import Raid.Proofs.Results.Loading
import Raid.Proofs.Tactic.Record
import Raid.Proofs.Vessel.Report

/-!
The results on disk are the results that were reported. Every file of results that a run over
several tactics writes stands as it was written when the run is over, unless the same tactic was
written again; loading it gives what the entry of the tactic tells.
-/

namespace Raid

open Act

/-- What stands in the places is left alone, as long as the changes and the named objects are
sound. -/
def Footprint.sparing (places : Location → Prop) (sound : Table Change → Bench → Prop) :
    Footprint World where
  allows before after := sound before.changes before.bench →
    sound after.changes after.bench ∧ FileTree.Keeps places before.files after.files
  refl world fine := ⟨fine, .refl places world.files⟩
  trans begun ended fine := by
    obtain ⟨middle, kept⟩ := begun fine
    obtain ⟨last, kept'⟩ := ended middle
    exact ⟨last, kept.trans kept'⟩

theorem Footprint.sparing_carries {places : Location → Prop} {sound : Table Change → Bench → Prop}
    (reverts : ∀ ref, Within (.sparing places sound) (Change.revert ref)) :
    (Footprint.sparing places sound).Carries where
  emit _ _ := fun world fine => ⟨fine, .refl places world.files⟩
  revert := reverts
  newLedger := fun world fine => ⟨fine, .refl places world.files⟩
  recordExecuted _ _ := fun world fine => ⟨fine, .refl places world.files⟩
  slots world _ _ fine := ⟨fine, .refl places world.files⟩

/-- The places cover the ways to the files for the results of these tactics, and neither the bodies of
the armory's strikes nor the reverts touch what stands there. -/
structure Voyage.Spared (places : Location → Prop) (sound : Table Change → Bench → Prop)
    (names : List String) (state : Voyage) : Prop where
  covers : ∀ name ∈ names, ∀ path,
    resultsPath state.vessel.settings.writeDirectory state.vessel.settings.serviceName name
      state.vessel.settings.output = .ok path →
    ∀ location ∈ state.world.files.way path, places location
  fine : sound state.world.changes state.world.bench
  bodies : ∀ name strikes, state.vessel.armory.strikes? name = some strikes →
    ∀ strike ∈ strikes, ∀ context, Within (.sparing places sound) (strike.run context)
  reverts : ∀ ref, Within (.sparing places sound) (Change.revert ref)

namespace Voyage

variable {places : Location → Prop} {sound : Table Change → Bench → Prop} {names : List String}
  {name : String} {strikes : List Strike} {context : StrikeContext} {state after : Voyage}

theorem Spared.tail {rest : List String} (spared : Spared places sound (name :: rest) state) :
    Spared places sound rest state :=
  { spared with covers := (List.forall_mem_cons.mp spared.covers).2 }

theorem Spared.noted (spared : Spared places sound names state) (event : Event) :
    Spared places sound names (state.noted event) := { spared with }

theorem posted_stored {settings : ServiceSettings} {begun : Execution} {path : String}
    (posted : (begun.posted settings).1 = .done (.ok path)) :
    resultsPath settings.writeDirectory settings.serviceName begun.left.tactic.name
        settings.output = .ok path ∧
      (begun.posted settings).2.files.Stored path
        (begun.left.tactic.text settings.output begun.left.world) := by
  obtain ⟨written, same, wrote⟩ := begun.posted_wrote settings
  obtain rfl := Outcome.done.inj (same.symm.trans posted)
  exact wrote.stored_own

theorem Spared.execute (spared : Spared places sound names state)
    (known : state.vessel.armory.strikes? name = some strikes) :
    sound (state.begun context name strikes).left.world.changes
        (state.begun context name strikes).left.world.bench ∧
      FileTree.Keeps places state.world.files
        (state.begun context name strikes).left.world.files :=
  Execution.within_execute (Footprint.sparing_carries spared.reverts)
    (spared.bodies name strikes known) spared.fine

theorem Spared.docked (spared : Spared places sound names state)
    (known : state.vessel.armory.strikes? name = some strikes) (event : Event) :
    Spared places sound names (state.docked (state.begun context name strikes) event) := by
  obtain ⟨fine, -⟩ : sound _ _ ∧ _ := spared.execute known
  obtain ⟨written, -, wrote⟩ :=
    (state.begun context name strikes).posted_wrote state.vessel.settings
  refine { spared with covers := fun name asked path named location on => ?_, fine := ?_ }
  · rw [FileTree.way_congr (docked_stays state context _ strikes event).workingDirectory] at on
    exact spared.covers name asked path named location on
  · simp only [Voyage.docked, Voyage.noted]
    rw [wrote.eq_files]
    exact fine

/-- What one leg writes leaves the file of another tactic stored. -/
theorem Spared.stored_docked {path content : String} (spared : Spared places sound names state)
    (known : state.vessel.armory.strikes? name = some strikes)
    (own : ∀ location ∈ state.world.files.way path, places location)
    (stored : state.world.files.Stored path content) (event : Event)
    (other : ∀ path', ((state.begun context name strikes).posted state.vessel.settings).1 =
      .done (.ok path') → state.world.files.home path' ≠ state.world.files.home path) :
    (state.docked (state.begun context name strikes) event).world.files.Stored path content := by
  obtain ⟨-, keeps⟩ : sound _ _ ∧ _ := spared.execute known
  obtain ⟨written, posted, wrote⟩ :=
    (state.begun context name strikes).posted_wrote state.vessel.settings
  refine wrote.stored (keeps.stored own stored) fun path' same => ?_
  have home := keeps.workingDirectory
  rw [FileTree.home_congr home, FileTree.home_congr home]
  exact other path' (by rw [posted, same])

/-- A file of results stays stored while no further results are written to its path. -/
theorem Sailed.stored {halted : Bool} {asked : List String} {entries : List TacticSummary}
    {legs : List Leg} (course : Sailed context halted asked state entries legs after)
    (spared : Spared places sound asked state) {path content : String}
    (named : resultsPath state.vessel.settings.writeDirectory state.vessel.settings.serviceName name
      state.vessel.settings.output = .ok path)
    (own : ∀ location ∈ state.world.files.way path, places location)
    (stored : state.world.files.Stored path content)
    (unshared : ∀ entry ∈ entries, entry.resultsPath ≠ some path) :
    after.world.files.Stored path content := by
  induction course with
  | arrived halted state => exact stored
  | skipped event going ih =>
    exact ih (spared.tail.noted event) named own stored (List.forall_mem_cons.mp unshared).2
  | unknown event missing going ih =>
    exact ih (spared.tail.noted event) named own stored (List.forall_mem_cons.mp unshared).2
  | @ran other rest state after entries legs strikes answer written event known executed wrote
      going ih =>
    obtain ⟨first, unshared⟩ := List.forall_mem_cons.mp unshared
    have home := (docked_stays state context other strikes event).workingDirectory
    refine ih (spared.tail.docked known event) named (by rwa [FileTree.way_congr home]) ?_ unshared
    refine spared.stored_docked known own stored event fun path' posted => ?_
    obtain rfl := Outcome.done.inj (wrote.symm.trans posted)
    have different : path' ≠ path := fun same => first (congrArg some same)
    exact home_ne_of_resultsPath named (posted_stored posted).1 different _

/-- The results of an entry are stored at the end, unless its path was written to again. -/
theorem Sailed.kept {halted : Bool} {asked : List String} {entries : List TacticSummary}
    {legs : List Leg} (course : Sailed context halted asked state entries legs after)
    (spared : Spared places sound asked state) {i : Nat} {entry : TacticSummary} {path : String}
    (here : entries[i]? = some entry) (filed : entry.resultsPath = some path)
    (last : ∀ (j : Nat) (later : TacticSummary), i < j → entries[j]? = some later →
      later.resultsPath ≠ some path) :
    ∃ begun, legs[i]? = some (.ran begun) ∧
      after.world.files.Stored path
        (begun.left.tactic.text state.vessel.settings.output begun.left.world) := by
  induction course generalizing i with
  | arrived halted state => simp at here
  | skipped event going ih =>
    cases i with
    | zero =>
      cases here
      cases filed
    | succ i =>
      exact ih (spared.tail.noted event) here fun j later after found =>
        last (j + 1) later (Nat.succ_lt_succ after) found
  | unknown event missing going ih =>
    cases i with
    | zero =>
      cases here
      cases filed
    | succ i =>
      exact ih (spared.tail.noted event) here fun j later after found =>
        last (j + 1) later (Nat.succ_lt_succ after) found
  | @ran name rest state after entries legs strikes answer written event known executed wrote
      going ih =>
    cases i with
    | zero =>
      cases here
      obtain rfl : written = .ok path := by
        cases written with
        | ok other => exact congrArg Except.ok (Option.some.inj filed)
        | error error => cases filed
      obtain ⟨named, stored⟩ := posted_stored wrote
      rw [Execution.name_left rfl executed] at named
      have own := spared.covers name List.mem_cons_self path named
      rw [← FileTree.way_congr (docked_stays state context name strikes event).workingDirectory]
        at own
      refine ⟨_, rfl, going.stored (spared.tail.docked known event) named own stored ?_⟩
      intro later member
      obtain ⟨j, found⟩ := List.mem_iff_getElem?.mp member
      exact last (j + 1) later (Nat.succ_pos j) found
    | succ i =>
      exact ih (spared.tail.docked known event) here fun j later after found =>
        last (j + 1) later (Nat.succ_lt_succ after) found

theorem Sailed.now {halted : Bool} {asked : List String} {entries : List TacticSummary}
    {legs : List Leg} (course : Sailed context halted asked state entries legs after)
    {begun : Execution} (member : .ran begun ∈ legs) : begun.world.now = state.world.now := by
  induction course with
  | arrived halted state => cases member
  | skipped event going ih =>
    rcases List.mem_cons.mp member with other | member
    · cases other
    · exact ih member
  | unknown event missing going ih =>
    rcases List.mem_cons.mp member with other | member
    · cases other
    · exact ih member
  | @ran name rest state after entries legs strikes answer written event known executed wrote
      going ih =>
    rcases List.mem_cons.mp member with same | member
    · cases same
      rfl
    · exact (ih member).trans (docked_stays state context name strikes event).now

end Voyage

/-- Loading a file gives a tactic that has the name, the counts and the outcome of the entry. -/
def TacticSummary.Held (entry : TacticSummary) (path : String) (world : World) : Prop :=
  ∃ tactic after, loadTactic path world = (.done (.ok tactic), after) ∧
    tactic.counts = entry.counts ∧
    (tactic.badStateAlert = true ↔ entry.outcome = .badState) ∧
    (tactic.passed = true ↔ entry.outcome = .passed)

theorem Execution.Answered.verdict {tactic : Tactic} {answer : Except TacticError Unit}
    (answered : Answered tactic answer) :
    (tactic.badStateAlert = true ↔ (Voyage.verdict answer).1 = .badState) ∧
      (tactic.passed = true ↔ (Voyage.verdict answer).1 = .passed) := by
  cases answered with
  | badState alert status passed => simp [alert, passed, Voyage.verdict, TacticError.isFatal]
  | failed calm failed status passed =>
    simp [calm, passed, Voyage.verdict, TacticError.isFatal]
  | passed calm fine status passed => simp [calm, passed, Voyage.verdict]

namespace Entered

variable {vessel : Vessel} {context : StrikeContext} {entry : TacticSummary} {leg : Leg}
  {begun : Execution} {path : String} {world : World}

theorem filed (entered : Entered vessel context entry leg) (filed : entry.resultsPath = some path) :
    resultsPath vessel.settings.writeDirectory vessel.settings.serviceName entry.name
      vessel.settings.output = .ok path := by
  cases entered with
  | skipped name => cases filed
  | unknown missing => cases filed
  | @ran name _ begun answer written known tactic executed wrote =>
    obtain rfl : written = .ok path := by
      cases written with
      | ok other => exact congrArg Except.ok (Option.some.inj filed)
      | error error => cases filed
    have named := (Voyage.posted_stored wrote).1
    rwa [Execution.name_left tactic executed] at named

/-- The results of an execution that are stored tell what its entry does. -/
theorem held (entered : Entered vessel context entry (.ran begun))
    (filed : entry.resultsPath = some path)
    (stored : world.files.Stored path
      (begun.left.tactic.text vessel.settings.output begun.left.world))
    (small : ∀ name strikes, vessel.armory.strikes? name = some strikes →
      strikes.length < Nat.pow 2 32)
    (clock : Moment.parse begun.world.now.text = some begun.world.now)
    (back : vessel.settings.output.ReadsBack
      (begun.left.tactic.record begun.left.world).toJson) : entry.Held path world := by
  have named := resultsPath_named (entered.filed filed)
  cases entered with
  | @ran name strikes _ answer written known tactic executed wrote =>
    have fresh : begun.tactic.Uncounted := by
      rw [tactic]
      exact ⟨⟨rfl, rfl, rfl⟩, rfl, rfl, rfl⟩
    have name_left := Execution.name_left tactic executed
    have filled : begun.tactic.name ≠ "" := by
      rw [tactic]
      exact named.filled
    have ran : Execution.Executed begun (.done answer) begun.left :=
      Execution.executed (by simpa using filled) fresh.status (Prod.ext executed rfl)
    have few : begun.tactic.strikes.length < Nat.pow 2 32 := by
      rw [tactic]
      exact small name strikes known
    have readable := Execution.execute_readable filled fresh executed few clock begun.left.world
    obtain ⟨loaded, after, run, tells⟩ := loadTactic_of_stored stored named.reads readable back
    obtain ⟨alert, passed⟩ := ran.answered.verdict
    refine ⟨loaded, after, run, ?_, ?_, ?_⟩
    · simp only [Tactic.counts, tells.name, tells.attempts, tells.successes, tells.failures]
      exact congrArg (·, begun.left.tactic.attempts, begun.left.tactic.successes,
        begun.left.tactic.failures) name_left
    · rw [tells.badStateAlert]
      exact alert
    · rw [tells.passed]
      exact passed

end Entered

theorem Voyage.Sailed.filed {context : StrikeContext} {halted : Bool} {asked : List String}
    {state after : Voyage} {entries : List TacticSummary} {legs : List Leg}
    (course : Sailed context halted asked state entries legs after) {entry : TacticSummary}
    (member : entry ∈ entries) {path : String} (filed : entry.resultsPath = some path) :
    resultsPath state.vessel.settings.writeDirectory state.vessel.settings.serviceName entry.name
      state.vessel.settings.output = .ok path := by
  have entered := course.entered
  clear course
  induction entered with
  | nil => cases member
  | cons entered later ih =>
    rcases List.mem_cons.mp member with rfl | member
    · exact entered.filed filed
    · exact ih member

namespace Voyage

theorem sailed_of_mobilize {state after : Voyage} {summary : RunSummary}
    (run : mobilize state = (.done (.ok summary), after)) :
    ∃ middle, after = middle.noted (finish summary) ∧
      Sailed state.ownContext false state.vessel.settings.tactics state.departed summary.tactics
        state.ownLegs middle := by
  have asked : state.vessel.settings.tactics ≠ [] := by
    intro none
    simp [mobilize, bind_apply, vessel?, none, pure_apply] at run
  obtain ⟨_, middle, toured, same, rfl⟩ := mobilize_done asked run
  cases same
  obtain ⟨entries, course, grown⟩ := sailed toured
  rw [show summary.tactics = entries from grown.tactics]
  exact ⟨middle, rfl, course⟩

/-- The last entry that names a file is held by the file. -/
theorem held_of_last {state after : Voyage} {summary : RunSummary}
    (run : mobilize state = (.done (.ok summary), after)) {places : Location → Prop}
    {sound : Table Change → Bench → Prop}
    (spared : Spared places sound state.vessel.settings.tactics state)
    (small : ∀ name strikes, state.vessel.armory.strikes? name = some strikes →
      strikes.length < Nat.pow 2 32)
    (clock : Moment.parse state.world.now.text = some state.world.now)
    (back : ∀ begun, .ran begun ∈ state.ownLegs →
      state.vessel.settings.output.ReadsBack
        (begun.left.tactic.record begun.left.world).toJson)
    {i : Nat} {entry : TacticSummary} {path : String} (here : summary.tactics[i]? = some entry)
    (filed : entry.resultsPath = some path)
    (last : ∀ (j : Nat) (later : TacticSummary), i < j → summary.tactics[j]? = some later →
      later.resultsPath ≠ some path) : entry.Held path after.world := by
  obtain ⟨middle, rfl, course⟩ := sailed_of_mobilize run
  have departed : Spared places sound state.vessel.settings.tactics state.departed := { spared with }
  obtain ⟨begun, leg, stored⟩ := course.kept departed here filed last
  have member := List.mem_of_getElem? leg
  obtain ⟨inside, rfl⟩ := List.getElem?_eq_some_iff.mp here
  obtain ⟨inside', same⟩ := List.getElem?_eq_some_iff.mp leg
  have own := course.entered.get inside inside'
  simp only [List.get_eq_getElem, same] at own
  refine own.held filed stored small ?_ (back begun member)
  rw [course.now member]
  exact clock

/-- The results on disk are those that were reported. A file that an entry names stands at the end of
the run and loads as a tactic with the name, the counts and the outcome of the entry, unless a later
entry names the same file; entries that name one file are about tactics of one name. -/
theorem mobilize_kept {state after : Voyage} {summary : RunSummary}
    (run : mobilize state = (.done (.ok summary), after)) {places : Location → Prop}
    {sound : Table Change → Bench → Prop}
    (spared : Spared places sound state.vessel.settings.tactics state)
    (small : ∀ name strikes, state.vessel.armory.strikes? name = some strikes →
      strikes.length < Nat.pow 2 32)
    (clock : Moment.parse state.world.now.text = some state.world.now)
    (back : ∀ begun, .ran begun ∈ state.ownLegs →
      state.vessel.settings.output.ReadsBack
        (begun.left.tactic.record begun.left.world).toJson) :
    (∀ (i : Nat) (entry : TacticSummary) (path : String), summary.tactics[i]? = some entry →
      entry.resultsPath = some path →
      (∀ (j : Nat) (later : TacticSummary), i < j → summary.tactics[j]? = some later →
        later.resultsPath ≠ some path) → entry.Held path after.world) ∧
    ∀ entry ∈ summary.tactics, ∀ other ∈ summary.tactics, ∀ path,
      entry.resultsPath = some path → other.resultsPath = some path →
        other.name = entry.name := by
  refine ⟨fun i entry path here filed last =>
      held_of_last run spared small clock back here filed last,
    fun entry member other member' path filed filed' => ?_⟩
  obtain ⟨middle, -, course⟩ := sailed_of_mobilize run
  exact name_eq_of_resultsPath (course.filed member filed) (course.filed member' filed')

end Voyage

def Leg.fits : Leg → Bool
  | .ran begun =>
    (begun.left.tactic.record begun.left.world).toJson.fits Json.Reader.greatestDepth
  | .skipped => true
  | .unknown => true

namespace Voyage

def AllHeld (state : Voyage) : Prop :=
  ∀ summary after, mobilize state = (.done (.ok summary), after) →
    ∀ entry ∈ summary.tactics, ∀ path, entry.resultsPath = some path →
      entry.Held path after.world

def repeated : Voyage :=
  { world := {}
    vessel := {
      settings := {
        serviceName := "svc", tactics := ["t", "t"], writeDirectory := "out", output := .json }
      armory := .ofList [("t", [Execution.passing "s" "first" []])]
      executed := ⟨0⟩ } }

theorem repeated_strikes {name : String} {strikes : List Strike}
    (known : repeated.vessel.armory.strikes? name = some strikes) :
    strikes = [Execution.passing "s" "first" []] := by
  cases List.mem_singleton.mp (Armory.mem_of_strikes?_ofList known)
  rfl

/-- No change is ever made, and so neither the body nor a revert touches a file. -/
theorem spared_repeated : Spared (fun _ => True) (fun changes _ => changes = {})
    repeated.vessel.settings.tactics repeated where
  covers := fun _ _ _ _ _ _ => trivial
  fine := rfl
  bodies name strikes known strike member context := by
    rw [repeated_strikes known, List.mem_singleton] at member
    subst member
    exact fun world fine => ⟨fine, .refl _ _⟩
  reverts ref world none := by
    have fresh : world.change ref = default := by
      rw [World.change, none]
      rfl
    rw [Change.revert_idle (by rw [fresh]; rfl) (by rw [fresh]; rfl)]
    exact ⟨none, .refl _ _⟩

theorem readsBack_repeated (begun : Execution) (member : .ran begun ∈ repeated.ownLegs) :
    repeated.vessel.settings.output.ReadsBack
      (begun.left.tactic.record begun.left.world).toJson := by
  have each : repeated.ownLegs.all Leg.fits = true := by decide +kernel
  exact OutputFormat.readsBack_json (List.all_eq_true.mp each _ member)

theorem short_repeated (name : String) (strikes : List Strike)
    (known : repeated.vessel.armory.strikes? name = some strikes) :
    strikes.length < Nat.pow 2 32 := by
  rw [repeated_strikes known]
  decide

theorem twice_repeated : ∃ summary after first second,
    mobilize repeated = (.done (.ok summary), after) ∧ summary.tactics = [first, second] ∧
      (∀ j later, 1 < j → summary.tactics[j]? ≠ some later) ∧
      first.attempts = 1 ∧ first.resultsPath = some "out/svc/t.json" ∧
      second.attempts = 0 ∧ second.resultsPath = some "out/svc/t.json" := by
  have twice : (mobilize repeated).1.map (Except.map fun summary =>
      summary.tactics.map fun entry => (entry.attempts, entry.resultsPath)) = .done (.ok
        [(1, some "out/svc/t.json"), (0, some "out/svc/t.json")]) := by
    decide +kernel
  obtain ⟨summary, after, run, entries⟩ := Outcome.exists_of_map_eq_ok twice
  obtain ⟨first, rest, split, once, later⟩ := List.map_eq_cons_iff.mp entries
  obtain ⟨second, none, rfl, again, last⟩ := List.map_eq_cons_iff.mp later
  obtain rfl := List.map_eq_nil_iff.mp last
  refine ⟨summary, after, first, second, run, split, fun j later behind => ?_,
    congrArg Prod.fst once, congrArg Prod.snd once, congrArg Prod.fst again,
    congrArg Prod.snd again⟩
  rw [split, List.getElem?_eq_none (by simp; omega)]
  nofun

theorem mobilize_kept_repeated :
    ∃ summary after entry path, mobilize repeated = (.done (.ok summary), after) ∧
      summary.tactics[1]? = some entry ∧ entry.resultsPath = some path ∧
      entry.Held path after.world := by
  obtain ⟨summary, after, first, second, run, split, last, -, -, -, filed⟩ := twice_repeated
  have here : summary.tactics[1]? = some second := by simp [split]
  have held := (mobilize_kept run spared_repeated short_repeated (by decide +kernel)
    readsBack_repeated).1 1 second _ here filed fun j later behind found _ =>
      last j later behind found
  exact ⟨summary, after, second, _, run, here, filed, held⟩

/-- The second time every strike is skipped, and the results of the first time are written over. -/
theorem not_allHeld_repeated : ¬AllHeld repeated := by
  obtain ⟨summary, after, first, second, run, split, last, once, filed, none, filed'⟩ :=
    twice_repeated
  have here : summary.tactics[1]? = some second := by simp [split]
  obtain ⟨left, _, load, counts, -⟩ := held_of_last run spared_repeated short_repeated
    (by decide +kernel) readsBack_repeated here filed' fun j later behind found _ =>
      last j later behind found
  intro held
  obtain ⟨left', _, load', counts', -⟩ := held summary after run first (by simp [split]) _ filed
  obtain ⟨rfl, -⟩ : left = left' ∧ _ := by simpa [load] using load'
  have same : second.attempts = first.attempts :=
    congrArg (·.2.1) (counts.symm.trans counts')
  rw [none, once] at same
  cases same

end Voyage

end Raid
