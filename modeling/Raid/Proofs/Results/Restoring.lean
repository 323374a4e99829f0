import Raid.Proofs.Results.Loading

/-!
The tactic that is made from a record tells what the record does, down to its changes. Each change
becomes a new object of the table of changes, and what was made before stays as it is while the
table grows.
-/

namespace Raid

open Act

namespace Table

variable {α : Type} [Inhabited α] {first second third : Table α}

structure Extends (before after : Table α) : Prop where
  size : before.size ≤ after.size
  kept : ∀ ref : Ref α, ref.index < before.size → after.get ref = before.get ref

namespace Extends

theorem refl (table : Table α) : Extends table table := ⟨Nat.le_refl _, fun _ _ => rfl⟩

theorem trans (begun : Extends first second) (ended : Extends second third) :
    Extends first third where
  size := Nat.le_trans begun.size ended.size
  kept ref inside :=
    (ended.kept ref (Nat.lt_of_lt_of_le inside begun.size)).trans (begun.kept ref inside)

theorem add (table : Table α) (value : α) : Extends table (table.add value).2 where
  size := Nat.le_succ _
  kept _ inside := get_add_of_ne table value (Nat.ne_of_lt inside)

end Extends

end Table

/-- The work makes changes and leaves files alone. What it comes to reads as `wanted`, now and when
more changes are made. -/
def Recreates {β γ : Type} (work : Task β) (view : (Ref Change → Change) → β → γ) (wanted : γ) :
    Prop :=
  ∀ world, ∃ made after, work world = (.done made, after) ∧ after.files = world.files ∧
    world.changes.Extends after.changes ∧
    ∀ table : Table Change, after.changes.Extends table → view table.get made = wanted

section

variable {α β γ δ ε : Type} {view : (Ref Change → Change) → β → γ}

theorem recreates_newChange (change : Change) :
    Recreates (Task.newChange change) (fun look ref => look ref) change := by
  intro world
  refine ⟨_, _, rfl, rfl, .add _ _, fun table grown => ?_⟩
  exact (grown.kept _ (Nat.lt_succ_self _)).trans (Table.get_add_self _ _)

theorem Recreates.map {work : Task β} {wanted : γ} (recreates : Recreates work view wanted)
    (make : β → δ) (view' : (Ref Change → Change) → δ → ε) (read : γ → ε)
    (same : ∀ look made, view' look (make made) = read (view look made)) :
    Recreates (work >>= fun made => pure (make made)) view' (read wanted) := by
  intro world
  obtain ⟨made, after, run, files, grown, reads⟩ := recreates world
  refine ⟨make made, after, ?_, files, grown, fun table grown' => ?_⟩
  · rw [bind_apply, run]
    rfl
  · rw [same, reads table grown']

theorem recreates_forEach {work : α → Task β} {wanted : α → γ}
    (each : ∀ item, Recreates (work item) view (wanted item)) (items : List α) :
    Recreates (forEach work items) (fun look made => made.map (view look)) (items.map wanted) := by
  induction items with
  | nil => exact fun world => ⟨[], world, rfl, rfl, .refl _, fun _ _ => rfl⟩
  | cons item rest ih =>
    intro world
    obtain ⟨made, middle, run, files, grown, reads⟩ := each item world
    obtain ⟨others, after, run', files', grown', reads'⟩ := ih middle
    refine ⟨made :: others, after, ?_, files'.trans files, grown.trans grown', fun table later => ?_⟩
    · simp only [forEach, bind_apply, run, run', pure_apply]
    · exact congrArg₂ List.cons (reads table (grown'.trans later)) (reads' table later)

theorem Dict.recreates_forEachValue {work : α → Task β} {wanted : α → γ}
    (each : ∀ item, Recreates (work item) view (wanted item)) (dict : Dict α) :
    Recreates (dict.forEachValue work) (fun look made => made.map (view look))
      (dict.map wanted) := by
  intro world
  have entries := recreates_forEach
    (fun entry : String × α => (each entry.2).map (fun made => (entry.1, made))
      (fun look made => (made.1, view look made.2)) (fun value => (entry.1, value))
      fun _ _ => rfl) dict.entries
  obtain ⟨pairs, after, run, files, grown, reads⟩ := entries world
  have keys : pairs.map Prod.fst = dict.entries.map Prod.fst := by
    have own := congrArg (List.map Prod.fst) (reads after.changes (.refl _))
    simpa only [List.map_map, Function.comp_def] using own
  have sorted : pairs.Pairwise fun a b => a.1 < b.1 := by
    apply List.pairwise_map.mp
    rw [keys]
    exact List.pairwise_map.mpr dict.sorted
  refine ⟨⟨pairs, sorted⟩, after, ?_, files, grown, fun table later => ?_⟩
  · simp only [forEachValue, bind_apply, run, pure_apply]
    rw [Dict.ofList_entries ⟨pairs, sorted⟩]
  · exact Dict.eq_of_entries (reads table later)

end

theorem MovementReport.recreates_restored (report : MovementReport ChangeRecord) :
    Recreates report.restored (fun look (made : MovementReport (Ref Change)) => made.map look)
      (report.map ChangeRecord.toChange) := by
  have changes := Dict.recreates_forEachValue
    (fun record : ChangeRecord => recreates_newChange record.toChange) report.changes
  exact changes.map (fun changes => ({ report with changes } : MovementReport (Ref Change))) _
    (fun changes => ({ report with changes } : MovementReport Change)) fun _ _ => rfl

theorem StrikeReport.recreates_restored (report : StrikeReport ChangeRecord) :
    Recreates report.restored (fun look (made : StrikeReport (Ref Change)) => made.map look)
      (report.map ChangeRecord.toChange) := by
  have movements := Dict.recreates_forEachValue MovementReport.recreates_restored report.movements
  exact movements.map (fun movements => ({ report with movements } : StrikeReport (Ref Change))) _
    (fun movements => ({ report with movements } : StrikeReport Change)) fun _ _ => rfl

def TacticReport.map {χ ψ : Type} (f : χ → ψ) (report : TacticReport χ) : TacticReport ψ :=
  { report with strikeResults := report.strikeResults.map (StrikeReport.map f) }

/-- The tactic that is made from a record tells what the record does, with the changes that the
records of changes make. -/
theorem TacticReport.restored_reports (report : TacticReport ChangeRecord) (world : World) :
    ∃ tactic after, report.restored world = (.done tactic, after) ∧ after.files = world.files ∧
      tactic.reportWith after.change = report.map ChangeRecord.toChange := by
  have results := Dict.recreates_forEachValue
    (fun strike : StrikeReport ChangeRecord => strike.recreates_restored.map
      (fun made => ({ report := made } : StrikeResult)) (fun look result => result.report.map look)
      id fun _ _ => rfl)
    report.strikeResults
  obtain ⟨strikeResults, after, run, files, -, reads⟩ := results world
  simp only [restored, bind_apply, run]
  refine ⟨_, _, rfl, files, ?_⟩
  exact congrArg (fun strikeResults => { report with strikeResults })
    (reads after.changes (.refl _))

end Raid
