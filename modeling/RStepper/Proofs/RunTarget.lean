import RStepper.Interpreter.Scripted
import RStepper.Proofs.StepIteration
import RStepper.Proofs.WatchedConditions

/-! A run to a target resumes the program with one breakpoint more. The two runs differ in what stands in their
breakpoints at the target only, and neither goes on from there. -/

namespace RStepper
variable {σ : Type}

namespace Breakpoints

/-- The breakpoints without a temporary one at any other position. -/
def temporaryOnlyAt (breakpoints : Breakpoints) (location : Location) : Breakpoints :=
  { breakpoints with temporary := breakpoints.temporary.filter (· = location) }

theorem hit_target (breakpoints : Breakpoints) (target : Location) :
    (breakpoints.setTemporary target).hit target = (some .stop, breakpoints.clearTemporary) := by
  simp [hit, setTemporary, clearTemporary]

theorem hit_setTemporary (breakpoints : Breakpoints) {target location : Location} (away : location ≠ target) :
    (breakpoints.setTemporary target).hit location =
      ((breakpoints.find? location).map Breakpoint.hit, breakpoints.setTemporary target) := by
  have unset : (breakpoints.setTemporary target).temporary ≠ some location := fun same => away (Option.some.inj same).symm
  rw [hit, if_neg unset]
  rfl

theorem stops_added (breakpoints : Breakpoints) (target : Location) :
    ((breakpoints.add target).hit target).1 = some .stop := by
  unfold hit
  split
  · rfl
  · rw [add, find?_insert, if_pos rfl]
    rfl

/-- With no temporary breakpoint but one at the target, what is met elsewhere is what was set before. -/
theorem hit_added (breakpoints : Breakpoints) {target location : Location} (away : location ≠ target) :
    ((breakpoints.temporaryOnlyAt target).add target).hit location =
      ((breakpoints.find? location).map Breakpoint.hit, (breakpoints.temporaryOnlyAt target).add target) := by
  have unset : ((breakpoints.temporaryOnlyAt target).add target).temporary ≠ some location := by
    intro set
    obtain ⟨_, there⟩ := Option.filter_eq_some_iff.mp set
    exact away (of_decide_eq_true there)
  rw [hit, if_neg unset, add, find?_insert, if_neg (Ne.symm away)]
  rfl

end Breakpoints

namespace Worker
variable [Interpreter σ]

/-- A leg to a target and the leg of a resumed run that has a breakpoint there end alike. Where they go on,
the breakpoints are as they were. -/
theorem leg_target (breakpoints : Breakpoints) (target : Location) (start : Nat) (debuggee : Debuggee σ) :
    let targeted := breakpoints.setTemporary target
    let added := (breakpoints.temporaryOnlyAt target).add target
    ∃ ended left behind moved, leg ⟨.resume, start, true⟩ targeted debuggee = (ended, left, moved) ∧
      leg ⟨.resume, start, false⟩ added debuggee = (ended, behind, moved) ∧
      left.clearTemporary = breakpoints.clearTemporary ∧ (ended = .ok .goOn → left = targeted ∧ behind = added) := by
  intro targeted added
  rw [leg_eq, leg_eq]
  rcases debuggee.advance with ⟨failure | moves, moved⟩
  · exact ⟨_, _, _, _, rfl, rfl, rfl, fun _ => ⟨rfl, rfl⟩⟩
  dsimp only
  split
  next goes =>
    by_cases there : moved.stack.location = target
    · -- Both stop at once, the one at its temporary breakpoint and the other at the breakpoint that was added.
      have stops : (added.hit moved.stack.location).1 = some .stop := there ▸ Breakpoints.stops_added _ target
      have found : targeted.hit moved.stack.location = (some .stop, breakpoints.clearTemporary) :=
        there ▸ breakpoints.hit_target target
      refine ⟨.ok (.arrived .breakpoint), breakpoints.clearTemporary, (added.hit moved.stack.location).2, moved, ?_, ?_, rfl, nofun⟩
      · rw [found]
        rfl
      · rw [stops]
        rfl
    · have found : targeted.hit moved.stack.location = _ := breakpoints.hit_setTemporary there
      have foundToo : added.hit moved.stack.location = _ := breakpoints.hit_added there
      rw [found, foundToo]
      exact ⟨_, _, _, _, rfl, rfl, rfl, fun _ => ⟨rfl, rfl⟩⟩
  next => exact ⟨_, _, _, _, rfl, rfl, rfl, fun _ => ⟨rfl, rfl⟩⟩

theorem step_ended {stopping : Bool} {run other : Run} {before after left behind : Breakpoints} {debuggee moved : Debuggee σ}
    {ended : Except Failure Leg} (ran : leg run before debuggee = (ended, left, moved))
    (ranToo : leg other after debuggee = (ended, behind, moved)) (ends : ended ≠ .ok .goOn) :
    let turn := step stopping run before debuggee
    let turnToo := step stopping other after debuggee
    turn.events = turnToo.events ∧ turn.worker = turnToo.worker ∧ turn.breakpoints = run.leave left := by
  intro turn turnToo
  simp only [turn, turnToo, step, ran, ranToo]
  rcases ended with failure | (_ | reason | _)
  · dsimp only
    split <;> exact ⟨rfl, rfl, rfl⟩
  · exact absurd rfl ends
  · exact ⟨rfl, rfl, rfl⟩
  · exact ⟨rfl, rfl, rfl⟩

theorem settle_target (stopping : Bool) (breakpoints : Breakpoints) (target : Location) (start : Nat) (debuggee : Debuggee σ) :
    let turn := settle stopping (breakpoints.setTemporary target) ⟨debuggee, .running ⟨.resume, start, true⟩⟩
    let resumed :=
      settle stopping ((breakpoints.temporaryOnlyAt target).add target) ⟨debuggee, .running ⟨.resume, start, false⟩⟩
    turn.events = resumed.events ∧ turn.worker = resumed.worker ∧ turn.breakpoints = breakpoints.clearTemporary := by
  obtain ⟨ended, left, behind, moved, ran, ranToo, kept, still⟩ := leg_target breakpoints target start debuggee
  by_cases goes : ended = .ok .goOn
  · obtain ⟨rfl, rfl⟩ := still goes
    subst goes
    have fewer := stepsLeft_leg_lt ran
    rw [settle_goOn ran, settle_goOn ranToo]
    exact settle_target stopping breakpoints target start moved
  · rw [settle_over fun _ _ goesOn => goes (congrArg Prod.fst (ran.symm.trans goesOn)),
      settle_over fun _ _ goesOn => goes (congrArg Prod.fst (ranToo.symm.trans goesOn))]
    obtain ⟨events, worker, leaves⟩ := step_ended ran ranToo goes
    exact ⟨events, worker, leaves.trans kept⟩
termination_by debuggee.stepsLeft

/-- A run to a target reports what a resumed run reports that has a breakpoint there without a condition,
and leaves the same frames, commands, answers and output behind. A temporary breakpoint set elsewhere gives
way to the target. However the run ends, no temporary breakpoint is left and all others are as before. -/
theorem runTo_eq_resume (stopping : Bool) (breakpoints : Breakpoints) (target : Location) (debuggee : Debuggee σ) :
    let worker : Worker σ := ⟨debuggee, .idle⟩
    let turn := worker.perform stopping breakpoints (.runTo target)
    let resumed := worker.perform stopping ((breakpoints.temporaryOnlyAt target).add target) (.run .resume)
    turn.events = resumed.events ∧ turn.worker = resumed.worker ∧
      turn.breakpoints.temporary = none ∧ turn.breakpoints.points = breakpoints.points := by
  intro worker turn resumed
  obtain ⟨events, same, left⟩ := settle_target stopping breakpoints target debuggee.stack.depth debuggee
  refine ⟨events, same, ?_, ?_⟩
  · exact (congrArg Breakpoints.temporary left :)
  · exact (congrArg Breakpoints.points left :)

/-- A temporary breakpoint on the way stops a resumed run, and a run to a target behind it does not stop there. -/
theorem temporary_passed :
    let worker : Worker Scripted := ⟨.start "a\nb\nc"
      ⟨[⟨"Filter(", .said "character(0)\nBrowse[1]> " ""⟩], List.replicate 3 (.said "Browse[1]> " ""), 0⟩, .idle⟩
    let breakpoints := Breakpoints.empty.setTemporary (.inScript 2)
    (worker.perform false breakpoints (.runTo (.inScript 3))).worker.debuggee.stack.location = .inScript 3 ∧
      (worker.perform false (breakpoints.add (.inScript 3)) (.run .resume)).worker.debuggee.stack.location = .inScript 2 := by
  decide +kernel

end Worker
end RStepper
