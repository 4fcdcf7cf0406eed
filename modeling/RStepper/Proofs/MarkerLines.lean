import Mathlib.Data.List.TakeWhile
import RStepper.Proofs.ResponseEnd

/-! The lines that report something, and that a line reports one thing only: no mark begins another, and no trace line
both enters and exits. -/

namespace RStepper.Marker
open Text

/-- A line that reports something. The program's own output is made of the others. -/
def isMarker (line : Line) : Bool :=
  isEntering line || isReturning line || isCurrentLine line || isTraceEntry line || isTraceExit line

def Silent (test : Line → Bool) (lines : List Line) : Prop :=
  ∀ line ∈ lines, test line = false

theorem Silent.nil (test : Line → Bool) : Silent test [] := nofun

theorem silent_cons {test : Line → Bool} {line : Line} {more : List Line} :
    Silent test (line :: more) ↔ test line = false ∧ Silent test more :=
  List.forall_mem_cons

theorem silent_append {test : Line → Bool} {upper lower : List Line} :
    Silent test (upper ++ lower) ↔ Silent test upper ∧ Silent test lower :=
  List.forall_mem_append

theorem Silent.any {test : Line → Bool} {lines : List Line} (silent : Silent test lines) (index : Nat) :
    lines[index]?.any test = false := by
  cases seen : lines[index]? with
  | none => rfl
  | some line => exact silent line (List.mem_of_getElem? seen)

/-- Program output shows no marker of any sort. -/
def Plain (lines : List Line) : Prop :=
  Silent isMarker lines

section
variable {lines : List Line} (plain : Plain lines)
include plain

private theorem Plain.apart (line : Line) (member : line ∈ lines) :
    isEntering line = false ∧ isReturning line = false ∧ isCurrentLine line = false ∧ isTraceEntry line = false ∧
      isTraceExit line = false := by
  have silent := plain line member
  simp only [isMarker, Bool.or_eq_false_iff] at silent
  obtain ⟨⟨⟨⟨enters, returns⟩, current⟩, entry⟩, exits⟩ := silent
  exact ⟨enters, returns, current, entry, exits⟩

theorem Plain.entering : Silent isEntering lines := fun line member => (plain.apart line member).1
theorem Plain.returning : Silent isReturning lines := fun line member => (plain.apart line member).2.1
theorem Plain.current : Silent isCurrentLine lines := fun line member => (plain.apart line member).2.2.1
theorem Plain.traceEntry : Silent isTraceEntry lines := fun line member => (plain.apart line member).2.2.2.1
theorem Plain.traceExit : Silent isTraceExit lines := fun line member => (plain.apart line member).2.2.2.2

end

theorem plain_singleton {line : Line} (plain : isMarker line = false) : Plain [line] :=
  silent_cons.mpr ⟨plain, .nil _⟩

/-- Two marks of which neither begins the other never start the same line. -/
theorem startsWith_apart {mark other : String} {line : Line} (starts : startsWith mark line = true)
    (apart : mark.toList.isPrefixOf other.toList = false) (apart' : other.toList.isPrefixOf mark.toList = false) :
    startsWith other line = false := by
  apply Bool.eq_false_iff.mpr
  intro both
  have first : mark.toList <+: line := List.isPrefixOf_iff_prefix.mp starts
  have second : other.toList <+: line := List.isPrefixOf_iff_prefix.mp both
  rcases List.prefix_or_prefix_of_prefix first second with inside | inside
  · exact absurd (List.isPrefixOf_iff_prefix.mpr inside) (by simp [apart])
  · exact absurd (List.isPrefixOf_iff_prefix.mpr inside) (by simp [apart'])

theorem startsWith_of_isTracing {ending : String} {line : Line} (traces : isTracing ending line = true) :
    startsWith tracingMark line = true := by
  unfold isTracing stripStart at traces
  obtain ⟨rest, seen, _⟩ := (Option.any_eq_true ..).mp traces
  exact List.isPrefixOf_iff_prefix.mpr ⟨rest, List.isPrefixOf?_eq_some_iff_append_eq.mp seen⟩

theorem isTracing_eq_false {ending mark : String} {line : Line} (starts : startsWith mark line = true)
    (apart : mark.toList.isPrefixOf tracingMark.toList = false)
    (apart' : tracingMark.toList.isPrefixOf mark.toList = false) : isTracing ending line = false := by
  apply Bool.eq_false_iff.mpr
  intro traces
  exact absurd (startsWith_of_isTracing traces) (by simp [startsWith_apart starts apart apart'])

theorem isEntering_of_isTracing {ending : String} {line : Line} (traces : isTracing ending line = true) :
    isEntering line = false :=
  startsWith_apart (startsWith_of_isTracing traces) (by decide) (by decide)

theorem isEntering_of_isReturning {line : Line} (returns : isReturning line = true) : isEntering line = false :=
  startsWith_apart returns (by decide) (by decide)

theorem isTraceExit_of_isReturning {line : Line} (returns : isReturning line = true) : isTraceExit line = false :=
  isTracing_eq_false returns (by decide) (by decide)

theorem apart_of_isCurrentLine {line : Line} (current : isCurrentLine line = true) :
    isEntering line = false ∧ ∀ ending, isTracing ending line = false := by
  simp only [isCurrentLine, isUnnumbered, Bool.or_eq_true] at current
  rcases current with (starts | starts) | starts
  all_goals
    refine ⟨startsWith_apart starts (by decide) (by decide), ?_⟩
    intro ending
    exact isTracing_eq_false starts (by decide) (by decide)

theorem isTraceExit_of_isTraceEntry {line : Line} (entry : isTraceEntry line = true) : isTraceExit line = false := by
  apply Bool.eq_false_iff.mpr
  intro exits
  unfold isTraceEntry isTracing at entry
  unfold isTraceExit isTracing at exits
  obtain ⟨rest, seen, first⟩ := (Option.any_eq_true ..).mp entry
  rw [seen, Option.any_some] at exits
  have second : exitEnd.toList <:+ _ := List.isSuffixOf_iff_suffix.mp exits
  rcases List.suffix_or_suffix_of_suffix (List.isSuffixOf_iff_suffix.mp first) second with inside | inside
  · exact absurd (List.isSuffixOf_iff_suffix.mpr inside) (by decide)
  · exact absurd (List.isSuffixOf_iff_suffix.mpr inside) (by decide)

end RStepper.Marker
