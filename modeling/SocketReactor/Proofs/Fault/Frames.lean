import Mathlib.Logic.Function.Basic
import SocketReactor.Fault.Report

/-!
# The frames of reports

Reports under names are changed one after the other, and merging moves one into another.
`Frames.change` says what a change makes of the frames alone, as lists under names: `frames_changes`
follows the frames of any number of reports through any script.  What becomes of a report as a
whole when it is merged, and that it does not matter which of three reports are merged first, comes
from `merge_assoc` and `merge_empty`.
-/

namespace SocketReactor.Report

/-! ## Two reports -/

/-- A report that is moved through another comes out as if that one had been moved before. -/
theorem merge_assoc (outer middle inner : Report) :
    (outer.merge (middle.merge inner).1).1 = ((outer.merge middle).1.merge inner).1 := by
  simp only [merge, List.append_assoc]

/-- The report of no error takes another over as it is. -/
theorem merge_empty (inner : Report) : empty.merge inner = (inner, empty) := by
  simp only [merge, empty, List.append_nil]

/-! ## Reports under names -/

namespace Named

def changes (reports : Named) (script : List (String × Change)) : Named :=
  script.foldl (fun changed step => change changed step.1 step.2) reports

def frames (reports : Named) (name : String) : List String := (get reports name).stack

theorem get_insert (reports : Named) (name other : String) (report : Report) :
    get (reports.insert name report) other = if other = name then report else get reports other := by
  unfold get
  rw [Table.get?_insert]
  split <;> rfl

theorem frames_insert (reports : Named) (name : String) (report : Report) :
    frames (reports.insert name report) = Function.update (frames reports) name report.stack := by
  funext other
  rw [frames, get_insert, Function.update_apply]
  split <;> rfl

/-- The source is emptied last, whatever its name. -/
theorem get_merge (reports : Named) (target source other : String) :
    get (change reports target (.merge source)) other =
      if other = source then empty
      else if other = target then ((get reports target).merge (get reports source)).1
      else get reports other := by
  simp only [change, merge, get_insert]

end Named

/-! ## Frames under names -/

/-- Lists of frames under names, the innermost frame first. -/
abbrev Frames := String → List String

namespace Frames

/-- Recording an error and adding a frame append one frame.  Merging puts the frames of the source
in front and leaves it none. -/
def change (frames : Frames) (name : String) : Change → Frames
  | .reset | .clear => Function.update frames name []
  | .set _ message _ => Function.update frames name (frames name ++ [message])
  | .push frame => Function.update frames name (frames name ++ [frame])
  | .assign fault => Function.update frames name [fault.message]
  | .copyTo other => Function.update frames other (frames name)
  | .merge source =>
      Function.update (Function.update frames name (frames source ++ frames name)) source []

def changes (frames : Frames) (script : List (String × Change)) : Frames :=
  script.foldl (fun changed step => changed.change step.1 step.2) frames

end Frames

namespace Named

/-- A change does to the frames of reports what it does to lists of frames. -/
theorem frames_change (reports : Named) (name : String) (made : Change) :
    frames (change reports name made) = Frames.change (frames reports) name made := by
  cases made with
  | reset | clear | set | push | assign | copyTo => exact frames_insert reports _ _
  | merge source =>
      change frames ((reports.insert name _).insert source empty) = _
      rw [frames_insert, frames_insert]
      rfl

/-- So does a script, by induction on it. -/
theorem frames_changes (script : List (String × Change)) (reports : Named) :
    frames (changes reports script) = Frames.changes (frames reports) script := by
  induction script generalizing reports with
  | nil => rfl
  | cons step rest ih =>
      calc frames (changes reports (step :: rest))
          = Frames.changes (frames (change reports step.1 step.2)) rest := ih _
        _ = Frames.changes (frames reports) (step :: rest) := by
            rw [frames_change]
            rfl

/-- Of three reports, the innermost two may be merged first or last. -/
theorem get_merge_merge {outer middle inner : String} (apart : outer ≠ middle)
    (far : outer ≠ inner) (near : middle ≠ inner) (reports : Named) (name : String) :
    get (changes reports [(middle, .merge inner), (outer, .merge middle)]) name =
      get (changes reports [(outer, .merge middle), (outer, .merge inner)]) name := by
  change get (change (change reports middle (.merge inner)) outer (.merge middle)) name =
    get (change (change reports outer (.merge middle)) outer (.merge inner)) name
  simp only [get_merge, if_neg apart, if_neg far, if_neg near, if_neg far.symm, if_neg near.symm,
    if_true]
  by_cases last : name = inner
  · have passed : name ≠ middle ∧ name ≠ outer := last ▸ ⟨near.symm, far.symm⟩
    rw [if_neg passed.1, if_neg passed.2, if_pos last, if_pos last]
  · by_cases first : name = outer
    · have passed : name ≠ middle := first ▸ apart
      rw [if_neg passed, if_pos first, if_neg last, if_pos first, merge_assoc]
    · rw [if_neg last, if_neg first, if_neg last, if_neg first]
      split <;> rfl

/-- After any script the frames of each report are those that were appended to it, moved into it
and not dropped.  A report that is merged into another is empty afterwards, and the other has its
code, message and hint; no third report is touched.  The order of two merges into one report does
not matter, and a report that is merged into an empty one is moved there unchanged. -/
theorem merged_reports_keep_frames :
    (∀ script name, (get (changes ∅ script) name).stack = Frames.changes (fun _ => []) script name) ∧
    (∀ (reports : Named) target source, target ≠ source →
      get (change reports target (.merge source)) source = empty ∧
      (get (change reports target (.merge source)) target).code = (get reports source).code ∧
      (get (change reports target (.merge source)) target).message =
        (get reports source).message ∧
      (get (change reports target (.merge source)) target).hint = (get reports source).hint ∧
      ∀ other, other ≠ target → other ≠ source →
        get (change reports target (.merge source)) other = get reports other) ∧
    (∀ (reports : Named) outer middle inner, outer ≠ middle → outer ≠ inner → middle ≠ inner →
      ∀ name, get (changes reports [(middle, .merge inner), (outer, .merge middle)]) name =
        get (changes reports [(outer, .merge middle), (outer, .merge inner)]) name) ∧
    ∀ (reports : Named) fresh source, fresh ≠ source → get reports fresh = empty →
      get (change reports fresh (.merge source)) fresh = get reports source ∧
      get (change reports fresh (.merge source)) source = empty := by
  have emptied : ∀ (reports : Named) target source,
      get (change reports target (.merge source)) source = empty := by
    intro reports target source
    rw [get_merge, if_pos rfl]
  have moved : ∀ (reports : Named) target source, target ≠ source →
      get (change reports target (.merge source)) target =
        ((get reports target).merge (get reports source)).1 := by
    intro reports target source apart
    rw [get_merge, if_neg apart, if_pos rfl]
  refine ⟨?_, ?_, ?_, ?_⟩
  · intro script name
    exact congrFun (frames_changes script ∅) name
  · intro reports target source apart
    rw [moved reports target source apart]
    refine ⟨emptied reports target source, rfl, rfl, rfl, ?_⟩
    intro other past_target past_source
    rw [get_merge, if_neg past_source, if_neg past_target]
  · intro reports outer middle inner apart far near
    exact get_merge_merge apart far near reports
  · intro reports fresh source apart unset
    rw [moved reports fresh source apart, unset, merge_empty]
    exact ⟨rfl, emptied reports fresh source⟩

/-- A failure on its way up: the call recorded it, and two callers added where they were. -/
def failureScript : List (String × Change) :=
  [("server", .push "Server::start"), ("socket", .push "Socket::open"),
    ("call", .set 13 "bind failed" "bind")]

/-- The frames of a failure come out innermost first whichever reports are merged first, and a
report that was never used takes the failure over as it was recorded. -/
theorem innermost_frame_comes_first :
    ("server" ≠ "socket" ∧ "server" ≠ "call" ∧ "socket" ≠ "call" ∧ "fresh" ≠ "call") ∧
    get (changes ∅ failureScript) "fresh" = empty ∧
    (get (changes ∅ (failureScript ++ [("socket", .merge "call"), ("server", .merge "socket")]))
      "server").stack = ["bind failed", "Socket::open", "Server::start"] ∧
    (get (change (changes ∅ failureScript) "socket" (.merge "call")) "socket").hint =
      some "bind" ∧
    get (changes (changes ∅ failureScript) [("socket", .merge "call"), ("server", .merge "socket")])
        "server" =
      get (changes (changes ∅ failureScript)
        [("server", .merge "socket"), ("server", .merge "call")]) "server" ∧
    get (change (changes ∅ failureScript) "fresh" (.merge "call")) "fresh" =
      ⟨13, "bind failed", some "bind", ["bind failed"]⟩ := by
  obtain ⟨followed, taken_over, reordered, moved⟩ := merged_reports_keep_frames
  have apart : "server" ≠ "socket" ∧ "server" ≠ "call" ∧ "socket" ≠ "call" ∧ "fresh" ≠ "call" := by
    decide
  have unset : get (changes ∅ failureScript) "fresh" = empty := by decide
  have recorded : get (changes ∅ failureScript) "call" =
      ⟨13, "bind failed", some "bind", ["bind failed"]⟩ := by decide
  refine ⟨apart, unset, ?_, ?_, ?_, ?_⟩
  · rw [followed]
    decide
  · rw [(taken_over _ _ _ apart.2.2.1).2.2.2.1, recorded]
  · exact reordered _ _ _ _ apart.1 apart.2.1 apart.2.2.1 _
  · rw [(moved _ _ _ apart.2.2.2 unset).1, recorded]

end Named

end SocketReactor.Report
