import SocketReactor.Fault
import SocketReactor.Table

/-!
# Fault reports

A report collects what is known of an error: a code, a message, the call that
failed, and a stack of frames, the innermost first. Reports can be merged, which
moves one into another. `Report.Change` lists the ways to change named reports.
-/

namespace SocketReactor

structure Report where
  code : Int32
  message : String
  hint : Option String
  stack : List String
  deriving DecidableEq, Repr

namespace Report

def empty : Report := ⟨0, "", none, []⟩

instance : Inhabited Report := ⟨empty⟩

def isSet (report : Report) : Bool := report.code ≠ 0 || report.message ≠ ""

/-- Records an error; its message becomes the outermost frame. -/
def set (report : Report) (code : Int32) (message hint : String) : Report :=
  ⟨code, message, some hint, report.stack ++ [message]⟩

def push (report : Report) (frame : String) : Report :=
  { report with stack := report.stack ++ [frame] }

/-- Moves `inner` into a report: the frames of `inner` come first. Gives what the
two reports are afterwards. -/
def merge (outer inner : Report) : Report × Report :=
  (⟨inner.code, inner.message, inner.hint, inner.stack ++ outer.stack⟩, empty)

def ofFault (fault : Fault) : Report :=
  let code := match fault.errno? with
    | some errno => errno.code
    | none => -1
  empty.set code fault.message fault.hint

def text (report : Report) : String :=
  let hint := match report.hint with
    | some hint => "hint: " ++ hint ++ "\n"
    | none => ""
  "error code: " ++ Numeral.signed report.code.toInt ++ ", message: " ++ report.message ++ "\n" ++
    hint ++ "stack:\n" ++ String.join (report.stack.map fun frame => "  > " ++ frame ++ "\n")

/-- Reports under names; a name never used stands for the empty report. -/
abbrev Named := Table String Report

def Named.get (reports : Named) (name : String) : Report := (reports.get? name).getD empty

inductive Change where
  /-- The report becomes empty. -/
  | reset
  /-- An error is recorded. -/
  | set (code : Int32) (message hint : String)
  /-- A frame is added. -/
  | push (frame : String)
  /-- Everything recorded is dropped. -/
  | clear
  /-- The report becomes that of a fault. -/
  | assign (fault : Fault)
  /-- Another name gets a copy of the report. -/
  | copyTo (name : String)
  /-- The report under another name is moved into this one. -/
  | merge (source : String)
  deriving DecidableEq, Repr

def Named.change (reports : Named) (name : String) : Change → Named
  | .reset => reports.insert name empty
  | .set code message hint => reports.insert name ((Named.get reports name).set code message hint)
  | .push frame => reports.insert name ((Named.get reports name).push frame)
  | .clear => reports.insert name empty
  | .assign fault => reports.insert name (ofFault fault)
  | .copyTo other => reports.insert other (Named.get reports name)
  | .merge source =>
      let (outer, inner) := (Named.get reports name).merge (Named.get reports source)
      (reports.insert name outer).insert source inner

end Report

end SocketReactor
