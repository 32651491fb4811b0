import BytePattern.Journal

/-!
# Sessions

A session is what a run of the program shows: a text on its output, and notices beside it. It ends
early if something fails.
-/

namespace BytePattern.CommandLine

/-- What is shown beside the output: a line for the user, or a record of the journal. -/
inductive Notice where
  | line (text : String)
  | record (entry : Record)
deriving DecidableEq, Repr

/-- The lines of a notice. The first line of a record is kept apart with its level. -/
def Notice.lines : Notice → Option (Level × String) × List String
  | .line text => (none, text.splitOn "\n")
  | .record entry =>
    match entry.lines with
    | [] => (some (entry.level, ""), [])
    | first :: rest => (some (entry.level, first), rest)

/-- A value, or the reason why there is none, and what was shown on the way. -/
structure Session (α : Type) where
  value : Except String α
  output : String := ""
  notices : List Notice := []

namespace Session

variable {α β : Type}

instance : Monad Session where
  pure value := { value := .ok value }
  bind first continuation :=
    match first.value with
    | .error reason => { first with value := .error reason }
    | .ok value =>
      let second := continuation value
      { value := second.value
        output := first.output ++ second.output
        notices := first.notices ++ second.notices }

def print (text : String) : Session Unit :=
  { value := .ok (), output := text }

def say (text : String) : Session Unit :=
  { value := .ok (), notices := [.line text] }

def note (level : Level) (message : String) : Session Unit :=
  { value := .ok (), notices := [.record ⟨level, message⟩] }

/-- Ends the session. The reasons go from the outermost to the innermost. -/
def fail (reasons : List String) : Session α :=
  { value := .error (": ".intercalate reasons) }

def logged (entry : Logged α) : Session α :=
  { value := .ok entry.value, notices := entry.records.map .record }

end Session

end BytePattern.CommandLine
