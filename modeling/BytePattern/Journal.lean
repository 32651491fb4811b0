/-!
# Journals

Operations that report what they did note records of five levels beside their value. A `Logged`
value carries its records in the order in which they were noted.
-/

namespace BytePattern

/-- How much a record matters, the most urgent first. -/
inductive Level where
  | error
  | warn
  | info
  | debug
  | trace
deriving DecidableEq, Repr

namespace Level

def text : Level → String
  | .error => "ERROR"
  | .warn => "WARN"
  | .info => "INFO"
  | .debug => "DEBUG"
  | .trace => "TRACE"

def rank : Level → Nat
  | .error => 1
  | .warn => 2
  | .info => 3
  | .debug => 4
  | .trace => 5

end Level

structure Record where
  level : Level
  message : String
deriving DecidableEq, Repr

/-- The lines of a message; all but the first are indented. -/
def Record.lines (entry : Record) : List String :=
  match entry.message.splitOn "\n" with
  | [] => []
  | first :: rest => first :: rest.map ("    " ++ ·)

/-- A value and the records noted while it was computed. -/
structure Logged (α : Type) where
  value : α
  records : List Record

namespace Logged

variable {α β : Type}

instance : Monad Logged where
  pure value := ⟨value, []⟩
  bind first continuation :=
    let second := continuation first.value
    ⟨second.value, first.records ++ second.records⟩

@[simp] theorem value_pure (value : α) : (pure value : Logged α).value = value := rfl

@[simp] theorem value_bind (first : Logged α) (continuation : α → Logged β) :
    (first >>= continuation).value = (continuation first.value).value := rfl

def record (entry : Record) : Logged Unit :=
  ⟨(), [entry]⟩

@[simp] theorem value_record (entry : Record) : (record entry).value = () := rfl

def note (level : Level) (message : String) : Logged Unit :=
  ⟨(), [⟨level, message⟩]⟩

def noteAll (level : Level) (messages : List String) : Logged Unit :=
  ⟨(), messages.map fun message => ⟨level, message⟩⟩

@[simp] theorem value_noteAll (level : Level) (messages : List String) :
    (noteAll level messages).value = () := rfl

@[simp] theorem value_note (level : Level) (message : String) : (note level message).value = () :=
  rfl

end Logged

end BytePattern
