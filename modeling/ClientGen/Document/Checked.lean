import ClientGen.Document.Fault

/-!
# Values that are checked

A document is read in one go, and every fault of it is reported. [Checked] is a value that was read
or all faults that were found; when two parts are put together the faults of both are kept, those of
the first part in front ([Checked.seq]).
-/

namespace ClientGen.Document

/-- A value that was read, or the faults that were found. -/
inductive Checked (α : Type) where
  | sound (value : α)
  | faulty (faults : List Fault)
  deriving Repr

namespace Checked

variable {α β : Type}

/-- The value passed on to a function. -/
def map (f : α → β) : Checked α → Checked β
  | sound a => sound (f a)
  | faulty fs => faulty fs

/-- A function and its argument put together. -/
def seq : Checked (α → β) → Checked α → Checked β
  | sound f, sound a => sound (f a)
  | sound _, faulty fs => faulty fs
  | faulty fs, sound _ => faulty fs
  | faulty fs, faulty gs => faulty (fs ++ gs)

instance : Applicative Checked where
  pure := sound
  map := map
  seq f a := seq f (a ())

/-- A single fault at the place itself. -/
def fault (kind : FaultKind) : Checked α := faulty [⟨[], kind⟩]

/-- The faults as seen from one step further out. -/
def behind (step : Step) : Checked α → Checked α
  | sound a => sound a
  | faulty fs => faulty (fs.map fun f => { f with path := step :: f.path })

/-- The value, or the faults as an error. -/
def toExcept : Checked α → Except (List Fault) α
  | sound a => .ok a
  | faulty fs => .error fs

@[simp] theorem map_eq (f : α → β) (x : Checked α) : f <$> x = x.map f := rfl

@[simp] theorem seq_eq (f : Checked (α → β)) (x : Checked α) : f <*> x = f.seq x := rfl

@[simp] theorem seq_sound (f : α → β) (a : α) : (sound f).seq (sound a) = sound (f a) := rfl

@[simp] theorem map_sound (f : α → β) (a : α) : (sound a).map f = sound (f a) := rfl

@[simp] theorem behind_sound (step : Step) (a : α) : (sound a).behind step = sound a := rfl

end Checked

end ClientGen.Document
