/-!
# Labelled values

A table of values under labels.  It keeps the order in which the labels were
first used; a new value under a label that is in use takes the place of the
old one.
-/

namespace Reactor

structure Labelled (α : Type) where
  entries : List (String × α)

namespace Labelled

variable {α : Type}

def empty : Labelled α :=
  ⟨[]⟩

instance : Inhabited (Labelled α) :=
  ⟨empty⟩

def labels (table : Labelled α) : List String :=
  table.entries.map (·.1)

def values (table : Labelled α) : List α :=
  table.entries.map (·.2)

def find? (table : Labelled α) (label : String) : Option α :=
  table.entries.lookup label

def contains (table : Labelled α) (label : String) : Bool :=
  table.entries.any fun entry => entry.1 = label

def insert (table : Labelled α) (label : String) (value : α) : Labelled α :=
  if table.contains label then
    ⟨table.entries.map fun entry =>
      if entry.1 = label then (label, value) else entry⟩
  else
    ⟨table.entries ++ [(label, value)]⟩

def erase (table : Labelled α) (label : String) : Labelled α :=
  ⟨table.entries.filter fun entry => entry.1 ≠ label⟩

/-- Change the value under a label, if there is one. -/
def modify (table : Labelled α) (label : String) (f : α -> α) : Labelled α :=
  ⟨table.entries.map fun entry =>
    if entry.1 = label then (label, f entry.2) else entry⟩

end Labelled

end Reactor
