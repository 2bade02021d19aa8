/-
Bookmarks: instants a host has marked by name, in the order in which the names first came.
-/
import BadgeEngine.Entries
import BadgeEngine.Problem

namespace BadgeEngine

open BadgeEngine.Time

/-- marked instants in order -/
structure Bookmarks where
  entries : List (String × Instant) := []

namespace Bookmarks

def get? (b : Bookmarks) (name : String) : Option Instant :=
  b.entries.lookup name

def set (b : Bookmarks) (name : String) (t : Instant) : Bookmarks :=
  ⟨Entries.put name t b.entries⟩

def clear (b : Bookmarks) (name : String) : Bookmarks :=
  ⟨Entries.remove name b.entries⟩

def toValue (b : Bookmarks) : Value :=
  .dict (b.entries.map fun e => (.ofText e.1, .ofText (instantText e.2)))

end Bookmarks

end BadgeEngine
