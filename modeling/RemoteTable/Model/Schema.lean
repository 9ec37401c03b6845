import RemoteTable.Dict
import RemoteTable.Model.Entity

/-!
The registry of entity types.
-/

namespace RemoteTable

/-- Entity types by name. -/
structure Schema where
  entities : Dict Entity

namespace Schema

def empty : Schema := ⟨Dict.empty⟩

/-- Registers a type; one of the same name is replaced. -/
def register (s : Schema) (m : Entity) : Schema := ⟨s.entities.insert m.name m⟩

def ofList (l : List Entity) : Schema := l.foldl register empty

def get? (s : Schema) (entity : String) : Option Entity := s.entities.find? entity

end Schema

end RemoteTable
