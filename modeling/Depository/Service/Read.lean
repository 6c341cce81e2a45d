import Depository.Service.Access
import Depository.Service.Records

/-!
# Reading storages

Whoever may view a workspace may view its storages; system storages may be viewed by everyone.

* `Service.read` — what an actor sees of the storage of an id;
* `Service.readAll` — what he sees of the storages of a workspace and of all system storages.
-/

namespace Depository

namespace Service

open Operation (lift)

/-- What an actor sees of the storage of an id. -/
def read (actor : Actor) (id : Cell) : Operation View := do
  let s ← get id
  unless s.isShared do requireView s.workspaceId actor .view
  view actor s

/-- What an actor sees of the storages of a workspace. -/
def readAll (actor : Actor) (workspaceId : Cell) : Operation (List View) := do
  requireView workspaceId actor .viewList
  let storages ← list workspaceId
  lift (viewAll actor storages)

end Service

end Depository
