/-!
# Blocks

A response consists of core fields, which are always sent, and of blocks, which are sent when
the viewer asks for them. A block is asked for by the key it travels under.
-/

namespace ViewerLogin

inductive Block where
  | inventoryRoot
  | inventorySkeleton
  | libraryRoot
  | librarySkeleton
  | libraryOwner
  | mapServer
  | buddies
  | gestures
  | outfit
  | skyTextures
  | loginFlags
  | viewerSettings
  | eventCategories
  | categories
  | groupLimit
  deriving DecidableEq, Repr

namespace Block

def all : List Block := [
  .inventoryRoot, .inventorySkeleton, .libraryRoot, .librarySkeleton, .libraryOwner,
  .mapServer, .buddies, .gestures, .outfit, .skyTextures, .loginFlags, .viewerSettings,
  .eventCategories, .categories, .groupLimit]

theorem mem_all (block : Block) : block ∈ all := by cases block <;> decide

/-- Hyphens and underscores are mixed as deployed grids expect them. -/
def key : Block → String
  | .inventoryRoot => "inventory-root"
  | .inventorySkeleton => "inventory-skeleton"
  | .libraryRoot => "inventory-lib-root"
  | .librarySkeleton => "inventory-skel-lib"
  | .libraryOwner => "inventory-lib-owner"
  | .mapServer => "map-server-url"
  | .buddies => "buddy-list"
  | .gestures => "gestures"
  | .outfit => "initial-outfit"
  | .skyTextures => "global-textures"
  | .loginFlags => "login-flags"
  | .viewerSettings => "ui-config"
  | .eventCategories => "event_categories"
  | .categories => "classified_categories"
  | .groupLimit => "max-agent-groups"

def ofKey? (key : String) : Option Block := all.find? (·.key = key)

theorem ofKey?_key (block : Block) : ofKey? block.key = some block := by
  cases block <;> decide +kernel

theorem key_of_ofKey? {name : String} {block : Block} (found : ofKey? name = some block) :
    block.key = name := by
  have holds := List.find?_some found
  simpa using holds

end Block

end ViewerLogin
