import ViewerLogin.Response.Field

/-!
# Responses

Everything a viewer needs after it has been let in. What was never set is `none` or empty, so
that even a refusal is a response.
-/

namespace ViewerLogin

structure Response where
  home : Home
  lookAt : Point
  access : Option Maturity
  accessLimit : Option Maturity
  seedCapability : Option String
  firstName : Option String
  lastName : Option String
  agent : Option Uuid
  simAddress : Option IpAddress
  simPort : Option UInt16
  httpPort : Option UInt16
  startLocation : Option String
  regionX : Option UInt32
  regionY : Option UInt32
  regionSizeX : Option UInt32
  regionSizeY : Option UInt32
  circuitCode : Option UInt32
  session : Option Uuid
  secureSession : Option Uuid
  inventoryRoot : Option Folder
  inventorySkeleton : List Folder
  libraryRoot : Option Folder
  librarySkeleton : List Folder
  libraryOwner : Option Uuid
  mapServer : Option String
  buddies : List Buddy
  gestures : List Gesture
  outfit : Outfit
  skyTextures : SkyTextures
  login : Option Bool
  loginFlags : LoginFlags
  message : Option String
  viewerSettings : ViewerSettings
  /-- Passed on as they came. -/
  eventCategories : List Json
  categories : List Category
  groupLimit : Option UInt32
  deriving DecidableEq, Repr

namespace Response

/-! ## A response as its fields -/

def coreValue (response : Response) : (field : CoreField) → field.Value
  | .home => response.home
  | .lookAt => response.lookAt
  | .access => response.access
  | .accessLimit => response.accessLimit
  | .seedCapability => response.seedCapability
  | .firstName => response.firstName
  | .lastName => response.lastName
  | .agent => response.agent
  | .simAddress => response.simAddress
  | .simPort => response.simPort
  | .httpPort => response.httpPort
  | .startLocation => response.startLocation
  | .regionX => response.regionX
  | .regionY => response.regionY
  | .regionSizeX => response.regionSizeX
  | .regionSizeY => response.regionSizeY
  | .circuitCode => response.circuitCode
  | .session => response.session
  | .secureSession => response.secureSession
  | .login => response.login
  | .message => response.message

def blockValue (response : Response) : (block : Block) → block.Value
  | .inventoryRoot => response.inventoryRoot
  | .inventorySkeleton => response.inventorySkeleton
  | .libraryRoot => response.libraryRoot
  | .librarySkeleton => response.librarySkeleton
  | .libraryOwner => response.libraryOwner
  | .mapServer => response.mapServer
  | .buddies => response.buddies
  | .gestures => response.gestures
  | .outfit => response.outfit
  | .skyTextures => response.skyTextures
  | .loginFlags => response.loginFlags
  | .viewerSettings => response.viewerSettings
  | .eventCategories => response.eventCategories
  | .categories => response.categories
  | .groupLimit => response.groupLimit

def value (response : Response) : (field : Field) → field.Value
  | .core member => response.coreValue member
  | .block member => response.blockValue member

def ofFields (value : (field : Field) → field.Value) : Response where
  home := value (.core .home)
  lookAt := value (.core .lookAt)
  access := value (.core .access)
  accessLimit := value (.core .accessLimit)
  seedCapability := value (.core .seedCapability)
  firstName := value (.core .firstName)
  lastName := value (.core .lastName)
  agent := value (.core .agent)
  simAddress := value (.core .simAddress)
  simPort := value (.core .simPort)
  httpPort := value (.core .httpPort)
  startLocation := value (.core .startLocation)
  regionX := value (.core .regionX)
  regionY := value (.core .regionY)
  regionSizeX := value (.core .regionSizeX)
  regionSizeY := value (.core .regionSizeY)
  circuitCode := value (.core .circuitCode)
  session := value (.core .session)
  secureSession := value (.core .secureSession)
  inventoryRoot := value (.block .inventoryRoot)
  inventorySkeleton := value (.block .inventorySkeleton)
  libraryRoot := value (.block .libraryRoot)
  librarySkeleton := value (.block .librarySkeleton)
  libraryOwner := value (.block .libraryOwner)
  mapServer := value (.block .mapServer)
  buddies := value (.block .buddies)
  gestures := value (.block .gestures)
  outfit := value (.block .outfit)
  skyTextures := value (.block .skyTextures)
  login := value (.core .login)
  loginFlags := value (.block .loginFlags)
  message := value (.core .message)
  viewerSettings := value (.block .viewerSettings)
  eventCategories := value (.block .eventCategories)
  categories := value (.block .categories)
  groupLimit := value (.block .groupLimit)

@[simp] theorem value_ofFields (values : (field : Field) → field.Value) (field : Field) :
    (ofFields values).value field = values field := by
  cases field with
  | core member => cases member <;> rfl
  | block member => cases member <;> rfl

/-! ## Responses with nothing set -/

def unsetValue : (field : Field) → field.Value
  | .core .home => .unset
  | .core .lookAt => .unset
  | .core .access | .core .accessLimit => none
  | .core .seedCapability | .core .firstName | .core .lastName | .core .startLocation
  | .core .message => none
  | .core .agent | .core .session | .core .secureSession => none
  | .core .simAddress => none
  | .core .simPort | .core .httpPort => none
  | .core .regionX | .core .regionY | .core .regionSizeX | .core .regionSizeY
  | .core .circuitCode => none
  | .core .login => none
  | .block .inventoryRoot | .block .libraryRoot => none
  | .block .inventorySkeleton | .block .librarySkeleton => []
  | .block .libraryOwner => none
  | .block .mapServer => none
  | .block .buddies => []
  | .block .gestures => []
  | .block .outfit => .unset
  | .block .skyTextures => .unset
  | .block .loginFlags => .unset
  | .block .viewerSettings => .unset
  | .block .eventCategories => []
  | .block .categories => []
  | .block .groupLimit => none

def unset : Response := ofFields unsetValue

def refusal (message : String) : Response :=
  { unset with login := some false, message := some message }

def isSuccess (response : Response) : Bool := response.login = some true

end Response

end ViewerLogin
