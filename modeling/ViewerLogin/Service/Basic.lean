import ViewerLogin.Account.Directory
import ViewerLogin.Grid
import ViewerLogin.Request.Basic
import ViewerLogin.Response.Basic

/-!
# The login service

The service checks a request against the directory and, if it lets the viewer in, fills the
response. Everything random and the time of day are drawn beforehand and handed in.
-/

namespace ViewerLogin

structure Draw where
  session : Uuid
  secureSession : Uuid
  capability : Uuid
  circuit : UInt32
  clock : UInt64

structure Service where
  directory : Directory
  grid : Grid
  settings : RunSettings

/-! ## Refusals -/

inductive Refusal where
  | authenticationFailed
  | accountDisabled
  | gridUnavailable
  | malformed (field : Request.RequiredField)
  deriving DecidableEq, Repr

namespace Refusal

def reason : Refusal → String
  | .authenticationFailed => "key"
  | .accountDisabled => "disabled"
  | .gridUnavailable => "presence"
  | .malformed _ => "malformed"

def message : Refusal → String
  | .authenticationFailed =>
      "Could not authenticate your avatar. Please check your username and password."
  | .accountDisabled => "This account has been disabled."
  | .gridUnavailable => "The grid is not accepting logins right now. Please try again later."
  | .malformed field => "Malformed login request: " ++ field.complaint

end Refusal

/-! ## The response -/

namespace Grid

def libraryFolder (grid : Grid) : Folder :=
  .of grid.libraryRoot .nil "OpenSim Library" 8 1

def starterOutfit : Outfit := ⟨some "Nightclub Female", some "female"⟩

def decimalText (value : Nat) : String := String.ofList (Decimal.natural value)

def standardHome (grid : Grid) : Home :=
  let center := decimalText (grid.regionSize / 2).toNat
  { region := .of (decimalText grid.regionX.toNat) (decimalText grid.regionY.toNat)
    position := .of center center "25"
    lookAt := .of "1" "0" "0" }

def capabilityUrl (grid : Grid) (capability : Uuid) : String :=
  String.ofList (Text.dropEndWhile (· == '/') grid.capabilityBase.toList) ++ "/" ++
    capability.text ++ "/"

def welcomeResponse (grid : Grid) (draw : Draw) (account : Account) (start : String)
    (everLoggedIn : Bool) : Response where
  home := account.home.getD grid.standardHome
  lookAt := .of "1" "0" "0"
  access := grid.access
  accessLimit := grid.accessLimit
  seedCapability := grid.capabilityUrl draw.capability
  firstName := account.first
  lastName := account.last
  agent := account.agent
  simAddress := grid.simAddress
  simPort := grid.simPort
  httpPort := grid.httpPort
  startLocation := Request.startLocation start
  regionX := grid.regionX
  regionY := grid.regionY
  regionSizeX := grid.regionSize
  regionSizeY := grid.regionSize
  circuitCode := draw.circuit
  session := draw.session
  secureSession := draw.secureSession
  inventoryRoot := account.inventoryRoot
  inventorySkeleton := account.inventorySkeleton
  libraryRoot := grid.libraryFolder
  librarySkeleton := [grid.libraryFolder]
  libraryOwner := grid.libraryOwner
  mapServer := grid.mapServer
  buddies := account.buddies
  gestures := account.gestures
  outfit := starterOutfit
  skyTextures := grid.skyTextures
  login := true
  loginFlags := ⟨some false, some everLoggedIn, some false, some true, some draw.clock⟩
  message := grid.welcome
  viewerSettings := ⟨some false⟩
  eventCategories := []
  categories := grid.categories
  groupLimit := grid.groupLimit

end Grid

namespace Service

/-! ## Letting viewers in -/

/-- The account that a request may use. The password is checked before anything about the
account is told. -/
def authorize (service : Service) (request : Request) : Except Refusal Account :=
  if !service.settings.loginsEnabled then
    .error .gridUnavailable
  else
    match request.firstBlank? with
    | some field => .error (.malformed field)
    | none =>
        match service.directory.find? request.first request.last with
        | none => .error .authenticationFailed
        | some account =>
            if account.passwd ≠ request.passwd then .error .authenticationFailed
            else if account.disabled then .error .accountDisabled
            else .ok account

/-- Answers a request, and records the login of a viewer that is let in under the names of the
account, not those of the request. -/
def authenticate (service : Service) (draw : Draw) (request : Request) :
    Except Refusal Response × Service :=
  match service.authorize request with
  | .error refusal => (.error refusal, service)
  | .ok account =>
      let welcome := service.grid.welcomeResponse draw account request.start
      match service.directory.recordLogin account.first account.last with
      | some (before, directory) => (.ok (welcome before), { service with directory })
      | none => (.ok (welcome false), service)

/-- Like `authenticate`, but a refusal is a response too, unless the request was malformed. -/
def login (service : Service) (draw : Draw) (request : Request) :
    Except Refusal Response × Service :=
  match service.authenticate draw request with
  | (.error (.malformed field), after) => (.error (.malformed field), after)
  | (.error refusal, after) => (.ok (.refusal refusal.message), after)
  | (.ok response, after) => (.ok response, after)

def register (service : Service) (account : Account) :
    Except Directory.RegistrationError Service :=
  (service.directory.register account).map fun directory => { service with directory }

end Service

end ViewerLogin
