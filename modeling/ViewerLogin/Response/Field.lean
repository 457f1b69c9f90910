import ViewerLogin.Response.Block
import ViewerLogin.Response.Friend
import ViewerLogin.Response.Home
import ViewerLogin.Response.Inventory
import ViewerLogin.Response.Maturity
import ViewerLogin.Response.Presentation

/-!
# Fields of a response

Each field has a key, a type of values and a codec. Together they say all there is to say
about how a response is written and read; nothing is read from more than one key.
-/

namespace ViewerLogin

open Wire (Codec)

/-! ## Core fields -/

inductive CoreField where
  | home
  | lookAt
  | access
  | accessLimit
  | seedCapability
  | firstName
  | lastName
  | agent
  | simAddress
  | simPort
  | httpPort
  | startLocation
  | regionX
  | regionY
  | regionSizeX
  | regionSizeY
  | circuitCode
  | session
  | secureSession
  | login
  | message
  deriving DecidableEq, Repr

namespace CoreField

def all : List CoreField := [
  .home, .lookAt, .access, .accessLimit, .seedCapability, .firstName, .lastName, .agent,
  .simAddress, .simPort, .httpPort, .startLocation, .regionX, .regionY, .regionSizeX,
  .regionSizeY, .circuitCode, .session, .secureSession, .login, .message]

theorem mem_all (field : CoreField) : field ∈ all := by cases field <;> decide

def key : CoreField → String
  | .home => "home"
  | .lookAt => "look_at"
  | .access => "agent_access"
  | .accessLimit => "agent_access_max"
  | .seedCapability => "seed_capability"
  | .firstName => "first_name"
  | .lastName => "last_name"
  | .agent => "agent_id"
  | .simAddress => "sim_ip"
  | .simPort => "sim_port"
  | .httpPort => "http_port"
  | .startLocation => "start_location"
  | .regionX => "region_x"
  | .regionY => "region_y"
  | .regionSizeX => "region_size_x"
  | .regionSizeY => "region_size_y"
  | .circuitCode => "circuit_code"
  | .session => "session_id"
  | .secureSession => "secure_session_id"
  | .login => "login"
  | .message => "message"

@[reducible] def Value : CoreField → Type
  | .home => Home
  | .lookAt => Point
  | .access | .accessLimit => Option Maturity
  | .seedCapability | .firstName | .lastName | .startLocation | .message => Option String
  | .agent | .session | .secureSession => Option Uuid
  | .simAddress => Option IpAddress
  | .simPort | .httpPort => Option UInt16
  | .regionX | .regionY | .regionSizeX | .regionSizeY | .circuitCode => Option UInt32
  | .login => Option Bool

def codec : (field : CoreField) → Codec field.Value
  | .home => Home.codec
  | .lookAt => Codec.point
  | .access | .accessLimit => Codec.spelled Maturity.tag Maturity.ofTag?
  | .seedCapability | .firstName | .lastName | .startLocation | .message => Codec.text
  | .agent | .session | .secureSession => Codec.uuid
  | .simAddress => Codec.address
  | .simPort | .httpPort => Codec.word
  | .regionX | .regionY | .regionSizeX | .regionSizeY | .circuitCode => Codec.word
  | .login => Codec.truth

end CoreField

/-! ## Blocks -/

namespace Block

@[reducible] def Value : Block → Type
  | .inventoryRoot | .libraryRoot => Option Folder
  | .inventorySkeleton | .librarySkeleton => List Folder
  | .libraryOwner => Option Uuid
  | .mapServer => Option String
  | .buddies => List Buddy
  | .gestures => List Gesture
  | .outfit => Outfit
  | .skyTextures => SkyTextures
  | .loginFlags => LoginFlags
  | .viewerSettings => ViewerSettings
  | .eventCategories => List Json
  | .categories => List Category
  | .groupLimit => Option UInt32

def codec : (block : Block) → Codec block.Value
  | .inventoryRoot | .libraryRoot => Codec.reference Folder.record
  | .inventorySkeleton | .librarySkeleton => Codec.listOf Folder.record
  | .libraryOwner => Folder.ownerCodec
  | .mapServer => Codec.text
  | .buddies => Codec.listOf Buddy.record
  | .gestures => Codec.listOf Gesture.record
  | .outfit => Codec.single Outfit.record .unset
  | .skyTextures => Codec.single SkyTextures.record .unset
  | .loginFlags => Codec.single LoginFlags.record .unset
  | .viewerSettings => Codec.single ViewerSettings.record .unset
  | .eventCategories => Codec.items
  | .categories => Codec.listOf Category.record
  | .groupLimit => Codec.word

end Block

/-! ## All fields -/

inductive Field where
  | core (field : CoreField)
  | block (block : Block)
  deriving DecidableEq, Repr

namespace Field

def readingOrder : List Field :=
  (CoreField.all.take 19).map .core ++ (Block.all.take 10).map .block ++
    [.core .login, .block .loginFlags, .core .message] ++ (Block.all.drop 11).map .block

theorem mem_readingOrder (field : Field) : field ∈ readingOrder := by
  cases field with
  | core member => cases member <;> decide
  | block member => cases member <;> decide

def key : Field → String
  | .core member => member.key
  | .block member => member.key

theorem keys_nodup : (readingOrder.map key).Nodup := by decide +kernel

@[reducible] def Value : Field → Type
  | .core member => member.Value
  | .block member => member.Value

def codec : (field : Field) → Codec field.Value
  | .core member => member.codec
  | .block member => member.codec

end Field

end ViewerLogin
